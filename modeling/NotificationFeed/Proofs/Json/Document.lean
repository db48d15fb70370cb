import NotificationFeed.Json.Parse
import NotificationFeed.Proofs.Json.Grammar
/-!
# JSON documents — reading is the inverse of writing

A document is proper if its lexemes are those of the format and its gaps are
blank; the rest of its form is in its type. Main statement: a text is read as
a document exactly if the document is proper and the text is how it is
written (`parse_eq_some_iff`). So a text has at most one reading, every
proper document has its own, and no place of a text is lost or made up.

The way there has two halves. A text is cut into pieces exactly if they are
proper and spell it, as long as no number runs on into the next piece
(`pieces_spell`). And the reader, between two pieces, stands for the pieces
it has taken (`Reader.put`), one more with each step.
-/

namespace NotificationFeed

namespace Json

/-! ## Proper documents -/

/-- A piece of the format: its lexeme is proper and its gap is blank. -/
structure Piece.Proper (p : Piece) : Prop where
  lexeme : p.lexeme.Proper
  blank : ∀ b ∈ p.blank, isBlank b = true

/-- **A value as the format has it**, with a gap behind it. -/
def Node.Proper (n : Node) (blank : Bytes) : Prop := ∀ p ∈ n.put blank [], p.Proper

/-- **A document as the format has it.** -/
structure Document.Proper (d : Document) : Prop where
  lead : ∀ b ∈ d.lead, isBlank b = true
  root : d.root.Proper d.trail

/-- Whether the scanner takes a piece as it is, in front of a comma. -/
def Piece.isTaken (p : Piece) : Bool :=
  scanLexeme (p.lexeme.text ++ [44]) == some (p.lexeme, [44]) && p.blank.all isBlank

/-- **A document is proper where the scanner takes its pieces as they are.** -/
theorem Document.proper_of_isTaken {d : Document} (hlead : d.lead.all isBlank = true)
    (hroot : (d.root.put d.trail []).all Piece.isTaken = true) : d.Proper where
  lead := List.all_eq_true.1 hlead
  root p hp := by
    have htaken : p.isTaken = true := List.all_eq_true.1 hroot p hp
    simp only [Piece.isTaken, Bool.and_eq_true, beq_iff_eq, List.all_eq_true] at htaken
    exact ⟨proper_of_scanLexeme htaken.1, htaken.2⟩

/-! ## Texts and pieces -/

theorem spell_nil : spell [] = [] := rfl

theorem spell_cons (p : Piece) (ps : List Piece) :
    spell (p :: ps) = p.lexeme.text ++ (p.blank ++ spell ps) := by
  simp [spell]

theorem spell_append (ps qs : List Piece) : spell (ps ++ qs) = spell ps ++ spell qs :=
  List.flatMap_append

/-- Pieces do not begin with a blank. -/
theorem head?_spell {ps : List Piece} (h : ∀ p ∈ ps, p.Proper) {b : UInt8}
    (hb : (spell ps).head? = some b) : isBlank b = false := by
  cases ps with
  | nil => cases hb
  | cons p ps =>
    rw [spell_cons] at hb
    exact head?_text (h p (List.mem_cons_self ..)).lexeme hb

/-- **No number runs on** into the piece behind it. -/
def Separated : List Piece → Prop
  | [] => True
  | p :: ps =>
    (∀ text, p.lexeme = .number text → p.blank = [] → ¬ RunsOn (spell ps)) ∧ Separated ps

/-- A gap that is not empty ends every number. -/
theorem not_runsOn_blank {blank rest : Bytes} (h : ∀ b ∈ blank, isBlank b = true)
    (hne : blank ≠ []) : ¬ RunsOn (blank ++ rest) := by
  obtain ⟨c, blank, rfl⟩ := List.exists_cons_of_ne_nil hne
  have hc : isBlank c = true := h c (List.mem_cons_self ..)
  rintro ⟨b, hb, hgoes⟩
  obtain rfl : c = b := Option.some.inj hb
  rcases hgoes with hd | rfl | rfl | rfl
  · rw [isBlank_of_isDigit hd] at hc
    cases hc
  all_goals exact absurd hc (by decide)

/-- Cutting a text in front of which stands a lexeme. -/
theorem pieces_of_scanLexeme {s rest : Bytes} {l : Lexeme} (h : scanLexeme s = some (l, rest)) :
    pieces s = (pieces (rest.dropWhile isBlank)).map (⟨l, rest.takeWhile isBlank⟩ :: ·) := by
  have hne : s ≠ [] := by
    rintro rfl
    exact absurd (length_lt_of_scanLexeme h) (Nat.not_lt_zero _)
  rw [pieces, if_neg (by simpa using hne)]
  split
  · rename_i hnone
    rw [h] at hnone
    cases hnone
  · rename_i l' rest' hsome
    rw [h] at hsome
    cases hsome
    rfl

/-- **Proper pieces are found again** in the text they spell. -/
theorem pieces_spell {ps : List Piece} (hproper : ∀ p ∈ ps, p.Proper) (hsep : Separated ps) :
    pieces (spell ps) = some ps := by
  induction ps with
  | nil =>
    rw [spell_nil, pieces]
    rfl
  | cons p ps ih =>
    obtain ⟨hnumber, hsep⟩ := hsep
    have hp : p.Proper := hproper p (List.mem_cons_self ..)
    have hps : ∀ q ∈ ps, q.Proper := fun q hq => hproper q (List.mem_cons_of_mem _ hq)
    have hscan : scanLexeme (p.lexeme.text ++ (p.blank ++ spell ps)) =
        some (p.lexeme, p.blank ++ spell ps) := by
      refine scanLexeme_text hp.lexeme fun text htext => ?_
      by_cases hblank : p.blank = []
      · rw [hblank]
        exact hnumber text htext hblank
      · exact not_runsOn_blank hp.blank hblank
    rw [spell_cons, pieces_of_scanLexeme hscan, dropWhile_run hp.blank fun _ => head?_spell hps,
      takeWhile_run hp.blank fun _ => head?_spell hps, ih hps hsep]
    rfl

/-- **What a text is cut into is proper.** -/
theorem proper_of_pieces {s : Bytes} {ps : List Piece} (h : pieces s = some ps) :
    ∀ p ∈ ps, p.Proper := by
  fun_induction pieces s generalizing ps with
  | case1 s hs =>
    cases h
    intro p hp
    cases hp
  | case2 => cases h
  | case3 s _ l r hl _ ih =>
    obtain ⟨qs, hq, rfl⟩ := Option.map_eq_some_iff.1 h
    intro p hp
    rcases List.mem_cons.1 hp with rfl | hp
    · exact ⟨proper_of_scanLexeme hl, List.all_eq_true.1 List.all_takeWhile⟩
    · exact ih hq p hp

/-! ## The pieces of a node

`put` lays a node out in front of other pieces. -/

mutual

theorem Node.put_append (n : Node) (blank : Bytes) (ps : List Piece) :
    n.put blank ps = n.put blank [] ++ ps := by
  match n with
  | .word _ | .number _ | .string _ | .emptyArray _ | .emptyObject _ => rfl
  | .array gap es =>
    rw [Node.put, Node.put, es.put_append, es.put_append [_]]
    simp
  | .object gap ms =>
    rw [Node.put, Node.put, ms.put_append, ms.put_append [_]]
    simp

theorem Elements.put_append (es : Elements) (ps : List Piece) :
    es.put ps = es.put [] ++ ps := by
  match es with
  | .one n blank =>
    rw [Elements.put, Elements.put, n.put_append]
  | .more n blank gap es =>
    rw [Elements.put, Elements.put, n.put_append, n.put_append _ (_ :: _), es.put_append]
    simp

theorem Members.put_append (ms : Members) (ps : List Piece) :
    ms.put ps = ms.put [] ++ ps := by
  match ms with
  | .one key bc ac n blank =>
    rw [Members.put, Members.put, n.put_append]
    rfl
  | .more key bc ac n blank gap ms =>
    rw [Members.put, Members.put, n.put_append, n.put_append _ (_ :: _), ms.put_append]
    simp

end

/-- **A value with its gap, and then what follows it.** -/
theorem Node.spell_put (n : Node) (blank : Bytes) (ps : List Piece) :
    spell (n.put blank ps) = n.text ++ (blank ++ spell ps) := by
  cases n with
  | array gap es =>
    rw [text, put, put, es.put_append, es.put_append [_]]
    simp [spell]
  | object gap ms =>
    rw [text, put, put, ms.put_append, ms.put_append [_]]
    simp [spell]
  | _ => simp [text, put, spell]

/-- A document is its value between its gaps. -/
theorem Document.text_eq (d : Document) : d.text = d.lead ++ (d.root.text ++ d.trail) := by
  rw [text, Node.spell_put, spell_nil, List.append_nil]

/-- The marks behind a value end a number. -/
theorem not_runsOn_mark {p : Piece} (h : p.lexeme = .comma ∨ p.lexeme = .closeArray ∨
    p.lexeme = .closeObject) (ps : List Piece) : ¬ RunsOn (spell (p :: ps)) := by
  rintro ⟨b, hb, hgoes⟩
  rw [spell_cons] at hb
  rcases h with h | h | h
  all_goals
    rw [h] at hb
    cases hb
    exact absurd hgoes (by decide)

theorem separated_cons {p : Piece} {ps : List Piece} (h : ∀ text, p.lexeme ≠ .number text)
    (hps : Separated ps) : Separated (p :: ps) :=
  ⟨fun text htext => absurd htext (h text), hps⟩

mutual

/-- **Nothing runs on inside a value**, nor out of it. -/
theorem Node.separated_put (n : Node) (blank : Bytes) {ps : List Piece}
    (hends : ¬ RunsOn (spell ps)) (hps : Separated ps) : Separated (n.put blank ps) := by
  match n with
  | .word _ | .string _ => exact separated_cons nofun hps
  | .number _ => exact ⟨fun _ _ _ => hends, hps⟩
  | .emptyArray _ | .emptyObject _ => exact separated_cons nofun (separated_cons nofun hps)
  | .array gap es =>
    refine separated_cons nofun (es.separated_put ?_ (separated_cons nofun hps))
    exact not_runsOn_mark (.inr (.inl rfl)) ps
  | .object gap ms =>
    refine separated_cons nofun (ms.separated_put ?_ (separated_cons nofun hps))
    exact not_runsOn_mark (.inr (.inr rfl)) ps

theorem Elements.separated_put (es : Elements) {ps : List Piece}
    (hends : ¬ RunsOn (spell ps)) (hps : Separated ps) : Separated (es.put ps) := by
  match es with
  | .one n blank => exact n.separated_put blank hends hps
  | .more n blank gap es =>
    refine n.separated_put blank (not_runsOn_mark (.inl rfl) _) ?_
    exact separated_cons nofun (es.separated_put hends hps)

theorem Members.separated_put (ms : Members) {ps : List Piece}
    (hends : ¬ RunsOn (spell ps)) (hps : Separated ps) : Separated (ms.put ps) := by
  match ms with
  | .one key bc ac n blank =>
    refine separated_cons nofun (separated_cons nofun ?_)
    exact n.separated_put blank hends hps
  | .more key bc ac n blank gap ms =>
    refine separated_cons nofun (separated_cons nofun ?_)
    refine n.separated_put blank (not_runsOn_mark (.inl rfl) _) ?_
    exact separated_cons nofun (ms.separated_put hends hps)

end

/-! ## The reader takes what `put` laid out -/

namespace Reader

/-- The array that is completed by the elements `es`, behind those that were read. -/
def resumeArray (read : List (Node × Bytes × Bytes)) (es : Elements) : Elements :=
  read.foldl (fun es (n, b, gap) => .more n b gap es) es

/-- The object that is completed by the members `ms`, behind those that were read. -/
def resumeObject (read : List (Bytes × Bytes × Bytes × Node × Bytes × Bytes)) (ms : Members) :
    Members :=
  read.foldl (fun ms (k, bc, ac, n, b, gap) => .more k bc ac n b gap ms) ms

theorem closeArray_eq (last : Node) (blank : Bytes) (read : List (Node × Bytes × Bytes)) :
    closeArray last blank read = resumeArray read (.one last blank) := rfl

theorem closeObject_eq (key bc ac : Bytes) (last : Node) (blank : Bytes)
    (read : List (Bytes × Bytes × Bytes × Node × Bytes × Bytes)) :
    closeObject key bc ac last blank read = resumeObject read (.one key bc ac last blank) := rfl

variable {stack : List Frame} {gap : Bytes}

/-- Where an element may stand, the first piece of a value begins it. -/
theorem step_elementOrEnd {p : Piece} (h : p.lexeme ≠ .closeArray) :
    step ⟨stack, .elementOrEnd gap⟩ p = step ⟨.array gap [] :: stack, .value⟩ p := by
  obtain ⟨lexeme, blank⟩ := p
  cases lexeme with
  | closeArray => exact absurd rfl h
  | _ => rfl

end Reader

/-- A value begins with a piece that closes no array. -/
theorem Node.put_eq_cons (n : Node) (blank : Bytes) (ps : List Piece) :
    ∃ p qs, n.put blank ps = p :: qs ∧ p.lexeme ≠ .closeArray := by
  cases n with
  | _ => exact ⟨_, _, rfl, by simp⟩

theorem Elements.put_eq_cons (es : Elements) (ps : List Piece) :
    ∃ p qs, es.put ps = p :: qs ∧ p.lexeme ≠ .closeArray := by
  cases es with
  | one n blank => exact n.put_eq_cons blank ps
  | more n blank gap es => exact n.put_eq_cons blank _

mutual

/-- **The pieces of a value are read as that value.** -/
theorem Node.foldlM_put (n : Node) (blank : Bytes) (stack : List Frame) (ps : List Piece) :
    (n.put blank ps).foldlM Reader.step ⟨stack, .value⟩ =
      ps.foldlM Reader.step ⟨stack, .afterValue n blank⟩ := by
  match n with
  | .word _ | .number _ | .string _ | .emptyArray _ | .emptyObject _ => rfl
  | .array gap es =>
    obtain ⟨p, qs, hput, hp⟩ := es.put_eq_cons (⟨.closeArray, blank⟩ :: ps)
    have hread := es.foldlM_put gap [] stack blank ps
    rw [hput, List.foldlM_cons] at hread
    show (es.put (⟨.closeArray, blank⟩ :: ps)).foldlM Reader.step ⟨stack, .elementOrEnd gap⟩ = _
    rw [hput, List.foldlM_cons, Reader.step_elementOrEnd hp, hread]
    rfl
  | .object gap ms =>
    have hread := ms.foldlM_put gap [] stack blank ps
    show (ms.put (⟨.closeObject, blank⟩ :: ps)).foldlM Reader.step ⟨stack, .keyOrEnd gap⟩ = _
    -- A first key is read like any other.
    cases ms with
    | one key bc ac n b => exact hread
    | more key bc ac n b g ms => exact hread

theorem Elements.foldlM_put (es : Elements) (gap : Bytes) (read : List (Node × Bytes × Bytes))
    (stack : List Frame) (blank : Bytes) (ps : List Piece) :
    (es.put (⟨.closeArray, blank⟩ :: ps)).foldlM Reader.step ⟨.array gap read :: stack, .value⟩ =
      ps.foldlM Reader.step
        ⟨stack, .afterValue (.array gap (Reader.resumeArray read es)) blank⟩ := by
  match es with
  | .one n b =>
    rw [Elements.put, n.foldlM_put]
    rfl
  | .more n b g es =>
    rw [Elements.put, n.foldlM_put]
    exact es.foldlM_put gap ((n, b, g) :: read) stack blank ps

theorem Members.foldlM_put (ms : Members) (gap : Bytes)
    (read : List (Bytes × Bytes × Bytes × Node × Bytes × Bytes)) (stack : List Frame)
    (blank : Bytes) (ps : List Piece) :
    (ms.put (⟨.closeObject, blank⟩ :: ps)).foldlM Reader.step ⟨stack, .key gap read⟩ =
      ps.foldlM Reader.step
        ⟨stack, .afterValue (.object gap (Reader.resumeObject read ms)) blank⟩ := by
  match ms with
  | .one key bc ac n b =>
    show (n.put b (⟨.closeObject, blank⟩ :: ps)).foldlM Reader.step
      ⟨.object gap read key bc ac :: stack, .value⟩ = _
    rw [n.foldlM_put]
    rfl
  | .more key bc ac n b g ms =>
    show (n.put b (⟨.comma, g⟩ :: ms.put (⟨.closeObject, blank⟩ :: ps))).foldlM Reader.step
      ⟨.object gap read key bc ac :: stack, .value⟩ = _
    rw [n.foldlM_put]
    exact ms.foldlM_put gap ((key, bc, ac, n, b, g) :: read) stack blank ps

end

/-! ## The reader stands for the pieces it has taken -/

/-- The elements that were read, each with the comma behind it. -/
def putElements (read : List (Node × Bytes × Bytes)) : List Piece :=
  read.reverse.flatMap fun (n, b, gap) => n.put b [⟨.comma, gap⟩]

/-- The members that were read, each with the comma behind it. -/
def putMembers (read : List (Bytes × Bytes × Bytes × Node × Bytes × Bytes)) : List Piece :=
  read.reverse.flatMap fun (k, bc, ac, n, b, gap) =>
    ⟨.string k, bc⟩ :: ⟨.colon, ac⟩ :: n.put b [⟨.comma, gap⟩]

/-- The pieces of an array or object that is still open. -/
def Frame.put : Frame → List Piece
  | .array gap read => ⟨.openArray, gap⟩ :: putElements read
  | .object gap read key bc ac =>
    ⟨.openObject, gap⟩ :: (putMembers read ++ [⟨.string key, bc⟩, ⟨.colon, ac⟩])

/-- The pieces behind the innermost open frame. -/
def Awaiting.put : Awaiting → List Piece
  | .value => []
  | .elementOrEnd gap => [⟨.openArray, gap⟩]
  | .keyOrEnd gap => [⟨.openObject, gap⟩]
  | .key gap read => ⟨.openObject, gap⟩ :: putMembers read
  | .colon gap read k bc => ⟨.openObject, gap⟩ :: (putMembers read ++ [⟨.string k, bc⟩])
  | .afterValue n blank => n.put blank []

namespace Reader

/-- **All the pieces a reader has taken.** -/
def put (r : Reader) : List Piece := r.stack.reverse.flatMap Frame.put ++ r.awaiting.put

theorem put_resumeArray (read : List (Node × Bytes × Bytes)) (es : Elements) (ps : List Piece) :
    (resumeArray read es).put ps = putElements read ++ es.put ps := by
  induction read generalizing es with
  | nil => rfl
  | cons entry read ih =>
    obtain ⟨n, b, gap⟩ := entry
    show (resumeArray read (.more n b gap es)).put ps = _
    rw [ih, Elements.put, n.put_append]
    simp [putElements, n.put_append b [_]]

theorem put_resumeObject (read : List (Bytes × Bytes × Bytes × Node × Bytes × Bytes))
    (ms : Members) (ps : List Piece) :
    (resumeObject read ms).put ps = putMembers read ++ ms.put ps := by
  induction read generalizing ms with
  | nil => rfl
  | cons entry read ih =>
    obtain ⟨k, bc, ac, n, b, gap⟩ := entry
    show (resumeObject read (.more k bc ac n b gap ms)).put ps = _
    rw [ih, Members.put, n.put_append]
    simp [putMembers, n.put_append b [_]]

theorem put_push (frame : Frame) (stack : List Frame) (awaiting : Awaiting) :
    put ⟨frame :: stack, awaiting⟩ =
      stack.reverse.flatMap Frame.put ++ (frame.put ++ awaiting.put) := by
  simp [put]

/-- Beginning a value takes its first piece. -/
theorem put_begin {stack : List Frame} {p : Piece} {r : Reader} (h : begin stack p = some r) :
    r.put = stack.reverse.flatMap Frame.put ++ [p] := by
  obtain ⟨lexeme, blank⟩ := p
  cases lexeme with
  | closeArray | closeObject | comma | colon => cases h
  | _ =>
    cases h
    simp [put, Awaiting.put, Node.put]

/-- Going on behind a value takes the comma or the bracket that follows it. -/
theorem put_proceed {stack : List Frame} {n : Node} {blank : Bytes} {p : Piece} {r : Reader}
    (h : proceed stack n blank p = some r) :
    r.put = stack.reverse.flatMap Frame.put ++ (n.put blank [] ++ [p]) := by
  obtain ⟨lexeme, gap'⟩ := p
  cases stack with
  | nil => cases h
  | cons frame stack =>
    cases frame with
    | array gap read =>
      cases lexeme with
      | comma =>
        cases h
        rw [put_push]
        simp [Frame.put, Awaiting.put, putElements, n.put_append blank [_]]
      | closeArray =>
        cases h
        have hclose := put_resumeArray read (.one n blank) [⟨.closeArray, gap'⟩]
        rw [Elements.put, n.put_append] at hclose
        simp [put, Frame.put, Awaiting.put, Node.put, closeArray_eq, hclose]
      | _ => cases h
    | object gap read key bc ac =>
      cases lexeme with
      | comma =>
        cases h
        simp [put, Frame.put, Awaiting.put, putMembers, n.put_append blank [_]]
      | closeObject =>
        cases h
        have hclose := put_resumeObject read (.one key bc ac n blank) [⟨.closeObject, gap'⟩]
        rw [Members.put, n.put_append] at hclose
        simp [put, Frame.put, Awaiting.put, Node.put, closeObject_eq, hclose]
      | _ => cases h

/-- **A step takes one piece.** -/
theorem put_step {r r' : Reader} {p : Piece} (h : step r p = some r') : r'.put = r.put ++ [p] := by
  obtain ⟨stack, awaiting⟩ := r
  obtain ⟨lexeme, blank⟩ := p
  cases awaiting with
  | value =>
    rw [put_begin h]
    simp [put, Awaiting.put]
  | elementOrEnd gap =>
    by_cases hclose : lexeme = .closeArray
    · subst hclose
      cases h
      simp [put, Awaiting.put, Node.put]
    · rw [step_elementOrEnd hclose] at h
      rw [put_begin h]
      simp [put, Awaiting.put, Frame.put, putElements]
  | keyOrEnd gap =>
    cases lexeme with
    | closeObject | string key =>
      cases h
      simp [put, Awaiting.put, Node.put, putMembers]
    | _ => cases h
  | key gap read =>
    cases lexeme with
    | string key =>
      cases h
      simp [put, Awaiting.put]
    | _ => cases h
  | colon gap read key bc =>
    cases lexeme with
    | colon =>
      cases h
      simp [put, Awaiting.put, Frame.put]
    | _ => cases h
  | afterValue n b =>
    rw [put_proceed h]
    simp [put, Awaiting.put]

theorem put_foldlM {ps : List Piece} {r r' : Reader} (h : ps.foldlM step r = some r') :
    r'.put = r.put ++ ps := by
  induction ps generalizing r with
  | nil =>
    cases h
    exact (List.append_nil _).symm
  | cons p ps ih =>
    rw [List.foldlM_cons, Option.bind_eq_bind, Option.bind_eq_some_iff] at h
    obtain ⟨between, hstep, hrest⟩ := h
    rw [ih hrest, put_step hstep, List.append_assoc]
    rfl

end Reader

/-! ## Documents and their texts -/

/-- A text with a gap in front of it, cut behind the gap. -/
theorem Document.text_cut {d : Document} (h : d.Proper) :
    d.text.takeWhile isBlank = d.lead ∧
      d.text.dropWhile isBlank = spell (d.root.put d.trail []) :=
  ⟨takeWhile_run h.lead fun _ => head?_spell h.root,
    dropWhile_run h.lead fun _ => head?_spell h.root⟩

/-- **A text is read as a document exactly if the document is proper and the
text is how it is written.** -/
theorem Document.parse_eq_some_iff {s : Bytes} {d : Document} :
    Document.parse s = some d ↔ d.Proper ∧ d.text = s := by
  constructor
  · intro h
    simp only [parse, Option.bind_eq_bind, Option.bind_eq_some_iff] at h
    obtain ⟨ps, hps, r, hr, h⟩ := h
    split at h
    · rename_i root trail hstack hawaiting
      cases h
      -- The reader stands for all pieces, and here that is the root alone.
      have hput : root.put trail [] = ps := by
        have := Reader.put_foldlM hr
        simpa [Reader.put, hstack, hawaiting, Awaiting.put] using this
      refine ⟨⟨List.all_eq_true.1 List.all_takeWhile, ?_⟩, ?_⟩
      · rw [Node.Proper, hput]
        exact proper_of_pieces hps
      · rw [text, hput, spell_of_pieces hps, List.takeWhile_append_dropWhile]
    · cases h
  · rintro ⟨hd, rfl⟩
    obtain ⟨hlead, hroot⟩ := text_cut hd
    have hsep : Separated (d.root.put d.trail []) :=
      d.root.separated_put d.trail not_runsOn_nil trivial
    rw [parse, hlead, hroot, pieces_spell hd.root hsep]
    simp only [Option.bind_eq_bind, Option.bind_some, Node.foldlM_put]
    rfl

end Json

end NotificationFeed
