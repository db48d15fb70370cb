import NotificationFeed.Proofs.Json.Document
import NotificationFeed.Proofs.Json.Text
/-!
# JSON values inside documents

An element of an array and a member of an object stand somewhere between the
first and the last piece of the document (`Document.Holds`). So the text of
the value is a stretch of the text of the document, and the value is proper
if the document is. Cut out by itself it is a document again, the one with no
blanks around it (`parse_text`).
-/

namespace NotificationFeed

namespace Json

variable {d : Document} {n : Node}

/-! ## The last piece of a value -/

/-- **The gap behind a value belongs to its last piece**, and to nothing else in it. -/
theorem Node.put_eq_snoc (n : Node) :
    ∃ init last, ∀ blank, n.put blank [] = init ++ [⟨last, blank⟩] := by
  cases n with
  | word w => exact ⟨[], .word w, fun _ => rfl⟩
  | number text => exact ⟨[], .number text, fun _ => rfl⟩
  | string inner => exact ⟨[], .string inner, fun _ => rfl⟩
  | emptyArray gap => exact ⟨[⟨.openArray, gap⟩], .closeArray, fun _ => rfl⟩
  | emptyObject gap => exact ⟨[⟨.openObject, gap⟩], .closeObject, fun _ => rfl⟩
  | array gap es =>
    refine ⟨⟨.openArray, gap⟩ :: es.put [], .closeArray, fun blank => ?_⟩
    rw [put, es.put_append]
    rfl
  | object gap ms =>
    refine ⟨⟨.openObject, gap⟩ :: ms.put [], .closeObject, fun blank => ?_⟩
    rw [put, ms.put_append]
    rfl

/-- **A value is proper whatever gap is behind it**, as long as it is blank. -/
theorem Node.Proper.regap {blank blank' : Bytes} (h : n.Proper blank)
    (hblank : ∀ b ∈ blank', isBlank b = true) : n.Proper blank' := by
  obtain ⟨init, last, hput⟩ := n.put_eq_snoc
  unfold Node.Proper at h ⊢
  rw [hput] at h ⊢
  intro p hp
  rcases List.mem_append.1 hp with hinit | hlast
  · exact h p (List.mem_append_left _ hinit)
  · rw [List.mem_singleton.1 hlast]
    exact ⟨(h ⟨last, blank⟩ (List.mem_append_right _ (List.mem_singleton.2 rfl))).lexeme, hblank⟩

/-- The gap behind a proper value is blank. -/
theorem Node.Proper.blank {blank : Bytes} (h : n.Proper blank) : ∀ b ∈ blank, isBlank b = true := by
  obtain ⟨init, last, hput⟩ := n.put_eq_snoc
  unfold Node.Proper at h
  rw [hput] at h
  exact (h ⟨last, blank⟩ (List.mem_append_right _ (List.mem_singleton.2 rfl))).blank

theorem Node.Proper.bare {blank : Bytes} (h : n.Proper blank) : n.Proper [] :=
  h.regap fun _ hb => absurd hb List.not_mem_nil

/-- **The text of a value is read as that value.** -/
theorem Document.parse_text (h : n.Proper []) : Document.parse n.text = some ⟨[], n, []⟩ :=
  Document.parse_eq_some_iff.2 ⟨⟨fun _ hb => absurd hb List.not_mem_nil, h⟩, rfl⟩

/-! ## The text of an array or object -/

theorem Node.text_array (gap : Bytes) (es : Elements) :
    (Node.array gap es).text = 91 :: ((gap ++ spell (es.put [])) ++ [93]) := by
  rw [text, put, es.put_append, spell_cons, spell_append]
  simp [spell, Lexeme.text]

theorem Node.text_object (gap : Bytes) (ms : Members) :
    (Node.object gap ms).text = 123 :: ((gap ++ spell (ms.put [])) ++ [125]) := by
  rw [text, put, ms.put_append, spell_cons, spell_append]
  simp [spell, Lexeme.text]

/-- The text of an array or object begins and ends with its brackets. -/
theorem Node.text_ends (h : (∃ gap es, n = .array gap es) ∨ ∃ gap ms, n = .object gap ms) :
    ∃ first inner last, n.text = first :: (inner ++ [last]) ∧
      isBlank first = false ∧ isBlank last = false := by
  rcases h with ⟨gap, es, rfl⟩ | ⟨gap, ms, rfl⟩
  · exact ⟨_, _, _, text_array gap es, rfl, rfl⟩
  · exact ⟨_, _, _, text_object gap ms, rfl, rfl⟩

/-! ## Elements and members -/

theorem Elements.put_of_mem (es : Elements) (h : n ∈ es.nodes) (ps : List Piece) :
    ∃ before blank behind, es.put ps = before ++ n.put blank behind := by
  match es with
  | .one m b =>
    obtain rfl := List.mem_singleton.1 h
    exact ⟨[], b, ps, rfl⟩
  | .more m b gap es =>
    rcases List.mem_cons.1 h with rfl | h
    · exact ⟨[], b, _, rfl⟩
    · obtain ⟨before, blank, behind, hput⟩ := es.put_of_mem h ps
      refine ⟨m.put b [⟨.comma, gap⟩] ++ before, blank, behind, ?_⟩
      rw [put, m.put_append, hput, m.put_append b [_]]
      simp

theorem Members.put_of_mem (ms : Members) {key : Bytes} (h : (key, n) ∈ ms.entries)
    (ps : List Piece) : ∃ before blank behind, ms.put ps = before ++ n.put blank behind := by
  match ms with
  | .one k bc ac m b =>
    obtain ⟨rfl, rfl⟩ := Prod.mk.inj (List.mem_singleton.1 h)
    exact ⟨[⟨.string key, bc⟩, ⟨.colon, ac⟩], b, ps, rfl⟩
  | .more k bc ac m b gap ms =>
    rcases List.mem_cons.1 h with h | h
    · obtain ⟨rfl, rfl⟩ := Prod.mk.inj h
      exact ⟨[⟨.string key, bc⟩, ⟨.colon, ac⟩], b, _, rfl⟩
    · obtain ⟨before, blank, behind, hput⟩ := ms.put_of_mem h ps
      refine ⟨⟨.string k, bc⟩ :: ⟨.colon, ac⟩ :: m.put b [⟨.comma, gap⟩] ++ before,
        blank, behind, ?_⟩
      rw [put, m.put_append, hput, m.put_append b [_]]
      simp

/-- **A value stands inside a document.** -/
def Document.Holds (d : Document) (n : Node) : Prop :=
  ∃ before blank behind, d.root.put d.trail [] = before ++ n.put blank behind

namespace Document

theorem holds_element {gap : Bytes} {es : Elements} (hroot : d.root = .array gap es)
    (h : n ∈ es.nodes) : d.Holds n := by
  obtain ⟨before, blank, behind, hput⟩ := es.put_of_mem h [⟨.closeArray, d.trail⟩]
  refine ⟨⟨.openArray, gap⟩ :: before, blank, behind, ?_⟩
  rw [hroot, Node.put, hput]
  rfl

theorem holds_member {gap key : Bytes} {ms : Members} (hroot : d.root = .object gap ms)
    (h : (key, n) ∈ ms.entries) : d.Holds n := by
  obtain ⟨before, blank, behind, hput⟩ := ms.put_of_mem h [⟨.closeObject, d.trail⟩]
  refine ⟨⟨.openObject, gap⟩ :: before, blank, behind, ?_⟩
  rw [hroot, Node.put, hput]
  rfl

/-- **What stands inside a proper document is proper.** -/
theorem Holds.proper (h : d.Holds n) (hd : d.Proper) : n.Proper [] := by
  obtain ⟨before, blank, behind, hput⟩ := h
  have hn : n.Proper blank := by
    intro p hp
    refine hd.root p ?_
    rw [hput, n.put_append]
    exact List.mem_append_right _ (List.mem_append_left _ hp)
  exact hn.bare

/-- **And its text is a stretch of the document's.** -/
theorem Holds.text (h : d.Holds n) : n.text <:+: d.text := by
  obtain ⟨before, blank, behind, hput⟩ := h
  refine ⟨d.lead ++ spell before, blank ++ spell behind, ?_⟩
  rw [Document.text, hput, spell_append, n.spell_put]
  simp

end Document

end Json

end NotificationFeed
