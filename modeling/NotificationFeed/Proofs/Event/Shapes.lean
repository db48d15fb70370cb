import NotificationFeed.Proofs.Event.Defects
/-!
# Events — the shapes that are taken

Two fields may be written as an object or as an array (`IsPair`). An object
has each of them once, under its name, among any other members; an array has
the two values in their order and no more. Both an envelope and its payload
may take either shape, independently, and no content of another shape is
handed on (`handsOn_iff`). So what is handed on need not be an object, and
neither need the payload that is stored (`arrays_handed_on`).
-/

namespace NotificationFeed

namespace Event

open Json

variable {first second name : String} {a b n : Node} {ms : Members}

/-- **The one member of a name.** -/
def IsOnly (ms : Members) (name : String) (n : Node) : Prop :=
  ∃ before key after, ms.entries = before ++ (key, n) :: after ∧ stringText key = some name ∧
    ∀ entry ∈ before ++ after, stringText entry.1 ≠ some name

/-- **A value with two fields**, in one of its two shapes. -/
inductive IsPair (first second : String) : Node → Node → Node → Prop where
  /-- An object whose names are texts, with one member for each field. -/
  | object {gap : Bytes} {ms : Members} {a b : Node}
      (names : ∀ entry ∈ ms.entries, (stringText entry.1).isSome = true)
      (one : IsOnly ms first a) (other : IsOnly ms second b) :
      IsPair first second (.object gap ms) a b
  /-- An array of the two values. -/
  | array {gap : Bytes} {es : Elements} {a b : Node} (values : es.nodes = [a, b]) :
      IsPair first second (.array gap es) a b

/-! ## The fields of a value -/

/-- Where entries get names, their keys are texts. -/
theorem isSome_of_namedEntries {entries : List (Bytes × Node)} {names : List (String × Node)}
    (h : namedEntries entries = some names) :
    ∀ entry ∈ entries, (stringText entry.1).isSome = true := by
  induction entries generalizing names with
  | nil => exact fun entry hentry => absurd hentry List.not_mem_nil
  | cons entry entries ih =>
    simp only [namedEntries, List.mapM_cons, Option.bind_eq_bind, Option.bind_eq_some_iff,
      Option.map_eq_some_iff] at h
    obtain ⟨_, ⟨text, htext, -⟩, rest, hrest, -⟩ := h
    refine List.forall_mem_cons.2 ⟨?_, ih hrest⟩
    rw [htext]
    rfl

/-- The named entries of a name are those under a key that stands for it. -/
theorem filter_named {entries : List (Bytes × Node)}
    (h : ∀ entry ∈ entries, (stringText entry.1).isSome = true) (name : String) :
    (entries.map named).filter (·.1 == name) =
      (entries.filter fun entry => stringText entry.1 == some name).map named := by
  rw [List.filter_map]
  refine congrArg _ (List.filter_congr fun entry hentry => ?_)
  obtain ⟨text, htext⟩ := Option.isSome_iff_exists.1 (h entry hentry)
  simp [named, htext]

theorem isOnly_iff : IsOnly ms name n ↔
    ∃ key, ms.entries.filter (fun entry => stringText entry.1 == some name) = [(key, n)] := by
  constructor
  · rintro ⟨before, key, after, hsplit, hkey, hothers⟩
    refine ⟨key, List.filter_eq_cons_iff.2 ⟨before, after, hsplit, ?_, by simp [hkey], ?_⟩⟩
    · exact fun entry hentry => by simpa using hothers entry (List.mem_append_left _ hentry)
    · refine List.filter_eq_nil_iff.2 fun entry hentry => ?_
      simpa using hothers entry (List.mem_append_right _ hentry)
  · rintro ⟨key, hfilter⟩
    obtain ⟨before, after, hsplit, hbefore, hkey, hafter⟩ := List.filter_eq_cons_iff.1 hfilter
    refine ⟨before, key, after, hsplit, by simpa using hkey, fun entry hentry => ?_⟩
    rcases List.mem_append.1 hentry with h | h
    · simpa using hbefore entry h
    · simpa using List.filter_eq_nil_iff.1 hafter entry h

/-- **The one entry of a name** is found, and nothing else is. -/
theorem single?_eq_some_iff
    (hnames : ∀ entry ∈ ms.entries, (stringText entry.1).isSome = true) :
    single? name (ms.entries.map named) = some n ↔ IsOnly ms name n := by
  rw [isOnly_iff]
  constructor
  · intro h
    unfold single? at h
    split at h
    · rename_i found m hsingle
      cases h
      rw [filter_named hnames] at hsingle
      obtain ⟨⟨key, m⟩, hentry, hnamed⟩ := List.map_eq_singleton_iff.1 hsingle
      obtain rfl : m = n := congrArg Prod.snd hnamed
      exact ⟨key, hentry⟩
    · cases h
  · rintro ⟨key, hentry⟩
    have hkey : stringText key = some name := by
      have hmem : (key, n) ∈ ms.entries.filter fun entry => stringText entry.1 == some name := by
        rw [hentry]
        exact List.mem_singleton.2 rfl
      simpa using (List.mem_filter.1 hmem).2
    refine single?_of_filter ?_
    rw [filter_named hnames, hentry, List.map_singleton, named, hkey]
    rfl

/-- **Two fields are found in a value of one of the two shapes**, and in no other. -/
theorem fields?_eq_some_iff : fields? first second n = some (a, b) ↔ IsPair first second n a b := by
  constructor
  · intro h
    unfold fields? at h
    split at h
    · rename_i gap es
      split at h
      · rename_i hnodes
        cases h
        exact .array hnodes
      · cases h
    · rename_i gap ms
      simp only [Option.bind_eq_bind, Option.bind_eq_some_iff] at h
      obtain ⟨names, hnamed, x, hx, y, hy, h⟩ := h
      cases h
      have hnames := isSome_of_namedEntries hnamed
      obtain rfl := Option.some.inj (hnamed.symm.trans (namedEntries_eq_map hnames))
      exact .object hnames ((single?_eq_some_iff hnames).1 hx) ((single?_eq_some_iff hnames).1 hy)
    · cases h
  · intro h
    cases h with
    | array hnodes => simp only [fields?, hnodes]
    | object hnames hone hother =>
      simp only [fields?, namedEntries_eq_map hnames, (single?_eq_some_iff hnames).2 hone,
        (single?_eq_some_iff hnames).2 hother, Option.bind_eq_bind, Option.bind_some]
      rfl

/-- The second field stands inside the document, so it is proper if the document is. -/
theorem IsPair.proper {d : Document} (h : IsPair first second d.root a b) (hd : d.Proper) :
    b.Proper [] :=
  (holds_of_fields? (fields?_eq_some_iff.2 h)).1.proper hd

/-! ## What is handed on -/

/-- The values that are 64-bit integers. -/
theorem integer64?_eq_some_iff {i : Int} : integer64? n = some i ↔
    ∃ text, n = .number text ∧ integer? text = some i ∧
      Int64.minValue.toInt ≤ i ∧ i ≤ Int64.maxValue.toInt := by
  constructor
  · intro h
    unfold integer64? at h
    split at h
    · rename_i text
      simp only [Option.bind_eq_bind, Option.bind_eq_some_iff] at h
      obtain ⟨m, hm, h⟩ := h
      split at h
      · cases h
        exact ⟨text, rfl, hm, ‹_›⟩
      · cases h
    · cases h
  · rintro ⟨text, rfl, hvalue, hrange⟩
    simp only [integer64?, hvalue, Option.bind_eq_bind, Option.bind_some, if_pos hrange]

/-- The values that are a text. -/
theorem text?_eq_some_iff {text : String} :
    text? n = some text ↔ ∃ inner, n = .string inner ∧ stringText inner = some text := by
  constructor
  · intro h
    unfold text? at h
    split at h
    · rename_i inner
      exact ⟨inner, rfl, h⟩
    · cases h
  · rintro ⟨inner, rfl, h⟩
    exact h

/-- **What is read as an envelope.** -/
theorem envelope_decode_iff {content : Bytes} {e : Envelope} : Envelope.decode content = some e ↔
    ∃ (d : Document) (inner : Bytes) (payload : Node), d.Proper ∧ d.text = content ∧
      IsPair "event_type" "payload" d.root (.string inner) payload ∧
      stringText inner = some e.eventType ∧ IsText payload.text ∧ payload.text = e.payload := by
  constructor
  · intro h
    simp only [Envelope.decode, Option.bind_eq_bind, Option.bind_eq_some_iff] at h
    obtain ⟨d, hd, ⟨eventType, payload⟩, hfields, type, htype, text, htext, h⟩ := h
    cases h
    obtain ⟨hproper, hspelled⟩ := Document.parse_eq_some_iff.1 hd
    obtain ⟨inner, rfl, hinner⟩ := text?_eq_some_iff.1 htype
    exact ⟨d, inner, payload, hproper, hspelled, fields?_eq_some_iff.1 hfields, hinner,
      isText_of_decodeText htext, rfl⟩
  · rintro ⟨d, inner, payload, hproper, hspelled, hpair, hinner, ⟨cs, hcs⟩, hpayload⟩
    have htext : decodeText payload.text = some (String.ofList cs) := by
      rw [← hcs]
      exact decodeText_encode cs
    simp only [Envelope.decode, Document.parse_eq_some_iff.2 ⟨hproper, hspelled⟩,
      fields?_eq_some_iff.2 hpair, text?, hinner, htext, Option.bind_eq_bind, Option.bind_some]
    rw [hpayload]
    rfl

/-- **What is read as an event of a new follower**, where the payload is a value. -/
theorem followCreated_decode_iff {payload : Node} {event : FollowCreated}
    (h : payload.Proper []) : FollowCreated.decode payload.text = some event ↔
    ∃ one other, IsPair "follower_id" "followee_id" payload (.number one) (.number other) ∧
      (integer? one = some event.followerId ∧ Int64.minValue.toInt ≤ event.followerId ∧
        event.followerId ≤ Int64.maxValue.toInt) ∧
      integer? other = some event.followeeId ∧ Int64.minValue.toInt ≤ event.followeeId ∧
        event.followeeId ≤ Int64.maxValue.toInt := by
  simp only [FollowCreated.decode, Document.parse_text h, Option.bind_eq_bind, Option.bind_some,
    Option.bind_eq_some_iff]
  constructor
  · rintro ⟨⟨a, b⟩, hfields, follower, hfollower, followee, hfollowee, hevent⟩
    cases hevent
    obtain ⟨one, rfl, hone⟩ := integer64?_eq_some_iff.1 hfollower
    obtain ⟨other, rfl, hother⟩ := integer64?_eq_some_iff.1 hfollowee
    exact ⟨one, other, fields?_eq_some_iff.1 hfields, hone, hother⟩
  · rintro ⟨one, other, hpair, hone, hother⟩
    exact ⟨_, fields?_eq_some_iff.2 hpair, _, integer64?_eq_some_iff.2 ⟨one, rfl, hone⟩, _,
      integer64?_eq_some_iff.2 ⟨other, rfl, hother⟩, rfl⟩

/-- **A document that is an event of a new follower**: its fields are the type
and the payload, those of the payload are two positive integers, and either
may be an object or an array. -/
structure IsEvent (d : Document) (payload : Node) (follower followee : Int) : Prop where
  proper : d.Proper
  encoded : IsText payload.text
  envelope : ∃ inner, IsPair "event_type" "payload" d.root (.string inner) payload ∧
    stringText inner = some "follow_created"
  fields : ∃ one other, IsPair "follower_id" "followee_id" payload (.number one) (.number other) ∧
    integer? one = some follower ∧ integer? other = some followee
  follower : 0 < follower ∧ follower ≤ Int64.maxValue.toInt
  followee : 0 < followee ∧ followee ≤ Int64.maxValue.toInt

/-- What is handed on is what is read as a draft. -/
theorem handsOn_iff_read {content : Bytes} {draft : Draft} :
    HandsOn content draft ↔ read content = .ok draft := by
  refine ⟨fun hands => ?_, handsOn_of_read⟩
  cases h : read content with
  | error failure => exact absurd hands ((refuses_of_read h).not_handsOn draft)
  | ok draft' => rw [hands.unique (handsOn_of_read h)]

/-- **A content is handed on exactly if it is an event**, whichever of the
shapes it is written in: no other shape of a value is taken. -/
theorem handsOn_iff (content : Bytes) (draft : Draft) :
    HandsOn content draft ↔ ∃ (d : Document) (payload : Node) (follower followee : Int),
      d.text = content ∧ IsEvent d payload follower followee ∧
      draft = { userId := followee, kind := "follow_created", createdAt := none,
                payload := payload.text } := by
  rw [handsOn_iff_read, read_eq_ok_iff]
  constructor
  · rintro ⟨e, event, he, htype, hevent, hfollower, hfollowee, rfl⟩
    obtain ⟨d, inner, payload, hproper, hspelled, hpair, hinner, hencoded, hpayload⟩ :=
      envelope_decode_iff.1 he
    rw [← hpayload] at hevent
    obtain ⟨one, other, hids, ⟨hone, -, hmax⟩, hother, -, hmax'⟩ :=
      (followCreated_decode_iff (hpair.proper hproper)).1 hevent
    refine ⟨d, payload, event.followerId, event.followeeId, hspelled, ?_, by rw [notice, hpayload]⟩
    exact {
      proper := hproper
      encoded := hencoded
      envelope := ⟨inner, hpair, htype ▸ hinner⟩
      fields := ⟨one, other, hids, hone, hother⟩
      follower := ⟨hfollower, hmax⟩
      followee := ⟨hfollowee, hmax'⟩ }
  · rintro ⟨d, payload, follower, followee, hspelled, hevent, rfl⟩
    obtain ⟨inner, hpair, hinner⟩ := hevent.envelope
    obtain ⟨one, other, hids, hone, hother⟩ := hevent.fields
    have hmin : ∀ {i : Int}, 0 < i → Int64.minValue.toInt ≤ i := fun h =>
      Int.le_trans (by decide) (Int.le_of_lt h)
    refine ⟨⟨"follow_created", payload.text⟩, ⟨follower, followee⟩, ?_, rfl, ?_,
      hevent.follower.1, hevent.followee.1, rfl⟩
    · exact envelope_decode_iff.2
        ⟨d, inner, payload, hevent.proper, hspelled, hpair, hinner, hevent.encoded, rfl⟩
    · exact (followCreated_decode_iff (hpair.proper hevent.proper)).2 ⟨one, other, hids,
        ⟨hone, hmin hevent.follower.1, hevent.follower.2⟩,
        hother, hmin hevent.followee.1, hevent.followee.2⟩

/-- Whether a value is an object. -/
def isObject : Node → Bool
  | .emptyObject _ | .object .. => true
  | _ => false

/-- An event that is written without any object. -/
def arrays : Bytes := encode "[\"follow_created\",[7,42]]".toList

/-- **Not only objects are handed on**: an array with an array in it is, and what is stored of it
is an array. -/
theorem arrays_handed_on :
    HandsOn arrays ⟨42, "follow_created", none, encode "[7,42]".toList⟩ ∧
      ¬ ∀ content draft, HandsOn content draft →
        (∃ d, Document.parse content = some d ∧ isObject d.root = true) ∧
          ∃ d, Document.parse draft.payload = some d ∧ isObject d.root = true := by
  have hands : HandsOn arrays ⟨42, "follow_created", none, encode "[7,42]".toList⟩ :=
    handsOn_of_read (by decide +kernel)
  refine ⟨hands, fun h => ?_⟩
  obtain ⟨⟨d, hparse, hobject⟩, -⟩ := h _ _ hands
  have harray : (Document.parse arrays).any (fun d => isObject d.root) = false := by
    decide +kernel
  rw [hparse, Option.any_some, hobject] at harray
  cases harray

end Event

end NotificationFeed
