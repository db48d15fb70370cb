import NotificationFeed.Proofs.Event.Outcome
import NotificationFeed.Proofs.Event.Record
/-!
# Events — what is handed on to be saved

The processing of an event is looked at with any operation in the place of
the service that saves (`processWith`). Then it shows which contents are
handed on and as which draft (`HandsOn`): the draft is saved once, behind one
entry of the journal, and nothing else is done. Any other content is refused,
and the refusal does not depend on what saving would have done (`Refuses`).

Two main statements. However an event of a new follower is written
(`Announces`), it is handed on for the followed user with its payload cut out
byte for byte. And whatever is handed on is such an event (`Carries`): its
payload is by itself the text of a value, and puts the same draft together
again when it is wrapped anew.
-/

namespace NotificationFeed

namespace Event

open Json

/-- The processing of an event where drafts are saved by `save`. -/
def processWith (save : Draft → Service.Operation Int) (content : Bytes) : Service.Operation Int :=
  match Envelope.decode content with
  | none => throw (.invalidInput "malformed event envelope")
  | some envelope => do
    let kind ← recognise envelope.eventType
    let draft ← ExceptT.mk (pure (draft kind envelope.payload))
    save draft

/-- The service saves with its own operation. -/
theorem process_eq_processWith (content : Bytes) :
    process content = processWith Service.save content := rfl

/-- One entry of the journal, and then one draft is saved by `save`. -/
def saveOne (save : Draft → Service.Operation Int) (draft : Draft) : Service.Operation Int := do
  Service.tell "decoded event" [("event_type", Kind.followCreated.name)]
  save draft

/-- **A content is handed on as a draft**: the processing saves that draft,
once, and does no more; and so it would, whatever saving is. -/
structure HandsOn (content : Bytes) (draft : Draft) : Prop where
  process : process content = saveOne Service.save draft
  whatever : ∀ save : Draft → Service.Operation Int, processWith save content = saveOne save draft

/-- **A content is refused**: nothing is saved, whatever saving is. -/
def Refuses (content : Bytes) : Prop :=
  ∃ refusal, process content = refusal ∧
    ∀ save : Draft → Service.Operation Int, processWith save content = refusal

theorem saveOne_outcome (id : Draft → Int) (draft : Draft) (w : World) :
    ((saveOne (fun draft => pure (id draft)) draft).run.run World.answer w).1 =
      .ok (.ok (id draft)) := rfl

/-- A content is handed on as one draft at most. -/
theorem HandsOn.unique {content : Bytes} {draft draft' : Draft} (h : HandsOn content draft)
    (h' : HandsOn content draft') : draft = draft' := by
  -- Two drafts are told apart by a way of saving that answers them differently.
  have hsame := (h.whatever fun d => pure (if d = draft then 1 else 0)).symm.trans
    (h'.whatever fun d => pure (if d = draft then 1 else 0))
  have houtcome := congrArg (fun x => (x.run.run World.answer {}).1) hsame
  simp only [saveOne_outcome, if_true, Except.ok.injEq] at houtcome
  by_contra hne
  rw [if_neg (Ne.symm hne)] at houtcome
  cases houtcome

/-- And one that is refused is not handed on. -/
theorem Refuses.not_handsOn {content : Bytes} (h : Refuses content) (draft : Draft) :
    ¬ HandsOn content draft := by
  intro hands
  obtain ⟨refusal, -, hrefusal⟩ := h
  have hsame : saveOne (fun _ => pure 0) draft = saveOne (fun _ => pure 1) draft := by
    rw [← hands.whatever, ← hands.whatever, hrefusal, hrefusal]
  have houtcome := congrArg (fun x => (x.run.run World.answer {}).1) hsame
  cases houtcome

/-- **A content whose draft can be read is handed on as that draft.** -/
theorem handsOn_of_read {content : Bytes} {draft : Draft} (h : read content = .ok draft) :
    HandsOn content draft := by
  have hany : ∀ save : Draft → Service.Operation Int,
      processWith save content = saveOne save draft := by
    intro save
    unfold read at h
    unfold processWith
    cases hdecode : Envelope.decode content with
    | none => simp [hdecode] at h
    | some envelope =>
      simp only [hdecode] at h
      cases hkind : Kind.ofName? envelope.eventType with
      | none => simp [hkind] at h
      | some kind =>
        simp only [hkind] at h
        simp only [recognise, hkind, h]
        rfl
  exact ⟨(process_eq_processWith content).trans (hany Service.save), hany⟩

/-- And one with a fault is refused. -/
theorem refuses_of_read {content : Bytes} {failure : Failure} (h : read content = .error failure) :
    Refuses content := by
  have hany : ∃ refusal, ∀ save : Draft → Service.Operation Int,
      processWith save content = refusal := by
    unfold read at h
    unfold processWith
    cases hdecode : Envelope.decode content with
    | none => exact ⟨_, fun _ => rfl⟩
    | some envelope =>
      simp only [hdecode] at h
      cases hkind : Kind.ofName? envelope.eventType with
      | none =>
        refine ⟨ExceptT.lift (Service.note
          (.warn "unknown event type" [("event_type", envelope.eventType)])) >>= fun _ =>
            throw (.invalidInput unknownType), fun save => ?_⟩
        simp only [recognise, hkind]
        rfl
      | some kind =>
        simp only [hkind] at h
        refine ⟨Service.tell "decoded event" [("event_type", kind.name)] >>= fun _ =>
          throw failure, fun save => ?_⟩
        simp only [recognise, hkind, h]
        rfl
  obtain ⟨refusal, hrefusal⟩ := hany
  exact ⟨refusal, (process_eq_processWith content).trans (hrefusal Service.save), hrefusal⟩

/-! ## However it is written -/

/-- A character that may stand between quotes as it is: no quote, no backslash and no control
character. -/
def isPlain (c : Char) : Bool := 32 ≤ c.toNat && c.toNat != 34 && c.toNat != 92

/-- A name of plain characters, written as it is. -/
theorem names_encode {name : String} (h : name.toList.all isPlain = true) :
    Names (encode name.toList) name := by
  refine writes_encode fun c hc => ?_
  have hplain : isPlain c = true := List.all_eq_true.1 h c hc
  simpa [isPlain, and_assoc] using hplain

/-- **An event of a new follower, as it may be written**: an object with the
type of the event and a payload, which is an object with the two identifiers
in plain digits. Members may stand in any order and among any others, names
and the type may be spelled in any way, and blanks may be between all of it. -/
structure Announces (d : Document) (follower followee : Int64) (payload : Node) : Prop where
  proper : d.Proper
  encoded : IsText d.text
  envelope : ∃ gap ms eventType, d.root = .object gap ms ∧
    Names eventType Kind.followCreated.name ∧
    IsRecord ms "event_type" (.string eventType) "payload" payload
  fields : ∃ gap ms, payload = .object gap ms ∧
    IsRecord ms "follower_id" (.number (decimal follower.toInt.toNat))
      "followee_id" (.number (decimal followee.toInt.toNat))

/-- The draft that an event of a new follower is handed on as. -/
def announcement (followee : Int64) (payload : Node) : Draft where
  userId := followee.toInt
  kind := Kind.followCreated.name
  createdAt := none
  payload := payload.text

theorem toInt_pos {id : Int64} (h : 0 < id) : 0 < id.toInt := by
  simpa using Int64.lt_iff_toInt_lt.1 h

/-- The digits of a positive identifier are read as it. -/
theorem integer64?_decimal {id : Int64} (h : 0 < id) :
    integer64? (.number (decimal id.toInt.toNat)) = some id.toInt := by
  have hvalue : integer? (decimal id.toInt.toNat) = some id.toInt := by
    rw [integer?_decimal, Int.toNat_of_nonneg (Int.le_of_lt (toInt_pos h))]
  simp only [integer64?, hvalue, Option.bind_eq_bind, Option.bind_some]
  rw [if_pos ⟨Int64.minValue_le_toInt id, Int64.toInt_le id⟩]

/-- A stretch of text between two ASCII bytes is a text. -/
theorem isText_stretch {before stretch behind : Bytes} {b c : UInt8} (hb : b < 128) (hc : c < 128)
    (h : IsText (before ++ (b :: (stretch ++ [c])) ++ behind)) :
    IsText (b :: (stretch ++ [c])) := by
  have hall : IsText (before ++ b :: (stretch ++ c :: behind)) := by simpa using h
  have hfrom : IsText ((b :: stretch) ++ c :: behind) := (isText_cut hb hall).2
  have hto : IsText ((b :: stretch) ++ [c]) := (isText_cut hc hfrom).1
  simpa using hto

theorem isText_object {d : Document} {gap : Bytes} {ms : Members} (h : IsText d.text)
    (hholds : d.Holds (.object gap ms)) : IsText (Node.object gap ms).text := by
  obtain ⟨before, behind, hcut⟩ := hholds.text
  rw [Node.text_object] at hcut ⊢
  rw [← hcut] at h
  exact isText_stretch (by decide) (by decide) h

/-- The draft of an envelope whose payload is an event of a new follower. -/
theorem read_eq_ok {content inner : Bytes} {d : Document} {payload : Node} {event : FollowCreated}
    (hparse : Document.parse content = some d)
    (hfields : fields? "event_type" "payload" d.root = some (.string inner, payload))
    (htype : stringText inner = some Kind.followCreated.name) (htext : IsText payload.text)
    (hevent : FollowCreated.decode payload.text = some event)
    (hfollower : 0 < event.followerId) (hfollowee : 0 < event.followeeId) :
    read content = .ok
      { userId := event.followeeId, kind := Kind.followCreated.name, createdAt := none
        payload := payload.text } := by
  obtain ⟨cs, hcs⟩ := htext
  have hdecode : decodeText payload.text = some (String.ofList cs) := by
    rw [← hcs]
    exact decodeText_encode cs
  have henvelope : Envelope.decode content = some ⟨Kind.followCreated.name, payload.text⟩ := by
    simp only [Envelope.decode, hparse, hfields, text?, htype, hdecode, Option.bind_eq_bind,
      Option.bind_some]
    rfl
  simp only [read, henvelope, Kind.name, Kind.ofName?, if_true, draft, followCreatedDraft, hevent,
    if_neg (Int.not_le.2 hfollower), if_neg (Int.not_le.2 hfollowee)]
  rfl

/-- **However an event of a new follower is written**, it is handed on for the
followed user, once, with its payload as it was written. -/
theorem handsOn_of_announces {d : Document} {follower followee : Int64} {payload : Node}
    (hfollower : 0 < follower) (hfollowee : 0 < followee)
    (h : Announces d follower followee payload) :
    HandsOn d.text (announcement followee payload) := by
  obtain ⟨gap, ms, eventType, hroot, htype, henvelope⟩ := h.envelope
  obtain ⟨gap', ms', rfl, hids⟩ := h.fields
  have hparse : Document.parse d.text = some d := Document.parse_eq_some_iff.2 ⟨h.proper, rfl⟩
  have hfields :
      fields? "event_type" "payload" d.root = some (.string eventType, .object gap' ms') := by
    rw [hroot]
    exact fields?_of_isRecord (by decide) henvelope gap
  obtain ⟨hholds, -⟩ := holds_of_fields? hfields
  have hpayload : Document.parse (Node.object gap' ms').text = some ⟨[], .object gap' ms', []⟩ :=
    Document.parse_text (hholds.proper h.proper)
  have hevent : FollowCreated.decode (Node.object gap' ms').text =
      some ⟨follower.toInt, followee.toInt⟩ := by
    simp only [FollowCreated.decode, hpayload, fields?_of_isRecord (by decide) hids,
      integer64?_decimal hfollower, integer64?_decimal hfollowee, Option.bind_eq_bind,
      Option.bind_some]
    rfl
  exact handsOn_of_read (read_eq_ok hparse hfields (stringText_of_names htype)
    (isText_object h.encoded hholds) hevent (toInt_pos hfollower) (toInt_pos hfollowee))

/-- A payload with its members in the other order and one more between them. -/
def turnedPayload : Node :=
  .object [32] (.more (encode "followee_id".toList) [] [32] (.number (decimal 42)) [] [9]
    (.more (encode "z".toList) [] [] (.array [] (.one (.emptyObject [32]) [])) [] []
      (.one (encode "follower_id".toList) [] [] (.number (decimal 7)) [10])))

/-- An event with the payload in front, and escapes in a name and in the type. -/
def escapedEvent : Document where
  lead := [10]
  root := .object [] (.more (encode "p".toList ++ 92 :: 117 :: 48 :: 48 :: 54 :: 49 ::
      encode "yload".toList) [] [32] turnedPayload [32] []
    (.one (encode "event_type".toList) [] []
      (.string (92 :: 117 :: 48 :: 48 :: 54 :: 54 :: encode "ollow_created".toList)) []))
  trail := [13, 10]

theorem escapedEvent_handsOn :
    ((0 : Int64) < 7 ∧ (0 : Int64) < 42 ∧ Announces escapedEvent 7 42 turnedPayload) ∧
      HandsOn escapedEvent.text (announcement 42 turnedPayload) := by
  have hyload : Names (encode "yload".toList) "yload" := names_encode (by decide)
  have hpayloadName : Names (encode "p".toList ++ 92 :: 117 :: 48 :: 48 :: 54 :: 49 ::
      encode "yload".toList) "payload" :=
    .plain (c := 'p') (by decide) (by decide) (by decide)
      (.unit (n := 97) (by decide) (by decide) hyload)
  have hollow : Names (encode "ollow_created".toList) "ollow_created" := names_encode (by decide)
  have htype : Names (92 :: 117 :: 48 :: 48 :: 54 :: 54 :: encode "ollow_created".toList)
      Kind.followCreated.name :=
    .unit (n := 102) (by decide) (by decide) hollow
  have hannounces : Announces escapedEvent 7 42 turnedPayload := {
    proper := Document.proper_of_isTaken (by decide) (by decide)
    encoded := ⟨escapedEvent.text.map fun b => Char.ofNat b.toNat, by decide +kernel⟩
    envelope := by
      refine ⟨_, _, _, rfl, htype, _, _, [], List.Perm.swap _ _ _, names_encode (by decide),
        hpayloadName, ?_⟩
      exact fun _ hentry => absurd hentry List.not_mem_nil
    fields := by
      have hturn : ∀ x y z : Bytes × Node, [x, y, z].Perm [z, x, y] := fun x y z =>
        List.perm_append_comm_assoc [x, y] [z] []
      refine ⟨_, _, rfl, _, _, _, hturn _ _ _,
        names_encode (by decide), names_encode (by decide), fun entry hentry => ?_⟩
      rw [List.mem_singleton.1 hentry]
      exact ⟨"z", names_encode (by decide), by decide, by decide⟩ }
  exact ⟨⟨by decide, by decide, hannounces⟩,
    handsOn_of_announces (by decide) (by decide) hannounces⟩

/-! ## What is handed on -/

/-- **The envelope that holds a payload and no more.** -/
def envelop (payload : Bytes) : Bytes :=
  encode "\x7b\"event_type\":\"follow_created\",\"payload\":".toList ++ (payload ++ [125])

/-- The envelope of a value, as a document. -/
def envelope (payload : Node) : Document where
  lead := []
  root := .object [] (.more (encode "event_type".toList) [] []
    (.string (encode "follow_created".toList)) [] []
    (.one (encode "payload".toList) [] [] payload []))
  trail := []

theorem text_envelope (payload : Node) : (envelope payload).text = envelop payload.text := by
  have hlead : encode "\x7b\"event_type\":\"follow_created\",\"payload\":".toList =
      123 :: 34 :: (encode "event_type".toList ++ 34 :: 58 :: 34 ::
        (encode "follow_created".toList ++ 34 :: 44 :: 34 ::
          (encode "payload".toList ++ [34, 58]))) := by
    decide
  rw [envelop, hlead]
  simp [Document.text, envelope, Node.put, Members.put, spell_cons, spell_nil, Node.spell_put,
    Lexeme.text]

theorem envelope_proper {payload : Node} (h : payload.Proper []) : (envelope payload).Proper := by
  have hname : ∀ {name : String}, Names (encode name.toList) name →
      (⟨.string (encode name.toList), []⟩ : Piece).Proper := fun hn =>
    ⟨isString_of_writes hn, fun _ hb => absurd hb List.not_mem_nil⟩
  have hmark : ∀ {l : Lexeme}, l.Proper → (⟨l, []⟩ : Piece).Proper := fun hl =>
    ⟨hl, fun _ hb => absurd hb List.not_mem_nil⟩
  refine ⟨fun _ hb => absurd hb List.not_mem_nil, fun p hp => ?_⟩
  simp only [envelope, Node.put, Members.put, payload.put_append [] [_], List.mem_cons,
    List.mem_append, List.not_mem_nil, or_false] at hp
  rcases hp with rfl | rfl | rfl | rfl | rfl | rfl | rfl | hp | rfl
  · exact hmark trivial
  · exact hname (names_encode (by decide))
  · exact hmark trivial
  · exact hname (names_encode (by decide))
  · exact hmark trivial
  · exact hname (names_encode (by decide))
  · exact hmark trivial
  · exact h p hp
  · exact hmark trivial

theorem fields?_envelope (payload : Node) :
    fields? "event_type" "payload" (envelope payload).root =
      some (.string (encode "follow_created".toList), payload) := by
  refine fields?_of_isRecord (by decide) ?_ []
  refine ⟨_, _, [], .refl _, names_encode (by decide), names_encode (by decide), ?_⟩
  exact fun _ hentry => absurd hentry List.not_mem_nil

/-- What is behind a draft that was read. -/
theorem of_read_eq_ok {content : Bytes} {draft : Draft} (h : read content = .ok draft) :
    ∃ d eventType payload event, Document.parse content = some d ∧
      fields? "event_type" "payload" d.root = some (eventType, payload) ∧
      IsText payload.text ∧ FollowCreated.decode payload.text = some event ∧
      0 < event.followerId ∧ 0 < event.followeeId ∧
      draft = { userId := event.followeeId, kind := Kind.followCreated.name, createdAt := none
                payload := payload.text } := by
  unfold read at h
  split at h
  · cases h
  · rename_i envelope henvelope
    simp only [Envelope.decode, Option.bind_eq_bind, Option.bind_eq_some_iff] at henvelope
    obtain ⟨d, hd, ⟨eventType, payload⟩, hfields, type, -, text, htext, henvelope⟩ := henvelope
    cases henvelope
    split at h
    · cases h
    · rename_i kind hkind
      simp only [Event.draft, followCreatedDraft] at h
      split at h
      · cases h
      · rename_i event hevent
        by_cases hfollower : event.followerId ≤ 0
        · simp [hfollower] at h
          cases h
        · by_cases hfollowee : event.followeeId ≤ 0
          · simp [hfollower, hfollowee] at h
            cases h
          · simp only [if_neg hfollower, if_neg hfollowee] at h
            cases h
            exact ⟨d, eventType, payload, event, hd, hfields, isText_of_decodeText htext, hevent,
              Int.not_le.1 hfollower, Int.not_le.1 hfollowee, rfl⟩

theorem integer64?_le {n : Node} {i : Int} (h : integer64? n = some i) :
    i ≤ Int64.maxValue.toInt := by
  unfold integer64? at h
  split at h
  · simp only [Option.bind_eq_bind, Option.bind_eq_some_iff] at h
    obtain ⟨m, -, h⟩ := h
    split at h
    · rename_i hrange
      cases h
      exact hrange.2
    · cases h
  · cases h

/-- What is behind the identifiers of an event, and the form of its text. -/
theorem of_decode_eq_some {payload : Node} {event : FollowCreated} (h : payload.Proper [])
    (hevent : FollowCreated.decode payload.text = some event) :
    (event.followerId ≤ Int64.maxValue.toInt ∧ event.followeeId ≤ Int64.maxValue.toInt) ∧
      ((∃ gap es, payload = .array gap es) ∨ ∃ gap ms, payload = .object gap ms) := by
  simp only [FollowCreated.decode, Document.parse_text h, Option.bind_eq_bind, Option.bind_some,
    Option.bind_eq_some_iff] at hevent
  obtain ⟨⟨first, second⟩, hfields, follower, hfollower, followee, hfollowee, hevent⟩ := hevent
  cases hevent
  exact ⟨⟨integer64?_le hfollower, integer64?_le hfollowee⟩,
    (holds_of_fields? (d := ⟨[], payload, []⟩) hfields).2⟩

/-- What a content that is handed on, and the payload of its draft, are known to be. -/
structure Carries (content : Bytes) (draft : Draft) : Prop where
  /-- The content is one value with blanks around it. -/
  value : ∃ (lead : Bytes) (root : Node) (trail : Bytes), (∀ b ∈ lead, isBlank b = true) ∧
    (∀ b ∈ trail, isBlank b = true) ∧ root.Proper [] ∧ content = lead ++ (root.text ++ trail)
  text : IsText draft.payload
  begins : ∃ b, draft.payload.head? = some b ∧ isBlank b = false
  ends : ∃ b, draft.payload.getLast? = some b ∧ isBlank b = false
  stretch : draft.payload <:+: content
  /-- The payload is by itself an event that concerns the user of the draft. -/
  event : ∃ event, FollowCreated.decode draft.payload = some event ∧
    event.followeeId = draft.userId ∧
    (1 ≤ event.followerId ∧ event.followerId ≤ Int64.maxValue.toInt) ∧
    1 ≤ event.followeeId ∧ event.followeeId ≤ Int64.maxValue.toInt
  /-- Wrapped anew it comes to the same draft. -/
  again : HandsOn (envelop draft.payload) draft

/-- **Whatever is handed on carries its event with it.** -/
theorem handed_on_payload (content : Bytes) :
    Refuses content ∨ ∃ draft, HandsOn content draft ∧ Carries content draft := by
  cases h : read content with
  | error failure => exact .inl (refuses_of_read h)
  | ok draft =>
    refine .inr ⟨draft, handsOn_of_read h, ?_⟩
    obtain ⟨d, eventType, payload, event, hparse, hfields, htext, hevent, hfollower, hfollowee,
      rfl⟩ := of_read_eq_ok h
    obtain ⟨hd, rfl⟩ := Document.parse_eq_some_iff.1 hparse
    obtain ⟨hholds, -⟩ := holds_of_fields? hfields
    have hpayload : payload.Proper [] := hholds.proper hd
    obtain ⟨⟨hfollowerMax, hfolloweeMax⟩, hform⟩ := of_decode_eq_some hpayload hevent
    obtain ⟨first, inner, last, htextEnds, hfirst, hlast⟩ := Node.text_ends hform
    have hwrapped := Document.parse_eq_some_iff.2
      ⟨envelope_proper hpayload, text_envelope payload⟩
    have hagain := read_eq_ok hwrapped (fields?_envelope payload)
      (stringText_of_names (names_encode (by decide))) htext hevent hfollower hfollowee
    exact {
      value := ⟨d.lead, d.root, d.trail, hd.lead, hd.root.blank, hd.root.bare, d.text_eq⟩
      text := htext
      begins := ⟨first, by rw [htextEnds]; rfl, hfirst⟩
      ends := ⟨last, by rw [htextEnds, ← List.cons_append]; exact List.getLast?_concat, hlast⟩
      stretch := hholds.text
      event := ⟨event, hevent, rfl, ⟨hfollower, hfollowerMax⟩, hfollowee, hfolloweeMax⟩
      again := handsOn_of_read hagain }

end Event

end NotificationFeed
