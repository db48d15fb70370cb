import NotificationFeed.Proofs.Event.Handover
/-!
# Events — the defects a content can have

A content may have several defects at once, and whether it has one is said
without the others (`Defect.Applies`): an unknown type is a defect whatever
the payload is, and each identifier is looked at by itself. They have an
order, the same wherever they stand in the text. An event that has any is
refused for the first of them (`read_of_isFirst`), and nobody is asked
(`process_asksNobody`). One that has none is read as its draft
(`read_of_sound`).
-/

namespace NotificationFeed

namespace Event

/-- What can be wrong with the content of an event. -/
inductive Defect where
  /-- The content is no envelope. -/
  | envelope
  /-- The type is none that this service knows. -/
  | kind
  /-- The payload is no event of a new follower. -/
  | payload
  | follower
  | followee
  deriving DecidableEq, Repr, Inhabited

namespace Defect

/-- The place of a defect in the order in which they count. -/
def place : Defect → Nat
  | envelope => 0
  | kind => 1
  | payload => 2
  | follower => 3
  | followee => 4

/-- The reason an event with this defect is refused for. -/
def reason : Defect → String
  | envelope => "malformed event envelope"
  | kind => "unknown event type"
  | payload => "malformed follow_created payload"
  | follower => "follower_id must be positive"
  | followee => "followee_id must be positive"

/-- **A content has a defect**, whatever other defects it has. -/
def Applies (content : Bytes) : Defect → Prop
  | envelope => Envelope.decode content = none
  | kind => ∃ e, Envelope.decode content = some e ∧ e.eventType ≠ "follow_created"
  | payload => ∃ e, Envelope.decode content = some e ∧ FollowCreated.decode e.payload = none
  | follower => ∃ e event, Envelope.decode content = some e ∧
      FollowCreated.decode e.payload = some event ∧ event.followerId ≤ 0
  | followee => ∃ e event, Envelope.decode content = some e ∧
      FollowCreated.decode e.payload = some event ∧ event.followeeId ≤ 0

/-- **The first defect a content has.** -/
def IsFirst (content : Bytes) (defect : Defect) : Prop :=
  defect.Applies content ∧ ∀ earlier : Defect, earlier.place < defect.place →
    ¬ earlier.Applies content

/-- **A content with a defect has a first one.** -/
theorem exists_isFirst {content : Bytes} {d : Defect} (h : d.Applies content) :
    ∃ first : Defect, first.IsFirst content := by
  -- Going back to an earlier defect that applies comes to an end.
  induction hplace : d.place using Nat.strongRecOn generalizing d with
  | ind n ih =>
    by_cases hfirst : ∃ earlier : Defect, earlier.place < d.place ∧ earlier.Applies content
    · obtain ⟨earlier, hlt, happlies⟩ := hfirst
      exact ih earlier.place (hplace ▸ hlt) happlies rfl
    · exact ⟨d, h, fun earlier hlt happlies => hfirst ⟨earlier, hlt, happlies⟩⟩

end Defect

variable {content : Bytes} {e : Envelope} {event : FollowCreated}

/-! ## What is read of a content -/

theorem eventType_of_not_applies (he : Envelope.decode content = some e)
    (h : ¬ Defect.kind.Applies content) : e.eventType = "follow_created" := by
  by_contra htype
  exact h ⟨e, he, htype⟩

/-- Of an event of a new follower the payload is read. -/
theorem read_payload (he : Envelope.decode content = some e)
    (htype : e.eventType = "follow_created") : read content = followCreatedDraft e.payload := by
  have hkind : Kind.ofName? e.eventType = some .followCreated := if_pos htype
  simp only [read, he, hkind]
  rfl

/-- **The first defect of a content is what it is refused for.** -/
theorem read_of_isFirst {d : Defect} (h : d.IsFirst content) :
    read content = .error (.invalidInput d.reason) := by
  obtain ⟨happlies, hearlier⟩ := h
  cases d with
  | envelope =>
    have henvelope : Envelope.decode content = none := happlies
    rw [read, henvelope]
    rfl
  | kind =>
    obtain ⟨e, he, htype⟩ := happlies
    have hkind : Kind.ofName? e.eventType = none := if_neg htype
    simp only [read, he, hkind]
    rfl
  | payload =>
    obtain ⟨e, he, hevent⟩ := happlies
    have htype := eventType_of_not_applies he (hearlier .kind (by decide))
    rw [read_payload he htype, followCreatedDraft, hevent]
    rfl
  | follower =>
    obtain ⟨e, event, he, hevent, hfollower⟩ := happlies
    have htype := eventType_of_not_applies he (hearlier .kind (by decide))
    rw [read_payload he htype, followCreatedDraft, hevent]
    simp only [if_pos hfollower]
    rfl
  | followee =>
    obtain ⟨e, event, he, hevent, hfollowee⟩ := happlies
    have htype := eventType_of_not_applies he (hearlier .kind (by decide))
    have hfollower : ¬ event.followerId ≤ 0 := fun hfollower =>
      hearlier .follower (by decide) ⟨e, event, he, hevent, hfollower⟩
    rw [read_payload he htype, followCreatedDraft, hevent]
    simp only [if_neg hfollower, if_pos hfollowee]
    rfl

/-- The notification that an event of a new follower stands for. -/
def notice (e : Envelope) (event : FollowCreated) : Draft where
  userId := event.followeeId
  kind := "follow_created"
  createdAt := none
  payload := e.payload

/-- **A content without a defect is read as its draft.** -/
theorem read_of_sound (h : ∀ d : Defect, ¬ d.Applies content) :
    ∃ e event, Envelope.decode content = some e ∧ FollowCreated.decode e.payload = some event ∧
      read content = .ok (notice e event) := by
  obtain ⟨e, he⟩ := Option.ne_none_iff_exists'.1 (h .envelope)
  obtain ⟨event, hevent⟩ := Option.ne_none_iff_exists'.1 fun hnone => h .payload ⟨e, he, hnone⟩
  have hfollower : ¬ event.followerId ≤ 0 := fun hle => h .follower ⟨e, event, he, hevent, hle⟩
  have hfollowee : ¬ event.followeeId ≤ 0 := fun hle => h .followee ⟨e, event, he, hevent, hle⟩
  refine ⟨e, event, he, hevent, ?_⟩
  rw [read_payload he (eventType_of_not_applies he (h .kind)), followCreatedDraft, hevent]
  simp only [if_neg hfollower, if_neg hfollowee]
  rfl

/-- **A content that is read as a draft** has an envelope of the known type, around an event of
two positive identifiers. -/
theorem read_eq_ok_iff {draft : Draft} : read content = .ok draft ↔
    ∃ e event, Envelope.decode content = some e ∧ e.eventType = "follow_created" ∧
      FollowCreated.decode e.payload = some event ∧ 0 < event.followerId ∧
      0 < event.followeeId ∧ draft = notice e event := by
  constructor
  · intro h
    have hsound : ∀ d : Defect, ¬ d.Applies content := by
      intro d happlies
      obtain ⟨first, hfirst⟩ := Defect.exists_isFirst happlies
      cases h.symm.trans (read_of_isFirst hfirst)
    obtain ⟨e, event, he, hevent, hread⟩ := read_of_sound hsound
    exact ⟨e, event, he, eventType_of_not_applies he (hsound .kind), hevent,
      Int.not_le.1 fun hle => hsound .follower ⟨e, event, he, hevent, hle⟩,
      Int.not_le.1 fun hle => hsound .followee ⟨e, event, he, hevent, hle⟩,
      Except.ok.inj (h.symm.trans hread)⟩
  · rintro ⟨e, event, he, htype, hevent, hfollower, hfollowee, rfl⟩
    rw [read_payload he htype, followCreatedDraft, hevent]
    simp only [if_neg (Int.not_le.2 hfollower), if_neg (Int.not_le.2 hfollowee)]
    rfl

/-! ## What is asked -/

/-- **A content that is refused** is refused at once, or behind one entry of the journal. -/
theorem process_eq_refusal {failure : Failure} (h : read content = .error failure) :
    process content = throw failure ∨
      ∃ entry : Entry, process content = (do
        ExceptT.lift (Service.note entry)
        throw failure) := by
  unfold read at h
  unfold process
  cases he : Envelope.decode content with
  | none =>
    simp only [he, Except.error.injEq] at h
    exact .inl (by rw [h])
  | some e =>
    simp only [he] at h
    cases hkind : Kind.ofName? e.eventType with
    | none =>
      simp only [hkind, Except.error.injEq] at h
      refine .inr ⟨.warn "unknown event type" [("event_type", e.eventType)], ?_⟩
      simp only [recognise, hkind, ← h]
      rfl
    | some kind =>
      simp only [hkind] at h
      refine .inr ⟨.info "decoded event" [("event_type", kind.name)], ?_⟩
      simp only [recognise, hkind, h]
      rfl

/-- **For a content with a defect nobody is asked**, whoever the surroundings are: at most an
entry is written into the journal. -/
theorem process_asksNobody {d : Defect} (h : d.IsFirst content) :
    (process content).run.AsksOnly fun c : Service.Call => ∃ entry, c = .note entry := by
  rcases process_eq_refusal (read_of_isFirst h) with hprocess | ⟨entry, hprocess⟩
  · rw [hprocess]
    trivial
  · rw [hprocess]
    exact ⟨⟨entry, rfl⟩, fun _ => trivial⟩

end Event

end NotificationFeed
