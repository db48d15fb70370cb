import NotificationFeed.Event.Process
import NotificationFeed.Proofs.Service.Calls
/-!
# Events — what each comes to

Reading an event asks nobody. What is read is a draft or a failure
(`read`), and an event comes to whatever saving that draft comes to.
-/

namespace NotificationFeed

namespace Event

/-- The draft an event stands for, or its first fault. -/
def read (content : Bytes) : Except Failure Draft :=
  match Envelope.decode content with
  | none => .error (.invalidInput "malformed event envelope")
  | some envelope =>
    match Kind.ofName? envelope.eventType with
    | none => .error (.invalidInput unknownType)
    | some kind => draft kind envelope.payload

theorem yields_recognise {eventType : String} {kind : Kind} (h : Kind.ofName? eventType = some kind)
    (w : World) : World.Yields (recognise eventType).run w (.ok (.ok kind)) w := by
  unfold recognise
  rw [h]
  refine (World.Yields.tell _ _ w).run_bind ?_
  exact .run_pure kind w

theorem yields_recognise_unknown {eventType : String} (h : Kind.ofName? eventType = none)
    (w : World) :
    World.Yields (recognise eventType).run w (.ok (.error (.invalidInput unknownType))) w := by
  unfold recognise
  rw [h]
  refine (World.Yields.note _ w).lift.run_bind ?_
  exact .run_throw _ w

/-- An event with a fault fails for it and changes nothing. -/
theorem yields_process_refused {content : Bytes} {failure : Failure}
    (h : read content = .error failure) (w : World) :
    World.Yields (process content).run w (.ok (.error failure)) w := by
  unfold read at h
  unfold process
  cases hdecode : Envelope.decode content with
  | none =>
    simp only [hdecode, Except.error.injEq] at h
    subst h
    exact .run_throw _ w
  | some envelope =>
    simp only [hdecode] at h
    cases hkind : Kind.ofName? envelope.eventType with
    | none =>
      simp only [hkind, Except.error.injEq] at h
      subst h
      exact (yields_recognise_unknown hkind w).run_bind_failure
    | some kind =>
      simp only [hkind] at h
      refine (yields_recognise hkind w).run_bind ?_
      rw [h]
      exact World.Yields.run_bind_failure (.pure _ w)

/-- **An event comes to what saving its draft comes to.** -/
theorem yields_process {content : Bytes} {draft : Draft} (h : read content = .ok draft)
    {w v : World} {o : Except Panic (Except Failure Int)}
    (hsave : World.Yields (Service.save draft).run w o v) :
    World.Yields (process content).run w o v := by
  unfold read at h
  unfold process
  cases hdecode : Envelope.decode content with
  | none => simp [hdecode] at h
  | some envelope =>
    simp only [hdecode] at h
    cases hkind : Kind.ofName? envelope.eventType with
    | none => simp [hkind] at h
    | some kind =>
      simp only [hkind] at h
      refine (yields_recognise hkind w).run_bind ?_
      rw [h]
      exact World.Yields.run_bind (.pure _ w) hsave

/-- **An event does to the store what its outcome says**: one that fails, or
never comes back, does nothing. -/
theorem process_makes (content : Bytes) (w : World) :
    ∃ o v, World.Yields (process content).run w o v ∧
      (World.deedOf Store.Deed.created o).Makes w.store v.store := by
  cases h : read content with
  | error failure => exact ⟨_, w, yields_process_refused h w, rfl⟩
  | ok draft =>
    obtain ⟨o, v, hsave, hmakes⟩ := Service.save_makes draft w
    exact ⟨o, v, yields_process h hsave, hmakes⟩

/-! ## The calls it can make -/

/-- The calls that the processing of an event may make: it looks a user up,
asks for one notification to be created and counts the operation; the clock
is read and the journal kept beside it. -/
def MayCall : Service.Call → Prop
  | .findUser _ | .readClock | .note _ | .store (.create _)
  | .observe (.operationCounted ..) => True
  | _ => False

theorem save_asksOnly (draft : Draft) : (Service.save draft).run.AsksOnly MayCall := by
  obtain ⟨body, hsave, hbody⟩ := Service.save_counted draft
  rw [hsave]
  refine Service.counted_asksOnly ?_ fun _ => trivial
  exact hbody MayCall (fun _ _ _ => trivial) (fun _ => trivial) trivial fun _ => trivial

/-- An event asks for what saving a draft asks for, behind one entry of the journal. -/
theorem process_asks {P : Service.Call → Prop}
    (hnote : ∀ entry : Entry, entry.message = some "decoded event" ∨
      entry.message = some "unknown event type" → P (.note entry))
    (hsave : ∀ draft, (Service.save draft).run.AsksOnly P) (content : Bytes) :
    (process content).run.AsksOnly P := by
  unfold process
  cases Envelope.decode content with
  | none => trivial
  | some envelope =>
    refine Program.AsksOnly.run_bind ?_ fun kind => ?_
    · unfold recognise
      split
      · exact ⟨hnote _ (.inl rfl), fun _ => trivial⟩
      · exact ⟨hnote _ (.inr rfl), fun _ => trivial⟩
    · refine Program.AsksOnly.run_bind ?_ fun draft => hsave draft
      cases draft kind envelope.payload <;> trivial

/-- **Processing an event makes no other calls**, whatever it is answered. -/
theorem process_asksOnly (content : Bytes) : (process content).run.AsksOnly MayCall :=
  process_asks (fun _ _ => trivial) save_asksOnly content

end Event

end NotificationFeed
