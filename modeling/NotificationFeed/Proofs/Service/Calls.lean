import NotificationFeed.Proofs.Service.Outcome
/-!
# Operations — the calls each can make

An operation is a body and the count of its outcome behind it. The body asks
the directory and the keeper, reads the calendar clock and writes the
journal, and that is all. What is allowed is left open here, so each use names
its own rule and says that it allows those.
-/

namespace NotificationFeed

namespace Service

variable {α : Type} {P : Call → Prop} {name : String}

/-- An operation makes the calls of its body and counts its outcome. -/
theorem counted_asksOnly {body : Operation α} (hbody : body.run.AsksOnly P)
    (hcount : ∀ success, P (.observe (.operationCounted name success))) :
    (counted name body).run.AsksOnly P :=
  Program.AsksOnly.bind hbody fun _ => ⟨hcount _, fun _ => trivial⟩

/-- **An inquiry** makes its one request and writes the journal. -/
theorem inquiry_counted (name start : String) (fields : List (String × String)) (subject : Int)
    (reason : String) (request : Store.Request)
    (finish : request.Answer → String × List (String × String)) (view : request.Answer → α) :
    ∃ body : Operation α,
      inquiry name start fields subject reason request finish view = counted name body ∧
        ∀ P : Call → Prop, (∀ entry, P (.note entry)) → P (.store request) →
          body.run.AsksOnly P := by
  refine ⟨_, rfl, fun P hnote hrequest => ?_⟩
  refine Program.AsksOnly.run_bind ⟨hnote _, fun _ => trivial⟩ fun _ => ?_
  refine Program.AsksOnly.run_bind ?_ fun _ => ?_
  · unfold checkPositive
    split <;> trivial
  · refine Program.AsksOnly.run_bind ⟨hrequest, fun _ => trivial⟩ fun _ => ?_
    exact ⟨hnote _, fun _ => trivial⟩

/-- Before a draft is stored its user is looked up. -/
theorem admission_asksOnly (hfind : ∀ id, P (.findUser id)) (draft : Draft) :
    (admission draft).run.AsksOnly P := by
  refine Program.AsksOnly.run_bind ?_ fun _ => ?_
  · unfold checkDraft checkUserId
    refine Program.AsksOnly.run_bind ?_ fun _ => ?_
    · split <;> trivial
    · split <;> trivial
  · exact Program.asksOnly_call.2 (hfind _)

/-- A draft that was admitted is given its moment and stored. -/
theorem keep_asksOnly (hnote : ∀ fields, P (.note (.info "saved notification" fields)))
    (hclock : P .readClock) (hcreate : ∀ draft, P (.store (.create draft))) (draft : Draft) :
    (keep draft).run.AsksOnly P := by
  refine Program.AsksOnly.run_bind ?_ fun dated => ?_
  · unfold Service.dated
    split
    · trivial
    · exact ⟨hclock, fun _ => trivial⟩
  · refine Program.AsksOnly.run_bind ⟨hcreate _, fun _ => trivial⟩ fun id => ?_
    exact ⟨hnote _, fun _ => trivial⟩

/-- **Saving a draft** looks its user up, may read the clock and has it stored. Two entries of the
journal are about it. -/
theorem save_counted (draft : Draft) :
    ∃ body : Operation Int, save draft = counted "save_notification" body ∧
      ∀ P : Call → Prop,
        (∀ message fields, message = "saving notification" ∨ message = "saved notification" →
          P (.note (.info message fields))) →
        (∀ id, P (.findUser id)) → P .readClock → (∀ draft, P (.store (.create draft))) →
        body.run.AsksOnly P := by
  refine ⟨_, save_eq_keep draft, fun P hnote hfind hclock hcreate => ?_⟩
  refine Program.AsksOnly.run_bind ⟨hnote _ _ (.inl rfl), fun _ => trivial⟩ fun _ => ?_
  exact (admission_asksOnly hfind draft).run_bind fun _ =>
    keep_asksOnly (fun fields => hnote _ fields (.inr rfl)) hclock hcreate draft

end Service

end NotificationFeed
