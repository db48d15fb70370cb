import NotificationFeed.Proofs.Event.Handover
import NotificationFeed.Proofs.History.Lifetime
import NotificationFeed.Proofs.Worker.Handling
/-!
# Failures — what leaves the store as it was

What a command did to the store is read off its answer, so a command that
gives no answer did nothing, wherever it failed: at the shape of its request,
at a check, at the directory, at the store, by a notification that is not
there or by a throw. A command that only looks does nothing even when it
gives an answer. The store is meant as a whole, the counter of identifiers
with it.
-/

namespace NotificationFeed

/-- A deed that leaves the store as it was. -/
def Store.Deed.Harmless : Store.Deed → Prop
  | nothing | showed _ => True
  | created _ | removed _ | marked => False

theorem Store.Deed.Makes.eq_of_harmless {deed : Store.Deed} {s s' : Store} (h : deed.Makes s s')
    (hdeed : deed.Harmless) : s' = s := by
  cases deed with
  | nothing => exact h
  | showed ids => exact h.2
  | created id | removed id | marked => exact hdeed.elim

/-- A request that asks and does not tell. -/
def Store.Request.Looks : Store.Request → Prop
  | find _ | page .. | countUnread _ => True
  | create _ | markRead _ | markAllRead _ | delete _ => False

/-- An operation that gives out what is stored. -/
def Service.Request.Looks : Service.Request → Prop
  | details _ | feed .. | unread _ => True
  | save _ | read _ | readAll _ | remove _ => False

namespace Command

/-- **A command that only looks**, through any door. -/
def Looks : Command → Prop
  | keeper r => r.Looks
  | service r => r.Looks
  | remote r => r.operation.Looks
  | event _ => False

/-- What it is given is all that it does. -/
theorem Looks.harmless {c : Command} (h : c.Looks) (answer : c.Answer) :
    (c.deed answer).Harmless := by
  cases c with
  | keeper r =>
    cases r with
    | find _ | page _ _ _ | countUnread _ => trivial
    | create _ | markRead _ | markAllRead _ | delete _ => exact h.elim
  | service r =>
    cases r with
    | details _ | feed _ _ _ | unread _ => trivial
    | save _ | read _ | readAll _ | remove _ => exact h.elim
  | remote r =>
    cases r with
    | details _ | feed _ _ _ | unread _ => trivial
    | send _ _ _ | read _ | readAll _ | remove _ => exact h.elim
  | event content => exact h.elim

end Command

namespace Move

variable {m : Move} {w : World}

/-- **A step that gives no answer leaves the store as it was.** -/
theorem store_of_failure (h : ∀ answer, (m.run w).1 ≠ .ok (.ok answer)) :
    (m.run w).2.store = w.store := by
  have hdeed : m.deed w = .nothing := by
    unfold deed
    rcases hrun : (m.run w).1 with panic | refusal | answer
    · rfl
    · rfl
    · exact absurd hrun (h answer)
  refine (m.makes w).eq_of_harmless ?_
  rw [hdeed]
  trivial

/-- **And so does one that only looks**, whatever it comes to. -/
theorem store_of_looks (h : m.command.Looks) : (m.run w).2.store = w.store := by
  refine (m.makes w).eq_of_harmless ?_
  unfold deed
  rcases (m.run w).1 with panic | refusal | answer
  · trivial
  · trivial
  · exact h.harmless answer

end Move

/-- **Handling a message that is not processed with success leaves the store as it was.** -/
theorem Worker.handle_store {config : Worker.Config} {message : Worker.Message} {w : World}
    (h : (Worker.outcome w message).isSuccess = false) :
    (Worker.handle config message w).store = w.store :=
  calc (Worker.handle config message w).store
      = (Worker.processed w message).store := (Worker.handle_block config message w).1.store
    _ = w.store := Worker.processed_store h

/-- **Failures leave the store exactly as it was**, from every world: a
command that ends in a refusal or a throw, through any door and whatever hit
it; a command that only looks, however it ends; and the handling of a message
whose processing is refused or throws. -/
theorem failures_change_nothing (w : World) (m : Move) (config : Worker.Config)
    (message : Worker.Message) :
    ((∀ answer, (m.run w).1 ≠ .ok (.ok answer)) → (m.run w).2.store = w.store) ∧
      (m.command.Looks → (m.run w).2.store = w.store) ∧
      ((Worker.outcome w message).isSuccess = false →
        (Worker.handle config message w).store = w.store) :=
  ⟨Move.store_of_failure, Move.store_of_looks, Worker.handle_store⟩

/-- A world with one notification in it, of a user whom the directory knows. -/
def inhabited : World where
  store := { lastId := 1, rows := [⟨1, 42, "like", false, ⟨0⟩, []⟩] }
  directory := [(42, .ok ⟨42, "bob", "bob@x"⟩)]

/-- A removal that the store refuses. -/
def refusedRemoval : Move where
  command := .remote (.remove 1)
  disturbance := { fault := some (.refuse .databaseQuery) }

/-- A notification that is asked for. -/
def look : Move where
  command := .service (.details 1)

/-- An event whose notification is never answered for. -/
def thrownEvent : Worker.Message where
  tag := 1
  content := Event.escapedEvent.text
  disturbance := { fault := some (.throw ⟨none⟩) }

theorem failures_change_nothing_inhabited :
    ((∀ answer, (refusedRemoval.run inhabited).1 ≠ .ok (.ok answer)) ∧
        (refusedRemoval.run inhabited).2.store = inhabited.store) ∧
      (look.command.Looks ∧ (look.run inhabited).2.store = inhabited.store) ∧
      (Worker.outcome inhabited thrownEvent).isSuccess = false ∧
        (Worker.handle ⟨"events", false, 0⟩ thrownEvent inhabited).store = inhabited.store := by
  have hrefused : ∀ answer, (refusedRemoval.run inhabited).1 ≠ .ok (.ok answer) := by
    intro answer h
    cases h
  have hthrown : (Worker.outcome inhabited thrownEvent).isSuccess = false := by decide +kernel
  obtain ⟨hremoval, -, hevent⟩ :=
    failures_change_nothing inhabited refusedRemoval ⟨"events", false, 0⟩ thrownEvent
  obtain ⟨-, hlook, -⟩ :=
    failures_change_nothing inhabited look ⟨"events", false, 0⟩ thrownEvent
  exact ⟨⟨hrefused, hremoval hrefused⟩, ⟨trivial, hlook trivial⟩, hthrown, hevent hthrown⟩

end NotificationFeed
