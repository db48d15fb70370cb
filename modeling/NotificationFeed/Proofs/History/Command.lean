import NotificationFeed.Proofs.Event.Outcome
import NotificationFeed.Proofs.Rpc.Outcome
/-!
# Commands — the four doors of the service

A notification is reached through the keeper itself, through the seven
operations, through a remote request and through an event. A command is one
use of one door. What it did to the store can be read off its answer
(`Command.deed`), and that reading is right whatever hit the command on its
way (`Command.makes`).
-/

namespace NotificationFeed

/-! ## The operations as data -/

namespace Service

/-- One use of one of the seven operations. -/
inductive Request where
  | save (draft : Draft)
  | details (id : Int)
  | feed (userId : Int) (limit page : Int32)
  | read (id : Int)
  | readAll (userId : Int)
  | remove (id : Int)
  | unread (userId : Int)
  deriving DecidableEq, Repr

namespace Request

/-- What an operation gives. -/
abbrev Answer : Request → Type
  | save _ => Int
  | details _ => Notification
  | feed .. => Feed
  | read _ | readAll _ | remove _ => Unit
  | unread _ => Int

/-- The operation that is used. -/
def serve : (r : Request) → Operation r.Answer
  | save draft => Service.save draft
  | details id => Service.details id
  | feed userId limit page => Service.feed userId limit page
  | read id => Service.read id
  | readAll userId => Service.readAll userId
  | remove id => Service.remove id
  | unread userId => Service.unread userId

/-- What an operation did, by what it gave. -/
def deed : (r : Request) → r.Answer → Store.Deed
  | save _, id => .created id
  | details _, n => .showed [n.id]
  | feed .., part => .showed (part.notifications.map (·.id))
  | read _, _ | readAll _, _ => .marked
  | remove id, _ => .removed id
  | unread _, _ => .nothing

/-- The identifier an operation is about, if it is about one notification. -/
def subject? : Request → Option Int
  | details id | read id | remove id => some id
  | save _ | feed .. | readAll _ | unread _ => none

/-- **An operation does to the store what its answer says.** -/
theorem serve_makes (r : Request) (w : World) :
    ∃ o v, World.Yields r.serve.run w o v ∧ (World.deedOf r.deed o).Makes w.store v.store := by
  cases r with
  | save draft => exact save_makes draft w
  | details id =>
    rw [serve, details_eq_inquiry]
    refine inquiry_makes ?_ w
    exact fun _ => rfl
  | feed userId limit page =>
    rw [serve, feed_eq_inquiry]
    refine inquiry_makes ?_ w
    exact fun _ => rfl
  | read id =>
    rw [serve, read_eq_inquiry]
    refine inquiry_makes ?_ w
    exact fun _ => rfl
  | readAll userId =>
    rw [serve, readAll_eq_inquiry]
    refine inquiry_makes ?_ w
    exact fun _ => rfl
  | remove id =>
    rw [serve, remove_eq_inquiry]
    refine inquiry_makes ?_ w
    exact fun _ => rfl
  | unread userId =>
    rw [serve, unread_eq_inquiry]
    refine inquiry_makes ?_ w
    exact fun _ => rfl

/-- **An operation about a notification that is not there is told so**, unless
a fault hits it. -/
theorem serve_absent {r : Request} {id : Int} {w : World} (hsubject : r.subject? = some id)
    (hpositive : 0 < id) (habs : ∀ n ∈ w.store.rows, n.id ≠ id)
    (hfault : w.disturbance.fault = none) :
    ∃ v, World.Yields r.serve.run w (.ok (.error .notificationNotFound)) v := by
  cases r with
  | details i =>
    obtain rfl : i = id := Option.some.inj hsubject
    rw [serve, details_eq_inquiry]
    exact inquiry_absent rfl hpositive habs hfault
  | read i =>
    obtain rfl : i = id := Option.some.inj hsubject
    rw [serve, read_eq_inquiry]
    exact inquiry_absent rfl hpositive habs hfault
  | remove i =>
    obtain rfl : i = id := Option.some.inj hsubject
    rw [serve, remove_eq_inquiry]
    exact inquiry_absent rfl hpositive habs hfault
  | _ => cases hsubject

end Request

end Service

/-! ## Remote requests as operations -/

namespace Rpc

namespace Request

/-- The operation a remote request stands for. -/
def operation : Request → Service.Request
  | send userId kind payload => .save { userId, kind, createdAt := none, payload }
  | details id => .details id
  | feed userId limit page => .feed userId limit page
  | read id => .read id
  | readAll userId => .readAll userId
  | remove id => .remove id
  | unread userId => .unread userId

/-- What its response shows of the operation's answer. -/
def view : (r : Request) → r.operation.Answer → r.method.Response
  | send .., id => id
  | details _, n => .ofNotification n
  | feed .., part => .ofFeed part
  | read _, _ | readAll _, _ | remove _, _ => ()
  | unread _, count => count

/-- What a remote request did, by its response. -/
def deed : (r : Request) → r.method.Response → Store.Deed
  | send .., id => .created id
  | details _, n => .showed [n.id]
  | feed .., part => .showed (part.notifications.map (·.id))
  | read _, _ | readAll _, _ => .marked
  | remove id, _ => .removed id
  | unread _, _ => .nothing

theorem serve_eq_view (r : Request) : r.serve = r.view <$> r.operation.serve := by
  cases r with
  | details id => rfl
  | feed userId limit page => rfl
  | _ => exact (id_map _).symm

theorem deed_view (r : Request) (a : r.operation.Answer) : r.deed (r.view a) = r.operation.deed a := by
  cases r with
  | feed userId limit page =>
    simp only [deed, view, FeedView.ofFeed, List.map_map]
    rfl
  | _ => rfl

/-- A request about a notification with a positive identifier is of the right shape. -/
theorem check_of_subject {r : Request} {id : Int} (hsubject : r.operation.subject? = some id)
    (hpositive : 0 < id) : r.check = .ok () := by
  cases r with
  | details i | read i | remove i =>
    obtain rfl : i = id := Option.some.inj hsubject
    simp only [check, checkNotificationId, if_pos hpositive]
  | _ => cases hsubject

/-- **Handling a remote request of the right shape** shows as a response or a
status what its operation comes to. -/
theorem yields_handle {r : Request} (hcheck : r.check = .ok ()) {w v : World}
    {o : Except Panic (Except Failure r.operation.Answer)}
    (hserve : World.Yields r.operation.serve.run w o v) :
    World.Yields (handle r) w
      (o.map fun answer => (answer.map r.view).mapError Failure.status) v := by
  have hview : World.Yields r.serve.run w (o.map (·.map r.view)) v := by
    rw [serve_eq_view]
    exact hserve.map r.view
  have hobserved := yields_observed r.method (yields_perform hcheck hview)
  have hmap : (o.map (·.map r.view)).map (·.mapError Failure.status) =
      o.map fun answer => (answer.map r.view).mapError Failure.status := by
    cases o <;> rfl
  rwa [hmap] at hobserved

/-- **A remote request does to the store what its response says.** -/
theorem handle_makes (r : Request) (w : World) :
    ∃ o v, World.Yields (handle r) w o v ∧ (World.deedOf r.deed o).Makes w.store v.store := by
  cases hcheck : r.check with
  | error failure =>
    exact ⟨_, w, yields_observed r.method (yields_perform_refused hcheck w), rfl⟩
  | ok _ =>
    obtain ⟨o, v, hserve, hmakes⟩ := r.operation.serve_makes w
    refine ⟨_, v, yields_handle hcheck hserve, ?_⟩
    rw [World.deedOf_map r.operation.deed]
    · exact hmakes
    · exact fun a => ⟨r.view a, rfl, deed_view r a⟩
    · exact fun e => ⟨e.status, rfl⟩

end Request

end Rpc

/-! ## One command, through any door -/

/-- One use of one door. -/
inductive Command where
  | keeper (request : Store.Request)
  | service (request : Service.Request)
  | remote (request : Rpc.Request)
  | event (content : Bytes)
  deriving DecidableEq, Repr

namespace Command

/-- How a door says no. -/
abbrev Refusal : Command → Type
  | keeper _ => StoreFailure
  | service _ | event _ => Failure
  | remote _ => Status

/-- What a door gives. -/
abbrev Answer : Command → Type
  | keeper r => r.Answer
  | service r => r.Answer
  | remote r => r.method.Response
  | event _ => Int

/-- What is done behind the door. -/
def task : (c : Command) → Service.Task (Except c.Refusal c.Answer)
  | keeper r => .call (I := Service.surroundings) (.store r)
  | service r => r.serve.run
  | remote r => Rpc.handle r
  | event content => (Event.process content).run

/-- What a command did, by what it was given. -/
def deed : (c : Command) → c.Answer → Store.Deed
  | keeper r => r.deed
  | service r => r.deed
  | remote r => r.deed
  | event _ => .created

/-- The identifier a command is about, if it is about one notification. -/
def subject? : Command → Option Int
  | keeper r => r.subject?
  | service r => r.subject?
  | remote r => r.operation.subject?
  | event _ => none

/-- How a door says that there is no such notification. -/
def notFound : (c : Command) → c.Refusal
  | keeper _ => .notificationNotFound
  | service _ | event _ => .notificationNotFound
  | remote _ => Failure.notificationNotFound.status

/-- **A command does to the store what its answer says**, through any door and
whatever hits it. -/
theorem makes (c : Command) (w : World) :
    ∃ o v, World.Yields c.task w o v ∧ (World.deedOf c.deed o).Makes w.store v.store := by
  cases c with
  | keeper r => exact ⟨_, _, .call _ w, World.answer_store_makes r w⟩
  | service r => exact r.serve_makes w
  | remote r => exact r.handle_makes w
  | event content => exact Event.process_makes content w

/-- **A command about a notification that is not there is told so**, through
any door, unless a fault hits it. -/
theorem absent {c : Command} {id : Int} {w : World} (hsubject : c.subject? = some id)
    (hpositive : 0 < id) (habs : ∀ n ∈ w.store.rows, n.id ≠ id)
    (hfault : w.disturbance.fault = none) :
    ∃ v, World.Yields c.task w (.ok (.error c.notFound)) v := by
  cases c with
  | keeper r =>
    obtain ⟨now, hreply, -⟩ := World.answer_store_clear r hfault
    have hcall := World.Yields.call (.store r) w
    rw [hreply, Store.perform_absent hsubject habs now] at hcall
    exact ⟨_, hcall⟩
  | service r => exact Service.Request.serve_absent hsubject hpositive habs hfault
  | remote r =>
    obtain ⟨v, hserve⟩ := Service.Request.serve_absent hsubject hpositive habs hfault
    exact ⟨v, Rpc.Request.yields_handle (Rpc.Request.check_of_subject hsubject hpositive) hserve⟩
  | event content => cases hsubject

end Command

end NotificationFeed
