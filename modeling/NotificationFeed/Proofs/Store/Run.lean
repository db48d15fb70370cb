import NotificationFeed.Proofs.Program.Exchanges
import NotificationFeed.Proofs.Store.Numbering
/-!
# Stores — runs of requests

Requests to one keeper are answered one after another. A run of them is seen
in three ways: by the store it leaves (`after`), by the store that each step
met (`course`), and by what was asked and what was answered (`exchanges`).
-/

namespace NotificationFeed

namespace Store

/-- A request whose answer is the same at all times. -/
def Request.Timeless : Request → Prop
  | create draft => draft.createdAt.isSome
  | _ => True

theorem perform_timeless {request : Request} (h : request.Timeless) (now now' : Instant)
    (s : Store) : perform now request s = perform now' request s := by
  cases request with
  | create draft =>
    obtain ⟨t, ht⟩ := Option.isSome_iff_exists.1 h
    simp only [perform, create, ht, Option.getD_some]
  | _ => rfl

/-- Marking nothing changes nothing. -/
theorem markWhere_of_none {s : Store} {which : Notification → Bool}
    (h : ∀ n ∈ s.rows, which n = false) : s.markWhere which = s := by
  have hrows : s.rows.map (fun n => if which n then { n with isRead := true } else n) = s.rows :=
    List.map_congr_left (fun n hn => by rw [h n hn]; rfl) |>.trans (List.map_id _)
  rw [markWhere, hrows]

/-- Dropping what is not there changes nothing. -/
theorem erase_of_absent {s : Store} {id : Int} (h : ∀ n ∈ s.rows, n.id ≠ id) : s.erase id = s := by
  have hrows : s.rows.filter (·.id != id) = s.rows :=
    List.filter_eq_self.2 fun n hn => by simpa using h n hn
  rw [erase, hrows]

/-- A request and the moment at which it is answered. -/
structure Step where
  now : Instant
  request : Request
  deriving DecidableEq, Repr

/-- A request and what it was answered. -/
abbrev Exchange := NotificationFeed.Exchange ⟨Request, Request.Reply⟩

namespace Step

/-- What a step is answered by a store. -/
def reply (x : Step) (s : Store) : x.request.Reply := (perform x.now x.request s).1

/-- The store that a step leaves. -/
def next (x : Step) (s : Store) : Store := (perform x.now x.request s).2

/-! Marking and dropping may be refused. What they leave can be said without asking whether they
were: what is not there is not marked and not dropped. -/

theorem next_markRead (now : Instant) (id : Int) (s : Store) :
    next ⟨now, .markRead id⟩ s = s.markWhere (·.id == id) := by
  rw [next, perform]
  cases hfind : s.find? id with
  | none => exact (markWhere_of_none (by simpa [find?] using hfind)).symm
  | some n => rfl

theorem next_delete (now : Instant) (id : Int) (s : Store) :
    next ⟨now, .delete id⟩ s = s.erase id := by
  rw [next, perform]
  cases hfind : s.find? id with
  | none => exact (erase_of_absent (by simpa [find?] using hfind)).symm
  | some n => rfl

theorem next_find (now : Instant) (id : Int) (s : Store) : next ⟨now, .find id⟩ s = s := by
  rw [next, perform]
  cases s.find? id <;> rfl

/-! A request about one notification is refused if it is not there, and for no other reason. -/

theorem reply_markRead (now : Instant) (id : Int) (s : Store) : reply ⟨now, .markRead id⟩ s =
    (s.find? id).elim (.error .notificationNotFound) fun _ => .ok () := by
  rw [reply, perform]
  cases s.find? id <;> rfl

theorem reply_delete (now : Instant) (id : Int) (s : Store) : reply ⟨now, .delete id⟩ s =
    (s.find? id).elim (.error .notificationNotFound) fun _ => .ok () := by
  rw [reply, perform]
  cases s.find? id <;> rfl

theorem reply_find (now : Instant) (id : Int) (s : Store) : reply ⟨now, .find id⟩ s =
    (s.find? id).elim (.error .notificationNotFound) .ok := by
  rw [reply, perform]
  cases s.find? id <;> rfl

theorem next_wellNumbered {s : Store} (h : s.WellNumbered) (x : Step) :
    (x.next s).WellNumbered :=
  (perform_makes x.now x.request s).wellNumbered h

end Step

/-- The store that a run leaves. -/
def after (s : Store) (steps : List Step) : Store := steps.foldl (fun s x => x.next s) s

/-- The steps of a run, each with the store it met. -/
def course (s : Store) : List Step → List (Store × Step)
  | [] => []
  | x :: later => (s, x) :: (x.next s).course later

/-- What was asked in a run, and what was answered. -/
def exchanges (s : Store) (steps : List Step) : List Exchange :=
  (s.course steps).map fun met => ⟨met.2.request, met.2.reply met.1⟩

section

variable {s : Store} {x : Step} {steps : List Step}

@[simp] theorem after_cons : s.after (x :: steps) = (x.next s).after steps := rfl

@[simp] theorem exchanges_cons :
    s.exchanges (x :: steps) = ⟨x.request, x.reply s⟩ :: (x.next s).exchanges steps := rfl

end

end Store

end NotificationFeed
