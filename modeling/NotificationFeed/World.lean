import NotificationFeed.Service.Surroundings
import NotificationFeed.Store
import NotificationFeed.Metrics.Registry
/-!
# The world a service runs in

Notifications in memory, a directory of users, the registry of metrics, a
calendar clock, a stopwatch and the record of every call that was made. A
disturbance holds what the world does to the calls of one operation: it may
take its time over a request to the store, refuse it or never return from
it, and it may refuse a commit.

A refused request changes nothing: it is written down, the time passes, and
then it fails.
-/

namespace NotificationFeed

/-- The users the directory knows, and what it answers for each; the first entry counts. -/
abbrev Directory := List (Int × Except Failure User)

namespace Directory

/-- What the directory answers for a user. -/
def lookUp (directory : Directory) (id : Int) : Except Failure User :=
  ((directory.find? (·.1 == id)).map (·.2)).getD (.error .userNotFound)

/-- Changes what the directory answers for a user. -/
def set (directory : Directory) (id : Int) (answer : Except Failure User) : Directory :=
  (id, answer) :: directory

end Directory

/-- What can happen to a request to the store. -/
inductive Fault where
  | refuse (failure : StoreFailure)
  | throw (panic : Panic)
  deriving DecidableEq, Repr, Inhabited

/-- What the world does to the calls of one operation. -/
structure Disturbance where
  /-- How long each request to the store takes. -/
  delay : Span := 0
  fault : Option Fault := none
  /-- The text a commit fails with. -/
  commitFailure : Option String := none
  deriving DecidableEq, Repr, Inhabited

/-- Everything around the service. -/
structure World where
  store : Store := {}
  directory : Directory := []
  registry : Metrics.Registry := {}
  /-- What the calendar clock shows at each reading. -/
  clock : Nat → Instant := fun _ => ⟨0⟩
  readings : Nat := 0
  stopwatch : Span := 0
  disturbance : Disturbance := {}
  /-- The calls that were made, newest first. -/
  past : List Service.Call := []

namespace World

/-- The calls that were made, in order. -/
def trace (w : World) : List Service.Call := w.past.reverse

/-- Writes a call down. -/
def record (w : World) (call : Service.Call) : World := { w with past := call :: w.past }

@[simp] theorem trace_record (w : World) (call : Service.Call) :
    (w.record call).trace = w.trace ++ [call] := by
  simp [trace, record]

/-- Reads the calendar clock. -/
def readClock (w : World) : Instant × World :=
  (w.clock w.readings, { w with readings := w.readings + 1 })

/-- Lets time pass. -/
def elapse (w : World) (span : Span) : World := { w with stopwatch := w.stopwatch + span }

/-- Answers a request to the store. The clock is read only for a draft without a moment. -/
def perform (w : World) (request : Store.Request) : request.Reply × World :=
  match request with
  | .create { createdAt := none, userId, kind, payload } =>
    let (now, w) := w.readClock
    let (reply, store) :=
      Store.perform now (.create { createdAt := none, userId, kind, payload }) w.store
    (reply, { w with store })
  | request =>
    let (reply, store) := Store.perform ⟨0⟩ request w.store
    (reply, { w with store })

/-- Answers one call. -/
def answer : Program.Answerer Service.surroundings World := fun call w =>
  let w := w.record call
  match call with
  | .findUser id => (.ok (w.directory.lookUp id), w)
  | .readClock =>
    let (now, w) := w.readClock
    (.ok now, w)
  | .readStopwatch => (.ok w.stopwatch, w)
  | .store request =>
    let w := w.elapse w.disturbance.delay
    match w.disturbance.fault with
    | some (.refuse failure) => (.ok (.error failure), w)
    | some (.throw panic) => (.error panic, w)
    | none =>
      let (reply, w) := w.perform request
      (.ok reply, w)
  | .commit _ => (.ok (w.disturbance.commitFailure.elim (.ok ()) .error), w)
  | .observe observation => (.ok (), { w with registry := w.registry.observe observation })
  | .poll _ | .closeQueue | .note _ => (.ok (), w)

/-- The calls to collaborators, in order. -/
def calls (w : World) : List Service.Call := w.trace.filter (·.isCollaborator)

/-- The journal, in order. -/
def journal (w : World) : List Entry :=
  w.trace.filterMap fun
    | .note entry => some entry
    | _ => none

/-- Runs an operation in the world under a disturbance, which is over when the operation ends. -/
def run (w : World) (disturbance : Disturbance) (program : Service.Task α) :
    Except Panic α × World :=
  let (result, w') := program.run answer { w with disturbance }
  (result, { w' with disturbance := {} })

end World

end NotificationFeed
