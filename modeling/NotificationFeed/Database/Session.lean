import NotificationFeed.Database.Keeper
/-!
# A session with a database whose replies are given

Each statement takes the next reply of a list; when none is left, it succeeds
and touches nothing. A session writes down all that was asked of it, and a
lost connection makes no difference to the replies after it.
-/

namespace NotificationFeed

namespace Database

/-- A database whose replies are given, and the record of what was asked. -/
structure Session where
  replies : List Reply := []
  /-- What the calendar clock shows at each reading. -/
  clock : Nat → Instant := fun _ => ⟨0⟩
  readings : Nat := 0
  /-- What the stopwatch shows at each call. -/
  stopwatch : Nat → Span := fun _ => 0
  /-- The calls that were made, newest first. -/
  past : List Call := []

namespace Session

/-- The calls that were made, in order. -/
def trace (s : Session) : List Call := s.past.reverse

/-- The statements that were sent, in order. -/
def statements (s : Session) : List Statement :=
  s.trace.filterMap fun
    | .execute statement => some statement
    | _ => none

/-- The observations that were reported, in order. -/
def observations (s : Session) : List Metrics.Observation :=
  s.trace.filterMap fun
    | .observe observation => some observation
    | _ => none

/-- Answers one call. -/
def answer : Program.Answerer surroundings Session := fun call s =>
  let s := { s with past := call :: s.past }
  match call with
  | .execute _ => (.ok (s.replies.head?.getD (.done 0)), { s with replies := s.replies.tail })
  | .readClock => (.ok (s.clock s.readings), { s with readings := s.readings + 1 })
  | .readStopwatch => (.ok (s.stopwatch s.past.length), s)
  | .observe _ | .note _ => (.ok (), s)

/-- Runs a step of the keeper on given replies. -/
def run (s : Session) (replies : List Reply) (task : Task α) : Except Panic α × Session :=
  task.run answer { s with replies, past := [] }

end Session

end Database

end NotificationFeed
