import NotificationFeed.Program
import NotificationFeed.Journal
import NotificationFeed.Time.Timer
/-!
# Trying again

An action that fails is started again after a sleep, until it succeeds. The
attempts are numbered from one by a counter of 32 bits, and each is written
into the journal when it starts and when it fails. `retry` sees the attempts of
one action as a list of failures followed by a success. The sleep is that of a
timer, which also counts the moments.
-/

namespace NotificationFeed

namespace Retry

/-- What retrying does, and at which moment. -/
inductive Event where
  | noted (entry : Entry)
  /-- The attempt with this index, counted from zero, starts. -/
  | started (at_ : Span) (index : Nat)
  | ended (at_ : Span) (index : Nat)
  deriving DecidableEq, Repr, Inhabited

/-- The number of the attempt with an index. Behind the last number the counter is at zero again. -/
def number (index : Nat) : UInt32 := UInt32.ofNat (index + 1)

/-- The entry for the start of an attempt. -/
def startEntry (action : String) (number : UInt32) : Entry :=
  .info "attempt started" [("attempt", toString number.toNat), ("action", action)]

/-- The entry for a failed attempt. -/
def failureEntry (action : String) (number : UInt32) (error : String) : Entry :=
  .warn "attempt failed" [("attempt", toString number.toNat), ("action", action), ("err", error)]

/-- How retrying went: the result, the moment it was there, and everything that happened. -/
structure Outcome (α : Type) where
  result : α
  finished : Span
  events : List Event
  deriving Repr

/-- The events of an attempt that starts at `now`. -/
def attempt (action : String) (duration now : Span) (index : Nat) : List Event :=
  [.noted (startEntry action (number index)), .started now index, .ended (now + duration) index]

/-- Tries an action that fails with each of `failures` in turn and then gives the result of the
attempt with that index. Every attempt takes `duration`, and after a failure there is a sleep for
`interval`. -/
def run (timer : Timer) (action : String) (interval duration : Span) (result : Nat → α) :
    Span → Nat → List String → Outcome α
  | now, index, [] => ⟨result index, now + duration, attempt action duration now index⟩
  | now, index, error :: failures =>
    let awake := timer.wake (now + duration) interval
    let rest := run timer action interval duration result awake (index + 1) failures
    { rest with
      events := attempt action duration now index ++
        .noted (failureEntry action (number index) error) :: rest.events }

end Retry

/-- Tries an action, from the moment `called` on and until it succeeds. -/
def retry (timer : Timer) (action : String) (interval duration : Span) (failures : List String)
    (result : Nat → α) (called : Span) : Retry.Outcome α :=
  Retry.run timer action interval duration result called 0 failures

/-- When each attempt started, in order. -/
def Retry.Outcome.starts (o : Retry.Outcome α) : List Span :=
  o.events.filterMap fun
    | .started at_ _ => some at_
    | _ => none

/-- The journal, in order. -/
def Retry.Outcome.journal (o : Retry.Outcome α) : List Entry :=
  o.events.filterMap fun
    | .noted entry => some entry
    | _ => none

end NotificationFeed
