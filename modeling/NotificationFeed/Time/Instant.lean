/-!
# Instants

A moment is a whole number of nanoseconds since the start of 1970 in UTC.
Seconds and the part below a second are read off by rounding down, so the
part below a second is never negative, before 1970 too.
-/

namespace NotificationFeed

/-- The number of nanoseconds in a second. -/
def nanosPerSecond : Nat := 1000000000

/-- A moment in time, by its distance in nanoseconds from the start of 1970. -/
structure Instant where
  nanos : Int
  deriving DecidableEq, Repr, Inhabited

namespace Instant

instance : LE Instant := ⟨fun a b => a.nanos ≤ b.nanos⟩
instance : LT Instant := ⟨fun a b => a.nanos < b.nanos⟩

instance (a b : Instant) : Decidable (a ≤ b) := inferInstanceAs (Decidable (a.nanos ≤ b.nanos))
instance (a b : Instant) : Decidable (a < b) := inferInstanceAs (Decidable (a.nanos < b.nanos))

/-- The moment `seconds` and then `nanos` after the start of 1970. -/
def ofUnix (seconds nanos : Int) : Instant := ⟨seconds * nanosPerSecond + nanos⟩

/-- Whole seconds since the start of 1970, rounded down. -/
def unixSeconds (t : Instant) : Int := t.nanos / nanosPerSecond

/-- The nanoseconds past `unixSeconds`. -/
def subsecond (t : Instant) : Int := t.nanos % nanosPerSecond

end Instant

/-- A moment as a wall clock somewhere shows it: the local seconds since the start of 1970 on
that clock, the nanoseconds past them, and how many seconds the clock is ahead of UTC. -/
structure WallTime where
  localSeconds : Int
  nanos : Nat
  offset : Int
  nanos_lt : nanos < nanosPerSecond
  deriving DecidableEq, Repr

/-- The moment a wall clock shows does not depend on where the clock hangs. -/
def WallTime.instant (w : WallTime) : Instant :=
  Instant.ofUnix (w.localSeconds - w.offset) w.nanos

/-- A moment on the wire: whole seconds since the start of 1970 and the nanoseconds past them. -/
structure Timestamp where
  seconds : Int
  nanos : Int
  deriving DecidableEq, Repr, Inhabited

/-- The wire form of a moment. -/
def Instant.timestamp (t : Instant) : Timestamp := ⟨t.unixSeconds, t.subsecond⟩

end NotificationFeed
