import NotificationFeed.Time.Instant
/-!
# Moments in the database

The database counts whole microseconds since the start of 2000 in UTC, and
what goes in or out of it is a moment of the calendar of the service, which
goes from the year -9999 to the year 9999. On the way in a moment between two
microseconds is cut toward the start of 2000; what comes out is exact.
-/

namespace NotificationFeed

namespace Database

/-- The start of 2000, in seconds since the start of 1970. -/
def epochSeconds : Int := 946684800

/-- The number of nanoseconds in a microsecond. -/
def nanosPerMicro : Int := 1000

/-- Microseconds since the start of 2000, within the years from -9999 to 9999. -/
structure Micros where
  value : Int
  notBefore : -378651801600000000 ≤ value
  notAfter : value ≤ 252455615999999999
  deriving DecidableEq, Repr

namespace Micros

@[ext]
theorem ext {m m' : Micros} (h : m.value = m'.value) : m = m' := by
  obtain ⟨value, _, _⟩ := m
  obtain rfl : value = m'.value := h
  rfl

/-- The number of microseconds that is nearest to a number, within the calendar. -/
def nearest (n : Int) : Micros where
  value := max (-378651801600000000) (min n 252455615999999999)
  notBefore := by omega
  notAfter := by omega

/-- A number of microseconds within the calendar is nearest to itself. -/
@[simp] theorem nearest_value (m : Micros) : nearest m.value = m := by
  obtain ⟨value, notBefore, notAfter⟩ := m
  ext
  show max _ (min value _) = value
  omega

instance : Inhabited Micros := ⟨nearest 0⟩

end Micros

/-- A moment in whole microseconds since the start of 2000, cut toward it. -/
def toMicros (t : Instant) : Micros :=
  .nearest ((t.nanos - epochSeconds * nanosPerSecond).tdiv nanosPerMicro)

/-- The moment so many microseconds after the start of 2000. -/
def ofMicros (micros : Micros) : Instant :=
  ⟨epochSeconds * nanosPerSecond + micros.value * nanosPerMicro⟩

/-- The database gives back what it was given. -/
theorem toMicros_ofMicros (micros : Micros) : toMicros (ofMicros micros) = micros := by
  have hdifference : (epochSeconds * nanosPerSecond + micros.value * nanosPerMicro) -
      epochSeconds * nanosPerSecond = micros.value * nanosPerMicro := by
    omega
  have hmicros : (micros.value * nanosPerMicro).tdiv nanosPerMicro = micros.value :=
    Int.mul_tdiv_cancel _ (by decide)
  rw [toMicros, ofMicros, hdifference, hmicros, Micros.nearest_value]

end Database

end NotificationFeed
