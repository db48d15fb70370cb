import NotificationFeed.Metrics.Fingerprint
import NotificationFeed.Metrics.Observation
/-!
# The registry

What was observed, added up: a count for each counter series, a histogram
for each series of times, and the health last set. A series is found by its
family and by the fingerprint of its label values. It shows the values it was
first seen with, also when others with the same fingerprint are added to it.
-/

namespace NotificationFeed

namespace Metrics

/-- The families of counters. -/
inductive CounterFamily where
  | requests | queries | operations | messages
  deriving DecidableEq, Repr, Inhabited

/-- The families of histograms. -/
inductive HistogramFamily where
  | requestTimes | queryTimes | messageTimes
  deriving DecidableEq, Repr, Inhabited

/-- The upper ends of the buckets of a histogram, with their texts in seconds. -/
def buckets : List (Span × String) :=
  [(5000000, "0.005"), (10000000, "0.01"), (25000000, "0.025"), (50000000, "0.05"),
    (100000000, "0.1"), (250000000, "0.25"), (500000000, "0.5"), (1000000000, "1"),
    (2500000000, "2.5"), (5000000000, "5"), (10000000000, "10")]

/-- A span in seconds, as a binary number. -/
def seconds (elapsed : Span) : Float :=
  Float.ofNat (elapsed / 1000000000) + Float.ofNat (elapsed % 1000000000) / 1000000000.0

/-- Times that were observed under the same labels. -/
structure Histogram where
  /-- How many fell into each bucket and into none before it. -/
  fallen : List Nat
  count : Nat
  sum : Float
  deriving Repr, Inhabited

namespace Histogram

/-- The histogram of no times. -/
def empty : Histogram := ⟨buckets.map fun _ => 0, 0, 0.0⟩

/-- Counts a time in the first bucket that reaches it. -/
def drop (elapsed : Span) : List (Span × String) → List Nat → List Nat
  | (bound, _) :: bounds, n :: ns =>
    if elapsed ≤ bound then (n + 1) :: ns else n :: drop elapsed bounds ns
  | _, ns => ns

/-- Adds a time. -/
def observe (h : Histogram) (elapsed : Span) : Histogram where
  fallen := drop elapsed buckets h.fallen
  count := h.count + 1
  sum := h.sum + seconds elapsed

/-- Sums of a list of numbers up to each of them, from a number on. -/
def sums : Nat → List Nat → List Nat
  | _, [] => []
  | n, x :: xs => (n + x) :: sums (n + x) xs

/-- How many fell into each bucket or into one before it. -/
def cumulative (h : Histogram) : List Nat := sums 0 h.fallen

end Histogram

/-- A table with one entry for each key, in the order the keys were first used. -/
abbrev Table (κ α : Type) := List (κ × α)

/-- Changes the entry of a key; a key that has none starts from `fresh`. -/
def Table.update [DecidableEq κ] (key : κ) (fresh : α) (f : α → α) : Table κ α → Table κ α
  | [] => [(key, f fresh)]
  | (k, a) :: t => if k = key then (k, f a) :: t else (k, a) :: update key fresh f t

/-- What was added up in one series. -/
structure Series (α : Type) where
  /-- The values of its labels when it was first seen, in the order its family declares them. -/
  labels : List String
  value : α
  deriving Repr, Inhabited

/-- Changes what was added up. -/
def Series.map (f : α → α) (s : Series α) : Series α := { s with value := f s.value }

/-- Everything that was observed. -/
structure Registry where
  counters : Table (CounterFamily × Fingerprint) (Series Nat) := []
  histograms : Table (HistogramFamily × Fingerprint) (Series Histogram) := []
  healthy : Bool := false
  deriving Inhabited

/-- The label of a flag of success. -/
def statusLabel (success : Bool) : String := if success then "success" else "error"

namespace Registry

/-- Adds one to a counter. -/
def increment (r : Registry) (family : CounterFamily) (labels : List String) : Registry :=
  let key := (family, Fingerprint.ofValues labels)
  { r with counters := r.counters.update key ⟨labels, 0⟩ (Series.map (· + 1)) }

/-- Adds a time to a histogram. -/
def time (r : Registry) (family : HistogramFamily) (labels : List String) (elapsed : Span) :
    Registry :=
  let key := (family, Fingerprint.ofValues labels)
  { r with histograms := r.histograms.update key ⟨labels, .empty⟩ (Series.map (·.observe elapsed)) }

/-- Takes in one observation. -/
def observe (r : Registry) : Observation → Registry
  | .requestCounted method code => r.increment .requests [method, code]
  | .requestTimed method code elapsed => r.time .requestTimes [method, code] elapsed
  | .queryCounted query success => r.increment .queries [query, statusLabel success]
  | .queryTimed query elapsed => r.time .queryTimes [query] elapsed
  | .operationCounted operation success => r.increment .operations [operation, statusLabel success]
  | .messageCounted topic operation success =>
    r.increment .messages [topic, operation, statusLabel success]
  | .messageTimed topic operation elapsed => r.time .messageTimes [topic, operation] elapsed
  | .healthSet healthy => { r with healthy }

end Registry

/-- The place where metrics are registered: empty, or taken by one registry. -/
abbrev Slot := Option Registry

/-- Why metrics could not be registered. -/
inductive RegistrationFailure where
  | duplicate
  deriving DecidableEq, Repr, Inhabited

/-- The text of a failed registration. -/
def RegistrationFailure.message : RegistrationFailure → String
  | duplicate => "Duplicate metrics collector registration attempted"

/-- Registers a fresh set of metrics. The families have one owner, so a second set is refused and
the first one stays. -/
def Slot.register : Slot → Except RegistrationFailure Unit × Slot
  | none => (.ok (), some {})
  | some r => (.error .duplicate, some r)

end Metrics

end NotificationFeed
