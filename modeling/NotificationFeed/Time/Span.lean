/-!
# Spans of time

A span is a number of nanoseconds. Its text takes the largest unit that the
span fills at least once, and the part below the unit as a decimal fraction
without trailing zeros: `0ns`, `5ms`, `1.5s`.
-/

namespace NotificationFeed

/-- A length of time, in nanoseconds. -/
abbrev Span := Nat

namespace Span

/-- `ms` milliseconds. -/
def ofMillis (ms : Nat) : Span := ms * 1000000

/-- `s` seconds. -/
def ofSeconds (s : Nat) : Span := s * 1000000000

/-- The digits of `part` as a fraction of `10 ^ width`, without trailing zeros. -/
def fraction (width part : Nat) : String :=
  let digits := (toString part).toList
  let padded := List.replicate (width - digits.length) '0' ++ digits
  String.ofList (padded.reverse.dropWhile (· == '0')).reverse

/-- `n` counted in units of `10 ^ width`. -/
def inUnit (n width : Nat) (unit : String) : String :=
  let rest := fraction width (n % Nat.pow 10 width)
  let whole := toString (n / Nat.pow 10 width)
  if rest.isEmpty then whole ++ unit else whole ++ "." ++ rest ++ unit

/-- The text of a span. -/
def text (n : Span) : String :=
  if 1000000000 ≤ n then inUnit n 9 "s"
  else if 1000000 ≤ n then inUnit n 6 "ms"
  else if 1000 ≤ n then inUnit n 3 "µs"
  else toString n ++ "ns"

end Span

end NotificationFeed
