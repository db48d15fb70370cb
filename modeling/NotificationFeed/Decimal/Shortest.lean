/-!
# The shortest decimal of a binary number

A binary number `m · 2 ^ q` is the nearest one to every real of an interval,
with the ends when `m` is even. Of the decimals in that interval the one
with the fewest digits is chosen, and of two with as few the nearer one; a
half is rounded up. All arithmetic is on natural numbers, so nothing is
rounded on the way.
-/

namespace NotificationFeed

namespace Decimal

/-- A fraction of natural numbers with a denominator that is not zero. -/
structure Ratio where
  num : Nat
  den : Nat
  deriving DecidableEq, Repr, Inhabited

namespace Ratio

/-- `n · 2 ^ q`. -/
def ofBinary (n : Nat) (q : Int) : Ratio :=
  if 0 ≤ q then ⟨n * Nat.pow 2 q.toNat, 1⟩ else ⟨n, Nat.pow 2 (-q).toNat⟩

/-- `n · 10 ^ e`. -/
def ofDecimal (n : Nat) (e : Int) : Ratio :=
  if 0 ≤ e then ⟨n * Nat.pow 10 e.toNat, 1⟩ else ⟨n, Nat.pow 10 (-e).toNat⟩

/-- Whether a fraction is at most another. -/
def le (a b : Ratio) : Bool := a.num * b.den ≤ b.num * a.den

/-- Whether a fraction is less than another. -/
def lt (a b : Ratio) : Bool := a.num * b.den < b.num * a.den

/-- How far two fractions are apart. -/
def distance (a b : Ratio) : Ratio :=
  let x := a.num * b.den
  let y := b.num * a.den
  ⟨(x - y) + (y - x), a.den * b.den⟩

/-- The whole part of a fraction. -/
def floor (a : Ratio) : Nat := a.num / a.den

end Ratio

/-- The reals that a binary number stands for. -/
structure Interval where
  low : Ratio
  high : Ratio
  closed : Bool

/-- Whether a fraction is in an interval. -/
def Interval.contains (i : Interval) (a : Ratio) : Bool :=
  if i.closed then i.low.le a && a.le i.high else i.low.lt a && a.lt i.high

/-- The reals nearer to `m · 2 ^ q` than to its neighbours. The neighbour below a power of two is
only half as far away, unless `m · 2 ^ q` is among the smallest numbers. -/
def Interval.around (m : Nat) (q : Int) (isPower : Bool) : Interval where
  low := .ofBinary (if isPower then 4 * m - 1 else 4 * m - 2) (q - 2)
  high := .ofBinary (4 * m + 2) (q - 2)
  closed := m % 2 == 0

/-- The exponent of ten of the first digit of a positive fraction: how often it can be divided
by ten, or, if it is below one, minus how often it must be multiplied by ten. -/
def leadingExponent (a : Ratio) : Int :=
  if a.den ≤ a.num then (Nat.toDigits 10 a.floor).length - 1
  else
    let digits := (Nat.toDigits 10 (a.den / a.num)).length
    -- the reciprocal has `digits` digits before its point
    if a.num * Nat.pow 10 (digits - 1) ≥ a.den then -((digits : Int) - 1) else -(digits : Int)

/-- The decimal after `n · 10 ^ e` among those of at most `count` digits. After a row of nines it
is a power of ten, which has one digit. -/
def next (n : Nat) (e : Int) (count : Nat) : Nat × Int :=
  if n + 1 = Nat.pow 10 count then (1, e + count) else (n + 1, e)

/-- The decimal of at most `count` digits that is nearest to `a` and in the interval, as its
digits and the exponent of ten of the last one. Of two that are as near it is the larger. -/
def ofDigitCount? (a : Ratio) (i : Interval) (count : Nat) : Option (Nat × Int) :=
  let e := leadingExponent a - (count : Int) + 1
  let below : Nat :=
    if 0 ≤ e then a.num / (a.den * Nat.pow 10 e.toNat)
    else a.num * Nat.pow 10 (-e).toNat / a.den
  let x := Ratio.ofDecimal below e
  let y := Ratio.ofDecimal (below + 1) e
  match i.contains x, i.contains y with
  | true, true =>
    if (x.distance a).lt (y.distance a) then some (below, e) else some (next below e count)
  | true, false => some (below, e)
  | false, true => some (next below e count)
  | false, false => none

/-- The shortest decimal of `m · 2 ^ q`, as its digits and the exponent of ten of the last one.
Seventeen digits always suffice. -/
def shortest (m : Nat) (q : Int) (isPower : Bool) : Nat × Int :=
  let a := Ratio.ofBinary m q
  let i := Interval.around m q isPower
  ((List.range 17).findSome? fun n => ofDigitCount? a i (n + 1)).getD (0, 0)

/-- `digits · 10 ^ e` with all its places written out. -/
def positional (digits : Nat) (e : Int) : String :=
  let ds := Nat.toDigits 10 digits
  if 0 ≤ e then String.ofList (ds ++ List.replicate e.toNat '0')
  else
    let places := (-e).toNat
    let padded := List.replicate (places + 1 - ds.length) '0' ++ ds
    let whole := padded.take (padded.length - places)
    String.ofList (whole ++ '.' :: padded.drop (padded.length - places))

/-- The text of a float: its shortest decimal, written without an exponent. -/
def ofFloat (x : Float) : String :=
  let bits := x.toBits.toNat
  let sign := if bits / Nat.pow 2 63 = 1 then "-" else ""
  let exponent : Nat := bits / Nat.pow 2 52 % Nat.pow 2 11
  let fraction : Nat := bits % Nat.pow 2 52
  if exponent = 2047 then
    if fraction = 0 then sign ++ "inf" else "NaN"
  else if exponent = 0 ∧ fraction = 0 then sign ++ "0"
  else
    let m := if exponent = 0 then fraction else Nat.pow 2 52 + fraction
    let q : Int := ((if exponent = 0 then 1 else exponent : Nat) : Int) - 1075
    let (digits, e) := shortest m q (fraction == 0 && 1 < exponent)
    sign ++ positional digits e

end Decimal

end NotificationFeed
