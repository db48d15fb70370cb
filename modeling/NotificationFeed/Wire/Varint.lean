import NotificationFeed.Notification
/-!
# Numbers in groups of seven bits

A 64-bit number is written in groups of seven bits, the lowest group first;
all bytes but the last have their top bit set. A reader takes at most ten
bytes, of which the tenth can only be zero or one, and takes longer forms
than needed.
-/

namespace NotificationFeed

namespace Wire

/-- The groups of a number; `fuel` bounds their count. -/
def putGroups : Nat → Nat → Bytes
  | 0, _ => []
  | fuel + 1, n =>
    if n < 128 then [UInt8.ofNat n] else UInt8.ofNat (n % 128 + 128) :: putGroups fuel (n / 128)

/-- Writes a 64-bit number. -/
def putVarint (n : UInt64) : Bytes := putGroups 10 n.toNat

/-- Reads groups worth `2 ^ (7 * index)` and more; `left` groups may follow. -/
def takeGroups : Nat → Nat → Bytes → Option (Nat × Bytes)
  | 0, _, _ => none
  | _ + 1, _, [] => none
  | left + 1, scale, b :: rest =>
    if b < 128 then
      if left = 0 ∧ 1 < b then none else some (b.toNat * scale, rest)
    else
      (takeGroups left (scale * 128) rest).map fun (n, rest) => ((b.toNat - 128) * scale + n, rest)

/-- Reads a 64-bit number. -/
def takeVarint (s : Bytes) : Option (UInt64 × Bytes) :=
  (takeGroups 10 1 s).map fun (n, rest) => (UInt64.ofNat n, rest)

/-! ## Integers as 64-bit numbers -/

/-- An integer by its 64-bit two's complement. -/
def ofInt (n : Int) : UInt64 := UInt64.ofNat (n % UInt64.size).toNat

/-- The integer with a 64-bit two's complement. -/
def toInt (n : UInt64) : Int := n.toInt64.toInt

/-- The integer with the two's complement in the low 32 bits. -/
def toInt32 (n : UInt64) : Int32 := n.toUInt32.toInt32

end Wire

end NotificationFeed
