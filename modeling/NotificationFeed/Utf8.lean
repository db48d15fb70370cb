import NotificationFeed.Notification
/-!
# Where bytes are no text

Bytes that are no text in UTF-8 begin with a text all the same, maybe an empty
one. Behind it a character begins that does not go on as it should, or that is
not all there. `Utf8.fault?` finds the place, reading byte by byte.
-/

namespace NotificationFeed

namespace Utf8

/-- Why bytes are no text. -/
structure Fault where
  /-- How many bytes at the beginning are one. -/
  valid : Nat
  /-- How many bytes behind those are out of place; none if the bytes end within a character. -/
  wrong : Option Nat
  deriving DecidableEq, Repr, Inhabited

/-- The text of a fault. -/
def Fault.message (fault : Fault) : String :=
  match fault.wrong with
  | some wrong =>
    "invalid utf-8 sequence of " ++ toString wrong ++ " bytes from index " ++ toString fault.valid
  | none => "incomplete utf-8 byte sequence from index " ++ toString fault.valid

/-- A character on its way: how many of its bytes were read, how many are still owed, and the least
and the greatest that the next one may be. -/
structure Pending where
  taken : Nat
  owed : Nat
  least : UInt8 := 0x80
  greatest : UInt8 := 0xBF

/-- The character that a byte begins; none if no character begins with it. -/
def begin? (byte : UInt8) : Option Pending :=
  if byte ≤ 0x7F then some { taken := 1, owed := 0 }
  else if byte < 0xC2 then none
  else if byte ≤ 0xDF then some { taken := 1, owed := 1 }
  else if byte = 0xE0 then some { taken := 1, owed := 2, least := 0xA0 }
  else if byte = 0xED then some { taken := 1, owed := 2, greatest := 0x9F }
  else if byte ≤ 0xEF then some { taken := 1, owed := 2 }
  else if byte = 0xF0 then some { taken := 1, owed := 3, least := 0x90 }
  else if byte ≤ 0xF3 then some { taken := 1, owed := 3 }
  else if byte = 0xF4 then some { taken := 1, owed := 3, greatest := 0x8F }
  else none

/-- Reads on behind `valid` bytes of text and a character on its way. -/
def read (valid : Nat) (pending : Pending) : Bytes → Option Fault
  | [] => if pending.owed = 0 then none else some ⟨valid, none⟩
  | byte :: bytes =>
    if pending.owed = 0 then
      match begin? byte with
      | some next => read (valid + pending.taken) next bytes
      | none => some ⟨valid + pending.taken, some 1⟩
    else if pending.least ≤ byte ∧ byte ≤ pending.greatest then
      read valid { taken := pending.taken + 1, owed := pending.owed - 1 } bytes
    else some ⟨valid, some pending.taken⟩

/-- The fault of bytes that are no text. -/
def fault? (bytes : Bytes) : Option Fault := read 0 { taken := 0, owed := 0 } bytes

/-- A character that is not all there, one that does not go on, and a text. -/
example : fault? [0x61, 0xE2, 0x82] = some ⟨1, none⟩ ∧
    fault? [0x61, 0xE2, 0x82, 0x61] = some ⟨1, some 2⟩ ∧ fault? [0x61, 0xE2, 0x82, 0xAC] = none := by
  decide

end Utf8

end NotificationFeed
