import NotificationFeed.Wire.Field
/-!
# Messages as lists of fields

Reading a message gives its fields in order. Of a field that occurs several
times the last value counts, and a field that does not occur has the default
of its type; but every occurrence must be laid out as the type asks.
-/

namespace NotificationFeed

namespace Wire

/-- The value of one field of a message. -/
inductive Value where
  | number (n : UInt64)
  | sized (bytes : Bytes)
  /-- A value laid out as no field of this service is. -/
  | other
  deriving DecidableEq, Repr, Inhabited

/-- Takes the value behind a key. -/
def takeValue (key : Key) (s : Bytes) : Option (Value × Bytes) :=
  match key.form with
  | .varint => (takeVarint s).map fun (n, rest) => (.number n, rest)
  | .sized => (takeSized s).map fun (b, rest) => (.sized b, rest)
  | _ => (skip key s).map fun rest => (.other, rest)

/-- The fields of a message, in order. -/
abbrev Fields := List (Nat × Value)

/-- Reads the fields of a message; `fuel` bounds their number. -/
def takeFields : Nat → Bytes → Option Fields
  | _, [] => some []
  | 0, _ => none
  | fuel + 1, s => do
    let (key, rest) ← takeKey s
    let (value, rest) ← takeValue key rest
    let fields ← takeFields fuel rest
    return (key.field, value) :: fields

/-- Reads a message. Every field takes at least one byte. -/
def fieldsOf (s : Bytes) : Option Fields := takeFields s.length s

namespace Fields

/-- The values of one field, in order. -/
def values (fields : Fields) (field : Nat) : List Value :=
  (fields.filter (·.1 == field)).map (·.2)

/-- Reads every occurrence of a field; the last one counts. -/
def last (fields : Fields) (field : Nat) (default : α) (read : Value → Option α) : Option α :=
  ((fields.values field).mapM read).map fun read => read.getLast?.getD default

end Fields

/-- A value that is a 64-bit integer. -/
def Value.int64? : Value → Option Int
  | number n => some (toInt n)
  | _ => none

/-- A value that is a 32-bit integer. -/
def Value.int32? : Value → Option Int32
  | number n => some (toInt32 n)
  | _ => none

/-- A value that is a flag. -/
def Value.flag? : Value → Option Bool
  | number n => some (n != 0)
  | _ => none

/-- A value that is a run of bytes. -/
def Value.bytes? : Value → Option Bytes
  | sized b => some b
  | _ => none

/-- A value that is a text. -/
def Value.text? : Value → Option String
  | sized b => String.fromUTF8? ⟨b.toArray⟩
  | _ => none

/-! ## Writing fields -/

/-- Writes an integer; zero is left out. -/
def putInt (field : Nat) (n : Int) : Bytes :=
  if n = 0 then [] else putKey ⟨field, .varint⟩ ++ putVarint (ofInt n)

/-- Writes a flag; `false` is left out. -/
def putFlag (field : Nat) (b : Bool) : Bytes :=
  if b then putKey ⟨field, .varint⟩ ++ putVarint 1 else []

/-- Writes a run of bytes, also an empty one. -/
def putPart (field : Nat) (value : Bytes) : Bytes := putKey ⟨field, .sized⟩ ++ putSized value

/-- Writes a run of bytes; an empty one is left out. -/
def putBytes (field : Nat) (value : Bytes) : Bytes :=
  if value.isEmpty then [] else putPart field value

/-- Writes a text; an empty one is left out. -/
def putText (field : Nat) (value : String) : Bytes := putBytes field value.toUTF8.toList

end Wire

end NotificationFeed
