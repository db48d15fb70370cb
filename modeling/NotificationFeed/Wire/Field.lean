import NotificationFeed.Wire.Varint
/-!
# Fields of a message

A message is a run of fields. Each has a number and a form, which says where
its value ends, so fields that are not known can be skipped. A group runs to
the mark that ends it; groups may be nested.
-/

namespace NotificationFeed

namespace Wire

/-- How the value of a field is laid out. -/
inductive Form where
  | varint | fixed64 | sized | groupStart | groupEnd | fixed32
  deriving DecidableEq, Repr, Inhabited

/-- The number of a form. -/
def Form.number : Form → Nat
  | varint => 0
  | fixed64 => 1
  | sized => 2
  | groupStart => 3
  | groupEnd => 4
  | fixed32 => 5

/-- The form with a number. -/
def Form.ofNumber? : Nat → Option Form
  | 0 => some .varint
  | 1 => some .fixed64
  | 2 => some .sized
  | 3 => some .groupStart
  | 4 => some .groupEnd
  | 5 => some .fixed32
  | _ => none

/-- What stands before the value of a field. -/
structure Key where
  field : Nat
  form : Form
  deriving DecidableEq, Repr, Inhabited

/-- Writes a key. -/
def putKey (key : Key) : Bytes := putVarint (UInt64.ofNat (key.field * 8 + key.form.number))

/-- Reads a key: its number has 32 bits, and the field is not zero. -/
def takeKey (s : Bytes) : Option (Key × Bytes) := do
  let (n, rest) ← takeVarint s
  if UInt32.size ≤ n.toNat then none
  else
    let form ← Form.ofNumber? (n.toNat % 8)
    if n.toNat / 8 = 0 then none else some (⟨n.toNat / 8, form⟩, rest)

/-- Takes `count` bytes. -/
def takeBytes (count : Nat) (s : Bytes) : Option (Bytes × Bytes) :=
  if count ≤ s.length then some (s.take count, s.drop count) else none

/-- Writes bytes behind their count. -/
def putSized (value : Bytes) : Bytes := putVarint (UInt64.ofNat value.length) ++ value

/-- Takes bytes behind their count. -/
def takeSized (s : Bytes) : Option (Bytes × Bytes) := do
  let (count, rest) ← takeVarint s
  takeBytes count.toNat rest

/-- How deep groups may be nested. -/
def maxDepth : Nat := 100

/-- Skips the value of a field that is not a group. -/
def skipPlain (form : Form) (s : Bytes) : Option Bytes :=
  match form with
  | .varint => (takeVarint s).map (·.2)
  | .fixed64 => (takeBytes 8 s).map (·.2)
  | .sized => (takeSized s).map (·.2)
  | .fixed32 => (takeBytes 4 s).map (·.2)
  | .groupStart | .groupEnd => none

/-- Skips the fields of open groups, innermost first, up to the end of the outermost; `fuel`
bounds the number of fields. -/
def skipGroups : Nat → List Nat → Bytes → Option Bytes
  | _, [], s => some s
  | 0, _, _ => none
  | fuel + 1, field :: outer, s =>
    match takeKey s with
    | none => none
    | some (key, rest) =>
      match key.form with
      | .groupStart =>
        if maxDepth ≤ (field :: outer).length then none
        else skipGroups fuel (key.field :: field :: outer) rest
      | .groupEnd => if key.field = field then skipGroups fuel outer rest else none
      | form =>
        if maxDepth ≤ (field :: outer).length then none
        else
          match skipPlain form rest with
          | none => none
          | some rest => skipGroups fuel (field :: outer) rest

/-- Skips the value of a field. A group cannot end before it starts. -/
def skip (key : Key) (s : Bytes) : Option Bytes :=
  match key.form with
  | .groupStart => skipGroups s.length [key.field] s
  | .groupEnd => none
  | form => skipPlain form s

end Wire

end NotificationFeed
