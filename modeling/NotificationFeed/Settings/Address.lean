import NotificationFeed.Settings.Scalar
/-!
# Socket addresses

A socket address is a host and a port. A host of four octets is written in
decimal without leading zeros. A host of eight groups is written in brackets
and in hexadecimal; one run of zero groups may be left out, the last two
groups may be written as four octets, and a scope may follow. It is shown
with its longest run of zero groups left out, the first of the longest.
-/

namespace NotificationFeed

namespace Settings

/-- The four octets of a short host. -/
structure Octets where
  a : Nat
  b : Nat
  c : Nat
  d : Nat
  deriving DecidableEq, Repr, Inhabited

/-- Where a server listens. -/
inductive Address where
  | short (host : Octets) (port : Nat)
  /-- A host of eight groups; a scope of zero is none. -/
  | long (groups : List Nat) (scope : Nat) (port : Nat)
  deriving DecidableEq, Repr, Inhabited

namespace Address

/-! ## Reading -/

/-- Takes what a reader recognises in front of a text. -/
abbrev Taker (α : Type) := List Char → Option (α × List Char)

/-- The value of a hexadecimal digit. -/
def hexDigit? (c : Char) : Option Nat :=
  if '0' ≤ c ∧ c ≤ '9' then some (c.toNat - '0'.toNat)
  else if 'a' ≤ c ∧ c ≤ 'f' then some (c.toNat - 'a'.toNat + 10)
  else if 'A' ≤ c ∧ c ≤ 'F' then some (c.toNat - 'A'.toNat + 10)
  else none

/-- The digits in front of a text and the number they stand for. -/
def digitRun (radix : Nat) (digit : Char → Option Nat) : Nat → List Char → Nat × List Char
  | n, [] => (n, [])
  | n, c :: cs =>
    match digit c with
    | some d => digitRun radix digit (n * radix + d) cs
    | none => (n, c :: cs)

/-- Takes a number of at least one digit that is below `bound`. -/
def takeNumber (radix : Nat) (digit : Char → Option Nat) (bound : Nat) : Taker Nat := fun cs =>
  let (n, rest) := digitRun radix digit 0 cs
  if rest.length = cs.length ∨ bound ≤ n then none else some (n, rest)

/-- Takes one character. -/
def takeChar (c : Char) : Taker Unit
  | d :: rest => if d = c then some ((), rest) else none
  | [] => none

/-- Takes an octet: at most three digits, and no leading zero. -/
def takeOctet : Taker Nat := fun cs => do
  let (n, rest) ← takeNumber 10 digit? 256 cs
  let width := cs.length - rest.length
  if 3 < width ∨ (cs.head? = some '0' ∧ 1 < width) then none else some (n, rest)

/-- Takes four octets with points between them. -/
def takeOctets : Taker Octets := fun cs => do
  let (a, cs) ← takeOctet cs
  let (_, cs) ← takeChar '.' cs
  let (b, cs) ← takeOctet cs
  let (_, cs) ← takeChar '.' cs
  let (c, cs) ← takeOctet cs
  let (_, cs) ← takeChar '.' cs
  let (d, cs) ← takeOctet cs
  return (⟨a, b, c, d⟩, cs)

/-- Takes a group of at most four hexadecimal digits. -/
def takeGroup : Taker Nat := fun cs => do
  let (n, rest) ← takeNumber 16 hexDigit? 65536 cs
  if 4 < cs.length - rest.length then none else some (n, rest)

/-- Takes a colon, unless this is the first group. -/
def takeSeparator (first : Bool) : Taker Unit := fun cs =>
  if first then some ((), cs) else takeChar ':' cs

/-- Takes at most `limit` groups with colons between them, as many as there are. The last two may
be four octets; it is told whether they are. -/
def takeGroups : Nat → Bool → List Char → List Nat × Bool × List Char
  | 0, _, cs => ([], false, cs)
  | limit + 1, first, cs =>
    let octets := do
      let (_, cs) ← takeSeparator first cs
      takeOctets cs
    let group := do
      let (_, cs) ← takeSeparator first cs
      takeGroup cs
    match (if 0 < limit then octets else none), group with
    | some (o, rest), _ => ([o.a * 256 + o.b, o.c * 256 + o.d], true, rest)
    | none, some (g, rest) =>
      let (gs, dotted, rest) := takeGroups limit false rest
      (g :: gs, dotted, rest)
    | none, none => ([], false, cs)

/-- Takes eight groups, of which a run of zeros may be left out between two colons. -/
def takeLongHost : Taker (List Nat) := fun cs =>
  let (front, dotted, cs) := takeGroups 8 true cs
  if front.length = 8 then some (front, cs)
  else if dotted then none
  else do
    let (_, cs) ← takeChar ':' cs
    let (_, cs) ← takeChar ':' cs
    let (back, _, cs) := takeGroups (7 - front.length) true cs
    return (front ++ List.replicate (8 - front.length - back.length) 0 ++ back, cs)

/-- Takes a port behind a colon. -/
def takePort : Taker Nat := fun cs => do
  let (_, cs) ← takeChar ':' cs
  takeNumber 10 digit? 65536 cs

/-- Takes a scope behind a percent sign. -/
def takeScope : Taker Nat := fun cs => do
  let (_, cs) ← takeChar '%' cs
  takeNumber 10 digit? UInt32.size cs

/-- Takes a short host and a port. -/
def takeShort : Taker Address := fun cs => do
  let (host, cs) ← takeOctets cs
  let (port, cs) ← takePort cs
  return (.short host port, cs)

/-- Takes a long host in brackets, with or without a scope, and a port. -/
def takeLong : Taker Address := fun cs => do
  let (_, cs) ← takeChar '[' cs
  let (groups, cs) ← takeLongHost cs
  let (scope, cs) := (takeScope cs).getD (0, cs)
  let (_, cs) ← takeChar ']' cs
  let (port, cs) ← takePort cs
  return (.long groups scope port, cs)

/-- Reads a whole text as an address. -/
def read (text : String) : Except Refusal Address :=
  match takeShort text.toList <|> takeLong text.toList with
  | some (address, []) => .ok address
  | _ => .error .notAddress

/-! ## Showing -/

/-- The text of four octets. -/
def octetsText (o : Octets) : String :=
  String.intercalate "." [toString o.a, toString o.b, toString o.c, toString o.d]

/-- The text of groups. -/
def groupsText (groups : List Nat) : String :=
  String.intercalate ":" (groups.map fun g => String.ofList (Nat.toDigits 16 g))

/-- Where the first of the longest runs of zeros starts, and how long it is. The run that reaches
up to `index` has `current` zeros. -/
def longestZeros : Nat → Nat → Nat × Nat → List Nat → Nat × Nat
  | _, _, best, [] => best
  | index, current, best, g :: gs =>
    if g = 0 then
      let run := (index - current, current + 1)
      longestZeros (index + 1) (current + 1) (if best.2 < run.2 then run else best) gs
    else longestZeros (index + 1) 0 best gs

/-- The text of a host of eight groups. -/
def longHostText (groups : List Nat) : String :=
  match groups with
  | [0, 0, 0, 0, 0, 0xffff, x, y] =>
    "::ffff:" ++ octetsText ⟨x / 256, x % 256, y / 256, y % 256⟩
  | groups =>
    let (start, count) := longestZeros 0 0 (0, 0) groups
    if 1 < count then
      groupsText (groups.take start) ++ "::" ++ groupsText (groups.drop (start + count))
    else groupsText groups

/-- The text of an address. -/
def text : Address → String
  | .short host port => octetsText host ++ ":" ++ toString port
  | .long groups scope port =>
    let scopeText := if scope = 0 then "" else "%" ++ toString scope
    "[" ++ longHostText groups ++ scopeText ++ "]:" ++ toString port

end Address

end Settings

end NotificationFeed
