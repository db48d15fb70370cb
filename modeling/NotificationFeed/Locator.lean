/-!
# Locators

A locator says where something is found on the network: it is a path, or an
authority alone, or a scheme with an authority and perhaps a path, and a path
may be followed by a query and a fragment. Each part admits its own
characters. A fragment is cut off unread, and so is a query where only the
path counts.
-/

namespace NotificationFeed

namespace Locator

/-- Characters of a scheme. -/
def isSchemeChar (c : Char) : Bool :=
  c.isAlphanum || c == '+' || c == '-' || c == '.' || c == '~'

/-- Characters that may stand in front of a path, besides the percent sign. -/
def isAuthorityChar (c : Char) : Bool := c.isAlphanum || "!$&'()*+,-.:;=@[]_~".toList.contains c

/-- Characters that end an authority. -/
def endsAuthority (c : Char) : Bool := c == '/' || c == '?' || c == '#'

/-- Whether the code point of `c` is between two others. -/
def within (low high : Nat) (c : Char) : Bool := low ≤ c.toNat && c.toNat ≤ high

/-- Characters outside ASCII. -/
def isBeyondAscii (c : Char) : Bool := 0x80 ≤ c.toNat

/-- Characters of a path. -/
def isPathChar (c : Char) : Bool :=
  c.toNat == 0x21 || within 0x24 0x3B c || c.toNat == 0x3D || within 0x40 0x5F c ||
    within 0x61 0x7A c || c.toNat == 0x7C || c.toNat == 0x7E || c == '"' ||
    c.toNat == 0x7B || c.toNat == 0x7D || isBeyondAscii c

/-- Characters of a query. -/
def isQueryChar (c : Char) : Bool :=
  c.toNat == 0x21 || within 0x24 0x3B c || c.toNat == 0x3D || within 0x3F 0x7E c || isBeyondAscii c

/-- Characters that end a path. -/
def endsPath (c : Char) : Bool := c == '?' || c == '#'

/-- Whether a text is a path with perhaps a query and a fragment. -/
def isPath (cs : List Char) : Bool :=
  let path := cs.takeWhile (!endsPath ·)
  path.all isPathChar &&
    match cs.drop path.length with
    | '?' :: rest => (rest.takeWhile (· != '#')).all isQueryChar
    | _ => true

/-- What was seen of an authority so far. -/
structure Authority where
  colons : Nat := 0
  opened : Bool := false
  closed : Bool := false
  percent : Bool := false
  /-- Whether the last character was an at sign. -/
  atEnd : Bool := false
  deriving DecidableEq, Repr, Inhabited

/-- How many colons may stand in a row of groups. -/
def maxColons : Nat := 8

/-- Reads one character of an authority. What stood before an at sign names a user, and what
stood in brackets is a host: their colons and percent signs do not count. -/
def Authority.step (a : Authority) (c : Char) : Option Authority :=
  let a := { a with atEnd := false }
  if c = ':' then if maxColons ≤ a.colons then none else some { a with colons := a.colons + 1 }
  else if c = '[' then if a.percent || a.opened then none else some { a with opened := true }
  else if c = ']' then
    if !a.opened || a.closed then none
    else some { a with closed := true, colons := 0, percent := false }
  else if c = '@' then some { a with colons := 0, percent := false, atEnd := true }
  else if c = '%' then some { a with percent := true }
  else if isAuthorityChar c then some a
  else none

/-- Whether a text is an authority: brackets are matched, one colon at most stands before a port,
and something follows the name of a user. The empty text is one. -/
def isAuthority (cs : List Char) : Bool :=
  match cs.foldlM Authority.step {} with
  | some a => a.opened == a.closed && a.colons ≤ 1 && !a.atEnd && !a.percent
  | none => false

/-- Cuts a text with a scheme into the scheme and what follows its marks. -/
def splitScheme (cs : List Char) : Option (List Char × List Char) :=
  let scheme := cs.takeWhile isSchemeChar
  match cs.drop scheme.length with
  | ':' :: '/' :: '/' :: rest => some (scheme, rest)
  | _ => none

/-- The longest scheme. -/
def maxScheme : Nat := 64

/-- The longest locator, in bytes. -/
def maxSize : Nat := 65534

/-- Whether what follows a scheme is a non-empty authority and a path. -/
def isBehindScheme (cs : List Char) : Bool :=
  let authority := cs.takeWhile (!endsAuthority ·)
  !authority.isEmpty && isAuthority authority && isPath (cs.drop authority.length)

/-- Whether a text is a locator. -/
def isValid (text : String) : Bool :=
  let cs := text.toList
  if cs.isEmpty || maxSize < text.utf8ByteSize then false
  else if cs = ['*'] then true
  else if cs.head? = some '/' then isPath cs
  else
    match splitScheme cs with
    | some (scheme, rest) => scheme.length ≤ maxScheme && isBehindScheme rest
    | none => isAuthority cs

/-- The path of a locator. It is cut before a query and a fragment and otherwise left as it is
written. Behind an authority with a scheme an empty path is the root; an authority alone has no
path. -/
def path (text : String) : String :=
  let cs := text.toList
  if cs = ['*'] then "*"
  else if cs.head? = some '/' then String.ofList (cs.takeWhile (!endsPath ·))
  else
    match splitScheme cs with
    | some (_, rest) =>
      let path := (rest.dropWhile (!endsAuthority ·)).takeWhile (!endsPath ·)
      if path.isEmpty then "/" else String.ofList path
    | none => ""

end Locator

end NotificationFeed
