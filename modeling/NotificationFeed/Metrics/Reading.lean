import NotificationFeed.Metrics.Exposition
/-!
# Reading a metrics page

What a page of metrics says to one who reads it: a list of samples, each a
name, labels and a number as text. Lines that begin with a number sign are
remarks. In the value of a label a backslash says that the character after it
is meant as it stands, or that it is a line feed.
-/

namespace NotificationFeed

namespace Metrics

/-- One sample of a page. -/
structure Sample where
  name : String
  labels : List (String × String)
  value : String
  deriving DecidableEq, Repr, Inhabited

/-- The lines of a text; each ends with a line feed. -/
def linesOf : List Char → List (List Char)
  | [] => []
  | c :: rest =>
    if c = '\n' then [] :: linesOf rest
    else
      match linesOf rest with
      | [] => [[c]]
      | line :: lines => (c :: line) :: lines

/-- Reads the value of a label behind its opening quote. -/
def takeQuoted : List Char → Option (List Char × List Char)
  | '"' :: rest => some ([], rest)
  | '\\' :: 'n' :: rest => (takeQuoted rest).map fun (value, rest) => ('\n' :: value, rest)
  | '\\' :: c :: rest =>
    if c = '\\' ∨ c = '"' then (takeQuoted rest).map fun (value, rest) => (c :: value, rest) else none
  | c :: rest => (takeQuoted rest).map fun (value, rest) => (c :: value, rest)
  | [] => none

/-- Reads labels up to the closing brace; a label takes at least four characters, so the length of
the text bounds their number. -/
def takeLabels : Nat → List Char → Option (List (String × String) × List Char)
  | 0, _ => none
  | n + 1, s =>
    match s.dropWhile (· ≠ '=') with
    | '=' :: '"' :: rest => do
      let (value, rest) ← takeQuoted rest
      let label := (String.ofList (s.takeWhile (· ≠ '=')), String.ofList value)
      match rest with
      | ',' :: rest =>
        let (labels, rest) ← takeLabels n rest
        return (label :: labels, rest)
      | '\x7d' :: rest => return ([label], rest)
      | _ => none
    | _ => none

/-- Whether a character ends the name of a sample. -/
def endsName (c : Char) : Bool := c == '\x7b' || c == ' '

/-- Reads a line that is no remark. -/
def Sample.ofLine? (line : List Char) : Option Sample :=
  let name := String.ofList (line.takeWhile (!endsName ·))
  match line.dropWhile (!endsName ·) with
  | ' ' :: value => some ⟨name, [], String.ofList value⟩
  | _ :: rest => do
    let (labels, rest) ← takeLabels rest.length rest
    match rest with
    | ' ' :: value => return ⟨name, labels, String.ofList value⟩
    | _ => none
  | [] => none

/-- Whether a line is a remark. -/
def isRemark (line : List Char) : Bool := line.head? == some '#'

/-- The samples of a page, in order. -/
def samplesOf? (page : String) : Option (List Sample) :=
  ((linesOf page.toList).filter (!isRemark ·)).mapM Sample.ofLine?

end Metrics

end NotificationFeed
