/-!
# Numbers and flags in settings

A number is written in decimal digits, after a plus if one likes. The first
character at fault decides how a text is refused: one that is no digit, or
the digit with which the number becomes too large.
-/

namespace NotificationFeed

namespace Settings

/-- Why a text is not a value of its type. -/
inductive Refusal where
  | empty
  | invalidDigit
  | tooLarge
  | notFlag
  | notAddress
  deriving DecidableEq, Repr, Inhabited

/-- The text of a refusal. -/
def Refusal.message : Refusal → String
  | empty => "cannot parse integer from empty string"
  | invalidDigit => "invalid digit found in string"
  | tooLarge => "number too large to fit in target type"
  | notFlag => "provided string was not `true` or `false`"
  | notAddress => "invalid socket address syntax"

/-- The value of a decimal digit. -/
def digit? (c : Char) : Option Nat :=
  if '0' ≤ c ∧ c ≤ '9' then some (c.toNat - '0'.toNat) else none

/-- Reads the digits that follow those of `n`; the number must stay below `bound`. -/
def readDigits (bound : Nat) : Nat → List Char → Except Refusal Nat
  | n, [] => .ok n
  | n, c :: cs =>
    match digit? c with
    | none => .error .invalidDigit
    | some d => if n * 10 + d < bound then readDigits bound (n * 10 + d) cs else .error .tooLarge

/-- Reads a number below `bound`. A plus alone is no number. -/
def readNumber (bound : Nat) (text : String) : Except Refusal Nat :=
  match text.toList with
  | [] => .error .empty
  | ['+'] => .error .invalidDigit
  | '+' :: digits => readDigits bound 0 digits
  | digits => readDigits bound 0 digits

/-- Reads a flag. -/
def readFlag (text : String) : Except Refusal Bool :=
  if text = "true" then .ok true
  else if text = "false" then .ok false
  else .error .notFlag

end Settings

end NotificationFeed
