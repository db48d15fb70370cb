import NotificationFeed.Json.Lexeme
/-!
# The meaning of strings and numbers

A string means text only if its escapes are whole code points and its bytes
are UTF-8. A number means an integer only if it is written without a fraction
and without an exponent; a negative zero is no integer.
-/

namespace NotificationFeed

namespace Json

/-- The text that bytes encode. -/
def decodeText (s : Bytes) : Option String := String.fromUTF8? ⟨s.toArray⟩

/-- The bytes of a code point. -/
def codePoint (n : Nat) : Bytes := String.utf8EncodeChar (Char.ofNat n)

/-- The bytes a string stands for. A code unit of a surrogate pair is refused where its partner
does not stand beside it. -/
def unescape : Bytes → Option Bytes
  | [] => some []
  | 92 :: 117 :: a :: b :: c :: d :: rest =>
    match codeUnit? a b c d with
    | none => none
    | some high =>
      if 0xDC00 ≤ high ∧ high ≤ 0xDFFF then none
      else if high < 0xD800 ∨ 0xDBFF < high then (unescape rest).map (codePoint high ++ ·)
      else
        match rest with
        | 92 :: 117 :: e :: f :: g :: h :: rest =>
          match codeUnit? e f g h with
          | none => none
          | some low =>
            if low < 0xDC00 ∨ 0xDFFF < low then none
            else
              (unescape rest).map (codePoint ((high - 0xD800) * 0x400 + (low - 0xDC00) + 0x10000) ++ ·)
        | _ => none
  | 92 :: e :: rest =>
    match shortEscape? e with
    | none => none
    | some b => (unescape rest).map (b :: ·)
  | b :: rest => (unescape rest).map (b :: ·)

/-- The text a string stands for. -/
def stringText (inner : Bytes) : Option String := unescape inner >>= decodeText

/-- The number that decimal digits stand for. -/
def digitsValue (digits : Bytes) : Nat := digits.foldl (fun n d => n * 10 + (d.toNat - 48)) 0

/-- The integer that a number stands for. -/
def integer? (text : Bytes) : Option Int :=
  match text with
  | 45 :: digits =>
    if digits.all isDigit && digitsValue digits != 0 then some (-(digitsValue digits : Int)) else none
  | digits => if digits.all isDigit then some (digitsValue digits) else none

end Json

end NotificationFeed
