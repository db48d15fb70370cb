import NotificationFeed.Notification
/-!
# The pieces of a JSON text

A text is cut into pieces: a lexeme and the blank run behind it. The pieces
keep every byte, so a text is what its pieces spell (`spell`). A string keeps
its bytes as written; only its escapes are checked, and neither the code
units they stand for nor the encoding of the bytes between them.
-/

namespace NotificationFeed

namespace Json

/-- The three words of the format. -/
inductive Word where
  | null | true | false
  deriving DecidableEq, Repr, Inhabited

/-- How a word is written. -/
def Word.text : Word → Bytes
  | null => [110, 117, 108, 108]
  | true => [116, 114, 117, 101]
  | false => [102, 97, 108, 115, 101]

/-- The smallest meaningful parts of a text. -/
inductive Lexeme where
  | openArray | closeArray | openObject | closeObject | comma | colon
  | word (w : Word)
  /-- A number, as written. -/
  | number (text : Bytes)
  /-- A string, as written between its quotes. -/
  | string (inner : Bytes)
  deriving DecidableEq, Repr, Inhabited

/-- How a lexeme is written. -/
def Lexeme.text : Lexeme → Bytes
  | openArray => [91]
  | closeArray => [93]
  | openObject => [123]
  | closeObject => [125]
  | comma => [44]
  | colon => [58]
  | word w => w.text
  | number text => text
  | string inner => 34 :: inner ++ [34]

/-- A lexeme and the blank run behind it. -/
structure Piece where
  lexeme : Lexeme
  blank : Bytes
  deriving DecidableEq, Repr, Inhabited

/-- The text that pieces stand for. -/
def spell (pieces : List Piece) : Bytes :=
  pieces.flatMap fun p => p.lexeme.text ++ p.blank

/-- Space, tab, line feed and carriage return. -/
def isBlank (b : UInt8) : Bool := b == 32 || b == 9 || b == 10 || b == 13

/-- The decimal digits. -/
def isDigit (b : UInt8) : Bool := 48 ≤ b && b ≤ 57

/-- The value of a hexadecimal digit. -/
def hexDigit? (b : UInt8) : Option Nat :=
  if 48 ≤ b && b ≤ 57 then some (b.toNat - 48)
  else if 97 ≤ b && b ≤ 102 then some (b.toNat - 87)
  else if 65 ≤ b && b ≤ 70 then some (b.toNat - 55)
  else none

/-- The number four hexadecimal digits stand for. -/
def codeUnit? (a b c d : UInt8) : Option Nat := do
  let a ← hexDigit? a
  let b ← hexDigit? b
  let c ← hexDigit? c
  let d ← hexDigit? d
  return ((a * 16 + b) * 16 + c) * 16 + d

/-- The byte that a one-letter escape stands for. -/
def shortEscape? (b : UInt8) : Option UInt8 :=
  if b == 34 || b == 92 || b == 47 then some b
  else if b == 98 then some 8
  else if b == 102 then some 12
  else if b == 110 then some 10
  else if b == 114 then some 13
  else if b == 116 then some 9
  else none

/-- Reads a string from behind its opening quote: what is written before the closing quote, and
what comes after it. Control characters must be escaped. -/
def scanString : Bytes → Option (Bytes × Bytes)
  | [] => none
  | 92 :: 117 :: a :: b :: c :: d :: rest =>
    if (codeUnit? a b c d).isSome then
      (scanString rest).map fun (inner, rest) => (92 :: 117 :: a :: b :: c :: d :: inner, rest)
    else none
  | 92 :: e :: rest =>
    if (shortEscape? e).isSome then
      (scanString rest).map fun (inner, rest) => (92 :: e :: inner, rest)
    else none
  | b :: rest =>
    if b == 34 then some ([], rest)
    else if b == 92 || b < 32 then none
    else (scanString rest).map fun (inner, rest) => (b :: inner, rest)

/-- Takes the digits in front; there must be one. -/
def scanDigits (s : Bytes) : Option (Bytes × Bytes) :=
  let digits := s.takeWhile isDigit
  if digits.isEmpty then none else some (digits, s.dropWhile isDigit)

/-- Takes the digits in front; a leading zero stands alone. -/
def scanWhole (s : Bytes) : Option (Bytes × Bytes) := do
  let (digits, rest) ← scanDigits s
  if digits.head? == some 48 && digits.length != 1 then none else some (digits, rest)

/-- Takes a fraction, if there is a point. -/
def scanFraction : Bytes → Option (Bytes × Bytes)
  | 46 :: s => do
    let (digits, rest) ← scanDigits s
    return (46 :: digits, rest)
  | s => some ([], s)

/-- Takes the sign of an exponent, if there is one. -/
def scanSign : Bytes → Bytes × Bytes
  | 43 :: s => ([43], s)
  | 45 :: s => ([45], s)
  | s => ([], s)

/-- Takes an exponent, if there is one. -/
def scanExponent : Bytes → Option (Bytes × Bytes)
  | [] => some ([], [])
  | e :: s =>
    if e == 101 || e == 69 then do
      let (sign, s) := scanSign s
      let (digits, rest) ← scanDigits s
      return (e :: sign ++ digits, rest)
    else some ([], e :: s)

/-- Takes a minus, if there is one. -/
def scanMinus : Bytes → Bytes × Bytes
  | 45 :: s => ([45], s)
  | s => ([], s)

/-- Takes a number. -/
def scanNumber (s : Bytes) : Option (Bytes × Bytes) := do
  let (minus, s) := scanMinus s
  let (whole, s) ← scanWhole s
  let (fraction, s) ← scanFraction s
  let (exponent, s) ← scanExponent s
  return (minus ++ whole ++ fraction ++ exponent, s)

/-- Takes the lexeme in front. -/
def scanLexeme : Bytes → Option (Lexeme × Bytes)
  | 91 :: s => some (.openArray, s)
  | 93 :: s => some (.closeArray, s)
  | 123 :: s => some (.openObject, s)
  | 125 :: s => some (.closeObject, s)
  | 44 :: s => some (.comma, s)
  | 58 :: s => some (.colon, s)
  | 34 :: s => (scanString s).map fun (inner, rest) => (.string inner, rest)
  | 110 :: 117 :: 108 :: 108 :: s => some (.word .null, s)
  | 116 :: 114 :: 117 :: 101 :: s => some (.word .true, s)
  | 102 :: 97 :: 108 :: 115 :: 101 :: s => some (.word .false, s)
  | s => (scanNumber s).map fun (text, rest) => (.number text, rest)

/-! ## What is taken and what is left -/

theorem scanString_append {s inner rest : Bytes} (h : scanString s = some (inner, rest)) :
    s = inner ++ 34 :: rest := by
  fun_induction scanString s generalizing inner rest <;> simp_all <;> grind

theorem scanDigits_append {s digits rest : Bytes} (h : scanDigits s = some (digits, rest)) :
    s = digits ++ rest ∧ digits ≠ [] := by
  simp only [scanDigits] at h
  split at h
  · simp at h
  · rename_i he
    simp only [Option.some.injEq, Prod.mk.injEq] at h
    obtain ⟨rfl, rfl⟩ := h
    exact ⟨(List.takeWhile_append_dropWhile).symm, by simpa [List.isEmpty_iff] using he⟩

theorem scanWhole_append {s digits rest : Bytes} (h : scanWhole s = some (digits, rest)) :
    s = digits ++ rest ∧ digits ≠ [] := by
  simp only [scanWhole, Option.bind_eq_bind, Option.bind_eq_some_iff] at h
  obtain ⟨⟨d, r⟩, hd, h⟩ := h
  split at h
  · simp at h
  · simp only [Option.some.injEq, Prod.mk.injEq] at h
    obtain ⟨rfl, rfl⟩ := h
    exact scanDigits_append hd

theorem scanFraction_append {s text rest : Bytes} (h : scanFraction s = some (text, rest)) :
    s = text ++ rest := by
  unfold scanFraction at h
  split at h
  · simp only [Option.bind_eq_bind, Option.bind_eq_some_iff] at h
    obtain ⟨⟨d, r⟩, hd, h⟩ := h
    simp only [pure, Option.some.injEq, Prod.mk.injEq] at h
    obtain ⟨rfl, rfl⟩ := h
    simp [(scanDigits_append hd).1]
  · simp only [Option.some.injEq, Prod.mk.injEq] at h
    simp [← h.1, h.2]

theorem scanSign_append (s : Bytes) : s = (scanSign s).1 ++ (scanSign s).2 := by
  unfold scanSign; split <;> rfl

theorem scanExponent_append {s text rest : Bytes} (h : scanExponent s = some (text, rest)) :
    s = text ++ rest := by
  unfold scanExponent at h
  split at h
  · simp at h; simp [h]
  · rename_i e s
    split at h
    · simp only [Option.bind_eq_bind, Option.bind_eq_some_iff] at h
      obtain ⟨⟨d, r⟩, hd, h⟩ := h
      simp only [pure, Option.some.injEq, Prod.mk.injEq] at h
      obtain ⟨rfl, rfl⟩ := h
      have := scanSign_append s
      simp [List.append_assoc, ← (scanDigits_append hd).1, ← this]
    · simp only [Option.some.injEq, Prod.mk.injEq] at h
      simp [← h.1, h.2]

theorem scanMinus_append (s : Bytes) : s = (scanMinus s).1 ++ (scanMinus s).2 := by
  unfold scanMinus; split <;> rfl

theorem scanNumber_append {s text rest : Bytes} (h : scanNumber s = some (text, rest)) :
    s = text ++ rest ∧ text ≠ [] := by
  simp only [scanNumber, Option.bind_eq_bind, Option.bind_eq_some_iff] at h
  obtain ⟨⟨w, r₁⟩, hw, ⟨f, r₂⟩, hf, ⟨e, r₃⟩, he, h⟩ := h
  simp only [pure, Option.some.injEq, Prod.mk.injEq] at h
  obtain ⟨rfl, rfl⟩ := h
  obtain ⟨hw, hne⟩ := scanWhole_append hw
  have hf : r₁ = f ++ r₂ := scanFraction_append hf
  have he : r₂ = e ++ r₃ := scanExponent_append he
  refine ⟨?_, by simp [hne]⟩
  calc s = (scanMinus s).1 ++ (scanMinus s).2 := scanMinus_append s
    _ = _ := by rw [hw, hf, he]; simp [List.append_assoc]

/-- **Scanning loses nothing.** A lexeme and what is left spell the text, and the lexeme is not
empty. -/
theorem scanLexeme_append {s rest : Bytes} {l : Lexeme} (h : scanLexeme s = some (l, rest)) :
    s = l.text ++ rest ∧ l.text ≠ [] := by
  unfold scanLexeme at h
  split at h <;>
    simp only [Option.some.injEq, Prod.mk.injEq, Option.map_eq_some_iff, Prod.exists] at h
  case h_7 =>
    obtain ⟨inner, r, hs, rfl, rfl⟩ := h
    simp [Lexeme.text, scanString_append hs]
  case h_11 =>
    obtain ⟨text, r, hs, rfl, rfl⟩ := h
    exact scanNumber_append hs
  all_goals
    obtain ⟨rfl, rfl⟩ := h
    simp [Lexeme.text, Word.text]

theorem length_lt_of_scanLexeme {s rest : Bytes} {l : Lexeme}
    (h : scanLexeme s = some (l, rest)) : rest.length < s.length := by
  obtain ⟨hs, hne⟩ := scanLexeme_append h
  have := List.length_pos_iff.2 hne
  rw [hs, List.length_append]
  omega

/-- Cuts a text that does not start with a blank into pieces. -/
def pieces (s : Bytes) : Option (List Piece) :=
  if s.isEmpty then some []
  else
    match h : scanLexeme s with
    | none => none
    | some (lexeme, rest) =>
      have : (rest.dropWhile isBlank).length < s.length :=
        Nat.lt_of_le_of_lt (List.dropWhile_sublist _).length_le (length_lt_of_scanLexeme h)
      (pieces (rest.dropWhile isBlank)).map (⟨lexeme, rest.takeWhile isBlank⟩ :: ·)
termination_by s.length

/-- **Pieces spell the text.** -/
theorem spell_of_pieces {s : Bytes} {ps : List Piece} (h : pieces s = some ps) : spell ps = s := by
  fun_induction pieces s generalizing ps with
  | case1 s hs =>
    simp only [Option.some.injEq] at h
    subst h
    simp_all [spell]
  | case2 => simp at h
  | case3 s _ l r hl _ ih =>
    simp only [Option.map_eq_some_iff] at h
    obtain ⟨qs, hq, rfl⟩ := h
    have := ih hq
    simp only [spell, List.flatMap_cons] at this ⊢
    rw [this, List.append_assoc, List.takeWhile_append_dropWhile, (scanLexeme_append hl).1]

end Json

end NotificationFeed
