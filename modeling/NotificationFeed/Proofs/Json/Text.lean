import NotificationFeed.Json.Scalar
import NotificationFeed.Proofs.Json.Grammar
/-!
# JSON strings and numbers — the many ways to write one

A text has many spellings as a string: every character may stand for itself
or be escaped, by a letter or by its code units (`Writes`). Each of them is
read as that text (`stringText_of_writes`). A positive integer has one plain
spelling, its decimal digits, and that is read as the integer
(`integer?_decimal`).

Behind both stands the encoding of texts in bytes. A byte below 128 is a
character by itself, so encoded text may be cut at such a byte
(`isText_cut`).
-/

namespace NotificationFeed

namespace Json

/-! ## Text in bytes -/

/-- The bytes that encode a row of characters. -/
def encode (cs : List Char) : Bytes := cs.flatMap String.utf8EncodeChar

/-- **Bytes that encode a text.** -/
def IsText (s : Bytes) : Prop := ∃ cs, encode cs = s

theorem encode_cons (c : Char) (cs : List Char) :
    encode (c :: cs) = String.utf8EncodeChar c ++ encode cs := rfl

theorem toByteArray_encode (t : String) :
    (⟨(encode t.toList).toArray⟩ : ByteArray) = t.toByteArray := by
  rw [← String.utf8Encode_toList, List.utf8Encode.eq_1]
  exact ByteArray.ext List.data_toByteArray.symm

/-- **Decoding is the inverse of encoding.** -/
theorem decodeText_eq_some_iff {s : Bytes} {t : String} :
    decodeText s = some t ↔ encode t.toList = s := by
  constructor
  · intro h
    rw [decodeText, String.fromUTF8?] at h
    split at h
    · have hbytes : t.toByteArray = ⟨s.toArray⟩ := by
        rw [← Option.some.inj h]
        rfl
      rw [← toByteArray_encode] at hbytes
      simpa using congrArg ByteArray.data hbytes
    · cases h
  · rintro rfl
    have hvalid : (⟨(encode t.toList).toArray⟩ : ByteArray).IsValidUTF8 := by
      rw [toByteArray_encode]
      exact t.isValidUTF8
    rw [decodeText, String.fromUTF8?, dif_pos hvalid]
    exact congrArg some (String.toByteArray_inj.1 (toByteArray_encode t))

theorem decodeText_encode (cs : List Char) : decodeText (encode cs) = some (String.ofList cs) :=
  decodeText_eq_some_iff.2 (by rw [String.toList_ofList])

theorem isText_of_decodeText {s : Bytes} {t : String} (h : decodeText s = some t) : IsText s :=
  ⟨t.toList, decodeText_eq_some_iff.1 h⟩

/-! ## One character -/

theorem utf8EncodeChar_ascii {c : Char} (h : c.toNat < 128) :
    String.utf8EncodeChar c = [c.toNat.toUInt8] := by
  have hle : c.val.toNat ≤ 127 := Nat.le_of_lt_succ h
  rw [String.utf8EncodeChar.eq_1, if_pos hle]
  rfl

/-- The bytes of any other character are no ASCII bytes. -/
theorem le_of_mem_utf8EncodeChar {c : Char} (h : 128 ≤ c.toNat) {b : UInt8}
    (hb : b ∈ String.utf8EncodeChar c) : 128 ≤ b := by
  have hlarge : ¬ c.val.toNat ≤ 127 := Nat.not_le_of_lt h
  have hvalid : c.val.toNat < 1114112 := by
    have := c.valid
    simp only [UInt32.isValidChar, Nat.isValidChar] at this
    omega
  rw [String.utf8EncodeChar.eq_1, if_neg hlarge] at hb
  rw [UInt8.le_iff_toNat_le]
  show 128 ≤ b.toNat
  -- Two, three or four bytes, each with its own mark in the upper bits.
  split at hb
  · simp only [List.mem_cons, List.not_mem_nil, or_false] at hb
    rcases hb with rfl | rfl <;> simp only [UInt8.toNat_ofNat'] <;> omega
  · split at hb
    · simp only [List.mem_cons, List.not_mem_nil, or_false] at hb
      rcases hb with rfl | rfl | rfl <;> simp only [UInt8.toNat_ofNat'] <;> omega
    · simp only [List.mem_cons, List.not_mem_nil, or_false] at hb
      rcases hb with rfl | rfl | rfl | rfl <;> simp only [UInt8.toNat_ofNat'] <;> omega

/-- **An ASCII byte is a character by itself.** -/
theorem eq_of_mem_utf8EncodeChar {c : Char} {b : UInt8} (hb : b < 128)
    (hmem : b ∈ String.utf8EncodeChar c) : c.toNat = b.toNat ∧ String.utf8EncodeChar c = [b] := by
  rcases Nat.lt_or_ge c.toNat 128 with hc | hc
  · have hone := utf8EncodeChar_ascii hc
    rw [hone] at hmem
    obtain rfl := List.mem_singleton.1 hmem
    refine ⟨?_, hone⟩
    show c.toNat = c.toNat % 256
    omega
  · exact absurd hb (UInt8.not_lt.2 (le_of_mem_utf8EncodeChar hc hmem))

/-- **An ASCII byte in an encoded text is one of its characters**, and what is
before it and behind it are texts. -/
theorem encode_eq_append_cons {cs : List Char} {before behind : Bytes} {b : UInt8} (hb : b < 128)
    (h : encode cs = before ++ b :: behind) : ∃ ds c es,
      encode ds = before ∧ String.utf8EncodeChar c = [b] ∧ encode es = behind := by
  induction cs generalizing before with
  | nil => simp [encode] at h
  | cons c cs ih =>
    rw [encode_cons] at h
    rcases List.append_eq_append_iff.1 h with ⟨mid, hbefore, hrest⟩ | ⟨mid, hc, hrest⟩
    · obtain ⟨ds, c', es, hds, hc', hes⟩ := ih hrest
      exact ⟨c :: ds, c', es, by rw [encode_cons, hds, hbefore], hc', hes⟩
    · -- The byte is the first one behind the character, or it is the character.
      cases mid with
      | nil =>
        have hbehind : encode cs = [] ++ b :: behind := hrest.symm
        obtain ⟨ds, c', es, hds, hc', hes⟩ := ih hbehind
        refine ⟨c :: ds, c', es, ?_, hc', hes⟩
        rw [encode_cons, hds, hc, List.append_nil, List.append_nil]
      | cons m mid =>
        obtain ⟨rfl, hbehind⟩ := List.cons.inj hrest
        have hchar : String.utf8EncodeChar c = [b] :=
          (eq_of_mem_utf8EncodeChar hb (by rw [hc]; simp)).2
        rw [hchar] at hc
        have hlength := congrArg List.length hc
        simp only [List.length_append, List.length_cons, List.length_nil] at hlength
        obtain rfl : before = [] := List.length_eq_zero_iff.1 (by omega)
        obtain rfl : mid = [] := List.length_eq_zero_iff.1 (by omega)
        exact ⟨[], c, cs, rfl, hchar, hbehind.symm⟩

/-- **Text may be cut at an ASCII byte**: it is a text up to that byte and
from it on. -/
theorem isText_cut {before behind : Bytes} {b : UInt8} (hb : b < 128)
    (h : IsText (before ++ b :: behind)) : IsText (before ++ [b]) ∧ IsText (b :: behind) := by
  obtain ⟨cs, hcs⟩ := h
  obtain ⟨ds, c, es, hds, hc, hes⟩ := encode_eq_append_cons hb hcs
  have hone : encode [c] = [b] := by rw [encode_cons, hc]; rfl
  refine ⟨⟨ds ++ [c], ?_⟩, ⟨c :: es, ?_⟩⟩
  · rw [← hds, ← hone]
    exact List.flatMap_append
  · rw [encode_cons, hc, hes]
    rfl

/-! ## The spellings of a text -/

/-- **A text as it may be written between quotes**: each character stands for
itself, or as an escape of one letter, or as the escape of its code unit or
of its two surrogates. -/
inductive Writes : Bytes → List Char → Prop
  | nil : Writes [] []
  | plain {c : Char} {inner : Bytes} {cs : List Char} (hcontrol : 32 ≤ c.toNat)
      (hquote : c.toNat ≠ 34) (hslash : c.toNat ≠ 92) (h : Writes inner cs) :
      Writes (String.utf8EncodeChar c ++ inner) (c :: cs)
  | short {e b : UInt8} {inner : Bytes} {cs : List Char} (he : shortEscape? e = some b)
      (h : Writes inner cs) : Writes (92 :: e :: inner) (Char.ofNat b.toNat :: cs)
  | unit {a b c d : UInt8} {n : Nat} {inner : Bytes} {cs : List Char}
      (hu : codeUnit? a b c d = some n) (hplane : n < 0xD800 ∨ 0xDFFF < n)
      (h : Writes inner cs) : Writes (92 :: 117 :: a :: b :: c :: d :: inner) (Char.ofNat n :: cs)
  | pair {a b c d e f g h : UInt8} {high low : Nat} {inner : Bytes} {cs : List Char}
      (hhigh : codeUnit? a b c d = some high) (hlow : codeUnit? e f g h = some low)
      (hlead : 0xD800 ≤ high ∧ high ≤ 0xDBFF) (htrail : 0xDC00 ≤ low ∧ low ≤ 0xDFFF)
      (hrest : Writes inner cs) :
      Writes (92 :: 117 :: a :: b :: c :: d :: 92 :: 117 :: e :: f :: g :: h :: inner)
        (Char.ofNat ((high - 0xD800) * 0x400 + (low - 0xDC00) + 0x10000) :: cs)

theorem unescape_plain {bs : Bytes} (h : ∀ b ∈ bs, b ≠ 92) (rest : Bytes) :
    unescape (bs ++ rest) = (unescape rest).map (bs ++ ·) := by
  induction bs with
  | nil => simp
  | cons b bs ih =>
    have hb : b ≠ 92 := h b (List.mem_cons_self ..)
    rw [List.cons_append, unescape.eq_def]
    simp [hb, ih fun x hx => h x (List.mem_cons_of_mem _ hx), Function.comp_def]

/-- The bytes of a plain character may all stand between quotes. -/
theorem utf8EncodeChar_plain {c : Char} (hcontrol : 32 ≤ c.toNat) (hquote : c.toNat ≠ 34)
    (hslash : c.toNat ≠ 92) :
    ∀ b ∈ String.utf8EncodeChar c, 32 ≤ b ∧ b ≠ 34 ∧ b ≠ 92 := by
  intro b hb
  rcases Nat.lt_or_ge b.toNat 128 with hascii | hlarge
  · -- An ASCII byte is the character itself.
    obtain ⟨hvalue, -⟩ := eq_of_mem_utf8EncodeChar (UInt8.lt_iff_toNat_lt.2 hascii) hb
    refine ⟨?_, ?_, ?_⟩
    · rw [UInt8.le_iff_toNat_le, ← hvalue]
      exact hcontrol
    · rintro rfl
      exact hquote hvalue
    · rintro rfl
      exact hslash hvalue
  · refine ⟨UInt8.le_iff_toNat_le.2 (Nat.le_trans (by decide) hlarge), ?_, ?_⟩
    · rintro rfl
      exact absurd hlarge (by decide)
    · rintro rfl
      exact absurd hlarge (by decide)

theorem IsString.prepend {bs s : Bytes} (hbs : ∀ b ∈ bs, 32 ≤ b ∧ b ≠ 34 ∧ b ≠ 92)
    (h : IsString s) : IsString (bs ++ s) := by
  induction bs with
  | nil => exact h
  | cons b bs ih =>
    obtain ⟨hcontrol, hquote, hslash⟩ := hbs b (List.mem_cons_self ..)
    exact .plain hcontrol hquote hslash (ih fun x hx => hbs x (List.mem_cons_of_mem _ hx))

/-- **A spelling is made of what a string is made of.** -/
theorem isString_of_writes {inner : Bytes} {cs : List Char} (h : Writes inner cs) :
    IsString inner := by
  induction h with
  | nil => exact .nil
  | plain hcontrol hquote hslash h ih => exact ih.prepend (utf8EncodeChar_plain hcontrol hquote hslash)
  | short he h ih => exact .short (by rw [he]; rfl) ih
  | unit hu hplane h ih => exact .unit (by rw [hu]; rfl) ih
  | pair hhigh hlow hlead htrail hrest ih =>
    exact .unit (by rw [hhigh]; rfl) (.unit (by rw [hlow]; rfl) ih)

/-- **A text without quotes, backslashes and control characters is written as it is.** -/
theorem writes_encode {cs : List Char}
    (h : ∀ c ∈ cs, 32 ≤ c.toNat ∧ c.toNat ≠ 34 ∧ c.toNat ≠ 92) : Writes (encode cs) cs := by
  induction cs with
  | nil => exact .nil
  | cons c cs ih =>
    obtain ⟨hcontrol, hquote, hslash⟩ := h c (List.mem_cons_self ..)
    exact .plain hcontrol hquote hslash (ih fun x hx => h x (List.mem_cons_of_mem _ hx))

/-- A one-letter escape stands for an ASCII character. -/
theorem utf8EncodeChar_shortEscape {e b : UInt8} (h : shortEscape? e = some b) :
    String.utf8EncodeChar (Char.ofNat b.toNat) = [b] := by
  unfold shortEscape? at h
  split at h
  · rename_i he
    obtain rfl := Option.some.inj h
    simp only [Bool.or_eq_true, beq_iff_eq] at he
    rcases he with (rfl | rfl) | rfl <;> decide
  · repeat'
      split at h
      · obtain rfl := Option.some.inj h
        decide
    cases h

/-- **Every spelling of a text stands for it.** -/
theorem unescape_of_writes {inner : Bytes} {cs : List Char} (h : Writes inner cs) :
    unescape inner = some (encode cs) := by
  induction h with
  | nil => rfl
  | @plain c inner cs hcontrol hquote hslash h ih =>
    have hbytes : ∀ b ∈ String.utf8EncodeChar c, b ≠ 92 := by
      rintro b hb rfl
      exact hslash (eq_of_mem_utf8EncodeChar (by decide) hb).1
    rw [unescape_plain hbytes, ih]
    rfl
  | @short e b inner cs he h ih =>
    have hu : e ≠ 117 := by
      rintro rfl
      cases he
    rw [unescape.eq_def]
    simp [hu, he, ih, encode_cons, utf8EncodeChar_shortEscape he]
  | @unit a b c d n inner cs hu hplane h ih =>
    have htrail : ¬ (0xDC00 ≤ n ∧ n ≤ 0xDFFF) := by omega
    have hlead : n < 0xD800 ∨ 0xDBFF < n := by omega
    rw [unescape]
    simp only [hu, if_neg htrail, if_pos hlead, ih]
    rfl
  | @pair a b c d e f g h high low inner cs hhigh hlow hlead htrail hrest ih =>
    have hone : ¬ (0xDC00 ≤ high ∧ high ≤ 0xDFFF) := by omega
    have htwo : ¬ (high < 0xD800 ∨ 0xDBFF < high) := by omega
    have hpartner : ¬ (low < 0xDC00 ∨ 0xDFFF < low) := by omega
    rw [unescape]
    simp only [hhigh, if_neg hone, if_neg htwo, hlow, if_neg hpartner, ih]
    rfl

theorem stringText_of_writes {inner : Bytes} {cs : List Char} (h : Writes inner cs) :
    stringText inner = some (String.ofList cs) := by
  rw [stringText, unescape_of_writes h]
  exact decodeText_encode cs

/-! ## The decimal digits of an integer -/

/-- **A number as it is written plainly**: its decimal digits. -/
def decimal (n : Nat) : Bytes := encode (Nat.toDigits 10 n)

/-- A decimal digit is one byte, a digit of the format with the same value. -/
theorem utf8EncodeChar_digit {c : Char} (h : c.isDigit = true) :
    ∃ b, String.utf8EncodeChar c = [b] ∧ isDigit b = true ∧ b.toNat - 48 = c.toNat - '0'.toNat := by
  have hrange : 48 ≤ c.toNat ∧ c.toNat ≤ 57 := by
    simpa [Char.isDigit, UInt32.le_iff_toNat_le] using h
  have hvalue : c.toNat.toUInt8.toNat = c.toNat := by
    show c.toNat % 256 = c.toNat
    omega
  refine ⟨c.toNat.toUInt8, utf8EncodeChar_ascii (by omega), ?_, ?_⟩
  · simp only [isDigit, Bool.and_eq_true, decide_eq_true_eq, UInt8.le_iff_toNat_le, hvalue]
    exact hrange
  · rw [hvalue]
    rfl

/-- The digits of a number, read one after another. -/
theorem foldl_encode_digits {cs : List Char} (h : ∀ c ∈ cs, c.isDigit = true) (init : Nat) :
    (∀ b ∈ encode cs, isDigit b = true) ∧
      (encode cs).foldl (fun n d => n * 10 + (d.toNat - 48)) init =
        Nat.ofDigitChars 10 cs init := by
  induction cs generalizing init with
  | nil =>
    refine ⟨fun b hb => ?_, rfl⟩
    cases hb
  | cons c cs ih =>
    obtain ⟨b, hone, hdigit, hvalue⟩ := utf8EncodeChar_digit (h c (List.mem_cons_self ..))
    obtain ⟨hdigits, hfold⟩ :=
      ih (fun x hx => h x (List.mem_cons_of_mem _ hx)) (init * 10 + (b.toNat - 48))
    rw [encode_cons, hone, Nat.ofDigitChars_cons, ← hvalue, Nat.mul_comm 10 init, ← hfold]
    refine ⟨?_, rfl⟩
    intro x hx
    rcases List.mem_cons.1 hx with rfl | hx
    · exact hdigit
    · exact hdigits x hx

/-- **The decimal digits of a number stand for it.** -/
theorem integer?_decimal (n : Nat) : integer? (decimal n) = some (n : Int) := by
  have hall : ∀ c ∈ Nat.toDigits 10 n, c.isDigit = true := by
    intro c hc
    exact Nat.isDigit_of_mem_toDigits (by decide) (by decide) hc
  obtain ⟨hdigits, hfold⟩ := foldl_encode_digits hall 0
  rw [← decimal] at hdigits hfold
  have hvalue : digitsValue (decimal n) = n := by
    rw [digitsValue, hfold, Nat.ofDigitChars_ten_toDigits]
  unfold integer?
  split
  · rename_i digits hminus
    have hdigit := hdigits 45 (by rw [hminus]; exact List.mem_cons_self ..)
    exact absurd hdigit (by decide)
  · rw [hvalue, if_pos (List.all_eq_true.2 hdigits)]

end Json

end NotificationFeed
