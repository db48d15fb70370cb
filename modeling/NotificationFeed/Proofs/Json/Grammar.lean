import NotificationFeed.Json.Lexeme
/-!
# JSON lexemes — how each is written

The grammar of the format says which bytes make up a number and a string; it
is stated here without the scanner (`IsNumber`, `IsString`, `Lexeme.Proper`).
The scanner takes a lexeme exactly where the grammar has one: what it takes
is proper (`proper_of_scanLexeme`), and in front of anything that cannot
belong to it a proper lexeme is taken whole (`scanLexeme_text`). Only a
number can run on into what follows.
-/

namespace NotificationFeed

namespace Json

/-! ## The grammar -/

/-- **A row of digits**, at least one. -/
structure IsDigits (s : Bytes) : Prop where
  ne_nil : s ≠ []
  digit : ∀ b ∈ s, isDigit b = true

/-- **The whole part of a number**: a zero in front stands alone. -/
structure IsWhole (s : Bytes) : Prop extends IsDigits s where
  alone : s.head? = some 48 → s = [48]

/-- **The fraction of a number**, which may be missing. -/
inductive IsFraction : Bytes → Prop
  | none : IsFraction []
  | digits {s : Bytes} (h : IsDigits s) : IsFraction (46 :: s)

/-- **The exponent of a number**, which may be missing. -/
inductive IsExponent : Bytes → Prop
  | none : IsExponent []
  | digits {e : UInt8} {sign s : Bytes} (he : e = 101 ∨ e = 69)
      (hsign : sign = [] ∨ sign = [43] ∨ sign = [45]) (h : IsDigits s) :
      IsExponent (e :: sign ++ s)

/-- **A number**: perhaps a minus, a whole part, a fraction and an exponent. -/
inductive IsNumber : Bytes → Prop
  | parts {minus whole fraction exponent : Bytes} (hminus : minus = [] ∨ minus = [45])
      (hwhole : IsWhole whole) (hfraction : IsFraction fraction)
      (hexponent : IsExponent exponent) :
      IsNumber (minus ++ whole ++ fraction ++ exponent)

/-- **What may stand between the quotes of a string**: any byte but a quote, a
backslash and the control characters, and escapes. -/
inductive IsString : Bytes → Prop
  | nil : IsString []
  | plain {b : UInt8} {s : Bytes} (hcontrol : 32 ≤ b) (hquote : b ≠ 34) (hslash : b ≠ 92)
      (h : IsString s) : IsString (b :: s)
  | short {e : UInt8} {s : Bytes} (he : (shortEscape? e).isSome = true) (h : IsString s) :
      IsString (92 :: e :: s)
  | unit {a b c d : UInt8} {s : Bytes} (hu : (codeUnit? a b c d).isSome = true)
      (h : IsString s) : IsString (92 :: 117 :: a :: b :: c :: d :: s)

/-- **A lexeme as the format has it.** -/
def Lexeme.Proper : Lexeme → Prop
  | .number text => IsNumber text
  | .string inner => IsString inner
  | _ => True

/-- **Whether a number could go on with what follows it.** -/
def RunsOn (s : Bytes) : Prop :=
  ∃ b, s.head? = some b ∧ (isDigit b = true ∨ b = 46 ∨ b = 101 ∨ b = 69)

theorem not_runsOn_nil : ¬ RunsOn [] := by
  rintro ⟨b, hb, -⟩
  cases hb

/-! ## Digits -/

theorem isBlank_of_isDigit {b : UInt8} (h : isDigit b = true) : isBlank b = false := by
  simp only [isDigit, isBlank, Bool.and_eq_true, decide_eq_true_eq] at *
  grind

section Runs

variable {p : UInt8 → Bool} {s rest : Bytes}

/-- A run of bytes ends where another one stands. -/
theorem takeWhile_run (h : ∀ b ∈ s, p b = true) (hrest : ∀ b, rest.head? = some b → p b = false) :
    (s ++ rest).takeWhile p = s := by
  rw [List.takeWhile_append_of_pos h]
  cases rest with
  | nil => simp
  | cons b rest => simp [hrest b rfl]

theorem dropWhile_run (h : ∀ b ∈ s, p b = true) (hrest : ∀ b, rest.head? = some b → p b = false) :
    (s ++ rest).dropWhile p = rest := by
  rw [List.dropWhile_append_of_pos h]
  cases rest with
  | nil => rfl
  | cons b rest => simp [hrest b rfl]

end Runs

theorem isDigits_of_scanDigits {s digits rest : Bytes} (h : scanDigits s = some (digits, rest)) :
    IsDigits digits := by
  refine ⟨(scanDigits_append h).2, ?_⟩
  simp only [scanDigits] at h
  split at h
  · cases h
  · simp only [Option.some.injEq, Prod.mk.injEq] at h
    obtain ⟨rfl, -⟩ := h
    exact List.all_eq_true.1 List.all_takeWhile

/-- Nothing but a digit prolongs a row of digits. -/
theorem scanDigits_text {s rest : Bytes} (h : IsDigits s)
    (hrest : ∀ b, rest.head? = some b → isDigit b = false) :
    scanDigits (s ++ rest) = some (s, rest) := by
  simp only [scanDigits, takeWhile_run h.digit hrest, dropWhile_run h.digit hrest]
  rw [if_neg (by simpa using h.ne_nil)]

/-! ## Numbers -/

theorem isWhole_of_scanWhole {s digits rest : Bytes} (h : scanWhole s = some (digits, rest)) :
    IsWhole digits := by
  simp only [scanWhole, Option.bind_eq_bind, Option.bind_eq_some_iff] at h
  obtain ⟨⟨d, r⟩, hd, h⟩ := h
  split at h
  · cases h
  · rename_i hzero
    simp only [Option.some.injEq, Prod.mk.injEq] at h
    obtain ⟨rfl, rfl⟩ := h
    refine ⟨isDigits_of_scanDigits hd, fun hhead => ?_⟩
    have hlength : d.length = 1 := by simpa [hhead] using hzero
    obtain ⟨b, rfl⟩ := List.length_eq_one_iff.1 hlength
    rw [Option.some.inj hhead]

theorem scanWhole_text {s rest : Bytes} (h : IsWhole s)
    (hrest : ∀ b, rest.head? = some b → isDigit b = false) :
    scanWhole (s ++ rest) = some (s, rest) := by
  simp only [scanWhole, scanDigits_text h.toIsDigits hrest, Option.bind_eq_bind, Option.bind_some]
  rw [if_neg]
  intro hzero
  simp only [Bool.and_eq_true, beq_iff_eq, bne_iff_ne] at hzero
  rw [h.alone hzero.1] at hzero
  exact hzero.2 rfl

theorem isFraction_of_scanFraction {s text rest : Bytes}
    (h : scanFraction s = some (text, rest)) : IsFraction text := by
  unfold scanFraction at h
  split at h
  · simp only [Option.bind_eq_bind, Option.bind_eq_some_iff] at h
    obtain ⟨⟨d, r⟩, hd, h⟩ := h
    simp only [pure, Option.some.injEq, Prod.mk.injEq] at h
    obtain ⟨rfl, rfl⟩ := h
    exact .digits (isDigits_of_scanDigits hd)
  · simp only [Option.some.injEq, Prod.mk.injEq] at h
    rw [← h.1]
    exact .none

theorem scanFraction_text {s rest : Bytes} (h : IsFraction s)
    (hrest : ∀ b, rest.head? = some b → isDigit b = false ∧ b ≠ 46) :
    scanFraction (s ++ rest) = some (s, rest) := by
  cases h with
  | none =>
    unfold scanFraction
    split
    · rename_i tail heq
      exact absurd rfl (hrest 46 (by rw [show rest = 46 :: tail from heq]; rfl)).2
    · rfl
  | digits h =>
    simp only [List.cons_append, scanFraction, scanDigits_text h fun b hb => (hrest b hb).1]
    rfl

theorem isExponent_of_scanExponent {s text rest : Bytes}
    (h : scanExponent s = some (text, rest)) : IsExponent text := by
  unfold scanExponent at h
  split at h
  · simp only [Option.some.injEq, Prod.mk.injEq] at h
    rw [← h.1]
    exact .none
  · rename_i e s
    split at h
    · rename_i he
      simp only [Option.bind_eq_bind, Option.bind_eq_some_iff] at h
      obtain ⟨⟨d, r⟩, hd, h⟩ := h
      simp only [pure, Option.some.injEq, Prod.mk.injEq] at h
      obtain ⟨rfl, rfl⟩ := h
      refine .digits (by simpa using he) ?_ (isDigits_of_scanDigits hd)
      unfold scanSign
      split <;> simp
    · simp only [Option.some.injEq, Prod.mk.injEq] at h
      rw [← h.1]
      exact .none

/-- A sign is taken off; digits have none. -/
theorem scanSign_text {sign s : Bytes} (hsign : sign = [] ∨ sign = [43] ∨ sign = [45])
    (h : IsDigits s) (rest : Bytes) : scanSign (sign ++ (s ++ rest)) = (sign, s ++ rest) := by
  rcases hsign with rfl | rfl | rfl
  · obtain ⟨b, s, rfl⟩ := List.exists_cons_of_ne_nil h.ne_nil
    have hb : isDigit b = true := h.digit b (List.mem_cons_self ..)
    show scanSign (b :: (s ++ rest)) = ([], b :: (s ++ rest))
    unfold scanSign
    split
    · rename_i heq
      cases heq
      exact absurd hb (by decide)
    · rename_i heq
      cases heq
      exact absurd hb (by decide)
    · rfl
  · rfl
  · rfl

theorem scanExponent_text {s rest : Bytes} (h : IsExponent s)
    (hrest : ∀ b, rest.head? = some b → isDigit b = false ∧ b ≠ 101 ∧ b ≠ 69) :
    scanExponent (s ++ rest) = some (s, rest) := by
  cases h with
  | none =>
    cases rest with
    | nil => rfl
    | cons b rest =>
      obtain ⟨-, hlower, hupper⟩ := hrest b rfl
      simp [scanExponent, hlower, hupper]
  | @digits e sign s he hsign h =>
    have hmark : (e == 101 || e == 69) = true := by
      rcases he with rfl | rfl <;> rfl
    have hdigits := scanDigits_text h fun b hb => (hrest b hb).1
    rw [List.cons_append, List.cons_append, List.append_assoc]
    simp only [scanExponent, hmark, if_true, scanSign_text hsign h rest, hdigits]
    rfl

theorem isNumber_of_scanNumber {s text rest : Bytes} (h : scanNumber s = some (text, rest)) :
    IsNumber text := by
  simp only [scanNumber, Option.bind_eq_bind, Option.bind_eq_some_iff] at h
  obtain ⟨⟨w, r₁⟩, hw, ⟨f, r₂⟩, hf, ⟨e, r₃⟩, he, h⟩ := h
  simp only [pure, Option.some.injEq, Prod.mk.injEq] at h
  obtain ⟨rfl, rfl⟩ := h
  refine .parts ?_ (isWhole_of_scanWhole hw) (isFraction_of_scanFraction hf)
    (isExponent_of_scanExponent he)
  unfold scanMinus
  split <;> simp

/-- A minus is taken off; the whole part has none. -/
theorem scanMinus_text {minus s : Bytes} (hminus : minus = [] ∨ minus = [45]) (h : IsDigits s)
    (rest : Bytes) : scanMinus (minus ++ (s ++ rest)) = (minus, s ++ rest) := by
  rcases hminus with rfl | rfl
  · obtain ⟨b, s, rfl⟩ := List.exists_cons_of_ne_nil h.ne_nil
    have hb : isDigit b = true := h.digit b (List.mem_cons_self ..)
    show scanMinus (b :: (s ++ rest)) = ([], b :: (s ++ rest))
    unfold scanMinus
    split
    · rename_i heq
      cases heq
      exact absurd hb (by decide)
    · rfl
  · rfl

/-- What begins a fraction is no digit. -/
theorem head?_fraction {s rest : Bytes} (h : IsFraction s) {b : UInt8}
    (hb : (s ++ rest).head? = some b) : b = 46 ∨ rest.head? = some b := by
  cases h with
  | none => exact .inr hb
  | digits h => exact .inl (Option.some.inj hb).symm

/-- Nor is what begins an exponent. -/
theorem head?_exponent {s rest : Bytes} (h : IsExponent s) {b : UInt8}
    (hb : (s ++ rest).head? = some b) : b = 101 ∨ b = 69 ∨ rest.head? = some b := by
  cases h with
  | none => exact .inr (.inr hb)
  | digits he hsign h =>
    rw [← Option.some.inj hb]
    exact he.elim .inl fun hupper => .inr (.inl hupper)

/-- **A number is taken whole** in front of what it cannot run on into. -/
theorem scanNumber_text {text rest : Bytes} (h : IsNumber text) (hrest : ¬ RunsOn rest) :
    scanNumber (text ++ rest) = some (text, rest) := by
  have hstop : ∀ b, rest.head? = some b →
      isDigit b = false ∧ b ≠ 46 ∧ b ≠ 101 ∧ b ≠ 69 := by
    intro b hb
    refine ⟨Bool.eq_false_iff.2 fun hd => ?_, ?_, ?_, ?_⟩
    · exact hrest ⟨b, hb, .inl hd⟩
    · exact fun he => hrest ⟨b, hb, .inr (.inl he)⟩
    · exact fun he => hrest ⟨b, hb, .inr (.inr (.inl he))⟩
    · exact fun he => hrest ⟨b, hb, .inr (.inr (.inr he))⟩
  obtain @⟨minus, whole, fraction, exponent, hminus, hwhole, hfraction, hexponent⟩ := h
  -- Each part ends where the next one begins, or at `rest` if those after it are missing.
  have hexp := scanExponent_text hexponent fun b hb => ⟨(hstop b hb).1, (hstop b hb).2.2⟩
  have hfrac : scanFraction (fraction ++ (exponent ++ rest)) = some (fraction, exponent ++ rest) := by
    refine scanFraction_text hfraction fun b hb => ?_
    rcases head?_exponent hexponent hb with rfl | rfl | hb
    · decide
    · decide
    · exact ⟨(hstop b hb).1, (hstop b hb).2.1⟩
  have hwh : scanWhole (whole ++ (fraction ++ (exponent ++ rest))) =
      some (whole, fraction ++ (exponent ++ rest)) := by
    refine scanWhole_text hwhole fun b hb => ?_
    rcases head?_fraction hfraction hb with rfl | hb
    · decide
    · rcases head?_exponent hexponent hb with rfl | rfl | hb
      · decide
      · decide
      · exact (hstop b hb).1
  have hmin := scanMinus_text hminus hwhole.toIsDigits (fraction ++ (exponent ++ rest))
  simp only [List.append_assoc, scanNumber, hmin, hwh, hfrac, hexp, Option.bind_eq_bind,
    Option.bind_some]
  rfl

/-- A number begins with a minus or a digit. -/
theorem head?_number {s : Bytes} (h : IsNumber s) :
    ∃ b, s.head? = some b ∧ (b = 45 ∨ isDigit b = true) := by
  obtain @⟨minus, whole, fraction, exponent, hminus, hwhole, hfraction, hexponent⟩ := h
  obtain ⟨b, s, rfl⟩ := List.exists_cons_of_ne_nil hwhole.ne_nil
  rcases hminus with rfl | rfl
  · exact ⟨b, rfl, .inr (hwhole.digit b (List.mem_cons_self ..))⟩
  · exact ⟨45, rfl, .inl rfl⟩

/-! ## Strings -/

theorem isString_of_scanString {s inner rest : Bytes} (h : scanString s = some (inner, rest)) :
    IsString inner := by
  fun_induction scanString s generalizing inner rest with
  | case1 => cases h
  | case2 a b c d s hu ih =>
    simp only [Option.map_eq_some_iff, Prod.exists, Prod.mk.injEq] at h
    obtain ⟨i, r, hs, rfl, rfl⟩ := h
    exact .unit hu (ih hs)
  | case3 => cases h
  | case4 e s _ he ih =>
    simp only [Option.map_eq_some_iff, Prod.exists, Prod.mk.injEq] at h
    obtain ⟨i, r, hs, rfl, rfl⟩ := h
    exact .short he (ih hs)
  | case5 => cases h
  | case6 b s _ _ hb =>
    simp only [Option.some.injEq, Prod.mk.injEq] at h
    rw [← h.1]
    exact .nil
  | case7 => cases h
  | case8 b s _ _ hquote hrest ih =>
    simp only [Option.map_eq_some_iff, Prod.exists, Prod.mk.injEq] at h
    obtain ⟨i, r, hs, rfl, rfl⟩ := h
    simp only [Bool.or_eq_true, beq_iff_eq, decide_eq_true_eq, not_or] at hquote hrest
    exact .plain (UInt8.not_lt.1 hrest.2) hquote hrest.1 (ih hs)

/-- **A string is taken up to its closing quote.** -/
theorem scanString_text {inner : Bytes} (h : IsString inner) (rest : Bytes) :
    scanString (inner ++ 34 :: rest) = some (inner, rest) := by
  induction h with
  | nil => rfl
  | @plain b s hcontrol hquote hslash h ih =>
    have hcontrol : ¬ b < 32 := UInt8.not_lt.2 hcontrol
    rw [List.cons_append, scanString.eq_def]
    simp [hquote, hslash, hcontrol, ih]
  | @short e s he h ih =>
    have hu : e ≠ 117 := by
      rintro rfl
      cases he
    rw [List.cons_append, List.cons_append, scanString.eq_def]
    simp [hu, he, ih]
  | unit hu h ih =>
    simp only [List.cons_append, scanString, hu, if_true, ih]
    rfl

/-! ## Lexemes -/

/-- **What the scanner takes is a lexeme of the format.** -/
theorem proper_of_scanLexeme {s rest : Bytes} {l : Lexeme} (h : scanLexeme s = some (l, rest)) :
    l.Proper := by
  unfold scanLexeme at h
  split at h <;>
    simp only [Option.some.injEq, Prod.mk.injEq, Option.map_eq_some_iff, Prod.exists] at h
  case h_7 =>
    obtain ⟨inner, r, hs, rfl, rfl⟩ := h
    exact isString_of_scanString hs
  case h_11 =>
    obtain ⟨text, r, hs, rfl, rfl⟩ := h
    exact isNumber_of_scanNumber hs
  all_goals
    obtain ⟨rfl, rfl⟩ := h
    trivial

/-- What begins like a number is read as one. -/
theorem scanLexeme_number {b : UInt8} {s : Bytes} (h : b = 45 ∨ isDigit b = true) :
    scanLexeme (b :: s) = (scanNumber (b :: s)).map fun (text, rest) => (.number text, rest) := by
  unfold scanLexeme
  split
  case h_11 => rfl
  all_goals
    rename_i heq
    cases heq
    exact absurd h (by decide)

/-- **A proper lexeme is taken whole**; a number only in front of what it
cannot run on into. -/
theorem scanLexeme_text {l : Lexeme} (h : l.Proper) {rest : Bytes}
    (hrest : ∀ text, l = .number text → ¬ RunsOn rest) :
    scanLexeme (l.text ++ rest) = some (l, rest) := by
  cases l with
  | number text =>
    obtain ⟨b, hb, hbegin⟩ := head?_number h
    have hnumber := scanNumber_text h (hrest text rfl)
    obtain ⟨s, rfl⟩ : ∃ s, text = b :: s := by
      cases text with
      | nil => cases hb
      | cons c s => exact ⟨s, by rw [Option.some.inj hb]⟩
    rw [Lexeme.text, List.cons_append, scanLexeme_number hbegin, ← List.cons_append, hnumber]
    rfl
  | string inner =>
    show scanLexeme (34 :: (inner ++ [34]) ++ rest) = _
    rw [List.cons_append, List.append_assoc]
    simp only [scanLexeme, List.cons_append, List.nil_append, scanString_text h rest]
    rfl
  | word w => cases w <;> rfl
  | _ => rfl

/-- A lexeme does not begin with a blank. -/
theorem head?_text {l : Lexeme} (h : l.Proper) {rest : Bytes} {b : UInt8}
    (hb : (l.text ++ rest).head? = some b) : isBlank b = false := by
  cases l with
  | number text =>
    obtain ⟨c, hc, hbegin⟩ := head?_number h
    rw [Lexeme.text, List.head?_append, hc] at hb
    obtain rfl : c = b := Option.some.inj hb
    rcases hbegin with rfl | hdigit
    · rfl
    · exact isBlank_of_isDigit hdigit
  | word w =>
    cases w <;>
    · cases hb
      rfl
  | _ =>
    cases hb
    rfl

end Json

end NotificationFeed
