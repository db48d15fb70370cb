import Mathlib.Data.Nat.Digits.Defs
import NotificationFeed.Settings.Scalar
/-!
# Settings — the numbers that are read

A number in a setting is read digit by digit, and the reading stops where the
bound is reached. A numeral is said here without a reader (`Numeral`): decimal
digits, one at least, and their value. What is read as a number below a bound
is what is a numeral of it (`readNumber_eq_ok_iff`): no digit is lost on the
way and none is rounded.
-/

namespace NotificationFeed

namespace Settings

/-- **A text is a numeral of a number**: its digits, after a plus if one likes. -/
def Numeral (n : Nat) (text : String) : Prop :=
  ∃ digits : List Nat, digits ≠ [] ∧ (∀ d ∈ digits, d < 10) ∧
    n = Nat.ofDigits 10 digits.reverse ∧
    (text.toList = digits.map Nat.digitChar ∨ text.toList = '+' :: digits.map Nat.digitChar)

/-- A character is a digit when it is the character of one. -/
theorem digit?_eq_some_iff {c : Char} {d : Nat} :
    digit? c = some d ↔ d < 10 ∧ c = Nat.digitChar d := by
  have hzero : '0'.toNat = 48 := rfl
  have hbounds : ('0' ≤ c ∧ c ≤ '9') ↔ 48 ≤ c.toNat ∧ c.toNat ≤ 57 := Iff.rfl
  unfold digit?
  constructor
  · intro h
    split at h
    · rename_i hdigit
      have hvalue := hbounds.1 hdigit
      obtain rfl := Option.some.inj h
      have hlt : c.toNat - '0'.toNat < 10 := by omega
      refine ⟨hlt, Char.toNat_inj.1 ?_⟩
      rw [Nat.toNat_digitChar_of_lt_ten hlt]
      omega
    · cases h
  · rintro ⟨hlt, rfl⟩
    have hvalue := Nat.toNat_digitChar_of_lt_ten hlt
    rw [if_pos (hbounds.2 (by omega)), hvalue, hzero, Nat.add_sub_cancel_left]

/-- The number that digits make of one that stands before them. -/
def extend (n : Nat) (digits : List Nat) : Nat := digits.foldl (fun n d => n * 10 + d) n

theorem le_extend (n : Nat) (digits : List Nat) : n ≤ extend n digits := by
  induction digits generalizing n with
  | nil => exact Nat.le_refl n
  | cons d digits ih => exact Nat.le_trans (by omega) (ih (n * 10 + d))

theorem extend_zero (digits : List Nat) : extend 0 digits = Nat.ofDigits 10 digits.reverse := by
  rw [Nat.ofDigits_eq_foldr, List.foldr_reverse, extend]
  congr 1
  funext n d
  show n * 10 + d = d + 10 * n
  omega

/-- Digits are read as the number they make, if that is below the bound. -/
theorem readDigits_map {bound n : Nat} {digits : List Nat} (hdigits : ∀ d ∈ digits, d < 10)
    (hbound : extend n digits < bound) :
    readDigits bound n (digits.map Nat.digitChar) = .ok (extend n digits) := by
  induction digits generalizing n with
  | nil => rfl
  | cons d rest ih =>
    obtain ⟨hd, hrest⟩ := List.forall_mem_cons.1 hdigits
    -- No number on the way is greater than the one at the end.
    have hlt : n * 10 + d < bound := Nat.lt_of_le_of_lt (le_extend (n * 10 + d) rest) hbound
    rw [List.map_cons, readDigits, digit?_eq_some_iff.2 ⟨hd, rfl⟩]
    simp only [if_pos hlt]
    exact ih hrest hbound

/-- And nothing else is read. -/
theorem of_readDigits {bound n m : Nat} {cs : List Char} (hn : n < bound)
    (h : readDigits bound n cs = .ok m) :
    m < bound ∧ ∃ digits : List Nat, (∀ d ∈ digits, d < 10) ∧ cs = digits.map Nat.digitChar ∧
      m = extend n digits := by
  induction cs generalizing n with
  | nil =>
    obtain rfl := Except.ok.inj h
    exact ⟨hn, [], nofun, rfl, rfl⟩
  | cons c cs ih =>
    rw [readDigits] at h
    cases hdigit : digit? c with
    | none =>
      rw [hdigit] at h
      cases h
    | some d =>
      obtain ⟨hd, rfl⟩ := digit?_eq_some_iff.1 hdigit
      simp only [hdigit] at h
      split at h
      · rename_i hlt
        obtain ⟨hm, digits, hdigits, rfl, hvalue⟩ := ih hlt h
        exact ⟨hm, d :: digits, List.forall_mem_cons.2 ⟨hd, hdigits⟩, rfl, hvalue⟩
      · cases h

/-- A number is read behind its plus, or from where it begins. -/
theorem readNumber_of_digits {bound : Nat} {text : String} {digits : List Nat}
    (hne : digits ≠ []) (hdigits : ∀ d ∈ digits, d < 10)
    (h : text.toList = digits.map Nat.digitChar ∨ text.toList = '+' :: digits.map Nat.digitChar) :
    readNumber bound text = readDigits bound 0 (digits.map Nat.digitChar) := by
  obtain ⟨d, rest, rfl⟩ := List.exists_cons_of_ne_nil hne
  have hplus : Nat.digitChar d ≠ '+' := by
    intro hplus
    have hdigit := digit?_eq_some_iff.2 ⟨hdigits d List.mem_cons_self, hplus.symm⟩
    cases hdigit
  rw [List.map_cons] at h ⊢
  unfold readNumber
  rcases h with h | h
  · rw [h]
    split
    · rename_i heq
      cases heq
    · rename_i heq
      exact absurd (List.head_eq_of_cons_eq heq) hplus
    · rename_i heq
      exact absurd (List.head_eq_of_cons_eq heq) hplus
    · rfl
  · rw [h]
    rfl

/-- **A number below a bound is read from its numerals and from nothing else.** -/
theorem readNumber_eq_ok_iff {bound n : Nat} {text : String} (hbound : 0 < bound) :
    readNumber bound text = .ok n ↔ n < bound ∧ Numeral n text := by
  constructor
  · intro h
    have hnumeral : ∀ cs : List Char, cs ≠ [] → readDigits bound 0 cs = .ok n →
        text.toList = cs ∨ text.toList = '+' :: cs → n < bound ∧ Numeral n text := by
      intro cs hne hread htext
      obtain ⟨hn, digits, hdigits, rfl, rfl⟩ := of_readDigits hbound hread
      exact ⟨hn, digits, fun hnil => hne (by rw [hnil]; rfl), hdigits, extend_zero digits, htext⟩
    unfold readNumber at h
    split at h
    · cases h
    · cases h
    · rename_i cs hne htext
      exact hnumeral cs hne h (.inr htext)
    · rename_i hne _ _
      exact hnumeral text.toList hne h (.inl rfl)
  · rintro ⟨hn, digits, hne, hdigits, rfl, htext⟩
    rw [readNumber_of_digits hne hdigits htext, ← extend_zero]
    rw [← extend_zero] at hn
    exact readDigits_map hdigits hn

/-- A flag is one of two words. -/
theorem readFlag_eq_ok_iff {text : String} {flag : Bool} :
    readFlag text = .ok flag ↔ (flag = true ∧ text = "true") ∨ (flag = false ∧ text = "false") := by
  unfold readFlag
  by_cases htrue : text = "true"
  · subst htrue
    cases flag <;> simp
  · by_cases hfalse : text = "false"
    · subst hfalse
      cases flag <;> simp
    · simp [htrue, hfalse]

end Settings

end NotificationFeed
