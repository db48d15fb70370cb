import Mathlib.Tactic.Ring
import NotificationFeed.Wire.Message
/-!
# The wire — how a message is written

The format says which bytes make up a number, a key, a value and a message;
it is stated here without the reader (`IsVarint`, `IsKey`, `IsBody`,
`IsValue`, `IsMessage`). Each part ends where it says itself that it ends, so
the reader takes a part exactly where the format has one (`takeVarint_eq_some`
to `fieldsOf_eq_some`). A number may be written longer than it needs, and a
value that nobody knows has to be laid out as its key says, groups within
groups down to a depth.
-/

namespace NotificationFeed

namespace Wire

variable {s rest : Bytes}

/-! ## The format -/

/-- **Groups of seven bits**: every one but the last is marked as followed by
another. -/
inductive IsGroups : Bytes → Prop
  | last {b : UInt8} (h : b < 128) : IsGroups [b]
  | more {b : UInt8} {s : Bytes} (h : 128 ≤ b) (hs : IsGroups s) : IsGroups (b :: s)

/-- What groups of seven bits are worth, the lowest first. -/
def worth : Bytes → Nat
  | [] => 0
  | b :: s => b.toNat % 128 + 128 * worth s

/-- **A number of 64 bits**: at most ten groups, as many as the writer likes. -/
structure IsVarint (s : Bytes) (n : UInt64) : Prop where
  groups : IsGroups s
  short : s.length ≤ 10
  value : worth s = n.toNat

/-- The largest number of a field. -/
def maxField : Nat := 2 ^ 29 - 1

/-- **A key**: the number of a field, and in the lowest three bits the form of
its value. -/
structure IsKey (s : Bytes) (key : Key) : Prop where
  varint : IsVarint s (UInt64.ofNat (key.field * 8 + key.form.number))
  positive : 0 < key.field
  small : key.field ≤ maxField

/-- **A run of bytes behind its length.** -/
inductive IsSized : Bytes → Bytes → Prop
  | behind {l b : Bytes} {n : UInt64} (hl : IsVarint l n) (hn : b.length = n.toNat) :
      IsSized (l ++ b) b

/-- **A value that is not a group.** -/
inductive IsPlain : Form → Bytes → Prop
  | varint {s : Bytes} {n : UInt64} (h : IsVarint s n) : IsPlain .varint s
  | fixed64 {s : Bytes} (h : s.length = 8) : IsPlain .fixed64 s
  | sized {s b : Bytes} (h : IsSized s b) : IsPlain .sized s
  | fixed32 {s : Bytes} (h : s.length = 4) : IsPlain .fixed32 s

/-- **What stands in a group**, the mark that ends it included, where `depth`
groups are open with this one. At the greatest depth nothing but that mark
may follow. -/
inductive IsBody : (depth field : Nat) → Bytes → Prop
  | close {depth field : Nat} {k : Bytes} (hk : IsKey k ⟨field, .groupEnd⟩) : IsBody depth field k
  | plain {depth field : Nat} {k v s : Bytes} {key : Key} (hdepth : depth < maxDepth)
      (hk : IsKey k key) (hv : IsPlain key.form v) (hs : IsBody depth field s) :
      IsBody depth field (k ++ v ++ s)
  | group {depth field inner : Nat} {k v s : Bytes} (hdepth : depth < maxDepth)
      (hk : IsKey k ⟨inner, .groupStart⟩) (hv : IsBody (depth + 1) inner v)
      (hs : IsBody depth field s) : IsBody depth field (k ++ v ++ s)

/-- **A value**, and what it is for a reader who knows its field. -/
inductive IsValue : Key → Bytes → Value → Prop
  | number {field : Nat} {s : Bytes} {n : UInt64} (h : IsVarint s n) :
      IsValue ⟨field, .varint⟩ s (.number n)
  | sized {field : Nat} {s b : Bytes} (h : IsSized s b) : IsValue ⟨field, .sized⟩ s (.sized b)
  | fixed64 {field : Nat} {s : Bytes} (h : s.length = 8) : IsValue ⟨field, .fixed64⟩ s .other
  | fixed32 {field : Nat} {s : Bytes} (h : s.length = 4) : IsValue ⟨field, .fixed32⟩ s .other
  | group {field : Nat} {s : Bytes} (h : IsBody 1 field s) :
      IsValue ⟨field, .groupStart⟩ s .other

/-- **A message**: its fields one after another. -/
inductive IsMessage : Bytes → Fields → Prop
  | nil : IsMessage [] []
  | cons {k v s : Bytes} {key : Key} {value : Value} {fields : Fields} (hk : IsKey k key)
      (hv : IsValue key v value) (hs : IsMessage s fields) :
      IsMessage (k ++ v ++ s) ((key.field, value) :: fields)

/-! ## Numbers -/

theorem IsGroups.ne_nil (h : IsGroups s) : s ≠ [] := by
  cases h <;> exact List.cons_ne_nil _ _

theorem worth_singleton {b : UInt8} (h : b < 128) : worth [b] = b.toNat := by
  have hsmall : b.toNat < 128 := h
  simp only [worth]
  omega

theorem worth_cons {b : UInt8} (h : 128 ≤ b) (s : Bytes) :
    worth (b :: s) = (b.toNat - 128) + 128 * worth s := by
  have hlarge : 128 ≤ b.toNat := h
  have hbyte := b.toNat_lt
  simp only [worth]
  omega

theorem takeGroups_of_groups {t : Bytes} (h : IsGroups t) {left : Nat} (scale : Nat)
    (hlength : t.length ≤ left + 1) (hworth : worth t < 2 * 128 ^ left) :
    takeGroups (left + 1) scale (t ++ rest) = some (scale * worth t, rest) := by
  induction h generalizing left scale with
  | @last b hb =>
    have hsmall : b.toNat < 128 := hb
    -- Of the tenth group only one bit is left in 64.
    have hbit : ¬ (left = 0 ∧ 1 < b) := by
      rintro ⟨rfl, hone⟩
      have : 1 < b.toNat := hone
      simp only [worth] at hworth
      omega
    rw [List.singleton_append, takeGroups, if_pos hb, if_neg hbit, worth_singleton hb,
      Nat.mul_comm]
  | @more b t hb ht ih =>
    have hlarge : 128 ≤ b.toNat := hb
    have hbyte := b.toNat_lt
    cases left with
    | zero =>
      have := List.length_pos_iff.2 ht.ne_nil
      simp only [List.length_cons] at hlength
      omega
    | succ left =>
      simp only [List.length_cons] at hlength
      rw [worth_cons hb] at hworth ⊢
      rw [Nat.pow_succ] at hworth
      rw [List.cons_append, takeGroups, if_neg (by simpa using hb),
        ih (scale * 128) (by omega) (by omega), Option.map_some]
      have hscale : (b.toNat - 128) * scale + scale * 128 * worth t =
          scale * (b.toNat - 128 + 128 * worth t) := by ring
      simp only [hscale]

theorem groups_of_takeGroups {left scale n : Nat}
    (h : takeGroups (left + 1) scale s = some (n, rest)) :
    ∃ t, s = t ++ rest ∧ IsGroups t ∧ t.length ≤ left + 1 ∧ worth t < 2 * 128 ^ left ∧
      n = scale * worth t := by
  induction s generalizing left scale n with
  | nil => cases h
  | cons b s ih =>
    rw [takeGroups] at h
    split at h
    · rename_i hb
      split at h
      · cases h
      · rename_i hbit
        simp only [Option.some.injEq, Prod.mk.injEq] at h
        obtain ⟨rfl, rfl⟩ := h
        refine ⟨[b], rfl, .last hb, by simp, ?_, by rw [worth_singleton hb, Nat.mul_comm]⟩
        rw [worth_singleton hb]
        -- The last group is one bit if it is the tenth, and any seven bits before that.
        cases left with
        | zero =>
          have hone : ¬ 1 < b.toNat := fun hone => hbit ⟨rfl, hone⟩
          omega
        | succ left =>
          have hsmall : b.toNat < 128 := hb
          have hpow := Nat.one_le_pow left 128 (by omega)
          rw [Nat.pow_succ]
          omega
    · rename_i hb
      have hlarge : 128 ≤ b := by simpa using hb
      have hbyte := b.toNat_lt
      simp only [Option.map_eq_some_iff, Prod.exists, Prod.mk.injEq] at h
      obtain ⟨m, s', hrest, rfl, rfl⟩ := h
      cases left with
      | zero => simp [takeGroups] at hrest
      | succ left =>
        obtain ⟨t, rfl, ht, hlength, hworth, rfl⟩ := ih hrest
        refine ⟨b :: t, rfl, .more hlarge ht, by simpa using hlength, ?_, ?_⟩
        · rw [worth_cons hlarge, Nat.pow_succ]
          omega
        · rw [worth_cons hlarge]
          ring

/-- A number is taken whole, whatever follows it. -/
theorem IsVarint.take {n : UInt64} (h : IsVarint s n) (rest : Bytes) :
    takeVarint (s ++ rest) = some (n, rest) := by
  have hworth : worth s < 2 * 128 ^ 9 := by
    have := n.toNat_lt
    rw [h.value]
    omega
  rw [takeVarint, takeGroups_of_groups h.groups 1 h.short hworth, Option.map_some, Nat.one_mul,
    h.value]
  simp only [UInt64.ofNat_toNat]

/-- **The reader takes a number exactly where the format has one.** -/
theorem takeVarint_eq_some {n : UInt64} :
    takeVarint s = some (n, rest) ↔ ∃ t, s = t ++ rest ∧ IsVarint t n := by
  constructor
  · intro h
    simp only [takeVarint, Option.map_eq_some_iff, Prod.exists, Prod.mk.injEq] at h
    obtain ⟨m, s', htake, rfl, rfl⟩ := h
    obtain ⟨t, rfl, ht, hlength, hworth, rfl⟩ := groups_of_takeGroups htake
    refine ⟨t, rfl, ht, hlength, ?_⟩
    rw [Nat.one_mul, UInt64.toNat_ofNat_of_lt' (by simp only [UInt64.size]; omega)]
  · rintro ⟨t, rfl, ht⟩
    exact ht.take rest

theorem IsVarint.ne_nil {n : UInt64} (h : IsVarint s n) : s ≠ [] := h.groups.ne_nil

/-! ## Keys -/

theorem Form.ofNumber?_eq_some {n : Nat} {form : Form} :
    Form.ofNumber? n = some form ↔ n = form.number := by
  constructor
  · intro h
    unfold Form.ofNumber? at h
    split at h <;> cases h <;> rfl
  · rintro rfl
    cases form <;> rfl

theorem Form.number_lt (form : Form) : form.number < 8 := by
  cases form <;> decide

/-- The number a key is written as. -/
theorem IsKey.number {key : Key} (h : IsKey s key) :
    (UInt64.ofNat (key.field * 8 + key.form.number)).toNat = key.field * 8 + key.form.number := by
  have hsmall := h.small
  have hform := key.form.number_lt
  unfold maxField at hsmall
  exact UInt64.toNat_ofNat_of_lt' (by simp only [UInt64.size]; omega)

theorem IsKey.ne_nil {key : Key} (h : IsKey s key) : s ≠ [] := h.varint.ne_nil

/-- A key is taken whole, whatever follows it. -/
theorem IsKey.take {key : Key} (h : IsKey s key) (rest : Bytes) :
    takeKey (s ++ rest) = some (key, rest) := by
  have hform := key.form.number_lt
  have hpositive := h.positive
  have hsmall := h.small
  simp only [maxField] at hsmall
  simp only [takeKey, h.varint.take, Option.bind_eq_bind, Option.bind_some, h.number]
  rw [if_neg (by simp only [UInt32.size]; omega),
    show (key.field * 8 + key.form.number) % 8 = key.form.number by omega,
    Form.ofNumber?_eq_some.2 rfl, Option.bind_some, if_neg (by omega),
    show (key.field * 8 + key.form.number) / 8 = key.field by omega]

/-- **The reader takes a key exactly where the format has one.** -/
theorem takeKey_eq_some {key : Key} :
    takeKey s = some (key, rest) ↔ ∃ k, s = k ++ rest ∧ IsKey k key := by
  constructor
  · intro h
    simp only [takeKey, Option.bind_eq_bind, Option.bind_eq_some_iff, Prod.exists] at h
    obtain ⟨n, s', hn, h⟩ := h
    split at h
    · cases h
    rename_i hsize
    obtain ⟨form, hform, h⟩ := Option.bind_eq_some_iff.1 h
    split at h
    · cases h
    rename_i hfield
    simp only [Option.some.injEq, Prod.mk.injEq] at h
    obtain ⟨rfl, rfl⟩ := h
    obtain ⟨k, rfl, hk⟩ := takeVarint_eq_some.1 hn
    have hnumber : n.toNat / 8 * 8 + form.number = n.toNat := by
      rw [← Form.ofNumber?_eq_some.1 hform]
      omega
    refine ⟨k, rfl, ?_, Nat.pos_of_ne_zero hfield, ?_⟩
    · rw [hnumber, UInt64.ofNat_toNat]
      exact hk
    · simp only [maxField, UInt32.size] at *
      omega
  · rintro ⟨k, rfl, hk⟩
    exact hk.take rest

/-! ## Values -/

theorem takeBytes_eq_some {count : Nat} {b : Bytes} :
    takeBytes count s = some (b, rest) ↔ s = b ++ rest ∧ b.length = count := by
  unfold takeBytes
  constructor
  · intro h
    split at h
    · rename_i hcount
      simp only [Option.some.injEq, Prod.mk.injEq] at h
      obtain ⟨rfl, rfl⟩ := h
      exact ⟨(List.take_append_drop count s).symm, List.length_take_of_le hcount⟩
    · cases h
  · rintro ⟨rfl, rfl⟩
    rw [if_pos (by simp), List.take_left, List.drop_left]

/-- Bytes behind their length are taken whole. -/
theorem IsSized.take {b : Bytes} (h : IsSized s b) (rest : Bytes) :
    takeSized (s ++ rest) = some (b, rest) := by
  obtain ⟨hl, hn⟩ := h
  rw [List.append_assoc]
  simp only [takeSized, hl.take, Option.bind_eq_bind, Option.bind_some]
  exact takeBytes_eq_some.2 ⟨rfl, hn⟩

theorem isSized_of_takeSized {b : Bytes} (h : takeSized s = some (b, rest)) :
    ∃ t, s = t ++ rest ∧ IsSized t b := by
  simp only [takeSized, Option.bind_eq_bind, Option.bind_eq_some_iff, Prod.exists] at h
  obtain ⟨n, s', hn, hb⟩ := h
  obtain ⟨l, rfl, hl⟩ := takeVarint_eq_some.1 hn
  obtain ⟨rfl, hlength⟩ := takeBytes_eq_some.1 hb
  exact ⟨l ++ b, by simp, .behind hl hlength⟩

/-- A value that is not a group is skipped whole. -/
theorem IsPlain.skip {form : Form} (h : IsPlain form s) (rest : Bytes) :
    skipPlain form (s ++ rest) = some rest := by
  cases h with
  | varint h => simp [skipPlain, h.take]
  | fixed64 h => simp [skipPlain, takeBytes_eq_some.2 ⟨rfl, h⟩]
  | sized h => simp [skipPlain, h.take]
  | fixed32 h => simp [skipPlain, takeBytes_eq_some.2 ⟨rfl, h⟩]

theorem isPlain_of_skipPlain {form : Form} (h : skipPlain form s = some rest) :
    ∃ t, s = t ++ rest ∧ IsPlain form t := by
  cases form with
  | varint =>
    obtain ⟨⟨n, s'⟩, hn, rfl⟩ := Option.map_eq_some_iff.1 h
    obtain ⟨t, ht, hv⟩ := takeVarint_eq_some.1 hn
    exact ⟨t, ht, .varint hv⟩
  | fixed64 =>
    obtain ⟨⟨b, s'⟩, hb, rfl⟩ := Option.map_eq_some_iff.1 h
    obtain ⟨hs, hlength⟩ := takeBytes_eq_some.1 hb
    exact ⟨b, hs, .fixed64 hlength⟩
  | sized =>
    obtain ⟨⟨b, s'⟩, hb, rfl⟩ := Option.map_eq_some_iff.1 h
    obtain ⟨t, ht, hsized⟩ := isSized_of_takeSized hb
    exact ⟨t, ht, .sized hsized⟩
  | fixed32 =>
    obtain ⟨⟨b, s'⟩, hb, rfl⟩ := Option.map_eq_some_iff.1 h
    obtain ⟨hs, hlength⟩ := takeBytes_eq_some.1 hb
    exact ⟨b, hs, .fixed32 hlength⟩
  | groupStart => cases h
  | groupEnd => cases h

/-! ## Groups

The reader keeps the open groups in a row, innermost first, and counts the
fields it may still meet; the format nests. A row of open groups is closed by
one body for each, and a body holds at least as many bytes as fields. -/

@[simp] theorem skipGroups_nil (fuel : Nat) (s : Bytes) : skipGroups fuel [] s = some s := by
  cases fuel <;> rfl

/-- **What closes a row of open groups**, innermost first. -/
inductive Closes : List Nat → Bytes → Prop
  | nil : Closes [] []
  | cons {field : Nat} {outer : List Nat} {b s : Bytes}
      (hb : IsBody (outer.length + 1) field b) (hs : Closes outer s) :
      Closes (field :: outer) (b ++ s)

section Closes

variable {field inner : Nat} {outer : List Nat} {k v : Bytes}

theorem Closes.plain {key : Key} (hdepth : outer.length + 1 < maxDepth) (hk : IsKey k key)
    (hv : IsPlain key.form v) (h : Closes (field :: outer) s) :
    Closes (field :: outer) (k ++ v ++ s) := by
  obtain _ | ⟨hb, hs⟩ := h
  rw [← List.append_assoc]
  exact .cons (.plain hdepth hk hv hb) hs

theorem Closes.group (hdepth : outer.length + 1 < maxDepth) (hk : IsKey k ⟨inner, .groupStart⟩)
    (h : Closes (inner :: field :: outer) s) : Closes (field :: outer) (k ++ s) := by
  obtain _ | ⟨hinner, h⟩ := h
  obtain _ | ⟨hb, hs⟩ := h
  rw [← List.append_assoc, ← List.append_assoc]
  exact .cons (.group hdepth hk hinner hb) hs

end Closes

theorem closes_of_skipGroups {fuel : Nat} {row : List Nat} (h : skipGroups fuel row s = some rest) :
    ∃ t, s = t ++ rest ∧ Closes row t := by
  induction fuel generalizing row s with
  | zero =>
    cases row with
    | nil => exact ⟨[], by simpa using h, .nil⟩
    | cons field outer => cases h
  | succ fuel ih =>
    cases row with
    | nil => exact ⟨[], by simpa using h, .nil⟩
    | cons field outer =>
      rw [skipGroups] at h
      cases hkey : takeKey s with
      | none => simp [hkey] at h
      | some taken =>
        obtain ⟨⟨number, form⟩, s'⟩ := taken
        obtain ⟨k, rfl, hk⟩ := takeKey_eq_some.1 hkey
        simp only [hkey] at h
        cases form with
        | groupStart =>
          -- The row grows by the inner group, and what closes the longer row closes this one.
          simp only at h
          split at h
          · cases h
          · rename_i hdepth
            obtain ⟨t, rfl, ht⟩ := ih h
            exact ⟨k ++ t, by simp, ht.group (by simpa using hdepth) hk⟩
        | groupEnd =>
          simp only at h
          split at h
          · rename_i hfield
            subst hfield
            obtain ⟨t, rfl, ht⟩ := ih h
            exact ⟨k ++ t, by simp, .cons (.close hk) ht⟩
          · cases h
        | varint | fixed64 | sized | fixed32 =>
          simp only at h
          split at h
          · cases h
          · rename_i hdepth
            split at h
            · cases h
            · rename_i hskip
              obtain ⟨v, rfl, hv⟩ := isPlain_of_skipPlain hskip
              obtain ⟨t, rfl, ht⟩ := ih h
              exact ⟨k ++ v ++ t, by simp, ht.plain (by simpa using hdepth) hk hv⟩

/-- **A body is skipped whole**, with one field for each it has, and then the
groups around it are open as before. -/
theorem IsBody.skip {depth field : Nat} (h : IsBody depth field s) (outer : List Nat)
    (hdepth : outer.length + 1 = depth) :
    ∃ used ≤ s.length, ∀ fuel rest,
      skipGroups (fuel + used) (field :: outer) (s ++ rest) = skipGroups fuel outer rest := by
  induction h generalizing outer with
  | close hk =>
    refine ⟨1, List.length_pos_iff.2 hk.ne_nil, fun fuel rest => ?_⟩
    rw [skipGroups, hk.take]
    simp
  | @plain depth field k v s key hlt hk hv hs ih =>
    obtain ⟨used, hused, hskip⟩ := ih outer hdepth
    have hlength := List.length_pos_iff.2 hk.ne_nil
    refine ⟨used + 1, by simp; omega, fun fuel rest => ?_⟩
    obtain ⟨number, form⟩ := key
    have hplain := hv.skip (s ++ rest)
    rw [← Nat.add_assoc, skipGroups, List.append_assoc, List.append_assoc, hk.take]
    cases hv <;> simp only [List.length_cons, hplain] <;> rw [if_neg (by omega), hskip]
  | @group depth field inner k v s hlt hk hv hs ihv ihs =>
    -- The inner group is skipped with this one open around it, and then the rest of this one.
    obtain ⟨usedv, husedv, hskipv⟩ := ihv (field :: outer) (by simp [hdepth])
    obtain ⟨used, hused, hskip⟩ := ihs outer hdepth
    have hlength := List.length_pos_iff.2 hk.ne_nil
    refine ⟨used + usedv + 1, by simp; omega, fun fuel rest => ?_⟩
    rw [← Nat.add_assoc, ← Nat.add_assoc, skipGroups, List.append_assoc, List.append_assoc,
      hk.take]
    simp only [List.length_cons]
    rw [if_neg (by omega), hskipv, hskip]

/-! ## Messages -/

/-- A value is taken whole, whatever follows it. -/
theorem IsValue.take {key : Key} {value : Value} (h : IsValue key s value) (rest : Bytes) :
    takeValue key (s ++ rest) = some (value, rest) := by
  cases h with
  | number h => simp [takeValue, h.take]
  | sized h => simp [takeValue, h.take]
  | fixed64 h => simp [takeValue, Wire.skip, (IsPlain.fixed64 h).skip]
  | fixed32 h => simp [takeValue, Wire.skip, (IsPlain.fixed32 h).skip]
  | group hbody =>
    obtain ⟨used, hused, hskip⟩ := hbody.skip [] rfl
    have hfuel : (s ++ rest).length = (s ++ rest).length - used + used := by
      rw [List.length_append]
      omega
    simp only [takeValue, Wire.skip]
    rw [hfuel, hskip, skipGroups_nil, Option.map_some]

theorem isValue_of_takeValue {key : Key} {value : Value}
    (h : takeValue key s = some (value, rest)) : ∃ t, s = t ++ rest ∧ IsValue key t value := by
  obtain ⟨field, form⟩ := key
  cases form with
  | varint =>
    simp only [takeValue, Option.map_eq_some_iff, Prod.exists, Prod.mk.injEq] at h
    obtain ⟨n, s', hn, rfl, rfl⟩ := h
    obtain ⟨t, ht, hv⟩ := takeVarint_eq_some.1 hn
    exact ⟨t, ht, .number hv⟩
  | sized =>
    simp only [takeValue, Option.map_eq_some_iff, Prod.exists, Prod.mk.injEq] at h
    obtain ⟨b, s', hb, rfl, rfl⟩ := h
    obtain ⟨t, ht, hsized⟩ := isSized_of_takeSized hb
    exact ⟨t, ht, .sized hsized⟩
  | fixed64 =>
    simp only [takeValue, Option.map_eq_some_iff, Prod.mk.injEq] at h
    obtain ⟨s', hs, rfl, rfl⟩ := h
    obtain ⟨t, ht, hplain⟩ := isPlain_of_skipPlain (show skipPlain .fixed64 s = some s' from hs)
    cases hplain with
    | fixed64 hlength => exact ⟨t, ht, .fixed64 hlength⟩
  | fixed32 =>
    simp only [takeValue, Option.map_eq_some_iff, Prod.mk.injEq] at h
    obtain ⟨s', hs, rfl, rfl⟩ := h
    obtain ⟨t, ht, hplain⟩ := isPlain_of_skipPlain (show skipPlain .fixed32 s = some s' from hs)
    cases hplain with
    | fixed32 hlength => exact ⟨t, ht, .fixed32 hlength⟩
  | groupStart =>
    simp only [takeValue, Option.map_eq_some_iff, Prod.mk.injEq] at h
    obtain ⟨s', hs, rfl, rfl⟩ := h
    obtain ⟨t, ht, hcloses⟩ := closes_of_skipGroups hs
    obtain _ | ⟨hb, hnil⟩ := hcloses
    cases hnil
    exact ⟨_, by simpa using ht, .group hb⟩
  | groupEnd => simp [takeValue, Wire.skip] at h

/-- **The reader reads a message exactly where the format has one**, since
every field takes at least one byte. -/
theorem takeFields_eq_some {fuel : Nat} (hfuel : s.length ≤ fuel) {fields : Fields} :
    takeFields fuel s = some fields ↔ IsMessage s fields := by
  constructor
  · intro h
    -- What was read is a message, however much fuel there was.
    clear hfuel
    induction fuel generalizing s fields with
    | zero =>
      cases s with
      | nil =>
        obtain rfl := Option.some.inj h
        exact .nil
      | cons b s => cases h
    | succ fuel ih =>
      cases s with
      | nil =>
        obtain rfl := Option.some.inj h
        exact .nil
      | cons b s =>
        simp only [takeFields, Option.bind_eq_bind, Option.bind_eq_some_iff, Prod.exists] at h
        obtain ⟨key, s', hkey, value, s'', hvalue, later, hlater, hfields⟩ := h
        obtain rfl := Option.some.inj hfields
        obtain ⟨k, hs, hk⟩ := takeKey_eq_some.1 hkey
        obtain ⟨v, rfl, hv⟩ := isValue_of_takeValue hvalue
        rw [hs, ← List.append_assoc]
        exact .cons hk hv (ih hlater)
  · intro h
    induction h generalizing fuel with
    | nil => cases fuel <;> rfl
    | @cons k v s key value fields hk hv hs ih =>
      have hlength := List.length_pos_iff.2 hk.ne_nil
      obtain ⟨b, k', rfl⟩ := List.exists_cons_of_ne_nil hk.ne_nil
      simp only [List.length_append] at hfuel
      obtain ⟨fuel, rfl⟩ : ∃ n, fuel = n + 1 := ⟨fuel - 1, by omega⟩
      have hkey := hk.take (v ++ s)
      simp only [List.cons_append, List.append_assoc] at hkey ⊢
      simp only [takeFields, hkey, hv.take, ih (show s.length ≤ fuel by omega), Option.bind_eq_bind,
        Option.bind_some]
      rfl

theorem fieldsOf_eq_some {fields : Fields} : fieldsOf s = some fields ↔ IsMessage s fields :=
  takeFields_eq_some le_rfl

end Wire

end NotificationFeed
