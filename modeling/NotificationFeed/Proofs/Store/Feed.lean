import NotificationFeed.Proofs.Store.Numbering
/-!
# Stores — the feed and its pages

A feed is a rearrangement of a user's notifications. The order of a feed
breaks ties in the moment by the identifier, and identifiers are distinct in
a well-numbered store, so the feed descends strictly. A page is a slice of
it, and the slices of one size follow one another without gap or overlap.
-/

namespace NotificationFeed

/-- **Strictly newer**: created later, or at the same moment and numbered higher. -/
def Notification.Newer (a b : Notification) : Prop :=
  b.createdAt < a.createdAt ∨ (b.createdAt = a.createdAt ∧ b.id < a.id)

instance (a b : Notification) : Decidable (a.Newer b) :=
  inferInstanceAs (Decidable (b.createdAt < a.createdAt ∨ (b.createdAt = a.createdAt ∧ b.id < a.id)))

namespace Store

variable {s : Store} {userId : Int} {a b : Notification}

/-! ## The order -/

theorem precedes_iff : precedes a b = true ↔
    b.createdAt.nanos < a.createdAt.nanos ∨
      (b.createdAt.nanos = a.createdAt.nanos ∧ b.id ≤ a.id) := by
  have hlt : b.createdAt < a.createdAt ↔ b.createdAt.nanos < a.createdAt.nanos := Iff.rfl
  have heq : b.createdAt = a.createdAt ↔ b.createdAt.nanos = a.createdAt.nanos := by
    cases b.createdAt
    cases a.createdAt
    simp
  simp [precedes, hlt, heq]

theorem precedes_trans (a b c : Notification) (hab : precedes a b = true)
    (hbc : precedes b c = true) : precedes a c = true := by
  rw [precedes_iff] at *
  omega

theorem precedes_total (a b : Notification) : (precedes a b || precedes b a) = true := by
  rw [Bool.or_eq_true, precedes_iff, precedes_iff]
  omega

/-- Of two notifications with different identifiers the one that precedes is newer. -/
theorem newer_of_precedes (h : precedes a b = true) (hid : a.id ≠ b.id) : a.Newer b := by
  simp only [precedes, Bool.or_eq_true, Bool.and_eq_true, decide_eq_true_eq] at h
  rcases h with hlater | ⟨hsame, hle⟩
  · exact .inl hlater
  · exact .inr ⟨hsame, by omega⟩

theorem mem_ofUser {n : Notification} : n ∈ s.ofUser userId ↔ n ∈ s.rows ∧ n.userId = userId := by
  simp [ofUser]

/-- **A feed lists a user's notifications and nothing else.** -/
theorem feed_perm (s : Store) (userId : Int) : (s.feed userId).Perm (s.ofUser userId) :=
  List.mergeSort_perm _ _

theorem feed_descends (s : Store) (userId : Int) : (s.feed userId).Pairwise (precedes · ·) :=
  List.pairwise_mergeSort precedes_trans precedes_total _

/-- **No other arrangement descends**: of two notifications created at the same moment the
identifiers decide. -/
theorem eq_feed (h : s.WellNumbered) {rows : List Notification}
    (hperm : rows.Perm (s.ofUser userId)) (hdescends : rows.Pairwise (precedes · ·)) :
    rows = s.feed userId := by
  have hstored : ∀ n ∈ s.ofUser userId, n ∈ s.rows := by
    intro n hn
    exact (mem_ofUser.1 hn).1
  have hfeed : (s.feed userId).Perm (s.ofUser userId) := feed_perm s userId
  refine List.Perm.eq_of_pairwise (fun a b ha hb hab hba => ?_) hdescends (feed_descends s userId)
    (hperm.trans hfeed.symm)
  rw [precedes_iff] at hab hba
  exact h.eq_of_id (hstored a (hperm.subset ha)) (hstored b (hfeed.subset hb)) (by omega)

/-- **A feed descends strictly.** -/
theorem feed_newer (h : s.WellNumbered) (userId : Int) : (s.feed userId).Pairwise (·.Newer ·) := by
  -- The sort only gives a descent that may stand still; distinct identifiers make it strict.
  have hrows : (s.ofUser userId).Pairwise (·.id ≠ ·.id) :=
    (h.ascending.filter _).imp fun hlt => by omega
  have hdistinct : (s.feed userId).Pairwise (·.id ≠ ·.id) :=
    (feed_perm s userId).symm.pairwise hrows fun hne => hne.symm
  exact (feed_descends s userId).imp₂ (fun _ _ => newer_of_precedes) hdistinct

/-! ## Pages -/

theorem asCount_natCast {n : Nat} (h : n < UInt64.size) : asCount n = n := by
  unfold asCount
  rw [Int.emod_eq_of_lt (by omega) (by omega), Int.toNat_natCast]

/-- A signed number that is not negative is its own count. -/
theorem asCount_of_nonneg {n : Int} (h : 0 ≤ n) (hmax : n ≤ Int64.maxValue.toInt) :
    asCount n = n.toNat := by
  rw [Int64.toInt_maxValue] at hmax
  have hword : UInt64.size = 18446744073709551616 := rfl
  obtain ⟨k, rfl⟩ := Int.eq_ofNat_of_zero_le h
  exact asCount_natCast (by omega)

/-- Page `number` of a list, when a page holds `size`. Pages are numbered from one. -/
def slice {α : Type} (l : List α) (size number : Nat) : List α :=
  (l.drop ((number - 1) * size)).take size

/-- **The first pages, one after another, are the beginning of the list.** -/
theorem flatMap_slice {α : Type} (l : List α) (size k : Nat) :
    (List.range k).flatMap (fun i => slice l size (i + 1)) = l.take (k * size) := by
  induction k with
  | zero => simp
  | succ k ih =>
    rw [List.range_succ, List.flatMap_append, ih, Nat.succ_mul, List.take_add,
      List.flatMap_singleton]
    rfl

/-- The last page may be short. -/
example : slice [5, 4, 3, 2, 1] 2 3 = [1] := rfl

/-- A page past the end holds nothing. -/
theorem slice_eq_nil {α : Type} {l : List α} {size number : Nat}
    (h : l.length ≤ (number - 1) * size) : slice l size number = [] := by
  rw [slice, List.drop_eq_nil_of_le h, List.take_nil]

end Store

end NotificationFeed
