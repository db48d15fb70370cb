import Mathlib.Data.List.Induction
import Mathlib.Data.List.Dedup
import Mathlib.Data.List.Nodup
import NotificationFeed.Metrics.Exposition
/-!
# The registry — what is in a series

A registry is a table that was filled by uses: each use names a family and the
values of its labels and adds an amount to a series. The series is found by a
fingerprint of the values, so what it comes to hold is what all uses with that
fingerprint have added, in order, and it shows the values of the first of them.
That is said of any kind of amounts (`filter_tabulate`), and of histograms it
is said what their buckets then count (`cumulative_foldl`).

The induction is on the uses from the last one back, as the table is filled.
-/

namespace NotificationFeed

namespace Metrics

open Fingerprint

/-! ## Values that were used first -/

/-- **The values that series show**: of values with one fingerprint, those that came first. -/
def firsts (tuples : List (List String)) : List (List String) :=
  tuples.foldl (fun firsts t => if ofValues t ∈ firsts.map ofValues then firsts else firsts ++ [t])
    []

variable {tuples : List (List String)} {t : List String}

theorem firsts_concat (tuples : List (List String)) (t : List String) :
    firsts (tuples ++ [t]) = if ofValues t ∈ (firsts tuples).map ofValues then firsts tuples
      else firsts tuples ++ [t] := by
  rw [firsts, List.foldl_append]
  rfl

/-- No two of them have one fingerprint. -/
theorem nodup_firsts (tuples : List (List String)) : ((firsts tuples).map ofValues).Nodup := by
  induction tuples using List.reverseRecOn with
  | nil => exact List.nodup_nil
  | append_singleton tuples t ih =>
    rw [firsts_concat]
    split_ifs with h
    · exact ih
    · rw [List.map_append]
      exact List.Nodup.append ih (List.nodup_singleton _) (by simpa using h)

/-- They are as they came. -/
theorem firsts_sublist (tuples : List (List String)) : (firsts tuples).Sublist tuples := by
  induction tuples using List.reverseRecOn with
  | nil => exact .slnil
  | append_singleton tuples t ih =>
    rw [firsts_concat]
    split_ifs
    · exact ih.trans (List.sublist_append_left _ _)
    · exact ih.append (List.Sublist.refl _)

/-- Every fingerprint that was used is one of theirs. -/
theorem mem_map_firsts (h : t ∈ tuples) : ofValues t ∈ (firsts tuples).map ofValues := by
  induction tuples using List.reverseRecOn with
  | nil => cases h
  | append_singleton tuples u ih =>
    rw [firsts_concat]
    rcases List.mem_append.1 h with h | h
    · split_ifs
      · exact ih h
      · rw [List.map_append]
        exact List.mem_append_left _ (ih h)
    · obtain rfl := List.mem_singleton.1 h
      split_ifs with hmem
      · exact hmem
      · simp

/-- **Fingerprints tell values apart.** -/
def Apart (tuples : List (List String)) : Prop :=
  ∀ t ∈ tuples, ∀ u ∈ tuples, ofValues t = ofValues u → t = u

/-- Where they do, each of the values is shown, and once. -/
theorem Apart.firsts_perm (h : Apart tuples) : (firsts tuples).Perm tuples.dedup := by
  refine (List.perm_ext_iff_of_nodup (List.Nodup.of_map _ (nodup_firsts tuples))
    (List.nodup_dedup tuples)).2 fun t => ?_
  rw [List.mem_dedup]
  refine ⟨fun ht => (firsts_sublist tuples).subset ht, fun ht => ?_⟩
  obtain ⟨u, hu, heq⟩ := List.mem_map.1 (mem_map_firsts ht)
  rwa [h t ht u ((firsts_sublist tuples).subset hu) heq.symm]

/-! ## Tables -/

section Tables

variable {κ α β : Type} [DecidableEq κ] {k : κ} {fresh : α} {f : α → α}

/-- A table whose keys come from a list is changed where the key is found, or at its end. -/
theorem Table.update_map {key : β → κ} {g : β → α} {entries : List β}
    (hnodup : (entries.map key).Nodup) :
    Table.update k fresh f (entries.map fun b => (key b, g b)) =
      if k ∈ entries.map key then entries.map fun b => (key b, if key b = k then f (g b) else g b)
      else (entries.map fun b => (key b, g b)) ++ [(k, f fresh)] := by
  induction entries with
  | nil => rfl
  | cons b entries ih =>
    rw [List.map_cons, List.nodup_cons] at hnodup
    rw [List.map_cons, Table.update]
    by_cases hk : key b = k
    · have hrest : ∀ c ∈ entries, key c ≠ k := fun c hc h =>
        hnodup.1 (List.mem_map.2 ⟨c, hc, h.trans hk.symm⟩)
      have hsame : (entries.map fun c => (key c, if key c = k then f (g c) else g c)) =
          entries.map fun c => (key c, g c) :=
        List.map_congr_left fun c hc => by rw [if_neg (hrest c hc)]
      simp [hk, hsame]
    · rw [if_neg hk, ih hnodup.2]
      have hmem : (k ∈ (b :: entries).map key) = (k ∈ entries.map key) := by
        simp [Ne.symm hk]
      simp only [hmem]
      split_ifs <;> simp [hk]

variable {φ : Type} [DecidableEq φ] {family : φ}

/-- What a table holds of one family changes only with that family. -/
theorem filter_update (table : Table (φ × Fingerprint) α) (key : φ × Fingerprint) (fresh : α)
    (f : α → α) :
    (Table.update key fresh f table).filter (·.1.1 = family) =
      if key.1 = family then Table.update key fresh f (table.filter (·.1.1 = family))
      else table.filter (·.1.1 = family) := by
  induction table with
  | nil =>
    by_cases hfamily : key.1 = family <;> simp [Table.update, hfamily]
  | cons entry table ih =>
    rw [Table.update]
    by_cases hkey : entry.1 = key
    · by_cases hfamily : key.1 = family <;> simp [Table.update, hkey, hfamily]
    · rw [if_neg hkey]
      by_cases hentry : entry.1.1 = family
      · simp only [List.filter_cons, hentry, decide_true, if_true, ih]
        split_ifs <;> simp [Table.update, hkey]
      · simp only [List.filter_cons, hentry, decide_false, ih, Bool.false_eq_true, if_false]

end Tables

/-! ## Uses -/

section Uses

/-- One use of a series: it adds an amount. -/
structure Use (φ ε : Type) where
  family : φ
  values : List String
  amount : ε
  deriving DecidableEq, Repr

variable {φ α ε : Type} {fresh : α} {add : α → ε → α} {family : φ}

/-- **The amounts that come to one series**: those of the uses whose values have its fingerprint. -/
def amounts (values : List String) (uses : List (Use φ ε)) : List ε :=
  (uses.filter (ofValues ·.values = ofValues values)).map Use.amount

theorem amounts_concat (values : List String) (uses : List (Use φ ε)) (use : Use φ ε) :
    amounts values (uses ++ [use]) =
      if ofValues values = ofValues use.values then amounts values uses ++ [use.amount]
      else amounts values uses := by
  by_cases h : ofValues values = ofValues use.values
  · simp [amounts, h]
  · simp [amounts, h, Ne.symm h]

/-- Nothing came to a series whose fingerprint was not used. -/
theorem amounts_eq_nil {values : List String} {uses : List (Use φ ε)}
    (h : ofValues values ∉ (firsts (uses.map Use.values)).map ofValues) :
    amounts values uses = [] := by
  rw [amounts, List.map_eq_nil_iff, List.filter_eq_nil_iff]
  intro use huse heq
  exact h ((of_decide_eq_true heq) ▸ mem_map_firsts (List.mem_map_of_mem huse))

variable [DecidableEq φ]

/-- The table that uses fill. -/
def tabulate (fresh : α) (add : α → ε → α) (uses : List (Use φ ε)) :
    Table (φ × Fingerprint) (Series α) :=
  uses.foldl (fun table use => table.update (use.family, ofValues use.values) ⟨use.values, fresh⟩
    (Series.map (add · use.amount))) []

theorem tabulate_concat (uses : List (Use φ ε)) (use : Use φ ε) :
    tabulate fresh add (uses ++ [use]) =
      (tabulate fresh add uses).update (use.family, ofValues use.values) ⟨use.values, fresh⟩
        (Series.map (add · use.amount)) := by
  rw [tabulate, List.foldl_append]
  rfl

/-- The uses of one family. -/
def usesOf (family : φ) (uses : List (Use φ ε)) : List (Use φ ε) :=
  uses.filter (·.family = family)

/-- **What a table holds of one family**: a series for each of the values that came first, with
all the amounts that come to it. -/
theorem filter_tabulate (uses : List (Use φ ε)) :
    (tabulate fresh add uses).filter (·.1.1 = family) =
      (firsts ((usesOf family uses).map Use.values)).map fun values =>
        ((family, ofValues values),
          ⟨values, (amounts values (usesOf family uses)).foldl add fresh⟩) := by
  induction uses using List.reverseRecOn with
  | nil => rfl
  | append_singleton uses use ih =>
    rw [tabulate_concat, filter_update]
    by_cases hfamily : use.family = family
    · have huses : usesOf family (uses ++ [use]) = usesOf family uses ++ [use] := by
        simp [usesOf, hfamily]
      have hnodup : ((firsts ((usesOf family uses).map Use.values)).map fun values =>
          (family, ofValues values)).Nodup := by
        have hkeys := List.Nodup.map (f := Prod.mk family) (fun _ _ h => (Prod.mk.inj h).2)
          (nodup_firsts ((usesOf family uses).map Use.values))
        rwa [List.map_map] at hkeys
      have hmem : ((family, ofValues use.values) ∈
          (firsts ((usesOf family uses).map Use.values)).map fun values =>
            (family, ofValues values)) ↔
          ofValues use.values ∈ (firsts ((usesOf family uses).map Use.values)).map ofValues := by
        simp
      rw [if_pos hfamily, ih, hfamily, huses, Table.update_map hnodup, List.map_append,
        List.map_singleton, firsts_concat]
      by_cases hknown :
          ofValues use.values ∈ (firsts ((usesOf family uses).map Use.values)).map ofValues
      · rw [if_pos (hmem.2 hknown), if_pos hknown]
        refine List.map_congr_left fun values _ => ?_
        rw [amounts_concat]
        by_cases hsame : ofValues values = ofValues use.values
        · simp [hsame, Series.map]
        · simp [hsame]
      · rw [if_neg (mt hmem.1 hknown), if_neg hknown, List.map_append, List.map_singleton,
          amounts_concat, if_pos rfl, amounts_eq_nil hknown]
        congr 1
        refine List.map_congr_left fun values hvalues => ?_
        have hother : ofValues values ≠ ofValues use.values := fun h =>
          hknown (h ▸ List.mem_map_of_mem hvalues)
        rw [amounts_concat, if_neg hother]
    · have huses : usesOf family (uses ++ [use]) = usesOf family uses := by
        simp [usesOf, hfamily]
      rw [if_neg hfamily, ih, huses]

/-- The series of a family as a page shows them are those in its table, in another order. -/
theorem seriesOf_perm (names : List String) (table : Table (φ × Fingerprint) (Series α)) :
    (seriesOf family names table).Perm ((table.filter (·.1.1 = family)).map fun entry =>
      (labelled names entry.2.labels, entry.2.value)) := by
  refine (List.mergeSort_perm _ _).trans (.of_eq ?_)
  induction table with
  | nil => rfl
  | cons entry table ih =>
    by_cases h : entry.1.1 = family <;> simp [h, ih]

/-- **The series of a family**, in some order: one for each of the values that came first. -/
theorem seriesOf_tabulate (names : List String) (uses : List (Use φ ε)) :
    (seriesOf family names (tabulate fresh add uses)).Perm
      ((firsts ((usesOf family uses).map Use.values)).map fun values =>
        (labelled names values, (amounts values (usesOf family uses)).foldl add fresh)) := by
  refine (seriesOf_perm names _).trans (.of_eq ?_)
  rw [filter_tabulate, List.map_map]
  rfl

end Uses

/-! ## Histograms -/

namespace Histogram

theorem length_sums (n : Nat) (xs : List Nat) : (sums n xs).length = xs.length := by
  induction xs generalizing n with
  | nil => rfl
  | cons x xs ih => simp [sums, ih]

theorem sums_succ (n : Nat) (xs : List Nat) : sums (n + 1) xs = (sums n xs).map (· + 1) := by
  induction xs generalizing n with
  | nil => rfl
  | cons x xs ih => rw [sums, sums, List.map_cons, Nat.add_right_comm, ih]

/-- A sum once another time has come: it is raised if the time is not above the bound. -/
def raise (elapsed : Span) (bound : Span × String) (n : Nat) : Nat :=
  if elapsed ≤ bound.1 then n + 1 else n

/-- Bounds that a time is not above have all their sums raised. -/
theorem zipWith_raise {elapsed : Span} {bounds : List (Span × String)} {ns : List Nat}
    (hbounds : ∀ b ∈ bounds, elapsed ≤ b.1) (hlength : ns.length = bounds.length) :
    List.zipWith (raise elapsed) bounds ns = ns.map (· + 1) := by
  induction bounds generalizing ns with
  | nil =>
    obtain rfl := List.length_eq_zero_iff.1 hlength
    rfl
  | cons bound bounds ih =>
    cases ns with
    | nil => cases hlength
    | cons n ns =>
      obtain ⟨hbound, hbounds⟩ := List.forall_mem_cons.1 hbounds
      rw [List.zipWith_cons_cons, List.map_cons, raise, if_pos hbound,
        ih hbounds (Nat.succ.inj hlength)]

/-- **A time raises the sums from its bucket on.** -/
theorem sums_drop {elapsed : Span} {bounds : List (Span × String)}
    (hbounds : bounds.Pairwise fun a b => a.1 ≤ b.1) {ns : List Nat}
    (hlength : ns.length = bounds.length) (n : Nat) :
    sums n (drop elapsed bounds ns) = List.zipWith (raise elapsed) bounds (sums n ns) := by
  induction bounds generalizing ns n with
  | nil =>
    obtain rfl := List.length_eq_zero_iff.1 hlength
    rfl
  | cons bound bounds ih =>
    cases ns with
    | nil => cases hlength
    | cons x ns =>
      obtain ⟨hbound, hbounds⟩ := List.pairwise_cons.1 hbounds
      have htail : ns.length = bounds.length := Nat.succ.inj hlength
      rw [drop]
      split_ifs with hle
      · have hrest := zipWith_raise (fun b hb => Nat.le_trans hle (hbound b hb))
          ((length_sums (n + x) ns).trans htail)
        rw [sums, sums, List.zipWith_cons_cons, hrest, raise, if_pos hle, ← sums_succ,
          Nat.add_assoc]
      · rw [sums, sums, List.zipWith_cons_cons, ih hbounds htail, raise, if_neg hle]

theorem buckets_ascend : buckets.Pairwise fun a b => a.1 ≤ b.1 := by decide

/-- **What the buckets of a histogram count**: the times that are not above their ends. -/
theorem cumulative_foldl (spans : List Span) :
    (spans.foldl observe empty).cumulative =
      buckets.map fun b => spans.countP (· ≤ b.1) := by
  induction spans using List.reverseRecOn with
  | nil => rfl
  | append_singleton spans elapsed ih =>
    have hlength : (spans.foldl observe empty).fallen.length = buckets.length := by
      have hsums := congrArg List.length ih
      rwa [cumulative, length_sums, List.length_map] at hsums
    rw [cumulative] at ih
    rw [List.foldl_append, cumulative, List.foldl_cons, List.foldl_nil, observe,
      sums_drop buckets_ascend hlength, ih, List.zipWith_map_right, List.zipWith_self]
    refine List.map_congr_left fun b _ => ?_
    rw [List.countP_append, raise]
    split_ifs with hle <;> simp [hle]

theorem count_foldl (spans : List Span) : (spans.foldl observe empty).count = spans.length := by
  induction spans using List.reverseRecOn with
  | nil => rfl
  | append_singleton spans elapsed ih =>
    rw [List.foldl_append, List.length_append, ← ih]
    rfl

/-- The sum is that of the times in seconds, in their order. -/
theorem sum_foldl (spans : List Span) :
    (spans.foldl observe empty).sum =
      spans.foldl (fun sum elapsed => sum + seconds elapsed) 0.0 := by
  induction spans using List.reverseRecOn with
  | nil => rfl
  | append_singleton spans elapsed ih =>
    rw [List.foldl_append, List.foldl_append, ← ih]
    rfl

/-- **The counts never go down**, up to that of all times. -/
theorem counts_ascend (spans : List Span) :
    ((buckets.map fun b => spans.countP (· ≤ b.1)) ++ [spans.length]).Pairwise (· ≤ ·) := by
  refine List.pairwise_append.2 ⟨List.pairwise_map.2 (buckets_ascend.imp fun hle => ?_),
    List.pairwise_singleton _ _, fun n hn m hm => ?_⟩
  · exact List.countP_mono_left fun elapsed _ h =>
      decide_eq_true (Nat.le_trans (of_decide_eq_true h) hle)
  · obtain ⟨b, -, rfl⟩ := List.mem_map.1 hn
    obtain rfl := List.mem_singleton.1 hm
    exact List.countP_le_length

end Histogram

end Metrics

end NotificationFeed
