import Mathlib.Data.String.Basic
import NotificationFeed.Metrics.Reading
import NotificationFeed.Proofs.Metrics.Series
/-!
# The metrics page — what it has to say

What a page has to say follows from the observations alone: which series there
are, under which labels, and what stands behind them (`expected`). The registry
comes in only as what the observations leave in it: its tables are those that
their uses fill (`Registry.counters_after`, `Registry.histograms_after`), and
the place it is registered in holds it whatever else is tried there
(`slotAfter_eq`).

A series belongs to the fingerprint of its values, so one line stands for all
values that have it. Where fingerprints tell the values of a family apart
there is a line for each of them (`countedSamples_apart`).
-/

namespace NotificationFeed

namespace Metrics

open Fingerprint

/-! ## What an observation adds to -/

namespace Observation

/-- The counter an observation adds to. -/
def counted? : Observation → Option (Use CounterFamily Unit)
  | requestCounted method code => some ⟨.requests, [method, code], ()⟩
  | queryCounted query success => some ⟨.queries, [query, statusLabel success], ()⟩
  | operationCounted operation success => some ⟨.operations, [operation, statusLabel success], ()⟩
  | messageCounted topic operation success =>
    some ⟨.messages, [topic, operation, statusLabel success], ()⟩
  | requestTimed .. | queryTimed .. | messageTimed .. | healthSet _ => none

/-- The histogram an observation adds to. -/
def timed? : Observation → Option (Use HistogramFamily Span)
  | requestTimed method code elapsed => some ⟨.requestTimes, [method, code], elapsed⟩
  | queryTimed query elapsed => some ⟨.queryTimes, [query], elapsed⟩
  | messageTimed topic operation elapsed => some ⟨.messageTimes, [topic, operation], elapsed⟩
  | requestCounted .. | queryCounted .. | operationCounted .. | messageCounted .. | healthSet _ =>
    none

/-- The health an observation sets. -/
def health? : Observation → Option Bool
  | healthSet healthy => some healthy
  | _ => none

end Observation

namespace Registry

/-- The registry after some observations. -/
def after (calls : List Observation) : Registry := calls.foldl observe {}

theorem after_concat (calls : List Observation) (o : Observation) :
    after (calls ++ [o]) = (after calls).observe o := by
  rw [after, List.foldl_append]
  rfl

/-- **A table that each observation changes by its use** is the one that all uses fill. -/
theorem table_after {φ α ε : Type} [DecidableEq φ] {fresh : α} {add : α → ε → α}
    {table : Registry → Table (φ × Fingerprint) (Series α)}
    {used? : Observation → Option (Use φ ε)} (hempty : table {} = [])
    (hobserve : ∀ r o, table (r.observe o) = (used? o).elim (table r) fun use =>
      (table r).update (use.family, ofValues use.values) ⟨use.values, fresh⟩
        (Series.map (add · use.amount))) (calls : List Observation) :
    table (after calls) = tabulate fresh add (calls.filterMap used?) := by
  induction calls using List.reverseRecOn with
  | nil => exact hempty
  | append_singleton calls o ih =>
    rw [after_concat, hobserve, List.filterMap_append, ih]
    cases hused : used? o with
    | none => simp [hused]
    | some use =>
      rw [List.filterMap_cons_some hused, List.filterMap_nil, tabulate_concat]
      rfl

/-- The counters hold what was counted. -/
theorem counters_after (calls : List Observation) :
    (after calls).counters =
      tabulate 0 (fun n _ => n + 1) (calls.filterMap Observation.counted?) :=
  table_after rfl (fun _ o => by cases o <;> rfl) calls

/-- The histograms hold the times. -/
theorem histograms_after (calls : List Observation) :
    (after calls).histograms =
      tabulate .empty Histogram.observe (calls.filterMap Observation.timed?) :=
  table_after rfl (fun _ o => by cases o <;> rfl) calls

theorem healthy_observe (r : Registry) (o : Observation) :
    (r.observe o).healthy = o.health?.getD r.healthy := by
  cases o <;> rfl

/-- The health is the one that was set last. -/
theorem healthy_after (calls : List Observation) :
    (after calls).healthy = ((calls.filterMap Observation.health?).getLast?).getD false := by
  induction calls using List.reverseRecOn with
  | nil => rfl
  | append_singleton calls o ih =>
    rw [after_concat, healthy_observe, List.filterMap_append, ih]
    cases hhealth : o.health? with
    | none => simp [hhealth]
    | some healthy => simp [hhealth]

end Registry

/-! ## What a page has to say -/

namespace CounterFamily

/-- The name of a family. -/
def name : CounterFamily → String
  | requests => "grpc_requests_total"
  | queries => "database_queries_total"
  | operations => "notification_operations_total"
  | messages => "queue_messages_total"

/-- The names of its labels, as it declares them. -/
def labelNames : CounterFamily → List String
  | requests => ["method", "status"]
  | queries => ["query_type", "status"]
  | operations => ["operation", "status"]
  | messages => ["topic", "operation", "status"]

/-- The labels of a series, by their names. -/
def labels : CounterFamily → List String → List (String × String)
  | requests, [method, code] => [("method", method), ("status", code)]
  | queries, [query, status] => [("query_type", query), ("status", status)]
  | operations, [operation, status] => [("operation", operation), ("status", status)]
  | messages, [topic, operation, status] =>
    [("operation", operation), ("status", status), ("topic", topic)]
  | _, _ => []

end CounterFamily

namespace HistogramFamily

/-- The name of a family. -/
def name : HistogramFamily → String
  | requestTimes => "grpc_request_duration_seconds"
  | queryTimes => "database_query_duration_seconds"
  | messageTimes => "queue_message_duration_seconds"

/-- The names of its labels, as it declares them. -/
def labelNames : HistogramFamily → List String
  | requestTimes => ["method", "status"]
  | queryTimes => ["query_type"]
  | messageTimes => ["topic", "operation"]

/-- The labels of a series, by their names. -/
def labels : HistogramFamily → List String → List (String × String)
  | requestTimes, [method, code] => [("method", method), ("status", code)]
  | queryTimes, [query] => [("query_type", query)]
  | messageTimes, [topic, operation] => [("operation", operation), ("topic", topic)]
  | _, _ => []

end HistogramFamily

/-- The values a family of counters was used with, in order. -/
def countedValues (calls : List Observation) (family : CounterFamily) : List (List String) :=
  (usesOf family (calls.filterMap Observation.counted?)).map Use.values

/-- The line of one counter. -/
def counterSample (family : CounterFamily) (values : List String) (count : Nat) : Sample :=
  ⟨nameSpace ++ family.name, family.labels values, toString count⟩

/-- **The series of a family of counters**: one for each of the values that came first, with the
number of observations that have their fingerprint. -/
def countedSamples (calls : List Observation) (family : CounterFamily) : List Sample :=
  (firsts (countedValues calls family)).map fun v =>
    counterSample family v ((countedValues calls family).countP fun u => ofValues u = ofValues v)

/-- The samples of one histogram. -/
def histogramSamples (name : String) (labels : List (String × String)) (spans : List Span) :
    List Sample :=
  let count := toString spans.length
  (buckets.map fun b => ⟨nameSpace ++ (name ++ "_bucket"), labels ++ [("le", b.2)],
      toString (spans.countP (· ≤ b.1))⟩) ++
    [⟨nameSpace ++ (name ++ "_bucket"), labels ++ [("le", "+Inf")], count⟩,
      ⟨nameSpace ++ (name ++ "_sum"), labels,
        Decimal.ofFloat (spans.foldl (fun sum elapsed => sum + seconds elapsed) 0.0)⟩,
      ⟨nameSpace ++ (name ++ "_count"), labels, count⟩]

/-- The values and times a family of histograms was used with, in order. -/
def timedUses (calls : List Observation) (family : HistogramFamily) :
    List (Use HistogramFamily Span) :=
  usesOf family (calls.filterMap Observation.timed?)

/-- **The series of a family of histograms**: one for each of the values that came first, with the
times that were observed under their fingerprint. -/
def timedSamples (calls : List Observation) (family : HistogramFamily) : List Sample :=
  (firsts ((timedUses calls family).map Use.values)).flatMap fun v =>
    histogramSamples family.name (family.labels v) (amounts v (timedUses calls family))

/-- The health: as it was set last, and none before that. -/
def healthSample (calls : List Observation) : Sample :=
  ⟨nameSpace ++ "health", [],
    if ((calls.filterMap Observation.health?).getLast?).getD false then "1" else "0"⟩

/-- **What a page has to say** after some observations, family by family. -/
def expected (calls : List Observation) : List Sample :=
  [countedSamples calls .queries, timedSamples calls .queryTimes,
    timedSamples calls .requestTimes, countedSamples calls .requests, [healthSample calls],
    countedSamples calls .operations, timedSamples calls .messageTimes,
    countedSamples calls .messages].flatten

/-- Values that are told apart are counted apart. -/
theorem countedSamples_apart {calls : List Observation} {family : CounterFamily}
    (h : Apart (countedValues calls family)) :
    (countedSamples calls family).Perm ((countedValues calls family).dedup.map fun v =>
      counterSample family v ((countedValues calls family).count v)) := by
  refine (h.firsts_perm.map _).trans (.of_eq (List.map_congr_left fun v hv => ?_))
  have hsame : ∀ u ∈ countedValues calls family, ofValues u = ofValues v ↔ u = v := fun u hu =>
    ⟨h u hu v (List.mem_dedup.1 hv), congrArg ofValues⟩
  have hcount : (countedValues calls family).countP (fun u => ofValues u = ofValues v) =
      (countedValues calls family).count v :=
    List.countP_congr fun u hu => by simp [hsame u hu]
  rw [hcount]

/-- And their times are kept apart. -/
theorem timedSamples_apart {calls : List Observation} {family : HistogramFamily}
    (h : Apart ((timedUses calls family).map Use.values)) :
    (timedSamples calls family).Perm (((timedUses calls family).map Use.values).dedup.flatMap
      fun v => histogramSamples family.name (family.labels v)
        (((timedUses calls family).filter (·.values = v)).map Use.amount)) := by
  refine (h.firsts_perm.flatMap_right _).trans (.of_eq (List.flatMap_congr fun v hv => ?_))
  have hsame : ∀ use ∈ timedUses calls family, ofValues use.values = ofValues v ↔ use.values = v :=
    fun use huse => ⟨h _ (List.mem_map_of_mem huse) v (List.mem_dedup.1 hv), congrArg ofValues⟩
  have hfilter : (timedUses calls family).filter (ofValues ·.values = ofValues v) =
      (timedUses calls family).filter (·.values = v) :=
    List.filter_congr fun use huse => by simp [hsame use huse]
  rw [amounts, hfilter]

/-! ## Labels -/

/-- Labels are shown by their names. -/
theorem labelled_eq {names values : List String} {labels : List (String × String)}
    (hlabels : labels.Perm (names.zip values)) (hnames : (labels.map Prod.fst).Pairwise (· < ·)) :
    labelled names values = labels := by
  have hsorted : labels.Pairwise fun a b => (!decide (b.1 < a.1)) = true :=
    (List.pairwise_map.1 hnames).imp fun hlt => by
      rw [Bool.not_eq_true', decide_eq_false_iff_not]
      exact not_lt.2 hlt.le
  have hmerged := @List.pairwise_mergeSort (String × String) (fun a b => !decide (b.1 < a.1))
    (fun a b c hab hbc => by
      simp only [Bool.not_eq_true', decide_eq_false_iff_not, not_lt] at *
      exact hab.trans hbc)
    (fun a b => by
      simp only [Bool.or_eq_true, Bool.not_eq_true', decide_eq_false_iff_not, not_lt]
      exact le_total a.1 b.1) (names.zip values)
  have hperm : (labelled names values).Perm labels :=
    (List.mergeSort_perm _ _).trans hlabels.symm
  refine hperm.eq_of_pairwise (fun a b ha hb hab hba => ?_) hmerged hsorted
  have hfst : a.1 = b.1 := by
    simp only [Bool.not_eq_true', decide_eq_false_iff_not, not_lt] at hab hba
    exact le_antisymm hab hba
  exact List.inj_on_of_nodup_map (hnames.imp ne_of_lt) (hperm.subset ha) hb hfst

theorem labelled_counted {o : Observation} {use : Use CounterFamily Unit}
    (h : o.counted? = some use) :
    labelled use.family.labelNames use.values = use.family.labels use.values := by
  cases o with
  | requestCounted =>
    obtain rfl := Option.some.inj h
    exact labelled_eq (.refl _) (show ["method", "status"].Pairwise (· < ·) by decide)
  | queryCounted =>
    obtain rfl := Option.some.inj h
    exact labelled_eq (.refl _) (show ["query_type", "status"].Pairwise (· < ·) by decide)
  | operationCounted =>
    obtain rfl := Option.some.inj h
    exact labelled_eq (.refl _) (show ["operation", "status"].Pairwise (· < ·) by decide)
  | messageCounted =>
    obtain rfl := Option.some.inj h
    exact labelled_eq (List.perm_append_singleton (_, _) [_, _])
      (show ["operation", "status", "topic"].Pairwise (· < ·) by decide)
  | requestTimed | queryTimed | messageTimed | healthSet => cases h

theorem labelled_timed {o : Observation} {use : Use HistogramFamily Span}
    (h : o.timed? = some use) :
    labelled use.family.labelNames use.values = use.family.labels use.values := by
  cases o with
  | requestTimed =>
    obtain rfl := Option.some.inj h
    exact labelled_eq (.refl _) (show ["method", "status"].Pairwise (· < ·) by decide)
  | queryTimed =>
    obtain rfl := Option.some.inj h
    exact labelled_eq (.refl _) (show ["query_type"].Pairwise (· < ·) by decide)
  | messageTimed =>
    obtain rfl := Option.some.inj h
    exact labelled_eq (List.perm_append_singleton (_, _) [_])
      (show ["operation", "topic"].Pairwise (· < ·) by decide)
  | requestCounted | queryCounted | operationCounted | messageCounted | healthSet => cases h

/-- The names of the labels of a series are those its family declares. -/
theorem name_of_mem_labelled {names values : List String} {label : String × String}
    (h : label ∈ labelled names values) : label.1 ∈ names :=
  (List.of_mem_zip ((List.mergeSort_perm _ _).subset h)).1

/-! ## The place where metrics are registered -/

/-- What is done once metrics were registered. -/
inductive Step where
  | observe (o : Observation)
  /-- A second set of metrics is registered in the same place. -/
  | register
  deriving DecidableEq, Repr

namespace Step

/-- What a step makes of the place. -/
def on (slot : Slot) : Step → Slot
  | observe o => slot.map (·.observe o)
  | register => slot.register.2

/-- What a step observes. -/
def observed? : Step → Option Observation
  | observe o => some o
  | register => none

end Step

/-- The place once metrics were registered there and some steps were taken. -/
def slotAfter (steps : List Step) : Slot := steps.foldl Step.on (Slot.register none).2

/-- It holds what was observed. -/
theorem slotAfter_eq (steps : List Step) :
    slotAfter steps = some (Registry.after (steps.filterMap Step.observed?)) := by
  induction steps using List.reverseRecOn with
  | nil => rfl
  | append_singleton steps step ih =>
    have hstep : slotAfter (steps ++ [step]) = Step.on (slotAfter steps) step := by
      rw [slotAfter, List.foldl_append]
      rfl
    rw [hstep, ih, List.filterMap_append]
    cases step with
    | observe o => exact congrArg some (Registry.after_concat _ o).symm
    | register =>
      rw [List.filterMap_cons_none rfl, List.filterMap_nil, List.append_nil]
      rfl

end Metrics

end NotificationFeed
