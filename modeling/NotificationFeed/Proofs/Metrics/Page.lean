import NotificationFeed.Proofs.Metrics.Expected
import NotificationFeed.Proofs.Metrics.Reading
/-!
# The metrics page — what was observed is on it

A page is read as the samples that the observations lead to, and nothing else
(`page_tells`). The order on the page is by names and values of labels, so the
samples are compared up to their order: a family `Tells` some samples if its
part of the page gives them in any order, and the page is put together from
its families.

The values of labels are any texts. All else in a line is plain: the names are
fixed, and a number is digits with a point and a sign at most.
-/

namespace NotificationFeed

namespace Metrics

open Fingerprint

/-! ## Plain texts -/

theorem newline_not_mem_toString (n : Nat) : '\n' ∉ (toString n).toList := by
  rw [Nat.toString_eq_ofList_toDigits, String.toList_ofList]
  exact fun hmem => absurd (Nat.isDigit_of_mem_toDigits (by decide) (by decide) hmem) (by decide)

theorem newline_not_mem_positional (digits : Nat) (e : Int) :
    '\n' ∉ (Decimal.positional digits e).toList := by
  have hdigits : '\n' ∉ Nat.toDigits 10 digits := fun hmem =>
    absurd (Nat.isDigit_of_mem_toDigits (by decide) (by decide) hmem) (by decide)
  have hpadded (k : Nat) : '\n' ∉ List.replicate k '0' ++ Nat.toDigits 10 digits := by
    simp [hdigits]
  unfold Decimal.positional
  simp only
  split_ifs
  · simp [hdigits]
  · rw [String.toList_ofList, List.mem_append, List.mem_cons]
    rintro (h | h | h)
    · exact hpadded _ (List.mem_of_mem_take h)
    · exact absurd h (by decide)
    · exact hpadded _ (List.mem_of_mem_drop h)

/-- The text of a number is one line. -/
theorem newline_not_mem_ofFloat (x : Float) : '\n' ∉ (Decimal.ofFloat x).toList := by
  unfold Decimal.ofFloat
  simp only
  split_ifs <;> simp [newline_not_mem_positional]

/-! ## Families -/

/-- **A family tells some samples**: its part of a page gives them, in some order. -/
def Tells (f : Family) (samples : List Sample) : Prop :=
  ∃ read, Reads f.text.toList read ∧ read.Perm samples

/-- The part of a page about a family gives the samples of its lines. -/
theorem reads_family {f : Family} {samples : List Sample}
    (hlines : f.lines = samples.map Sample.text) (hplain : ∀ s ∈ samples, s.Plain)
    (hname : PlainName f.name) (hhelp : '\n' ∉ f.help.toList) (hkind : '\n' ∉ f.kind.toList) :
    Reads f.text.toList samples := by
  rw [Family.text, hlines]
  cases samples with
  | nil => exact .nil
  | cons s rest =>
    have hspace : '\n' ∉ nameSpace.toList := by decide
    have hhelpLine : Reads (("# HELP " ++ nameSpace ++ f.name ++ " " ++ f.help).toList ++ ['\n'])
        [] := .remark (by simp [hspace, hname.newline, hhelp]) (by simp [isRemark])
    have hkindLine : Reads (("# TYPE " ++ nameSpace ++ f.name ++ " " ++ f.kind).toList ++ ['\n'])
        [] := .remark (by simp [hspace, hname.newline, hkind]) (by simp [isRemark])
    have hsamples : Reads ((s :: rest).flatMap fun s => s.text.toList)
        ((s :: rest).flatMap fun s => [s]) :=
      .flatMap fun s hs => reads_sample (hplain s hs)
    have hreads := hhelpLine.append (hkindLine.append hsamples)
    simpa [String.toList_join, List.flatMap_map] using hreads

/-- A sample whose name belongs to the service. -/
theorem plain_sample {name value : String} {labels : List (String × String)}
    (hname : PlainName name)
    (hlabels : ∀ label ∈ labels, '=' ∉ label.1.toList ∧ '\n' ∉ label.1.toList)
    (hvalue : '\n' ∉ value.toList) : Sample.Plain ⟨nameSpace ++ name, labels, value⟩ where
  name := PlainName.append (by decide) hname
  begins := by
    rw [String.toList_append]
    rfl
  labels := hlabels
  value := hvalue

/-- A count that goes up with each amount is their number. -/
theorem foldl_count (values : List String) (uses : List (Use CounterFamily Unit)) :
    (amounts values uses).foldl (fun n _ => n + 1) 0 =
      (uses.map Use.values).countP fun u => ofValues u = ofValues values := by
  have hlength (xs : List Unit) (n : Nat) : xs.foldl (fun n _ => n + 1) n = n + xs.length := by
    induction xs generalizing n with
    | nil => rfl
    | cons x xs ih => rw [List.foldl_cons, ih, List.length_cons, Nat.add_assoc, Nat.add_comm 1]
  rw [hlength, Nat.zero_add, amounts, List.length_map, List.countP_map,
    List.countP_eq_length_filter]
  rfl

/-- **A family of counters tells what was counted.** -/
theorem tells_counterFamily (calls : List Observation) (family : CounterFamily) {help : String}
    (hhelp : '\n' ∉ help.toList) :
    Tells ((Registry.after calls).counterFamily family family.name help family.labelNames)
      (countedSamples calls family) := by
  have hname : PlainName family.name := by cases family <;> decide
  have hnames : ∀ name ∈ family.labelNames, '=' ∉ name.toList ∧ '\n' ∉ name.toList := by
    cases family <;> decide
  let series := seriesOf family family.labelNames (Registry.after calls).counters
  let uses := usesOf family (calls.filterMap Observation.counted?)
  let shown : List (String × String) × Nat → Sample := fun s =>
    ⟨nameSpace ++ family.name, s.1, toString s.2⟩
  have hseries : series.Perm ((firsts (uses.map Use.values)).map fun values =>
      (labelled family.labelNames values, (amounts values uses).foldl (fun n _ => n + 1) 0)) := by
    rw [show series = seriesOf family family.labelNames _ from rfl, Registry.counters_after]
    exact seriesOf_tabulate _ _
  refine ⟨series.map shown, reads_family ?_ ?_ hname hhelp (show '\n' ∉ "counter".toList by decide),
    ?_⟩
  · rw [List.map_map, List.map_eq_flatMap]
    rfl
  · intro s hs
    obtain ⟨entry, hentry, rfl⟩ := List.mem_map.1 hs
    obtain ⟨values, -, rfl⟩ := List.mem_map.1 (hseries.subset hentry)
    exact plain_sample hname (fun label hlabel => hnames _ (name_of_mem_labelled hlabel))
      (newline_not_mem_toString _)
  · refine (hseries.map shown).trans (.of_eq ?_)
    rw [List.map_map]
    refine List.map_congr_left fun values hvalues => ?_
    obtain ⟨use, huse, rfl⟩ := List.mem_map.1 ((firsts_sublist _).subset hvalues)
    obtain ⟨huse, hfamily⟩ := List.mem_filter.1 huse
    obtain ⟨o, -, hcounted⟩ := List.mem_filterMap.1 huse
    obtain rfl := of_decide_eq_true hfamily
    simp only [Function.comp_apply, shown, labelled_counted hcounted, foldl_count]
    rfl

/-- The samples of a histogram as it stands in the registry. -/
def Histogram.samples (name : String) (labels : List (String × String)) (h : Histogram) :
    List Sample :=
  ((buckets.zip h.cumulative).map fun (b, n) =>
    ⟨nameSpace ++ (name ++ "_bucket"), labels ++ [("le", b.2)], toString n⟩) ++
    [⟨nameSpace ++ (name ++ "_bucket"), labels ++ [("le", "+Inf")], toString h.count⟩,
      ⟨nameSpace ++ (name ++ "_sum"), labels, Decimal.ofFloat h.sum⟩,
      ⟨nameSpace ++ (name ++ "_count"), labels, toString h.count⟩]

theorem histogramLines_eq (name : String) (series : List (String × String) × Histogram) :
    histogramLines name series = (series.2.samples name series.1).map Sample.text := by
  rw [Histogram.samples, List.map_append, List.map_map]
  rfl

/-- What a histogram shows follows from the times. -/
theorem samples_foldl (name : String) (labels : List (String × String)) (spans : List Span) :
    (spans.foldl Histogram.observe .empty).samples name labels =
      histogramSamples name labels spans := by
  have hzip (g : Span × String → Nat) :
      buckets.zip (buckets.map g) = buckets.map fun b => (b, g b) := by
    have hzip := List.zip_map' (f := id) (g := g) (l := buckets)
    rwa [List.map_id] at hzip
  rw [Histogram.samples, Histogram.cumulative_foldl, Histogram.count_foldl, Histogram.sum_foldl,
    hzip, List.map_map]
  rfl

theorem plain_samples {name : String} (hname : PlainName name) {labels : List (String × String)}
    (hlabels : ∀ label ∈ labels, '=' ∉ label.1.toList ∧ '\n' ∉ label.1.toList) (h : Histogram) :
    ∀ s ∈ h.samples name labels, s.Plain := by
  have hbucket (bound : String) : ∀ label ∈ labels ++ [("le", bound)],
      '=' ∉ label.1.toList ∧ '\n' ∉ label.1.toList := by
    intro label hlabel
    rcases List.mem_append.1 hlabel with hlabel | hlabel
    · exact hlabels label hlabel
    · obtain rfl := List.mem_singleton.1 hlabel
      exact (by decide : '=' ∉ "le".toList ∧ '\n' ∉ "le".toList)
  have hsuffix (suffix : String) (h : PlainName suffix) : PlainName (name ++ suffix) :=
    hname.append h
  intro s hs
  simp only [Histogram.samples, List.mem_append, List.mem_map, List.mem_cons, List.not_mem_nil,
    or_false] at hs
  rcases hs with ⟨⟨b, n⟩, -, rfl⟩ | rfl | rfl | rfl
  · exact plain_sample (hsuffix _ (by decide)) (hbucket b.2) (newline_not_mem_toString n)
  · exact plain_sample (hsuffix _ (by decide)) (hbucket "+Inf") (newline_not_mem_toString h.count)
  · exact plain_sample (hsuffix _ (by decide)) hlabels (newline_not_mem_ofFloat h.sum)
  · exact plain_sample (hsuffix _ (by decide)) hlabels (newline_not_mem_toString h.count)

/-- **A family of histograms tells the times.** -/
theorem tells_histogramFamily (calls : List Observation) (family : HistogramFamily) {help : String}
    (hhelp : '\n' ∉ help.toList) :
    Tells ((Registry.after calls).histogramFamily family family.name help family.labelNames)
      (timedSamples calls family) := by
  have hname : PlainName family.name := by cases family <;> decide
  have hnames : ∀ name ∈ family.labelNames, '=' ∉ name.toList ∧ '\n' ∉ name.toList := by
    cases family <;> decide
  let series := seriesOf family family.labelNames (Registry.after calls).histograms
  let uses := usesOf family (calls.filterMap Observation.timed?)
  let shown : List (String × String) × Histogram → List Sample := fun s =>
    s.2.samples family.name s.1
  have hseries : series.Perm ((firsts (uses.map Use.values)).map fun values =>
      (labelled family.labelNames values,
        (amounts values uses).foldl Histogram.observe .empty)) := by
    rw [show series = seriesOf family family.labelNames _ from rfl, Registry.histograms_after]
    exact seriesOf_tabulate _ _
  refine ⟨series.flatMap shown,
    reads_family ?_ ?_ hname hhelp (show '\n' ∉ "histogram".toList by decide), ?_⟩
  · rw [List.map_flatMap]
    exact List.flatMap_congr fun s _ => histogramLines_eq family.name s
  · intro s hs
    obtain ⟨entry, hentry, hs⟩ := List.mem_flatMap.1 hs
    obtain ⟨values, -, rfl⟩ := List.mem_map.1 (hseries.subset hentry)
    exact plain_samples hname (fun label hlabel => hnames _ (name_of_mem_labelled hlabel)) _ s hs
  · refine (hseries.flatMap_right shown).trans (.of_eq ?_)
    rw [List.flatMap_map]
    refine List.flatMap_congr fun values hvalues => ?_
    obtain ⟨use, huse, rfl⟩ := List.mem_map.1 ((firsts_sublist _).subset hvalues)
    obtain ⟨huse, hfamily⟩ := List.mem_filter.1 huse
    obtain ⟨o, -, htimed⟩ := List.mem_filterMap.1 huse
    obtain rfl := of_decide_eq_true hfamily
    simp only [shown, labelled_timed htimed, samples_foldl]
    rfl

/-- **The health is told**, whether it was set or not. -/
theorem tells_health (calls : List Observation) :
    Tells ⟨"health", "Service health status (1 = healthy, 0 = unhealthy)", "gauge",
      [sample "health" [] (if (Registry.after calls).healthy then "1" else "0")]⟩
      [healthSample calls] := by
  refine ⟨_, reads_family ?_ ?_ (show PlainName "health" by decide)
    (show '\n' ∉ "Service health status (1 = healthy, 0 = unhealthy)".toList by decide)
    (show '\n' ∉ "gauge".toList by decide), .refl _⟩
  · rw [Registry.healthy_after]
    rfl
  · intro s hs
    obtain rfl := List.mem_singleton.1 hs
    refine plain_sample (by decide) nofun ?_
    split_ifs <;> decide

/-! ## The page -/

/-- Families that tell their samples make a page that is read as all of them. -/
theorem samplesOf?_families {families : List Family} {samples : List (List Sample)}
    (h : List.Forall₂ Tells families samples) :
    ∃ read, samplesOf? (String.join (families.map Family.text)) = some read ∧
      read.Perm samples.flatten := by
  have hreads : ∃ read, Reads (String.join (families.map Family.text)).toList read ∧
      read.Perm samples.flatten := by
    induction h with
    | nil => exact ⟨[], .nil, .refl _⟩
    | @cons f _ families _ hf _ ih =>
      obtain ⟨read, hread, hperm⟩ := hf
      obtain ⟨rest, hrest, hrestPerm⟩ := ih
      refine ⟨read ++ rest, ?_, hperm.append hrestPerm⟩
      simpa [String.toList_join] using hread.append hrest
  obtain ⟨read, hread, hperm⟩ := hreads
  exact ⟨read, hread.page, hperm⟩

/-- **A page says what was observed**, and nothing else. -/
theorem samplesOf?_page (calls : List Observation) :
    ∃ read, samplesOf? (Registry.after calls).page = some read ∧ read.Perm (expected calls) := by
  refine samplesOf?_families (.cons (tells_counterFamily calls .queries (by decide)) <|
    .cons (tells_histogramFamily calls .queryTimes (by decide)) <|
    .cons (tells_histogramFamily calls .requestTimes (by decide)) <|
    .cons (tells_counterFamily calls .requests (by decide)) <|
    .cons (tells_health calls) <|
    .cons (tells_counterFamily calls .operations (by decide)) <|
    .cons (tells_histogramFamily calls .messageTimes (by decide)) <|
    .cons (tells_counterFamily calls .messages (by decide)) .nil)

/-- **The page of a registry tells what was observed**, whatever was. A second set of metrics is
refused at any time and changes nothing. What is read off the page is what the observations lead
to, in some order, so there is a series for each fingerprint that was used: where the fingerprints
tell the values of a family apart, one for each of them, with what was observed under just these
values. The counts of buckets never go down, and the last of them is that of all times. -/
theorem page_tells (steps : List Step) :
    let calls := steps.filterMap Step.observed?
    (slotAfter steps).register = (.error .duplicate, slotAfter steps) ∧
    (∃ r read, slotAfter steps = some r ∧ (r.serve "GET" "/metrics").status = 200 ∧
      samplesOf? (r.serve "GET" "/metrics").body = some read ∧ read.Perm (expected calls)) ∧
    (∀ family, Apart (countedValues calls family) →
      (countedSamples calls family).Perm ((countedValues calls family).dedup.map fun v =>
        counterSample family v ((countedValues calls family).count v))) ∧
    (∀ family, Apart ((timedUses calls family).map Use.values) →
      (timedSamples calls family).Perm (((timedUses calls family).map Use.values).dedup.flatMap
        fun v => histogramSamples family.name (family.labels v)
          (((timedUses calls family).filter (·.values = v)).map Use.amount))) ∧
    ∀ spans : List Span,
      ((buckets.map fun b => spans.countP (· ≤ b.1)) ++ [spans.length]).Pairwise (· ≤ ·) := by
  intro calls
  refine ⟨by rw [slotAfter_eq]; rfl, ?_, fun _ => countedSamples_apart,
    fun _ => timedSamples_apart, Histogram.counts_ascend⟩
  obtain ⟨read, hread, hperm⟩ := samplesOf?_page calls
  exact ⟨Registry.after calls, read, slotAfter_eq steps, rfl, hread, hperm⟩

/-- The same text, cut in two at different places, is one series: of two requests with different
labels the page shows one line, with the labels of the first and a count of two, and none with the
labels of the second. -/
theorem observed_together :
    ∃ read, samplesOf? ((Registry.after
        [.requestCounted "ab" "c", .requestCounted "a" "bc"]).serve "GET" "/metrics").body =
          some read ∧
      ⟨"notification_service_grpc_requests_total", [("method", "ab"), ("status", "c")], "2"⟩ ∈
        read ∧
      ∀ s ∈ read, s.labels ≠ [("method", "a"), ("status", "bc")] := by
  obtain ⟨read, hread, hperm⟩ :=
    samplesOf?_page [.requestCounted "ab" "c", .requestCounted "a" "bc"]
  have hsame : ofValues ["a", "bc"] = ofValues ["ab", "c"] :=
    congrArg ofChars (by decide : ["a", "bc"].flatMap String.toList =
      ["ab", "c"].flatMap String.toList)
  have hvalues : countedValues [.requestCounted "ab" "c", .requestCounted "a" "bc"] .requests =
      [["ab", "c"], ["a", "bc"]] := rfl
  have hrequests : countedSamples [.requestCounted "ab" "c", .requestCounted "a" "bc"] .requests =
      [counterSample .requests ["ab", "c"] 2] := by
    rw [countedSamples, hvalues]
    simp [firsts, hsame]
  have hexpected : expected [.requestCounted "ab" "c", .requestCounted "a" "bc"] =
      [counterSample .requests ["ab", "c"] 2, ⟨nameSpace ++ "health", [], "0"⟩] := by
    rw [expected, hrequests]
    rfl
  rw [hexpected] at hperm
  refine ⟨read, hread, hperm.mem_iff.2 (by decide), fun s hs => ?_⟩
  have hnone : ∀ s ∈ [counterSample .requests ["ab", "c"] 2, ⟨nameSpace ++ "health", [], "0"⟩],
      s.labels ≠ [("method", "a"), ("status", "bc")] := by decide
  exact hnone s (hperm.subset hs)

end Metrics

end NotificationFeed
