import Mathlib.Data.List.Basic
import NotificationFeed.Metrics.Reading
/-!
# The metrics page — what is written is read back

A page is made of lines, and lines are read one by one. So it is said of a
stretch of a page which samples it gives wherever it stands (`Reads`), and the
stretches are put together in order. A remark gives none, and the line of a
sample gives that sample, whatever characters stand in the values of its
labels (`reads_sample`): escaped they hold no line feed, and the only quote
behind them that no backslash introduces is the closing one
(`takeQuoted_escaped`).
-/

namespace NotificationFeed

namespace Metrics

/-! ## Stretches of a page -/

/-- The samples of some characters of a page. -/
def samplesIn (text : List Char) : Option (List Sample) :=
  ((linesOf text).filter (!isRemark ·)).mapM Sample.ofLine?

/-- **A stretch of a page gives some samples**, and the rest of the page is read as if the
stretch were not there. -/
def Reads (text : List Char) (samples : List Sample) : Prop :=
  ∀ rest, samplesIn (text ++ rest) = (samplesIn rest).map (samples ++ ·)

/-- A line ends at its line feed. -/
theorem linesOf_line {line : List Char} (hline : '\n' ∉ line) (rest : List Char) :
    linesOf (line ++ ['\n'] ++ rest) = line :: linesOf rest := by
  rw [List.append_assoc, List.singleton_append]
  induction line with
  | nil => rfl
  | cons c line ih =>
    have hc : c ≠ '\n' := fun h => hline (h ▸ List.mem_cons_self)
    rw [List.cons_append, linesOf, if_neg hc, ih fun h => hline (List.mem_cons_of_mem c h)]

namespace Reads

variable {text text' : List Char} {samples samples' : List Sample}

theorem nil : Reads [] [] := fun rest => by simp

theorem append (h : Reads text samples) (h' : Reads text' samples') :
    Reads (text ++ text') (samples ++ samples') := by
  intro rest
  rw [List.append_assoc, h, h', Option.map_map]
  simp [Function.comp_def]

theorem flatMap {α : Type} {xs : List α} {f : α → List Char} {g : α → List Sample}
    (h : ∀ x ∈ xs, Reads (f x) (g x)) : Reads (xs.flatMap f) (xs.flatMap g) := by
  induction xs with
  | nil => exact nil
  | cons x xs ih =>
    obtain ⟨hx, hxs⟩ := List.forall_mem_cons.1 h
    exact hx.append (ih hxs)

/-- A remark gives nothing. -/
theorem remark {line : List Char} (hline : '\n' ∉ line) (hremark : isRemark line = true) :
    Reads (line ++ ['\n']) [] := by
  intro rest
  rw [samplesIn, linesOf_line hline, List.filter_cons_of_neg (by simp [hremark])]
  exact (congrFun Option.map_id _).symm

/-- A line that is no remark gives what it is read as. -/
theorem ofLine {line : List Char} {s : Sample} (hline : '\n' ∉ line)
    (hremark : isRemark line = false) (hread : Sample.ofLine? line = some s) :
    Reads (line ++ ['\n']) [s] := by
  intro rest
  rw [samplesIn, linesOf_line hline, List.filter_cons_of_pos (by simp [hremark]), List.mapM_cons,
    hread]
  change (samplesIn rest >>= fun more => some (s :: more)) = _
  cases samplesIn rest <;> rfl

/-- A whole page gives its samples. -/
theorem page {page : String} (h : Reads page.toList samples) :
    samplesOf? page = some samples := by
  have hpage : samplesIn page.toList = some (samples ++ []) := by
    rw [← List.append_nil page.toList, h]
    rfl
  rwa [List.append_nil] at hpage

end Reads

/-! ## The value of a label -/

/-- A character as the value of a label holds it. -/
def escaped (c : Char) : List Char :=
  if c = '\\' then ['\\', '\\'] else if c = '\n' then ['\\', 'n']
  else if c = '"' then ['\\', '"'] else [c]

theorem toList_escape (value : String) : (escape value).toList = value.toList.flatMap escaped :=
  String.toList_ofList

/-- An escaped character is no line feed. -/
theorem newline_not_mem_escaped (c : Char) : '\n' ∉ escaped c := by
  unfold escaped
  split_ifs with hbackslash hnewline
  · decide
  · decide
  · decide
  · simpa using Ne.symm hnewline

/-- **A value is read back up to its closing quote.** -/
theorem takeQuoted_escaped (value rest : List Char) :
    takeQuoted (value.flatMap escaped ++ '"' :: rest) = some (value, rest) := by
  induction value with
  | nil => rfl
  | cons c value ih =>
    rw [List.flatMap_cons, List.append_assoc, escaped]
    split_ifs with hbackslash hnewline hquote
    · simp [hbackslash, takeQuoted, ih]
    · simp [hnewline, takeQuoted, ih]
    · simp [hquote, takeQuoted, ih]
    · simp [takeQuoted, ih, hbackslash]

/-! ## Labels -/

/-- A label as a line holds it. -/
def labelChars (label : String × String) : List Char :=
  label.1.toList ++ '=' :: '"' :: (label.2.toList.flatMap escaped ++ ['"'])

theorem toList_labelText {labels : List (String × String)} (h : labels ≠ []) :
    (labelText labels).toList =
      '\x7b' :: ([','].intercalate (labels.map labelChars) ++ ['\x7d']) := by
  have hlabel (label : String × String) :
      (label.1 ++ "=\"" ++ escape label.2 ++ "\"").toList = labelChars label := by
    simp [labelChars, toList_escape]
  simp [labelText, h, Function.comp_def, hlabel, String.toList_intercalate]

/-- What a label is, as far as it matters to its reader: its name ends at the equals sign. -/
theorem takeLabels_label {label : String × String} (hname : '=' ∉ label.1.toList)
    (tail : List Char) (n : Nat) :
    takeLabels (n + 1) (labelChars label ++ tail) =
      match tail with
      | ',' :: rest => (takeLabels n rest).map fun (labels, rest) => (label :: labels, rest)
      | '\x7d' :: rest => some ([label], rest)
      | _ => none := by
  have hplain : ∀ c ∈ label.1.toList, decide (c ≠ '=') = true := fun c hc =>
    decide_eq_true fun h => hname (h ▸ hc)
  have hchars : labelChars label ++ tail =
      label.1.toList ++ '=' :: '"' :: (label.2.toList.flatMap escaped ++ '"' :: tail) := by
    simp [labelChars]
  have hdrop : (labelChars label ++ tail).dropWhile (· ≠ '=') =
      '=' :: '"' :: (label.2.toList.flatMap escaped ++ '"' :: tail) := by
    rw [hchars, List.dropWhile_append_of_pos hplain]
    rfl
  have htake : (labelChars label ++ tail).takeWhile (· ≠ '=') = label.1.toList := by
    rw [hchars, List.takeWhile_append_of_pos hplain]
    simp
  rw [takeLabels, hdrop, htake]
  simp only [takeQuoted_escaped, String.ofList_toList, Option.bind_eq_bind, Option.bind_some,
    Option.pure_def, Option.map_eq_bind]
  rfl

/-- **Labels are read back**, with the closing brace and what stands behind it left over. -/
theorem takeLabels_labels {labels : List (String × String)} (rest : List Char)
    (hne : labels ≠ []) (hnames : ∀ label ∈ labels, '=' ∉ label.1.toList) {n : Nat}
    (hn : labels.length ≤ n) :
    takeLabels n ([','].intercalate (labels.map labelChars) ++ '\x7d' :: rest) =
      some (labels, rest) := by
  induction labels generalizing n with
  | nil => exact absurd rfl hne
  | cons label labels ih =>
    obtain ⟨hname, hnames⟩ := List.forall_mem_cons.1 hnames
    cases n with
    | zero => cases hn
    | succ n =>
      cases labels with
      | nil =>
        rw [List.map_singleton, List.intercalate_singleton, takeLabels_label hname]
        rfl
      | cons next labels =>
        have hrest := ih (List.cons_ne_nil _ _) hnames (Nat.le_of_succ_le_succ hn)
        rw [List.map_cons, List.intercalate_cons_of_ne_nil (by simp), List.append_assoc,
          List.append_assoc, takeLabels_label hname, List.singleton_append]
        simp only [hrest]
        rfl

/-- Each label takes some room. -/
theorem length_le_labels (labels : List (String × String)) :
    labels.length ≤ ([','].intercalate (labels.map labelChars)).length := by
  induction labels with
  | nil => exact Nat.zero_le _
  | cons label labels ih =>
    have hlabel : 1 ≤ (labelChars label).length := by
      simp only [labelChars, List.length_append, List.length_cons]
      omega
    cases labels with
    | nil => rwa [List.map_singleton, List.intercalate_singleton]
    | cons next labels =>
      rw [List.map_cons, List.intercalate_cons_of_ne_nil (by simp)]
      simp only [List.length_append, List.length_cons] at ih ⊢
      omega

/-- Labels hold no line feed. -/
theorem newline_not_mem_labels {labels : List (String × String)}
    (h : ∀ label ∈ labels, '\n' ∉ label.1.toList) :
    '\n' ∉ [','].intercalate (labels.map labelChars) := by
  induction labels with
  | nil => simp
  | cons label labels ih =>
    obtain ⟨hname, hnames⟩ := List.forall_mem_cons.1 h
    have hlabel : '\n' ∉ labelChars label := by
      simp [labelChars, hname, newline_not_mem_escaped]
    cases labels with
    | nil => simpa [List.intercalate_singleton] using hlabel
    | cons next labels =>
      rw [List.map_cons, List.intercalate_cons_of_ne_nil (by simp)]
      simp only [List.mem_append, not_or]
      exact ⟨⟨hlabel, by decide⟩, ih hnames⟩

/-! ## Lines -/

/-- A sample as a line. -/
def Sample.text (s : Sample) : String := s.name ++ labelText s.labels ++ " " ++ s.value ++ "\n"

/-- A name that nothing in it ends. -/
def PlainName (name : String) : Prop := ∀ c ∈ name.toList, endsName c = false ∧ c ≠ '\n'

instance (name : String) : Decidable (PlainName name) :=
  List.decidableBAll (fun c => endsName c = false ∧ c ≠ '\n') name.toList

theorem PlainName.append {name suffix : String} (h : PlainName name) (h' : PlainName suffix) :
    PlainName (name ++ suffix) := by
  intro c hc
  rw [String.toList_append] at hc
  exact (List.mem_append.1 hc).elim (h c) (h' c)

theorem PlainName.newline {name : String} (h : PlainName name) : '\n' ∉ name.toList :=
  fun hmem => (h _ hmem).2 rfl

/-- **What a line can hold**: names that nothing in them ends, and a number on
one line. The values of labels are any texts. -/
structure Sample.Plain (s : Sample) : Prop where
  name : PlainName s.name
  begins : s.name.toList.head? = some 'n'
  labels : ∀ label ∈ s.labels, '=' ∉ label.1.toList ∧ '\n' ∉ label.1.toList
  value : '\n' ∉ s.value.toList

/-- The characters of a line without its line feed. -/
def Sample.chars (s : Sample) : List Char :=
  s.name.toList ++ ((labelText s.labels).toList ++ ' ' :: s.value.toList)

theorem toList_text (s : Sample) : s.text.toList = s.chars ++ ['\n'] := by
  simp [Sample.text, Sample.chars]

/-- **The line of a sample is read as the sample.** -/
theorem ofLine?_chars {s : Sample} (h : s.Plain) : Sample.ofLine? s.chars = some s := by
  obtain ⟨name, labels, value⟩ := s
  have hname : ∀ c ∈ name.toList, (!endsName c) = true := fun c hc => by simp [(h.name c hc).1]
  cases hlabels : labels with
  | nil =>
    have hdrop :
        (Sample.chars ⟨name, [], value⟩).dropWhile (!endsName ·) = ' ' :: value.toList := by
      rw [Sample.chars, List.dropWhile_append_of_pos hname]
      rfl
    have htake : (Sample.chars ⟨name, [], value⟩).takeWhile (!endsName ·) = name.toList := by
      rw [Sample.chars, List.takeWhile_append_of_pos hname]
      simp [labelText, endsName]
    rw [Sample.ofLine?, hdrop, htake]
    simp
  | cons label rest =>
    rw [← hlabels]
    have hne : labels ≠ [] := by simp [hlabels]
    have hchars : Sample.chars ⟨name, labels, value⟩ = name.toList ++ '\x7b' ::
        ([','].intercalate (labels.map labelChars) ++ '\x7d' :: ' ' :: value.toList) := by
      simp [Sample.chars, toList_labelText hne]
    have hdrop : (Sample.chars ⟨name, labels, value⟩).dropWhile (!endsName ·) = '\x7b' ::
        ([','].intercalate (labels.map labelChars) ++ '\x7d' :: ' ' :: value.toList) := by
      rw [hchars, List.dropWhile_append_of_pos hname]
      rfl
    have htake : (Sample.chars ⟨name, labels, value⟩).takeWhile (!endsName ·) = name.toList := by
      rw [hchars, List.takeWhile_append_of_pos hname]
      simp [endsName]
    have hroom : labels.length ≤
        ([','].intercalate (labels.map labelChars) ++ '\x7d' :: ' ' :: value.toList).length := by
      rw [List.length_append]
      exact Nat.le_add_right_of_le (length_le_labels labels)
    have hread := takeLabels_labels (' ' :: value.toList) hne
      (fun label hlabel => (h.labels label hlabel).1) hroom
    rw [Sample.ofLine?, hdrop, htake, String.ofList_toList]
    change Option.bind (takeLabels _ _) _ = _
    rw [hread]
    simp

/-- **The line of a sample gives that sample.** -/
theorem reads_sample {s : Sample} (h : s.Plain) : Reads s.text.toList [s] := by
  rw [toList_text]
  refine .ofLine ?_ ?_ (ofLine?_chars h)
  · have hlabels : '\n' ∉ (labelText s.labels).toList := by
      by_cases hne : s.labels = []
      · simp [hne, labelText]
      · rw [toList_labelText hne]
        simp [newline_not_mem_labels fun label hlabel => (h.labels label hlabel).2]
    simp [Sample.chars, h.name.newline, hlabels, h.value]
  · rw [isRemark, Sample.chars, List.head?_append, h.begins]
    rfl

end Metrics

end NotificationFeed
