import NotificationFeed.Retry
/-!
# Trying again — how often, when, and what is written

Behind every failure there is one sleep, and the next attempt starts when it
is over: with that the moments of all attempts are given, one after another
(`Retry.start`). What happens in all is laid out failure by failure
(`Retry.run_eq`), and the number of attempts, their moments and the journal
are read off that row.

How long the pauses are is the timer's affair. From what it promises
(`Timer.Keeps`) none is shorter than the interval, unless the interval is
longer than the longest sleep, and none is longer by a tick or more; where all
is in whole ticks the attempts start at exact multiples of an attempt with its
pause (`Retry.start_eq`). Beyond that the pause need not be the interval
(`Retry.pause_not_interval`).
-/

namespace NotificationFeed

namespace Retry

variable {α β : Type} {timer : Timer} {longest : Span}
variable {action : String} {interval duration called : Span} {result : Nat → α}

/-- When the attempt with an index starts: the first when it is called for, and every other when
the sleep behind the one before it is over. -/
def start (timer : Timer) (interval duration called : Span) : Nat → Span
  | 0 => called
  | index + 1 => timer.wake (start timer interval duration called index + duration) interval

/-! ## The pauses -/

section

variable (h : timer.Keeps longest)
include h

/-- **How long a pause is**: as long as the interval or the longest sleep, and less than a tick
longer. The next attempt starts on a tick. -/
theorem start_succ (index : Nat) :
    start timer interval duration called index + duration + min interval longest ≤
        start timer interval duration called (index + 1) ∧
      start timer interval duration called (index + 1) <
        start timer interval duration called index + duration + min interval longest + Timer.tick ∧
      start timer interval duration called (index + 1) % Timer.tick = 0 :=
  ⟨h.elapsed _ _, h.prompt _ _, h.onTick _ _⟩

/-- An attempt has ended when a later one starts. -/
theorem start_add_le {index later : Nat} (hlater : index < later) :
    start timer interval duration called index + duration ≤
      start timer interval duration called later := by
  have hnext : ∀ i, start timer interval duration called i + duration ≤
      start timer interval duration called (i + 1) := by
    intro i
    exact Nat.le_trans (Nat.le_add_right _ _) (start_succ h i).1
  induction later with
  | zero => exact absurd hlater (Nat.not_lt_zero _)
  | succ later ih =>
    rcases Nat.lt_succ_iff_lt_or_eq.1 hlater with hbefore | rfl
    · exact Nat.le_trans (ih hbefore) (Nat.le_trans (Nat.le_add_right _ _) (hnext later))
    · exact hnext index

/-- **In whole ticks the attempts start at exact multiples** of an attempt with its pause. -/
theorem start_eq (hcalled : called % Timer.tick = 0) (hduration : duration % Timer.tick = 0)
    (hinterval : interval % Timer.tick = 0) (index : Nat) :
    start timer interval duration called index =
      called + index * (duration + min interval longest) := by
  -- Each start is on a tick, so each sleep begins on one.
  have hstart : ∀ i, start timer interval duration called i % Timer.tick = 0 := by
    rintro (_ | i)
    · exact hcalled
    · exact (start_succ h i).2.2
  induction index with
  | zero => rw [start, Nat.zero_mul, Nat.add_zero]
  | succ index ih =>
    have hbegun : (start timer interval duration called index + duration) % Timer.tick = 0 := by
      rw [Nat.add_mod, hstart index, hduration]
      exact Nat.zero_mod _
    rw [start, h.wake_eq hbegun hinterval, ih, Nat.succ_mul, Nat.add_assoc, Nat.add_assoc]

end

/-! ## All that happens -/

/-- What happens in an attempt that fails, and that it is written down. -/
def failing (timer : Timer) (action : String) (interval duration called : Span)
    (x : String × Nat) : List Event :=
  attempt action duration (start timer interval duration called x.2) x.2 ++
    [.noted (failureEntry action (number x.2) x.1)]

/-- **All that happens**: one failing attempt after another, and the one that succeeds. -/
theorem run_eq (index : Nat) (failures : List String) :
    run timer action interval duration result (start timer interval duration called index) index
        failures = {
      result := result (index + failures.length)
      finished := start timer interval duration called (index + failures.length) + duration
      events :=
        (failures.zipIdx index).flatMap (failing timer action interval duration called) ++
          attempt action duration (start timer interval duration called (index + failures.length))
            (index + failures.length) } := by
  induction failures generalizing index with
  | nil => rfl
  | cons error failures ih =>
    -- The next attempt starts where the sleep behind this one ends.
    have hindex : index + (error :: failures).length = index + 1 + failures.length := by
      simp only [List.length_cons]
      omega
    rw [run, ← start, ih, hindex, List.zipIdx_cons, List.flatMap_cons]
    simp only [failing, List.append_assoc, List.cons_append, List.nil_append]

/-- What each attempt contributes, by its index alone. -/
theorem flatMap_zipIdx (g : Nat → List β) (failures : List String) :
    (failures.zipIdx.flatMap fun x => g x.2) ++ g failures.length =
      (List.range (failures.length + 1)).flatMap g := by
  have hindices : failures.zipIdx.map (·.2) = List.range failures.length := by
    rw [List.zipIdx_map_snd, List.range_eq_range']
  rw [List.range_succ, List.flatMap_append, List.flatMap_singleton, ← hindices, List.flatMap_map]

/-- Up to the last of its numbers the counter shows the number of the attempt. -/
theorem toNat_number {index : Nat} (h : index + 1 < UInt32.size) : (number index).toNat = index + 1 :=
  UInt32.toNat_ofNat_of_lt h

/-- When attempts start and end, in order. -/
def Outcome.moments (o : Outcome α) : List Event :=
  o.events.filter fun
    | .noted _ => false
    | .started .. | .ended .. => true

section

variable (timer : Timer) (action : String) (interval duration : Span) (failures : List String)
variable (result : Nat → α) (called : Span)

theorem retry_eq :
    retry timer action interval duration failures result called = {
      result := result failures.length
      finished := start timer interval duration called failures.length + duration
      events := failures.zipIdx.flatMap (failing timer action interval duration called) ++
        attempt action duration (start timer interval duration called failures.length)
          failures.length } := by
  have hrun : run timer action interval duration result (start timer interval duration called 0) 0
      failures = _ := run_eq 0 failures
  rw [Nat.zero_add] at hrun
  exact hrun

theorem starts_retry :
    (retry timer action interval duration failures result called).starts =
      (List.range (failures.length + 1)).map (start timer interval duration called) := by
  rw [retry_eq, Outcome.starts, List.filterMap_append, List.filterMap_flatMap, List.map_eq_flatMap]
  exact flatMap_zipIdx (fun index => [start timer interval duration called index]) failures

theorem moments_retry :
    (retry timer action interval duration failures result called).moments =
      (List.range (failures.length + 1)).flatMap fun index =>
        [.started (start timer interval duration called index) index,
          .ended (start timer interval duration called index + duration) index] := by
  rw [retry_eq, Outcome.moments, List.filter_append, List.filter_flatMap]
  exact flatMap_zipIdx (fun index =>
    [Event.started (start timer interval duration called index) index,
      .ended (start timer interval duration called index + duration) index]) failures

theorem journal_retry :
    (retry timer action interval duration failures result called).journal =
      (failures.zipIdx.flatMap fun x =>
        [startEntry action (number x.2), failureEntry action (number x.2) x.1]) ++
        [startEntry action (number failures.length)] := by
  rw [retry_eq, Outcome.journal, List.filterMap_append, List.filterMap_flatMap]
  rfl

end

/-- **Trying again ends with the first success**, after one attempt for each failure and one more,
and gives what that attempt gives. The first attempt starts at once, and each of the others where
the sleep behind the one before it ends; with the end of the last one all is over. On a timer that
keeps its promises each attempt has ended when the next one starts, each pause is as long as the
interval, or as the longest sleep where that is shorter, and less than a tick longer, and in whole
ticks the attempts start at exact multiples of an attempt with its pause. The journal tells of
every attempt that it started and behind it, if it failed, that it failed and how, both under its
number, which is right up to the last number of 32 bits. -/
theorem retry_course {timer : Timer} {longest : Span} (h : timer.Keeps longest) (action : String)
    (interval duration : Span) (failures : List String) (result : Nat → α) (called : Span) :
    let outcome := retry timer action interval duration failures result called
    let starts := start timer interval duration called
    outcome.result = result failures.length ∧
      outcome.starts = (List.range (failures.length + 1)).map starts ∧
      outcome.moments = ((List.range (failures.length + 1)).flatMap fun k =>
        [.started (starts k) k, .ended (starts k + duration) k]) ∧
      outcome.finished = starts failures.length + duration ∧
      starts 0 = called ∧
      (∀ k, starts k + duration + min interval longest ≤ starts (k + 1) ∧
        starts (k + 1) < starts k + duration + min interval longest + Timer.tick ∧
        starts (k + 1) % Timer.tick = 0) ∧
      (called % Timer.tick = 0 → duration % Timer.tick = 0 → interval % Timer.tick = 0 →
        ∀ k, starts k = called + k * (duration + min interval longest)) ∧
      (∀ k later, k < later → starts k + duration ≤ starts later) ∧
      outcome.journal =
        (failures.zipIdx.flatMap fun x =>
          [.info "attempt started" [("attempt", toString (number x.2).toNat), ("action", action)],
            .warn "attempt failed"
              [("attempt", toString (number x.2).toNat), ("action", action), ("err", x.1)]]) ++
          [.info "attempt started"
            [("attempt", toString (number failures.length).toNat), ("action", action)]] ∧
      (∀ k, k + 1 < UInt32.size → (number k).toNat = k + 1) := by
  intro outcome starts
  refine ⟨?_, starts_retry timer action interval duration failures result called,
    moments_retry timer action interval duration failures result called, ?_, rfl,
    fun k => start_succ h k, fun hcalled hduration hinterval k =>
      start_eq h hcalled hduration hinterval k, fun k later hlater => start_add_le h hlater,
    journal_retry timer action interval duration failures result called,
    fun k hk => toNat_number hk⟩
  · exact congrArg Outcome.result
      (retry_eq timer action interval duration failures result called)
  · exact congrArg Outcome.finished
      (retry_eq timer action interval duration failures result called)

/-- The timer of the witnesses: its longest sleep is thirty years of 365 days. -/
def calendarTimer : Timer := .ticking (Span.ofSeconds (30 * 365 * 86400))

/-- Two failures, half a second each, and pauses of one second. -/
theorem retry_course_twice :
    let outcome := retry calendarTimer "connect" (Span.ofSeconds 1) (Span.ofMillis 500) ["a", "b"] id
      (Span.ofMillis 7)
    calendarTimer.Keeps (Span.ofSeconds (30 * 365 * 86400)) ∧ outcome.result = 2 ∧
      outcome.starts = [Span.ofMillis 7, Span.ofMillis 1507, Span.ofMillis 3007] ∧
      outcome.finished = Span.ofMillis 7 + 2 * Span.ofMillis 1500 + Span.ofMillis 500 := by
  have hkeeps : calendarTimer.Keeps (Span.ofSeconds (30 * 365 * 86400)) :=
    Timer.keeps_ticking (by decide)
  obtain ⟨hresult, hstarts, -, hfinished, -, -, hexact, -⟩ := retry_course hkeeps "connect"
    (Span.ofSeconds 1) (Span.ofMillis 500) ["a", "b"] id (Span.ofMillis 7)
  have hlast := hexact (by decide) (by decide) (by decide) 2
  refine ⟨hkeeps, hresult, hstarts.trans (by decide), hfinished.trans ?_⟩
  exact congrArg (· + Span.ofMillis 500) (hlast.trans (by decide))

/-- **The pause is not always the interval**: it is over after the longest sleep where it should
last longer, and it lasts to the next tick where the interval ends between two. -/
theorem pause_not_interval :
    (retry calendarTimer "test action" (Span.ofMillis 1000000000000) 0 ["a"] id 0).starts =
        [0, Span.ofMillis 946080000000] ∧
      (retry calendarTimer "test action" (Span.ofMillis 1000000000000) 0 ["a"] id 0).starts ≠
        ((List.range 2).map fun k => k * (0 + Span.ofMillis 1000000000000)) ∧
      (retry calendarTimer "test action" 1500000 0 ["a"] id 0).starts =
        [0, Span.ofMillis 2] := by
  decide

end Retry

end NotificationFeed
