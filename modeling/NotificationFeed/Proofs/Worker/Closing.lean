import NotificationFeed.Worker.Schedule
import NotificationFeed.Worker.Start
import NotificationFeed.Proofs.Worker.Transcript
/-!
# The loop — told to stop at any moment

The loop of a worker comes round, waits in its poll and meets something: one
visit. Until it is told to stop at a moment of the stopwatch it makes visits,
and then it closes its queue once (`runUntil_visits`). The visits are the polls
of the queue, one after another, and behind them at most one that the signal
made (`Visits.polled_prefix`). What the signal decides is how many there are, and
that is said once, beside the world each visit begins in (`Visit.Timely`): a
visit that begins at the moment or later is the stop itself, so nothing is
begun any more; a message was there before the moment, and its block is whole
however far beyond the moment its handling goes; a poll that the signal ends
has waited until the moment and no longer.

Of the queue nothing is assumed: its polls may last as long as they like, and
one that is to wait for no time at all may end at once, with a message or
without, as often as that is so.

The inductions are on the visits, and the world in which a visit begins is the
one that the visits before it leave.
-/

namespace NotificationFeed

namespace Worker

variable {config : Config} {stopAt : Span} {polls : List Poll} {w : World} {ending : Ending}

/-- One visit of the loop: how long its poll waits, and what it meets then. -/
structure Visit where
  waited : Span
  turn : Turn
  deriving DecidableEq, Repr

namespace Visit

/-- The world a visit leaves. -/
def leaves (config : Config) (w : World) (v : Visit) : World :=
  (step config (w.elapse v.waited) v.turn).1

/-- **What a visit adds to the record**: its poll, unless the signal is there
already, and the block of the message it meets. -/
def account (config : Config) (w : World) (v : Visit) : List Service.Call :=
  match v.turn with
  | .stop => []
  | .message m => .poll config.pollTimeout :: block config (w.elapse v.waited) m
  | .interrupted | .timeout | .closed => [.poll config.pollTimeout]

/-- The message a visit meets. -/
def message? (v : Visit) : Option Message :=
  match v.turn with
  | .message m => some m
  | _ => none

/-- **How a visit keeps to the moment of the signal.** The world is the one in
which it begins, and `rest` are the visits after it. -/
structure Timely (config : Config) (stopAt : Span) (ending : Ending) (w : World) (v : Visit)
    (rest : List Visit) : Prop where
  /-- What would begin once the signal was given is the stop. -/
  late : stopAt ≤ w.stopwatch → v = ⟨0, .stop⟩
  /-- The loop never stops before it is told to. -/
  stop : v.turn = .stop → stopAt ≤ w.stopwatch
  /-- A poll that the signal ends waits up to the signal. -/
  interrupted : v.turn = .interrupted → w.stopwatch + v.waited = stopAt
  /-- All else that is met, a message above all, is there before the signal. -/
  met : v.turn = .stop ∨ v.turn = .interrupted ∨ w.stopwatch + v.waited < stopAt
  /-- The loop ends with its last visit, and with no other. -/
  ending : (step config (w.elapse v.waited) v.turn).2 = if rest = [] then some ending else none

end Visit

/-- The record of a row of visits. -/
def account (config : Config) : World → List Visit → List Service.Call
  | _, [] => []
  | w, v :: visits => v.account config w ++ account config (v.leaves config w) visits

/-- The visit that a poll makes if no signal ends it. -/
def Poll.visit (poll : Poll) : Visit := ⟨poll.lasts, poll.result.turn⟩

/-- Whether a visit met what its poll gave, and not the signal. -/
def Visit.isPolled (v : Visit) : Bool := v.turn != .stop && v.turn != .interrupted

/-- The messages that polls give before the queue closes. -/
def Poll.messages : List Poll → List Message
  | [] => []
  | ⟨_, .message m⟩ :: polls => m :: messages polls
  | ⟨_, .timeout⟩ :: polls => messages polls
  | ⟨_, .closed⟩ :: _ => []

/-! ## The visits of a run -/

/-- **The visits of the loop to a queue**, until the moment of the signal. -/
inductive Visits (config : Config) (stopAt : Span) :
    List Poll → World → List Visit → Ending → Prop
  /-- The signal is there when the loop comes round. -/
  | stop {polls : List Poll} {w : World} :
      stopAt ≤ w.stopwatch → Visits config stopAt polls w [⟨0, .stop⟩] .stopped
  /-- The signal comes while the poll waits. -/
  | interrupted {polls : List Poll} {w : World} :
      w.stopwatch < stopAt → (∀ poll ∈ polls.head?, stopAt ≤ w.stopwatch + poll.lasts) →
      Visits config stopAt polls w [⟨stopAt - w.stopwatch, .interrupted⟩] .stopped
  /-- The queue closes before the signal comes. -/
  | closed {lasts : Span} {polls : List Poll} {w : World} :
      w.stopwatch + lasts < stopAt →
      Visits config stopAt (⟨lasts, .closed⟩ :: polls) w [⟨lasts, .closed⟩] .queueClosed
  /-- A message or the end of the timeout is there before the signal; the signal is looked at
  when that is dealt with. -/
  | next {poll : Poll} {polls : List Poll} {w : World} {visits : List Visit} {ending : Ending} :
      poll.result ≠ .closed → w.stopwatch + poll.lasts < stopAt →
      Visits config stopAt polls (Visit.leaves config w poll.visit) visits ending →
      Visits config stopAt (poll :: polls) w (poll.visit :: visits) ending

/-- **A run is its visits, and then the close of the queue.** -/
theorem runUntil_visits (config : Config) (stopAt : Span) (polls : List Poll) (w : World) :
    ∃ visits ending, Visits config stopAt polls w visits ending ∧
      runUntil config stopAt polls w =
        ((visits.foldl (Visit.leaves config) w).record .closeQueue, ending) := by
  fun_induction runUntil config stopAt polls w with
  | case1 polls w hstop => exact ⟨_, _, .stop hstop, rfl⟩
  | case2 w hrunning =>
    exact ⟨_, _, .interrupted (Nat.lt_of_not_le hrunning) (by simp), rfl⟩
  | case3 w hrunning poll polls hsignal =>
    exact ⟨_, _, .interrupted (Nat.lt_of_not_le hrunning) (by simpa using hsignal), rfl⟩
  | case4 w hrunning poll polls hsignal w' hstep ih =>
    obtain ⟨visits, ending, hvisits, hrun⟩ := ih
    -- A queue that closes ends the run, so it was something else that the run went on from.
    have hopen : poll.result ≠ .closed := by
      intro hclosed
      rw [hclosed] at hstep
      cases hstep
    obtain rfl : Visit.leaves config w poll.visit = w' := congrArg Prod.fst hstep
    exact ⟨_, ending, .next hopen (Nat.lt_of_not_le hsignal) hvisits, hrun⟩
  | case5 w hrunning poll polls hsignal w' ending hstep =>
    obtain ⟨lasts, result⟩ := poll
    cases result with
    | message m => cases hstep
    | timeout => cases hstep
    | closed =>
      cases hstep
      exact ⟨_, _, .closed (Nat.lt_of_not_le hsignal), rfl⟩

namespace Visits

theorem ne_nil {visits : List Visit} (h : Visits config stopAt polls w visits ending) :
    visits ≠ [] := by
  cases h <;> exact List.cons_ne_nil _ _

/-- **The first visit is timely.** -/
theorem timely_head {v : Visit} {rest : List Visit}
    (h : Visits config stopAt polls w (v :: rest) ending) :
    v.Timely config stopAt ending w rest := by
  -- What is there before the signal was not begun too late.
  have begun {waited : Span} (h : w.stopwatch + waited < stopAt) : ¬ stopAt ≤ w.stopwatch :=
    Nat.not_le.2 (Nat.lt_of_le_of_lt (Nat.le_add_right _ _) h)
  cases h with
  | stop hstop =>
    exact {
      late := fun _ => rfl
      stop := fun _ => hstop
      interrupted := nofun
      met := .inl rfl
      ending := rfl }
  | interrupted hrunning =>
    exact {
      late := fun h => absurd hrunning (Nat.not_lt.2 h)
      stop := nofun
      interrupted := fun _ => Nat.add_sub_cancel' (Nat.le_of_lt hrunning)
      met := .inr (.inl rfl)
      ending := rfl }
  | closed hbefore =>
    exact {
      late := fun h => absurd h (begun hbefore)
      stop := nofun
      interrupted := nofun
      met := .inr (.inr hbefore)
      ending := rfl }
  | @next poll polls w rest ending hopen hbefore hrest =>
    obtain ⟨lasts, result⟩ := poll
    cases result with
    | closed => exact absurd rfl hopen
    | message m | timeout =>
      exact {
        late := fun h => absurd h (begun hbefore)
        stop := nofun
        interrupted := nofun
        met := .inr (.inr hbefore)
        ending := (if_neg hrest.ne_nil).symm }

/-- After a visit with others behind it the run goes on as a run. -/
theorem tail {v : Visit} {rest : List Visit}
    (h : Visits config stopAt polls w (v :: rest) ending) (hrest : rest ≠ []) :
    ∃ polls', Visits config stopAt polls' (v.leaves config w) rest ending := by
  cases h with
  | next _ _ h => exact ⟨_, h⟩
  | stop | interrupted | closed => exact absurd rfl hrest

/-- **Every visit is timely**, in the world that the visits before it leave. -/
theorem timely {pre post : List Visit} {v : Visit}
    (h : Visits config stopAt polls w (pre ++ v :: post) ending) :
    v.Timely config stopAt ending (pre.foldl (Visit.leaves config) w) post := by
  induction pre generalizing polls w with
  | nil => exact h.timely_head
  | cons u pre ih =>
    obtain ⟨polls', htail⟩ := h.tail (by simp)
    exact ih htail

/-- **What is in hand when the signal comes is the last thing done**: the visit after it is the
stop. -/
theorem last_in_hand {pre post : List Visit} {v : Visit}
    (h : Visits config stopAt polls w (pre ++ v :: post) ending)
    (hsignal : stopAt ≤ (v.leaves config (pre.foldl (Visit.leaves config) w)).stopwatch) :
    post = [] ∨ post = [⟨0, .stop⟩] := by
  cases post with
  | nil => exact .inl rfl
  | cons u post =>
    -- The next visit begins once the signal was given, so it is the stop, and that ends the run.
    have hnext : u.Timely config stopAt ending
        (v.leaves config (pre.foldl (Visit.leaves config) w)) post := by
      have hsplit : Visits config stopAt polls w ((pre ++ [v]) ++ u :: post) ending := by
        simpa using h
      simpa using hsplit.timely
    obtain rfl := hnext.late hsignal
    have hending : some Ending.stopped = if post = [] then some ending else none := hnext.ending
    by_cases hpost : post = []
    · exact .inr (hpost ▸ rfl)
    · rw [if_neg hpost] at hending
      cases hending

/-- **The visits are the polls of the queue**, one after another, but for those that the signal
made. -/
theorem polled_prefix {visits : List Visit} (h : Visits config stopAt polls w visits ending) :
    visits.filter Visit.isPolled <+: polls.map Poll.visit := by
  induction h with
  | stop | interrupted => exact List.nil_prefix
  | closed => exact (List.prefix_cons_inj _).2 List.nil_prefix
  | @next poll polls w visits ending hopen hbefore hrest ih =>
    have hpolled : poll.visit.isPolled = true := by
      obtain ⟨lasts, result⟩ := poll
      cases result <;> rfl
    rw [List.filter_cons_of_pos hpolled]
    exact (List.prefix_cons_inj _).2 ih

/-- **The messages met are a prefix of the queue**, and all of it if the queue closed. -/
theorem messages_prefix {visits : List Visit}
    (h : Visits config stopAt polls w visits ending) :
    visits.filterMap Visit.message? <+: Poll.messages polls ∧
      (ending = .queueClosed → visits.filterMap Visit.message? = Poll.messages polls) := by
  induction h with
  | stop | interrupted => exact ⟨List.nil_prefix, nofun⟩
  | closed => exact ⟨List.nil_prefix, fun _ => rfl⟩
  | @next poll polls w visits ending hopen hbefore hrest ih =>
    obtain ⟨lasts, result⟩ := poll
    cases result with
    | closed => exact absurd rfl hopen
    | timeout => exact ih
    | message m => exact ⟨(List.prefix_cons_inj _).2 ih.1, fun h => congrArg _ (ih.2 h)⟩

end Visits

/-! ## The record of a run -/

theorem calls_leaves (config : Config) (w : World) (v : Visit) :
    (v.leaves config w).calls = w.calls ++ v.account config w := by
  obtain ⟨waited, turn⟩ := v
  have hcalls : (w.elapse waited).calls = w.calls := rfl
  cases turn with
  | stop => exact (List.append_nil _).symm
  | message m =>
    have hpolled := (World.record_alike (w.elapse waited) (.poll config.pollTimeout)).akin
    show (handle config m ((w.elapse waited).record (.poll config.pollTimeout))).calls =
      w.calls ++ .poll config.pollTimeout :: block config (w.elapse waited) m
    rw [(handle_block config m _).2, calls_record_poll, block_akin hpolled, hcalls,
      List.append_assoc, List.singleton_append]
  | interrupted | timeout =>
    exact (calls_record_poll config _).trans (congrArg (· ++ [.poll config.pollTimeout]) hcalls)
  | closed =>
    show (((w.elapse waited).record (.poll config.pollTimeout)).record (.note closedEntry)).calls =
      w.calls ++ [.poll config.pollTimeout]
    simp [World.calls, World.elapse, World.record, World.trace, Service.Call.isCollaborator]

theorem calls_visits (config : Config) (w : World) (visits : List Visit) :
    (visits.foldl (Visit.leaves config) w).calls = w.calls ++ account config w visits := by
  induction visits generalizing w with
  | nil => exact (List.append_nil _).symm
  | cons v visits ih =>
    rw [List.foldl_cons, ih, calls_leaves, account, List.append_assoc]

/-- A block never closes the queue. -/
theorem closeQueue_not_mem_block (config : Config) (w : World) (m : Message) :
    .closeQueue ∉ block config w m := by
  intro hc
  simp only [block, List.append_assoc, List.mem_append] at hc
  rcases hc with hown | hreport | hcommit
  · rcases of_mem_ownCalls hown with ⟨_, h⟩ | ⟨_, h⟩ | ⟨_, _, h⟩ <;> cases h
  · simp at hreport
  · unfold commits at hcommit
    split at hcommit <;> simp at hcommit

/-- Nor does a visit. -/
theorem closeQueue_not_mem_account (config : Config) (w : World) (visits : List Visit) :
    .closeQueue ∉ account config w visits := by
  induction visits generalizing w with
  | nil => exact List.not_mem_nil
  | cons v visits ih =>
    rw [account, List.mem_append, not_or]
    refine ⟨?_, ih _⟩
    unfold Visit.account
    split
    · exact List.not_mem_nil
    · simp [closeQueue_not_mem_block]
    all_goals simp

/-- **The commits of a run are those of the messages it met.** -/
theorem account_committed (config : Config) (w : World) (visits : List Visit) :
    (account config w visits).filterMap committed? =
      if config.autoAck then [] else (visits.filterMap Visit.message?).map (·.tag) := by
  induction visits generalizing w with
  | nil => split <;> rfl
  | cons v visits ih =>
    obtain ⟨waited, turn⟩ := v
    rw [account, List.filterMap_append, ih]
    cases turn with
    | message m =>
      show (block config (w.elapse waited) m).filterMap committed? ++ _ = _
      rw [block_committed]
      split <;> rfl
    | _ => rfl

/-! ## The close -/

/-- **Closing again does nothing.** -/
theorem Handle.close_close (handle : Handle) : handle.close.2.close = ([], handle.close.2) := by
  cases handle <;> rfl

theorem serve_eq (config : Config) (stopAt : Span) (polls : List Poll) (w : World) :
    serve config stopAt polls w =
      { world := (runUntil config stopAt polls w).1.record (.note Handle.closedEntry)
        runningBefore := decide ((runUntil config stopAt polls w).2 = .stopped)
        runningAfter := false } := by
  unfold serve
  rcases runUntil config stopAt polls w with ⟨ended, ending⟩
  cases ending <;> rfl

/-- **A worker closed at any moment, over any queue.** The run is the visits to
its queue and then the one close of the queue, at the end of the record. The
visits are the polls of the queue one after another, but for a last one that
the signal made. Every visit keeps to the moment: nothing is begun once the
signal was given, and what is in hand then is the last thing done. The messages
met are a prefix of the queue, and all of it if the queue closed first; each
has its whole block in the record, its count, its duration and its commit with
it, and nothing else is committed. Closing writes one entry down; closing
again, or closing a worker that never started, does nothing. -/
theorem closed_at_any_moment (config : Config) (stopAt : Span) (polls : List Poll) (w : World) :
    ∃ visits ending, Visits config stopAt polls w visits ending ∧
      runUntil config stopAt polls w =
        ((visits.foldl (Visit.leaves config) w).record .closeQueue, ending) ∧
      (∀ pre v post, visits = pre ++ v :: post →
        v.Timely config stopAt ending (pre.foldl (Visit.leaves config) w) post) ∧
      (∀ pre v post, visits = pre ++ v :: post →
        stopAt ≤ (v.leaves config (pre.foldl (Visit.leaves config) w)).stopwatch →
          post = [] ∨ post = [⟨0, .stop⟩]) ∧
      visits.filter Visit.isPolled <+: polls.map Poll.visit ∧
      visits.filterMap Visit.message? <+: Poll.messages polls ∧
      (ending = .queueClosed → visits.filterMap Visit.message? = Poll.messages polls) ∧
      (serve config stopAt polls w).world.calls =
        w.calls ++ account config w visits ++ [.closeQueue] ∧
      .closeQueue ∉ account config w visits ∧
      (account config w visits).filterMap committed? =
        (if config.autoAck then [] else (visits.filterMap Visit.message?).map (·.tag)) ∧
      serve config stopAt polls w =
        { world := (runUntil config stopAt polls w).1.record (.note Handle.closedEntry)
          runningBefore := decide (ending = .stopped)
          runningAfter := false } ∧
      (∀ handle : Handle, handle.close.2.close = ([], handle.close.2)) ∧
      ∀ subscription handles version failure,
        (footing subscription handles version (.error failure)).worker.close = ([], .idle) := by
  obtain ⟨visits, ending, hvisits, hrun⟩ := runUntil_visits config stopAt polls w
  have hserve := serve_eq config stopAt polls w
  refine ⟨visits, ending, hvisits, hrun, ?_, ?_, hvisits.polled_prefix, hvisits.messages_prefix.1,
    hvisits.messages_prefix.2, ?_, closeQueue_not_mem_account config w visits,
    account_committed config w visits, ?_, Handle.close_close, fun _ _ _ _ => rfl⟩
  · rintro pre v post rfl
    exact hvisits.timely
  · rintro pre v post rfl
    exact hvisits.last_in_hand
  · rw [hserve, hrun, ← calls_visits]
    simp [World.calls, World.record, World.trace, Service.Call.isCollaborator]
  · rw [hserve, hrun]

/-- Polls that may not wait end at once, and what comes meanwhile is handled; what would come after
the signal is not. -/
example :
    let vain : Poll := ⟨Span.ofMillis 1, .timeout⟩
    let there (tag : Nat) : Poll := ⟨0, .message ⟨tag, [], {}⟩⟩
    let queue : List Poll := [vain, vain, there 7, vain, vain, there 8]
    (runUntil ⟨"topic", false, 0⟩ (Span.ofMillis 4) queue {}).1.calls.filterMap committed? = [7] := by
  decide +kernel

end Worker

end NotificationFeed
