import Mathlib.Data.List.Induction
import NotificationFeed.Broker.Opening
import NotificationFeed.Proofs.Broker.Link
import NotificationFeed.Proofs.Program.Exchanges
/-!
# What the keeper of a connection publishes

A connection is opened and its callback registered, whatever is replied; where
both work a keeper publishes it and goes on from there, whatever it meets.
Those who watch what it publishes are never misled (`Keeping.Candid`): they
are shown a connection that is complete, nothing from the moment one is found
broken until another is complete, never one that was given up, and nothing at
all once the keeper was told to stop.
-/

namespace NotificationFeed

namespace Broker

/-! ## The start -/

namespace Opening

/-- What the surroundings reply, by what was exchanged before. -/
abbrev Replies : Type := List (Exchange surroundings) → (c : Call) → c.Reply

/-- **What is asked on the way**: for a connection, and then for its callback. -/
theorem begin_run (arguments : Link.Arguments) : (begin arguments).run =
    .ask (.open arguments) fun
      | .error refusal => .done (.error refusal)
      | .ok connection => .ask (.register connection) fun
        | .error refusal => .done (.error refusal)
        | .ok () => .done (.ok (Link.start connection)) := by
  unfold begin
  refine congrArg (Program.ask _) (funext fun opened => ?_)
  cases opened with
  | error refusal => rfl
  | ok connection =>
    refine congrArg (Program.ask _) (funext fun registered => ?_)
    cases registered with
    | error refusal => rfl
    | ok done => rfl

/-- What a call sends to the broker. -/
def Call.action : Call → Link.Action
  | .open arguments => .open arguments
  | .register connection => .register connection

/-- What a call hears as it is answered. -/
def Call.heard : (c : Call) → c.Reply → Link.Event
  | .open _, .ok _ => .opened
  | .open _, .error _ => .refused
  | .register _, .ok _ => .registered
  | .register _, .error _ => .unregistered

/-- The past that exchanges make. -/
def pastOf (exchanges : List (Exchange surroundings)) : List Link.Line :=
  exchanges.foldl
    (fun past x => .heard (x.call.heard x.reply) :: .sent x.call.action :: past) []

end Opening

namespace Link

/-- How far the keeping of a connection has come: all that was done and heard, and the keeper. -/
structure Keeping where
  past : List Line
  keeper : State
  deriving DecidableEq

namespace Keeping

/-- **The start of a keeper**, where the connection can be opened and completed. -/
def start (arguments : Arguments) (replies : Opening.Replies) : Option Keeping :=
  match (Opening.begin arguments).run.run (Program.replying replies) [] with
  | (.ok (.ok s), exchanges) => some ⟨.sent (.publish s.published) :: Opening.pastOf exchanges, s⟩
  | _ => none

/-- The keeper meets an event. -/
def meet (arguments : Arguments) (k : Keeping) (e : Event) : Keeping :=
  let (s, actions) := step arguments k.keeper e
  ⟨after e actions k.past, s⟩

/-- The keeper meets one event after another. -/
def run (arguments : Arguments) (k : Keeping) (events : List Event) : Keeping :=
  events.foldl (meet arguments) k

variable {arguments : Arguments} {replies : Opening.Replies} {k : Keeping}
variable {past : List Line} {e : Event} {events before later : List Event}
variable {connection broken fresh : ConnectionId}

/-- **A keeper starts with the connection that was opened**, its callback registered. -/
theorem start_eq_some : start arguments replies = some k ↔
    ∃ connection, replies [] (.open arguments) = .ok connection ∧
      replies [⟨.open arguments, .ok connection⟩] (.register connection) = .ok () ∧
      k = ⟨[.sent (.publish (some connection)), .heard .registered, .sent (.register connection),
        .heard .opened, .sent (.open arguments)], Link.start connection⟩ := by
  unfold start
  rw [Opening.begin_run, Program.run_ask]
  cases hopen : replies [] (.open arguments) with
  | error refusal => simp [Program.replying, hopen]
  | ok connection =>
    simp only [Program.replying, hopen, Program.run_ask, List.nil_append]
    cases hregister : replies [⟨.open arguments, .ok connection⟩] (.register connection) with
    | error refusal =>
      refine iff_of_false nofun ?_
      rintro ⟨_, ⟨⟩, hok, -⟩
      exact absurd (hregister.symm.trans hok) nofun
    | ok done =>
      constructor
      · rintro ⟨⟩
        exact ⟨connection, rfl, hregister, rfl⟩
      · rintro ⟨_, ⟨⟩, -, rfl⟩
        rfl

theorem run_append : k.run arguments (before ++ later) =
    (k.run arguments before).run arguments later := List.foldl_append

theorem run_split : k.run arguments (before ++ e :: later) =
    ((k.run arguments before).meet arguments e).run arguments later := by
  rw [run_append]
  rfl

/-- **What was before does not matter** to what a keeper does next. -/
theorem run_lines (lines : List Line) (s : State) (events : List Event) :
    (⟨lines ++ past, s⟩ : Keeping).run arguments events =
      ⟨((⟨lines, s⟩ : Keeping).run arguments events).past ++ past,
        ((⟨lines, s⟩ : Keeping).run arguments events).keeper⟩ := by
  induction events generalizing lines s with
  | nil => rfl
  | cons e events ih =>
    have hmeet : (⟨lines ++ past, s⟩ : Keeping).meet arguments e =
        ⟨((⟨lines, s⟩ : Keeping).meet arguments e).past ++ past, (step arguments s e).1⟩ := by
      simp [meet, after]
    have hnext := ih ((⟨lines, s⟩ : Keeping).meet arguments e).past (step arguments s e).1
    rw [← hmeet] at hnext
    exact hnext

/-- **What holds from move to move holds of the run.** -/
theorem run_invariant {P : List Line → State → Prop}
    (hmove : ∀ past s e s' actions, P past s → Moves arguments s e s' actions →
      P (after e actions past) s') (h : P k.past k.keeper) (events : List Event) :
    P (k.run arguments events).past (k.run arguments events).keeper := by
  induction events using List.reverseRecOn with
  | nil => exact h
  | append_singleton before e ih =>
    rw [run_append]
    exact hmove _ _ e _ _ ih (step_moves arguments _ e)

/-- What was done and heard stays. -/
theorem run_past (arguments : Arguments) (k : Keeping) (events : List Event) :
    ∃ since, (k.run arguments events).past = since ++ k.past :=
  ⟨_, congrArg Keeping.past (run_lines [] k.keeper events)⟩

/-- **A keeper that just started** stands where its lines say. -/
theorem standing_start (h : start arguments replies = some k) :
    Standing arguments k.past k.keeper ∧ Numbered k.past k.keeper ∧
      k.keeper.phase.isStopping = false := by
  obtain ⟨connection, -, -, rfl⟩ := start_eq_some.1 h
  refine ⟨⟨rfl, rfl, rfl, fun _ => ?_, nofun⟩, ⟨fun c hc => ?_, nofun⟩, rfl⟩
  · exact ⟨[_], _, rfl, rfl, [], _, rfl, rfl⟩
  · have hc : c = connection := by simpa using hc
    exact hc ▸ Nat.lt_succ_self _

/-- **Told to stop, a keeper does nothing more**, whatever it meets. -/
theorem run_stopping (h : k.keeper.phase.isStopping = true) (events : List Event) :
    ∃ since, (k.run arguments events).past = since ++ k.past ∧
      ∀ line ∈ since, ∃ e, line = .heard e := by
  have hsilent : Silent k.past (k.run arguments events).past (k.run arguments events).keeper :=
    run_invariant (fun _ _ _ _ _ h hmove => h.move hmove) ⟨h, [], rfl, nofun⟩ events
  exact hsilent.since

/-- **Not told to stop**, it goes on. -/
theorem run_going (h : k.keeper.phase.isStopping = false) (hevents : .stop ∉ events) :
    (k.run arguments events).keeper.phase.isStopping = false := by
  induction events using List.reverseRecOn with
  | nil => exact h
  | append_singleton before e ih =>
    rw [run_append]
    have hbefore := ih fun hstop => hevents (List.mem_append_left _ hstop)
    have he : e ≠ .stop := by
      rintro rfl
      exact hevents (List.mem_append_right _ (List.mem_singleton_self _))
    exact (step_moves arguments _ e).not_stopping he hbefore

/-! ## What those who watch are shown -/

/-- **Those who watch are never misled**, at the end of the events that a keeper met. -/
structure Candid (arguments : Arguments) (k : Keeping) (events : List Event) : Prop where
  /-- What the keeper publishes is what it published last. -/
  published : Link.published (k.run arguments events).past =
    (k.run arguments events).keeper.published
  /-- **What is shown** is the current connection of a keeper that is connected; it was opened
  with the arguments and its callback is registered. -/
  shown : ∀ connection, Link.published (k.run arguments events).past = some connection →
    (k.run arguments events).keeper.phase = .connected ∧
    (k.run arguments events).keeper.current = connection ∧
    Completed arguments connection (k.run arguments events).past
  /-- **Where the network failed** the broken connection was withdrawn, and then it was closed.
  If anything is shown by now, all of it was done after that: a connection was opened and its
  callback registered. -/
  failed : ∀ before later broken, events = before ++ .failed :: later →
    Link.published (k.run arguments before).past = some broken →
    ∃ since, (k.run arguments events).past = since ++ (k.run arguments before).past ∧
      [.sent (.close broken), .sent (.publish none), .heard .failed] <:+ since ∧
      ∀ connection, Link.published (k.run arguments events).past = some connection →
        Completed arguments connection since
  /-- **Where a callback was not registered** the new connection was closed at once, and neither
  before nor after that was it ever published. -/
  unregistered : ∀ before later fresh, events = before ++ .unregistered :: later →
    asking (k.run arguments before).past = some (.register fresh) →
    (∃ since, (k.run arguments events).past =
      since ++ .sent (.close fresh) :: .heard .unregistered :: (k.run arguments before).past) ∧
    .sent (.publish (some fresh)) ∉ (k.run arguments events).past
  /-- **Where the keeper was told to stop** the connection was withdrawn and closed, and since
  then it has done nothing. -/
  stopped : ∀ before later, events = before ++ .stop :: later → .stop ∉ before →
    Link.published (k.run arguments events).past = none ∧
    ∃ since, (k.run arguments events).past =
        since ++ .sent (.close (k.run arguments before).keeper.current) :: .sent (.publish none) ::
          .heard .stop :: (k.run arguments before).past ∧
      ∀ line ∈ since, ∃ e, line = .heard e

/-- Where a keeper stands, after whatever it met. -/
theorem standing_run (h : Standing arguments k.past k.keeper) (events : List Event) :
    Standing arguments (k.run arguments events).past (k.run arguments events).keeper :=
  run_invariant (fun _ _ _ _ _ h hmove => h.move hmove) h events

/-- **What is shown after a failure** was completed after it. -/
theorem run_failed (h : Standing arguments k.past k.keeper) (hphase : k.keeper.phase = .connected)
    (events : List Event) :
    ∃ since, ((k.meet arguments .failed).run arguments events).past = since ++ k.past ∧
      [.sent (.close k.keeper.current), .sent (.publish none), .heard .failed] <:+ since ∧
      ∀ connection,
        Link.published ((k.meet arguments .failed).run arguments events).past = some connection →
        Completed arguments connection since := by
  have hmeet : k.meet arguments .failed =
      ⟨[.sent (.close k.keeper.current), .sent (.publish none), .heard .failed] ++ k.past,
        { k.keeper with phase := .dropping, published := none }⟩ := by
    simp [meet, step, after, hphase]
  have hwhole : Standing arguments (k.meet arguments .failed).past
      (k.meet arguments .failed).keeper := h.move (step_moves arguments k.keeper .failed)
  -- The lines since the failure say by themselves where the keeper stands.
  have hsince : Standing arguments
      [.sent (.close k.keeper.current), .sent (.publish none), .heard .failed]
      { k.keeper with phase := .dropping, published := none } := by
    refine ⟨rfl, rfl, rfl, fun hconnected => ?_, fun connection hfresh => ?_⟩
    · cases hconnected
    · cases hfresh
  obtain ⟨since, hlines⟩ := run_past arguments ⟨_, _⟩ events
  have hrun := standing_run hwhole events
  rw [hmeet, run_lines] at hrun ⊢
  refine ⟨_, rfl, ⟨since, hlines.symm⟩, fun connection hshown => ?_⟩
  obtain ⟨hconnected, rfl⟩ := hrun.published_iff.1 hshown
  exact (standing_run (k := ⟨_, _⟩) hsince events).complete hconnected

/-- **A connection that is given up** is closed and not shown. -/
theorem run_unregistered (h : Numbered k.past k.keeper)
    (hphase : k.keeper.phase = .registering fresh) (events : List Event) :
    (∃ since, ((k.meet arguments .unregistered).run arguments events).past =
      since ++ .sent (.close fresh) :: .heard .unregistered :: k.past) ∧
    .sent (.publish (some fresh)) ∉
      ((k.meet arguments .unregistered).run arguments events).past := by
  have hmeet : k.meet arguments .unregistered =
      ⟨.sent (.close fresh) :: .heard .unregistered :: k.past,
        { k.keeper with phase := .discarding fresh }⟩ := by
    simp [meet, step, after, hphase]
  obtain ⟨hnumber, hunshown⟩ := h.fresh fresh hphase
  rw [hmeet]
  have hgiven : GivenUp fresh (.sent (.close fresh) :: .heard .unregistered :: k.past)
      { k.keeper with phase := .discarding fresh } := by
    refine ⟨hnumber, fun hfresh => ?_, by simpa using hunshown⟩
    cases hfresh
  refine ⟨run_past arguments ⟨_, _⟩ events, ?_⟩
  exact (run_invariant (k := ⟨_, _⟩) (fun _ _ _ _ _ h hmove => h.move hmove) hgiven events).unshown

/-- **A keeper that is told to stop** withdraws its connection and closes it, and no more. -/
theorem run_stopped (h : k.keeper.phase.isStopping = false) (events : List Event) :
    ∃ since, ((k.meet arguments .stop).run arguments events).past =
        since ++ .sent (.close k.keeper.current) :: .sent (.publish none) :: .heard .stop ::
          k.past ∧
      ∀ line ∈ since, ∃ e, line = .heard e := by
  have hmeet : k.meet arguments .stop =
      ⟨.sent (.close k.keeper.current) :: .sent (.publish none) :: .heard .stop :: k.past,
        { k.keeper with phase := .closing, published := none }⟩ := by
    simp [meet, step, after, h]
  rw [hmeet]
  exact run_stopping rfl events

/-- **A keeper that was started never misleads those who watch it**, whatever was replied on the way
and whatever it met since. -/
theorem run_candid (h : start arguments replies = some k) (events : List Event) :
    k.Candid arguments events := by
  obtain ⟨hstart, hnumbers, hgoing⟩ := standing_start h
  have hstanding (events : List Event) := standing_run hstart events
  have hnumbered (events : List Event) : Numbered (k.run arguments events).past
      (k.run arguments events).keeper :=
    run_invariant (fun _ _ _ _ _ h hmove => h.move hmove) hnumbers events
  refine ⟨(hstanding events).published, fun connection hshown => ?_, ?_, ?_, ?_⟩
  · obtain ⟨hconnected, rfl⟩ := (hstanding events).published_iff.1 hshown
    exact ⟨hconnected, rfl, (hstanding events).complete hconnected⟩
  · rintro before later broken rfl hshown
    obtain ⟨hconnected, rfl⟩ := (hstanding before).published_iff.1 hshown
    rw [run_split]
    exact run_failed (hstanding before) hconnected later
  · rintro before later fresh rfl hasking
    have hphase : (k.run arguments before).keeper.phase = .registering fresh :=
      State.asks_register.1 ((hstanding before).asking.symm.trans hasking)
    rw [run_split]
    exact run_unregistered (hnumbered before) hphase later
  · rintro before later rfl hbefore
    obtain ⟨since, hpast, hsince⟩ := run_stopped (run_going hgoing hbefore) later
    rw [run_split, hpast]
    exact ⟨published_append hsince, since, rfl, hsince⟩

/-- A broker that takes whatever is asked of it. -/
def welcoming : Opening.Replies
  | _, .open _ => .ok 3
  | _, .register _ => .ok ()

/-- The network fails; the first connection that is opened instead cannot be completed, and the
second one can. -/
def outage : List Event :=
  [.failed, .ended, .refused, .rested, .opened, .unregistered, .ended, .rested, .opened,
    .registered]

/-- The keeper that starts there. -/
def opened : Keeping where
  past := [.sent (.publish (some 3)), .heard .registered, .sent (.register 3), .heard .opened,
    .sent (.open ⟨"/"⟩)]
  keeper := Link.start 3

/-- **After an outage** the connection that is shown is the second of the new ones, completed since
then, and the first of them never was shown. A signal to stop takes it back. -/
theorem run_candid_outage : start ⟨"/"⟩ welcoming = some opened ∧
    (opened.run ⟨"/"⟩ outage).keeper.phase = .connected ∧
    (opened.run ⟨"/"⟩ outage).keeper.current = 5 ∧
    (∃ since, (opened.run ⟨"/"⟩ outage).past = since ++ opened.past ∧
      Completed ⟨"/"⟩ 5 since) ∧
    .sent (.publish (some 4)) ∉ (opened.run ⟨"/"⟩ outage).past ∧
    Link.published (opened.run ⟨"/"⟩ (outage ++ [.stop])).past = none := by
  have hstart : start ⟨"/"⟩ welcoming = some opened := rfl
  have hcandid := run_candid hstart outage
  have hshown : Link.published (opened.run ⟨"/"⟩ outage).past = some 5 := by decide
  obtain ⟨hconnected, hcurrent, -⟩ := hcandid.shown 5 hshown
  obtain ⟨since, hpast, -, hcomplete⟩ := hcandid.failed [] outage.tail 3 rfl rfl
  have hgiven := hcandid.unregistered [.failed, .ended, .refused, .rested, .opened]
    [.ended, .rested, .opened, .registered] 4 rfl (by decide)
  have hstopped := (run_candid hstart (outage ++ [.stop])).stopped outage [] rfl (by decide)
  exact ⟨hstart, hconnected, hcurrent, ⟨since, hpast, hcomplete 5 hshown⟩, hgiven.2, hstopped.1⟩

end Keeping

end Link

end Broker

end NotificationFeed
