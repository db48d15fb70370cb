import NotificationFeed.Broker.Establish
import NotificationFeed.Proofs.Program.Following
/-!
# Attempts at a subscription

A consumer tries once to set its subscription up, and the attempt breaks off
at the first step that is refused. What is exchanged with the broker is
therefore one of a few rows (`Attempt`): nothing at all while no connection is
published, the refused wish for a channel, or a channel with the steps taken on
it up to the one that was refused, and then its close. Only a row without a
refusal ends with a subscription, and its channel stays open.

Every run is such a row and every such row is a run (`establish_reaches_iff`),
whatever the refusals say.
-/

namespace NotificationFeed

namespace Broker

namespace Establish

variable {channel : Channel} {on : ConnectionId} {xs : List (Exchange surroundings)}

/-- Every call can be answered. -/
instance (call : surroundings.Call) : Nonempty (surroundings.Reply call) :=
  match call with
  | .borrow => ⟨none⟩
  | .openChannel _ | .register _ | .request .. => ⟨.error default⟩
  | .closeChannel _ => ⟨()⟩

instance : DecidableEq surroundings.Call := inferInstanceAs (DecidableEq Call)

/-- Requests that were accepted on a channel. -/
def accepted (channel : Channel) (setups : List Setup) : List (Exchange surroundings) :=
  setups.map fun setup => ⟨.request channel setup, .ok ()⟩

/-- **What an attempt exchanges with the broker, and what it comes to.** -/
inductive Attempt (subscription : Subscription) :
    List (Exchange surroundings) → Except StartFailure (ConnectionId × Channel) → Prop
  /-- No connection is published. -/
  | restoring : Attempt subscription [⟨.borrow, none⟩] (.error .restoring)
  /-- There is no channel. -/
  | unopened (on : ConnectionId) (refusal : Refusal) :
      Attempt subscription [⟨.borrow, some on⟩, ⟨.openChannel on, .error refusal⟩]
        (.error (.refused refusal))
  /-- The signal of the channel cannot be heard. -/
  | unregistered (on : ConnectionId) (channel : Channel) (refusal : Refusal) :
      Attempt subscription
        [⟨.borrow, some on⟩, ⟨.openChannel on, .ok channel⟩, ⟨.register channel, .error refusal⟩,
          ⟨.closeChannel channel, ()⟩]
        (.error (.refused refusal))
  /-- A request is refused, and those behind it are never sent. -/
  | rejected (on : ConnectionId) (channel : Channel) {before after : List Setup} {setup : Setup}
      (refusal : Refusal) (hsetup : subscription.setup = before ++ setup :: after) :
      Attempt subscription
        (⟨.borrow, some on⟩ :: ⟨.openChannel on, .ok channel⟩ :: ⟨.register channel, .ok ()⟩ ::
          (accepted channel before ++
            [⟨.request channel setup, .error refusal⟩, ⟨.closeChannel channel, ()⟩]))
        (.error (.refused refusal))
  /-- Every step is taken. -/
  | established (on : ConnectionId) (channel : Channel) :
      Attempt subscription
        (⟨.borrow, some on⟩ :: ⟨.openChannel on, .ok channel⟩ :: ⟨.register channel, .ok ()⟩ ::
          accepted channel subscription.setup)
        (.ok (on, channel))

/-- A subscription is set up on a channel that was opened for it. -/
theorem Attempt.opened {subscription : Subscription}
    (h : Attempt subscription xs (.ok (on, channel))) : ⟨.openChannel on, .ok channel⟩ ∈ xs := by
  cases h
  simp

/-! ## The steps -/

/-- One call. -/
theorem ask_reaches_iff {call : Call} {reply : call.Reply} :
    (ask call).Reaches xs (.done reply) ↔ xs = [⟨call, reply⟩] := by
  constructor
  · intro h
    obtain ⟨r, later, rfl, hdone⟩ := h.of_ask
    obtain ⟨rfl, ⟨⟩⟩ := hdone.of_done
    rfl
  · rintro rfl
    exact .after (.here _)

/-- Requests are accepted one after another, up to the first that is not. -/
theorem apply_reaches_iff {setups : List Setup} {result : Except Refusal Unit} :
    (apply channel setups).run.Reaches xs (.done result) ↔
      result = .ok () ∧ xs = accepted channel setups ∨
        ∃ before setup after refusal, setups = before ++ setup :: after ∧
          result = .error refusal ∧
          xs = accepted channel before ++ [⟨.request channel setup, .error refusal⟩] := by
  induction setups generalizing xs with
  | nil =>
    constructor
    · intro h
      obtain ⟨rfl, ⟨⟩⟩ := Program.Reaches.of_done h
      exact .inl ⟨rfl, rfl⟩
    · rintro (⟨rfl, rfl⟩ | ⟨before, setup, after, refusal, hsetups, -⟩)
      · exact .here _
      · exact absurd hsetups.symm (by simp)
  | cons setup rest ih =>
    rw [apply, Program.reaches_run_bind_iff]
    constructor
    · rintro (⟨_, ys, zs, rfl, hask, hrest⟩ | ⟨refusal, rfl, hask⟩)
      · obtain rfl := ask_reaches_iff.1 hask
        obtain ⟨rfl, rfl⟩ | ⟨before, setup', after, refusal, rfl, rfl, rfl⟩ := ih.1 hrest
        · exact .inl ⟨rfl, rfl⟩
        · exact .inr ⟨setup :: before, setup', after, refusal, rfl, rfl, rfl⟩
      · obtain rfl := ask_reaches_iff.1 hask
        exact .inr ⟨[], setup, rest, refusal, rfl, rfl, rfl⟩
    · rintro (⟨rfl, rfl⟩ | ⟨before, setup', after, refusal, hsetups, rfl, rfl⟩)
      · exact .inl ⟨(), _, _, rfl, ask_reaches_iff.2 rfl, ih.2 (.inl ⟨rfl, rfl⟩)⟩
      · cases before with
        | nil =>
          obtain ⟨rfl, -⟩ := List.cons.inj hsetups
          exact .inr ⟨refusal, rfl, ask_reaches_iff.2 rfl⟩
        | cons first before =>
          obtain ⟨rfl, hrest⟩ := List.cons.inj hsetups
          exact .inl ⟨(), [_], accepted channel before ++ _, rfl, ask_reaches_iff.2 rfl,
            ih.2 (.inr ⟨before, setup', after, refusal, hrest, rfl, rfl⟩)⟩

/-- A step on a channel is followed by the close of the channel if it is refused, and by nothing
if it is not. -/
theorem closingOnRefusal_reaches_iff {α : Type} {step : Step Refusal α} {result : Except Refusal α} :
    (closingOnRefusal channel step).run.Reaches xs (.done result) ↔
      (∃ a, result = .ok a ∧ step.run.Reaches xs (.done (.ok a))) ∨
        ∃ refusal ys, result = .error refusal ∧ xs = ys ++ [⟨.closeChannel channel, ()⟩] ∧
          step.run.Reaches ys (.done (.error refusal)) := by
  rw [closingOnRefusal, ExceptT.run_mk, Program.reaches_bind_iff]
  constructor
  · rintro ⟨outcome, ys, zs, rfl, hstep, hrest⟩
    cases outcome with
    | ok a =>
      obtain ⟨rfl, ⟨⟩⟩ := Program.Reaches.of_done hrest
      exact .inl ⟨a, rfl, by rwa [List.append_nil]⟩
    | error refusal =>
      obtain ⟨_, later, rfl, hdone⟩ := Program.Reaches.of_ask hrest
      obtain ⟨rfl, ⟨⟩⟩ := Program.Reaches.of_done hdone
      exact .inr ⟨refusal, ys, rfl, rfl, hstep⟩
  · rintro (⟨a, rfl, hstep⟩ | ⟨refusal, ys, rfl, rfl, hstep⟩)
    · exact ⟨.ok a, xs, [], (List.append_nil xs).symm, hstep, .here _⟩
    · exact ⟨.error refusal, ys, _, rfl, hstep, .after (.here _)⟩

/-- A channel is asked for, and then its signal; without the signal it is closed. -/
theorem openChannel_reaches_iff {result : Except Refusal Channel} :
    (openChannel on).run.Reaches xs (.done result) ↔
      (∃ refusal, result = .error refusal ∧ xs = [⟨.openChannel on, .error refusal⟩]) ∨
      (∃ channel refusal, result = .error refusal ∧
        xs = [⟨.openChannel on, .ok channel⟩, ⟨.register channel, .error refusal⟩,
          ⟨.closeChannel channel, ()⟩]) ∨
      ∃ channel, result = .ok channel ∧
        xs = [⟨.openChannel on, .ok channel⟩, ⟨.register channel, .ok ()⟩] := by
  rw [openChannel, Program.reaches_run_bind_iff]
  constructor
  · rintro (⟨channel, ys, zs, rfl, hopen, hrest⟩ | ⟨refusal, rfl, hopen⟩)
    · obtain rfl := ask_reaches_iff.1 hopen
      obtain ⟨_, ys, zs, rfl, hregister, hdone⟩ | ⟨refusal, rfl, hregister⟩ :=
        Program.reaches_run_bind_iff.1 hrest
      · obtain ⟨rfl, ⟨⟩⟩ := Program.Reaches.of_done hdone
        obtain ⟨_, ⟨⟩, hask⟩ | ⟨_, _, ⟨⟩, -, -⟩ := closingOnRefusal_reaches_iff.1 hregister
        obtain rfl := ask_reaches_iff.1 hask
        exact .inr (.inr ⟨channel, rfl, rfl⟩)
      · obtain ⟨_, ⟨⟩, -⟩ | ⟨_, ys, ⟨⟩, rfl, hask⟩ := closingOnRefusal_reaches_iff.1 hregister
        obtain rfl := ask_reaches_iff.1 hask
        exact .inr (.inl ⟨channel, refusal, rfl, rfl⟩)
    · exact .inl ⟨refusal, rfl, ask_reaches_iff.1 hopen⟩
  · rintro (⟨refusal, rfl, rfl⟩ | ⟨channel, refusal, rfl, rfl⟩ | ⟨channel, rfl, rfl⟩)
    · exact .inr ⟨refusal, rfl, ask_reaches_iff.2 rfl⟩
    · have hregister : (closingOnRefusal channel (ExceptT.mk (ask (.register channel)))).run.Reaches
          [⟨.register channel, .error refusal⟩, ⟨.closeChannel channel, ()⟩]
          (.done (.error refusal)) :=
        closingOnRefusal_reaches_iff.2 (.inr ⟨refusal, [_], rfl, rfl, ask_reaches_iff.2 rfl⟩)
      exact .inl ⟨channel, [_], _, rfl, ask_reaches_iff.2 rfl,
        Program.reaches_run_bind_iff.2 (.inr ⟨refusal, rfl, hregister⟩)⟩
    · have hregister : (closingOnRefusal channel (ExceptT.mk (ask (.register channel)))).run.Reaches
          [⟨.register channel, .ok ()⟩] (.done (.ok ())) :=
        closingOnRefusal_reaches_iff.2 (.inl ⟨(), rfl, ask_reaches_iff.2 rfl⟩)
      exact .inl ⟨channel, [_], _, rfl, ask_reaches_iff.2 rfl,
        Program.reaches_run_bind_iff.2 (.inl ⟨(), _, [], rfl, hregister, .here _⟩)⟩

/-! ## The attempt -/

/-- A published connection gives a channel with the subscription, or a refusal. -/
theorem subscribe_reaches_iff {subscription : Subscription} {result : Except Refusal Channel} :
    (subscribe subscription on).run.Reaches xs (.done result) ↔
      (∃ channel, result = .ok channel ∧
        xs = ⟨.openChannel on, .ok channel⟩ :: ⟨.register channel, .ok ()⟩ ::
          accepted channel subscription.setup) ∨
      ∃ refusal, result = .error refusal ∧
        Attempt subscription (⟨.borrow, some on⟩ :: xs) (.error (.refused refusal)) := by
  rw [subscribe, Program.reaches_run_bind_iff]
  constructor
  · rintro (⟨channel, ys, zs, rfl, hopen, hrest⟩ | ⟨refusal, rfl, hopen⟩)
    · obtain ⟨_, ⟨⟩, -⟩ | ⟨_, _, ⟨⟩, -⟩ | ⟨_, ⟨⟩, rfl⟩ := openChannel_reaches_iff.1 hopen
      obtain ⟨_, ys, zs, rfl, hclosing, hdone⟩ | ⟨refusal, rfl, hclosing⟩ :=
        Program.reaches_run_bind_iff.1 hrest
      · obtain ⟨rfl, ⟨⟩⟩ := Program.Reaches.of_done hdone
        obtain ⟨_, ⟨⟩, happly⟩ | ⟨_, _, ⟨⟩, -, -⟩ := closingOnRefusal_reaches_iff.1 hclosing
        obtain ⟨-, rfl⟩ | ⟨_, _, _, _, -, ⟨⟩, -⟩ := apply_reaches_iff.1 happly
        exact .inl ⟨channel, rfl, by simp⟩
      · obtain ⟨_, ⟨⟩, -⟩ | ⟨_, ys, ⟨⟩, rfl, happly⟩ := closingOnRefusal_reaches_iff.1 hclosing
        obtain ⟨⟨⟩, -⟩ | ⟨before, setup, after, _, hsetup, ⟨⟩, rfl⟩ := apply_reaches_iff.1 happly
        refine .inr ⟨refusal, rfl, ?_⟩
        simpa using Attempt.rejected on channel refusal hsetup
    · obtain ⟨_, ⟨⟩, rfl⟩ | ⟨channel, _, ⟨⟩, rfl⟩ | ⟨_, ⟨⟩, -⟩ := openChannel_reaches_iff.1 hopen
      · exact .inr ⟨refusal, rfl, .unopened on refusal⟩
      · exact .inr ⟨refusal, rfl, .unregistered on channel refusal⟩
  · have hopened (channel : Channel) : (openChannel on).run.Reaches
        [⟨.openChannel on, .ok channel⟩, ⟨.register channel, .ok ()⟩] (.done (.ok channel)) :=
      openChannel_reaches_iff.2 (.inr (.inr ⟨channel, rfl, rfl⟩))
    rintro (⟨channel, rfl, rfl⟩ | ⟨refusal, rfl, hattempt⟩)
    · have happly : (closingOnRefusal channel (apply channel subscription.setup)).run.Reaches
          (accepted channel subscription.setup) (.done (.ok ())) :=
        closingOnRefusal_reaches_iff.2 (.inl ⟨(), rfl, apply_reaches_iff.2 (.inl ⟨rfl, rfl⟩)⟩)
      exact .inl ⟨channel, [_, _], _, rfl, hopened channel, Program.reaches_run_bind_iff.2
        (.inl ⟨(), _, [], (List.append_nil _).symm, happly, .here _⟩)⟩
    · cases hattempt with
      | unopened => exact .inr ⟨refusal, rfl, openChannel_reaches_iff.2 (.inl ⟨refusal, rfl, rfl⟩)⟩
      | unregistered _ channel =>
        exact .inr ⟨refusal, rfl,
          openChannel_reaches_iff.2 (.inr (.inl ⟨channel, refusal, rfl, rfl⟩))⟩
      | @rejected _ channel before after setup _ hsetup =>
        have happly : (apply channel subscription.setup).run.Reaches
            (accepted channel before ++ [⟨.request channel setup, .error refusal⟩])
            (.done (.error refusal)) :=
          apply_reaches_iff.2 (.inr ⟨before, setup, after, refusal, hsetup, rfl, rfl⟩)
        have hclosing : (closingOnRefusal channel (apply channel subscription.setup)).run.Reaches
            (accepted channel before ++
              [⟨.request channel setup, .error refusal⟩, ⟨.closeChannel channel, ()⟩])
            (.done (.error refusal)) :=
          closingOnRefusal_reaches_iff.2 (.inr ⟨refusal, _, rfl, by simp, happly⟩)
        exact .inl ⟨channel, [_, _], _, rfl, hopened channel,
          Program.reaches_run_bind_iff.2 (.inr ⟨refusal, rfl, hclosing⟩)⟩

/-- **Every run is an attempt, and every attempt is a run.** -/
theorem establish_reaches_iff {subscription : Subscription}
    {result : Except StartFailure (ConnectionId × Channel)} :
    (establish subscription).run.Reaches xs (.done result) ↔ Attempt subscription xs result := by
  rw [establish, ExceptT.run_mk, Program.reaches_bind_iff]
  constructor
  · rintro ⟨connection, ys, zs, rfl, hborrow, hrest⟩
    obtain rfl := ask_reaches_iff.1 hborrow
    cases connection with
    | none =>
      obtain ⟨rfl, ⟨⟩⟩ := Program.Reaches.of_done hrest
      exact .restoring
    | some on =>
      obtain ⟨outcome, ys, zs, rfl, hsubscribe, hdone⟩ := Program.reaches_bind_iff.1 hrest
      obtain ⟨rfl, ⟨⟩⟩ := Program.Reaches.of_done hdone
      rw [List.append_nil]
      obtain ⟨channel, rfl, rfl⟩ | ⟨refusal, rfl, hattempt⟩ := subscribe_reaches_iff.1 hsubscribe
      · exact .established on channel
      · exact hattempt
  · have hrun {on : ConnectionId} {ys : List (Exchange surroundings)}
        {outcome : Except Refusal Channel}
        (h : (subscribe subscription on).run.Reaches ys (.done outcome)) :
        ((subscribe subscription on).run >>= fun channel => pure
          ((channel.mapError StartFailure.refused).map fun channel => (on, channel))).Reaches ys
          (.done ((outcome.mapError StartFailure.refused).map fun channel => (on, channel))) :=
      Program.reaches_bind_iff.2 ⟨outcome, ys, [], (List.append_nil ys).symm, h, .here _⟩
    intro h
    cases h with
    | restoring => exact ⟨none, [_], [], rfl, ask_reaches_iff.2 rfl, .here _⟩
    | established on channel =>
      exact ⟨some on, [_], _, rfl, ask_reaches_iff.2 rfl,
        hrun (subscribe_reaches_iff.2 (.inl ⟨channel, rfl, rfl⟩))⟩
    | unopened on refusal =>
      exact ⟨some on, [_], _, rfl, ask_reaches_iff.2 rfl,
        hrun (subscribe_reaches_iff.2 (.inr ⟨refusal, rfl, .unopened on refusal⟩))⟩
    | unregistered on channel refusal =>
      exact ⟨some on, [_], _, rfl, ask_reaches_iff.2 rfl,
        hrun (subscribe_reaches_iff.2 (.inr ⟨refusal, rfl, .unregistered on channel refusal⟩))⟩
    | rejected on channel refusal hsetup =>
      exact ⟨some on, [_], _, rfl, ask_reaches_iff.2 rfl,
        hrun (subscribe_reaches_iff.2 (.inr ⟨refusal, rfl, .rejected on channel refusal hsetup⟩))⟩

end Establish

end Broker

end NotificationFeed
