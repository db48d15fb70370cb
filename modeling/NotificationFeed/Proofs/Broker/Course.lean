import Mathlib.Data.List.Induction
import NotificationFeed.Proofs.Broker.Standing
/-!
# The course of a consumer

A consumer starts by setting its subscription up once, and where that works a
keeper goes on from there. The replies it gets on the way are anything that a
broker may reply, and so are the events that its keeper meets; what becomes
known while the subscription is being set up, a channel closed or another
connection published, is met by the keeper first.

From its first step on a course is lawful, and its keeper stands where it
should (`course_standing`): by the shape of the program that starts it, and
then by the moves of the keeper.
-/

namespace NotificationFeed

namespace Broker

open Past

variable {subscription : Subscription} {past : List Line} {channel : Channel} {on : ConnectionId}

/-! ## The start -/

namespace Establish

/-- What the surroundings reply, by what was exchanged before. -/
abbrev Replies : Type := List (Exchange surroundings) → (c : Call) → c.Reply

/-- What a call sends to the broker. -/
def Call.action? : Call → Option Subscriber.Action
  | borrow => none
  | openChannel on => some (.openChannel on)
  | register channel => some (.register channel)
  | request channel setup => some (.request channel setup)
  | closeChannel channel => some (.closeChannel channel)

/-- What a call hears as it is answered. -/
def Call.heard : (c : Call) → c.Reply → Subscriber.Event
  | borrow, connection => .published connection
  | openChannel _, .ok _ => .opened
  | openChannel _, .error _ => .refused
  | register _, .ok _ => .registered
  | register _, .error _ => .unregistered
  | request .., .ok _ => .accepted
  | request .., .error _ => .rejected
  | closeChannel _, _ => .ended

/-- The lines of one exchange, the newest first. -/
def lines (x : Exchange surroundings) : List Line :=
  .heard (x.call.heard x.reply) :: (x.call.action?.map Line.sent).toList

/-- The past that exchanges make. -/
def pastOf (exchanges : List (Exchange surroundings)) : List Line :=
  exchanges.foldl (fun past x => lines x ++ past) []

theorem pastOf_snoc (exchanges : List (Exchange surroundings)) (x : Exchange surroundings) :
    pastOf (exchanges ++ [x]) = lines x ++ pastOf exchanges := by
  simp [pastOf]

/-- What may be asked after some exchanges. -/
def Rule (subscription : Subscription) (exchanges : List (Exchange surroundings)) (c : Call) :
    Prop :=
  ∀ action, c.action? = some action → Allowed subscription (pastOf exchanges) action

/-- **Exchanges by the rule make a lawful past.** -/
theorem lawful_of_kept {exchanges : List (Exchange surroundings)}
    (h : Program.Kept (Rule subscription) exchanges) : Lawful subscription (pastOf exchanges) := by
  induction exchanges using List.reverseRecOn with
  | nil => trivial
  | append_singleton before x ih =>
    have hbefore := ih h.of_append
    have hx : Rule subscription before x.call := h before x [] rfl
    rw [pastOf_snoc, lines]
    cases haction : x.call.action? with
    | none => exact hbefore
    | some action => exact ⟨hx action haction, hbefore⟩

/-- **A channel on which nothing but the setup has happened**, as far as that was sent: all of it
was accepted, and no other channel was touched. -/
structure Begun (on : ConnectionId) (channel : Channel) (past : List Line) : Prop where
  opened : Opened channel on past
  published : published past = some on
  unclosed : ¬ Closed channel past
  silent : ∀ other, ¬ Raised other past
  fresh : ∀ other, other ≠ channel → Subscriber.Fresh past [] other
  accepted : accepted channel past = asked channel past
  awaited : awaited past = none

/-- One more request that is accepted. -/
theorem Begun.request (h : Begun on channel past) (setup : Setup) :
    Begun on channel (.heard .accepted :: .sent (.request channel setup) :: past) ∧
      asked channel (.heard .accepted :: .sent (.request channel setup) :: past) =
        asked channel past ++ [setup] := by
  have hasked : asked channel (.heard .accepted :: .sent (.request channel setup) :: past) =
      asked channel past ++ [setup] := if_pos rfl
  refine ⟨?_, hasked⟩
  exact {
    opened := (h.opened.cons _).cons _
    published := h.published
    unclosed := by simpa [Closed] using h.unclosed
    silent := h.silent
    fresh := fun other hother => by
      have hchannel : (Subscriber.Action.request channel setup).channel? ≠ some other :=
        fun heq => hother (Option.some.inj heq).symm
      exact ((h.fresh other hother).send hchannel).hear
    accepted := by
      rw [hasked, ← h.accepted]
      simp [Past.accepted, Past.awaited]
    awaited := rfl }

/-- **The requests of a setup are sent by the rule**, whatever they are answered. -/
theorem apply_obeys (subscription : Subscription) {rest : List Setup}
    {exchanges : List (Exchange surroundings)} (h : Begun on channel (pastOf exchanges))
    (hrest : asked channel (pastOf exchanges) ++ rest = subscription.setup) :
    (apply channel rest).run.Obeys (Rule subscription)
      (Program.onSuccess fun _ exchanges => Begun on channel (pastOf exchanges) ∧
        asked channel (pastOf exchanges) = subscription.setup) exchanges := by
  induction rest generalizing exchanges with
  | nil => exact ⟨h, (List.append_nil _).symm.trans hrest⟩
  | cons setup rest ih =>
    have hnext : asked channel (pastOf exchanges) ++ [setup] ++ rest = subscription.setup := by
      rw [List.append_assoc]
      exact hrest
    refine ⟨?_, fun reply => ?_⟩
    · rintro _ ⟨⟩
      exact ⟨⟨rest, hnext⟩, h.accepted, h.unclosed, fun other hother hasked =>
        absurd (h.fresh other hother).unasked hasked⟩
    · cases reply with
      | error refusal => trivial
      | ok done =>
        obtain ⟨hbegun, hasked⟩ := h.request setup
        refine ih ?_ ?_
        · rw [pastOf_snoc]
          exact hbegun
        · rw [pastOf_snoc]
          exact (congrArg (· ++ rest) hasked).trans hnext

/-- A step on a channel may fail, and then the channel is closed. -/
theorem closing_obeys {α : Type} {goal : α → List (Exchange surroundings) → Prop}
    {step : Step Refusal α} {exchanges : List (Exchange surroundings)}
    (h : step.run.Obeys (Rule subscription) (Program.onSuccess goal) exchanges) :
    (closingOnRefusal channel step).run.Obeys (Rule subscription) (Program.onSuccess goal)
      exchanges := by
  refine Program.Obeys.bind h fun result exchanges hresult => ?_
  cases result with
  | ok a => exact hresult
  | error refusal =>
    refine ⟨?_, fun _ => trivial⟩
    rintro _ ⟨⟩
    trivial

/-- **A channel that was opened is one on which nothing has happened yet.** -/
theorem openChannel_obeys (on : ConnectionId) :
    (openChannel on).run.Obeys (Rule subscription)
      (Program.onSuccess fun channel exchanges => Begun on channel (pastOf exchanges) ∧
        asked channel (pastOf exchanges) = []) [⟨.borrow, some on⟩] := by
  refine ⟨?_, fun reply => ?_⟩
  · rintro _ ⟨⟩
    trivial
  cases reply with
  | error refusal => trivial
  | ok channel =>
    have hregister : (ExceptT.mk (ask (.register channel)) : Step Refusal Unit).run.Obeys
        (Rule subscription) (Program.onSuccess fun _ exchanges =>
          Begun on channel (pastOf exchanges) ∧ asked channel (pastOf exchanges) = [])
        [⟨.borrow, some on⟩, ⟨.openChannel on, .ok channel⟩] := by
      refine ⟨?_, fun reply => ?_⟩
      · rintro _ ⟨⟩
        trivial
      cases reply with
      | error refusal => trivial
      | ok done =>
        refine ⟨?_, rfl⟩
        exact {
          opened := ⟨[.heard .registered], _, rfl, rfl⟩
          published := rfl
          unclosed := by simp [pastOf, lines, Closed, Call.action?]
          silent := fun other => nofun
          fresh := fun other hother => {
            unasked := rfl
            unregistered := by simp [pastOf, lines, Call.action?, hother]
            unclosed := by simp [pastOf, lines, Closed, Call.action?]
            silent := List.not_mem_nil }
          accepted := rfl
          awaited := rfl }
    exact (closing_obeys hregister).run_bind_onSuccess fun _ _ h => h

/-- **A subscription is set up by the rule**, whatever is replied. -/
theorem establish_obeys (subscription : Subscription) :
    (establish subscription).run.Obeys (Rule subscription)
      (Program.onSuccess fun established exchanges =>
        Begun established.1 established.2 (pastOf exchanges) ∧
          asked established.2 (pastOf exchanges) = subscription.setup) [] := by
  refine ⟨nofun, fun reply => ?_⟩
  cases reply with
  | none => trivial
  | some on =>
    have hsubscribe : (subscribe subscription on).run.Obeys (Rule subscription)
        (Program.onSuccess fun channel exchanges => Begun on channel (pastOf exchanges) ∧
          asked channel (pastOf exchanges) = subscription.setup) [⟨.borrow, some on⟩] := by
      refine (openChannel_obeys on).run_bind_onSuccess fun channel exchanges h => ?_
      have happly := apply_obeys subscription h.1
        ((congrArg (· ++ subscription.setup) h.2).trans (List.nil_append _))
      exact (closing_obeys happly).run_bind_onSuccess fun _ _ h => h
    refine hsubscribe.bind fun result exchanges h => ?_
    cases result with
    | ok channel => exact h
    | error refusal => trivial

end Establish

/-! ## The whole course -/

/-- How far a consumer has come: all that was sent and heard, and its keeper, if it has one. -/
structure Course where
  past : List Line
  keeper : Option Subscriber.State

namespace Course

/-- **The start of a consumer**, with the version of the connection it reads. -/
def start (subscription : Subscription) (replies : Establish.Replies) (version : Nat) : Course :=
  match (Establish.establish subscription).run.run (Program.replying replies) [] with
  | (.ok (.ok (on, channel)), exchanges) =>
    ⟨Establish.pastOf exchanges, some (Subscriber.start on channel version)⟩
  | (_, exchanges) => ⟨Establish.pastOf exchanges, none⟩

/-- The keeper meets an event. -/
def meet (subscription : Subscription) (c : Course) (e : Subscriber.Event) : Course :=
  match c.keeper with
  | none => c
  | some s =>
    let (s', actions) := Subscriber.step subscription s e
    ⟨after e actions c.past, some s'⟩

/-- **The course of a consumer**: its start, and then one event after another. -/
def run (subscription : Subscription) (replies : Establish.Replies) (version : Nat)
    (events : List Subscriber.Event) : Course :=
  events.foldl (meet subscription) (start subscription replies version)

/-- A course is lawful, and its keeper stands where it should. -/
structure Proper (subscription : Subscription) (c : Course) : Prop where
  lawful : Lawful subscription c.past
  standing : ∀ s, c.keeper = some s → Subscriber.Standing subscription c.past s

/-- **A keeper that starts on a channel that was set up** stands where it should. -/
theorem standing_start (h : Establish.Begun on channel past)
    (hasked : asked channel past = subscription.setup) (version : Nat) :
    Subscriber.Standing subscription past (Subscriber.start on channel version) where
  number := Nat.lt_succ_self _
  seen := Nat.le_refl _
  published := h.published.symm
  current := .inr (.inr (.inr rfl))
  fresh other hother := by
    have hne : other ≠ channel := by
      rintro rfl
      exact absurd hother (Nat.not_succ_le_self _)
    exact h.fresh other hne
  left other hother hne := absurd (h.fresh other hother).unasked hne
  stands := by
    have hheld : Subscriber.Held past (channel.number + 1) (some on) [] channel := {
      number := Nat.lt_succ_self _
      opened := ⟨on, rfl, h.opened⟩
      unclosed := h.unclosed
      permit := iff_of_false List.not_mem_nil (h.silent channel) }
    exact ⟨hheld, hasked, h.accepted.trans hasked, h.awaited⟩

theorem proper_start (subscription : Subscription) (replies : Establish.Replies)
    (version : Nat) : (start subscription replies version).Proper subscription := by
  obtain ⟨result, exchanges, hrun, hkept, hresult⟩ :=
    (Establish.establish_obeys subscription).run Program.kept_nil replies
  have hlawful := Establish.lawful_of_kept hkept
  unfold start
  rw [hrun]
  cases result with
  | error failure => exact ⟨hlawful, nofun⟩
  | ok established =>
    refine ⟨hlawful, ?_⟩
    rintro _ ⟨⟩
    exact standing_start hresult.1 hresult.2 version

theorem Proper.meet {c : Course} (h : c.Proper subscription) (e : Subscriber.Event) :
    (c.meet subscription e).Proper subscription := by
  unfold Course.meet
  cases hkeeper : c.keeper with
  | none => exact h
  | some s =>
    have hstanding := h.standing s hkeeper
    have hmove := Subscriber.step_moves subscription s e
    refine ⟨hstanding.lawful_move hmove h.lawful, ?_⟩
    rintro _ ⟨⟩
    exact hstanding.move hmove

/-- **Every course is proper**, whatever is replied and whatever happens. -/
theorem proper_run (subscription : Subscription) (replies : Establish.Replies) (version : Nat)
    (events : List Subscriber.Event) : (run subscription replies version events).Proper
      subscription := by
  unfold run
  induction events using List.reverseRecOn with
  | nil => exact proper_start subscription replies version
  | append_singleton before e ih =>
    rw [List.foldl_append]
    exact ih.meet e

end Course

end Broker

end NotificationFeed
