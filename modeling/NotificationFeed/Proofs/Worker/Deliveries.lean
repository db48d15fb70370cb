import NotificationFeed.Worker.Intake
import NotificationFeed.Broker.Subscriber
import NotificationFeed.Proofs.Broker.Inbox
import NotificationFeed.Proofs.Worker.Transcript
/-!
# Deliveries — what becomes of each

While its inbox is open, what was forwarded to a worker is what it has
handled, then what it has in hand, then what waits inside and then what waits
outside, in this order; closing the inbox only lets the end of that row go.
Handling a delivery adds the block of its message to the record, and the one
commit of that block is the one acknowledgement of the delivery. None of this
looks at the channel of a delivery, so it does not matter which channels the
keeper of the subscription has lost and opened in between.
-/

namespace NotificationFeed

namespace Worker

namespace Intake

variable {config : Config} {w : World} {i : Intake}

/-- The delivery a worker has in hand. -/
def Phase.inHand : Phase → List Broker.Delivery
  | handling d => [d]
  | polling | ended => []

/-- The delivery the broker pushes with an event, if there is one. -/
def Event.pushed? : Event → Option Broker.Delivery
  | forward d => some d
  | turn | finish _ | stop => none

/-- The acknowledgement a delivery is due. -/
def due (d : Broker.Delivery) : Broker.Acknowledgement := ⟨d.channel, d.tag, false⟩

/-! ## Handling one delivery -/

/-- Only a commit acknowledges, so the record can be read without what is no
call to a collaborator. -/
theorem acknowledgements_calls (config : Config) (d : Broker.Delivery) (w : World) :
    acknowledgements config d w.trace = acknowledgements config d w.calls := by
  rw [World.calls, acknowledgements, acknowledgements, List.filterMap_filter]
  refine List.filterMap_congr fun c _ => ?_
  cases c <;> rfl

/-- **A block makes the acknowledgement its delivery is due, and no other.** -/
theorem acknowledgements_block (config : Config) (d : Broker.Delivery) (w : World) (m : Message) :
    acknowledgements config d (block config w m) = if config.autoAck then [] else [due d] := by
  have hcommit : acknowledgements config d (block config w m) =
      ((block config w m).filterMap committed?).filterMap
        fun _ => d.acknowledgement config.autoAck := by
    rw [acknowledgements, List.filterMap_filterMap]
    refine List.filterMap_congr fun c _ => ?_
    cases c <;> rfl
  rw [hcommit, block_committed]
  unfold Broker.Delivery.acknowledgement due
  split <;> simp_all

/-- **What handling a delivery leaves**: one block more in the record, and the
acknowledgement the delivery is due. -/
theorem handleDelivery_block (config : Config) (d : Broker.Delivery) (x : Disturbance)
    (i : Intake) :
    (i.handleDelivery config d x).world.Akin (processed i.world ⟨d.tag, d.content, x⟩) ∧
      (i.handleDelivery config d x).world.calls =
        i.world.calls ++ block config i.world ⟨d.tag, d.content, x⟩ ∧
      (i.handleDelivery config d x).acknowledged.reverse =
        i.acknowledged.reverse ++ if config.autoAck then [] else [due d] := by
  -- The delivery is handled with an empty record, which is put back afterwards.
  have hempty := World.past_akin i.world []
  obtain ⟨hakin, hcalls⟩ := handle_block config ⟨d.tag, d.content, x⟩ { i.world with past := [] }
  rw [block_akin hempty] at hcalls
  have hown : (handle config ⟨d.tag, d.content, x⟩ { i.world with past := [] }).calls =
      block config i.world ⟨d.tag, d.content, x⟩ := hcalls
  refine ⟨?_, ?_, ?_⟩
  · exact (World.past_akin _ _).trans (hakin.trans (processed_akin hempty _))
  · rw [← hown]
    simp [handleDelivery, World.calls, World.trace]
  · rw [← acknowledgements_block config d i.world ⟨d.tag, d.content, x⟩, ← hown,
      ← acknowledgements_calls]
    simp [handleDelivery, World.trace, acknowledgements, List.filterMap_reverse]

/-! ## The row of deliveries -/

/-- **Where the pushed deliveries are.** -/
structure Sorted (pushed : List Broker.Delivery) (i : Intake) : Prop where
  /-- Nothing was forwarded but what was pushed, in order. -/
  forwarded : i.forwarded.reverse <+: pushed
  /-- Nothing was handled but what was forwarded, in order. -/
  handled : i.handled.reverse <+: i.forwarded.reverse
  /-- While the inbox is open nothing is lost. -/
  conserved : i.inbox.closed = false → i.forwarded.reverse = pushed ∧
    pushed = i.handled.reverse ++ i.phase.inHand ++ (i.inbox.waiting ++ i.inbox.outside)
  /-- The inbox is closed by the end of the loop only. -/
  ended : i.inbox.closed = true → i.phase = .ended

variable {pushed : List Broker.Delivery}

theorem Sorted.forward (h : i.Sorted pushed) (d : Broker.Delivery) :
    (i.step config (.forward d)).Sorted (pushed ++ [d]) := by
  cases hclosed : i.inbox.closed with
  | true =>
    -- A closed inbox lets the delivery go, and the row stays a beginning of what was pushed.
    have hsame : i.step config (.forward d) = i := by
      simp [step, Broker.Inbox.forward, hclosed]
    rw [hsame]
    refine ⟨h.forwarded.trans (List.prefix_append _ _), h.handled, fun hopen => ?_, h.ended⟩
    rw [hclosed] at hopen
    cases hopen
  | false =>
    obtain ⟨hall, hrow⟩ := h.conserved hclosed
    have hforwarded : (i.step config (.forward d)).forwarded.reverse =
        i.forwarded.reverse ++ [d] := by
      simp [step, hclosed]
    have hpushed : (i.step config (.forward d)).forwarded.reverse = pushed ++ [d] := by
      rw [hforwarded, hall]
    have hinbox : (i.step config (.forward d)).inbox.waiting ++
        (i.step config (.forward d)).inbox.outside =
          i.inbox.waiting ++ i.inbox.outside ++ [d] := by
      simp only [step, Broker.Inbox.forward, hclosed, Bool.false_eq_true, if_false,
        Broker.Inbox.refill_row, List.append_assoc]
    refine ⟨?_, ?_, fun _ => ⟨?_, ?_⟩, fun hshut => ?_⟩
    · exact ⟨[], (List.append_nil _).trans hpushed⟩
    · rw [hforwarded]
      exact h.handled.trans (List.prefix_append _ _)
    · exact hpushed
    · rw [hinbox, ← List.append_assoc]
      exact congrArg (· ++ [d]) hrow
    · simp [step, Broker.Inbox.forward, Broker.Inbox.refill, hclosed] at hshut

/-- The end of the loop closes the inbox and handles nothing. -/
theorem Sorted.finishLoop (h : i.Sorted pushed) : i.finishLoop.Sorted pushed := by
  refine ⟨h.forwarded, h.handled, fun hopen => ?_, fun _ => rfl⟩
  cases hopen

/-- A loop that still runs has an open inbox. -/
theorem Sorted.isOpen (h : i.Sorted pushed) (hphase : i.phase ≠ .ended) :
    i.inbox.closed = false := by
  cases hclosed : i.inbox.closed with
  | false => rfl
  | true => exact absurd (h.ended hclosed) hphase

theorem Sorted.turn (h : i.Sorted pushed) : (i.step config .turn).Sorted pushed := by
  unfold step
  cases hphase : i.phase with
  | polling =>
    have hopen := h.isOpen (by rw [hphase]; exact nofun)
    simp only
    split
    · exact h.finishLoop
    · unfold Broker.Inbox.poll
      cases hwaiting : i.inbox.waiting with
      | nil =>
        simp only [hopen, Bool.false_eq_true, if_false]
        exact h
      | cons d rest =>
        -- The head of the row goes from the inbox into the hand of the worker.
        obtain ⟨hall, hrow⟩ := h.conserved hopen
        refine ⟨h.forwarded, h.handled, fun _ => ⟨hall, ?_⟩, fun hshut => ?_⟩
        · show pushed = i.handled.reverse ++ [d] ++ _
          rw [Broker.Inbox.refill_row, hrow, hphase, hwaiting]
          simp [Phase.inHand]
        · have hclosed : i.inbox.closed = true := hshut
          rw [hopen] at hclosed
          cases hclosed
  | handling d => exact h
  | ended => exact h

theorem Sorted.finish (h : i.Sorted pushed) (x : Disturbance) :
    (i.step config (.finish x)).Sorted pushed := by
  unfold step
  cases hphase : i.phase with
  | polling => exact h
  | handling d =>
    have hopen := h.isOpen (by rw [hphase]; exact nofun)
    -- The head of the row goes from the hand of the worker to what was handled.
    obtain ⟨hall, hrow⟩ := h.conserved hopen
    rw [hphase] at hrow
    refine ⟨h.forwarded, ?_, fun _ => ⟨hall, ?_⟩, fun hshut => ?_⟩
    · show (d :: i.handled).reverse <+: i.forwarded.reverse
      rw [hall, hrow, List.reverse_cons]
      exact List.prefix_append _ _
    · show pushed = (d :: i.handled).reverse ++ [] ++ _
      rw [hrow, List.reverse_cons, List.append_nil]
      rfl
    · have hclosed : i.inbox.closed = true := hshut
      rw [hopen] at hclosed
      cases hclosed
  | ended => exact h

/-- **Every event keeps the row.** -/
theorem Sorted.step (h : i.Sorted pushed) (e : Event) :
    (i.step config e).Sorted (pushed ++ e.pushed?.toList) := by
  cases e with
  | forward d => exact h.forward d
  | turn =>
    rw [show Event.turn.pushed?.toList = [] from rfl, List.append_nil]
    exact h.turn
  | finish x =>
    rw [show (Event.finish x).pushed?.toList = [] from rfl, List.append_nil]
    exact h.finish x
  | stop =>
    rw [show Event.stop.pushed?.toList = [] from rfl, List.append_nil]
    exact ⟨h.forwarded, h.handled, h.conserved, h.ended⟩

/-! ## The record and the acknowledgements -/

/-- **What handling has left behind**: the acknowledgements that are due for
what was handled, and one block for each in the record. -/
structure Recorded (config : Config) (w : World) (i : Intake) : Prop where
  acknowledged : i.acknowledged.reverse =
    if config.autoAck then [] else i.handled.reverse.map due
  record : ∃ ms : List Message,
    ms.map (fun m => (m.tag, m.content)) = i.handled.reverse.map (fun d => (d.tag, d.content)) ∧
    i.world.calls = w.calls ++ blocks config w ms ∧ i.world.Akin (ms.foldl processed w)

theorem Recorded.finish (h : i.Recorded config w) (d : Broker.Delivery) (x : Disturbance) :
    (i.handleDelivery config d x).Recorded config w := by
  obtain ⟨hakin, hcalls, hacknowledged⟩ := handleDelivery_block config d x i
  obtain ⟨ms, hms, hrecord, hworld⟩ := h.record
  refine ⟨?_, ms ++ [⟨d.tag, d.content, x⟩], ?_, ?_, ?_⟩
  · rw [hacknowledged, h.acknowledged]
    show _ = if config.autoAck then [] else (d :: i.handled).reverse.map due
    split
    · rfl
    · rw [List.reverse_cons, List.map_append]
      rfl
  · show _ = (d :: i.handled).reverse.map _
    rw [List.map_append, hms, List.reverse_cons, List.map_append]
    rfl
  · rw [hcalls, hrecord, blocks_snoc, block_akin hworld, List.append_assoc]
  · rw [List.foldl_append]
    exact hakin.trans (processed_akin hworld _)

/-- **Every event keeps the record**; only the end of a handling adds to it. -/
theorem Recorded.step (h : i.Recorded config w) (e : Event) :
    (i.step config e).Recorded config w := by
  cases e with
  | forward d => exact ⟨h.acknowledged, h.record⟩
  | stop => exact ⟨h.acknowledged, h.record⟩
  | turn =>
    unfold Intake.step
    cases i.phase with
    | polling =>
      simp only
      split
      · exact ⟨h.acknowledged, h.record⟩
      · split <;> exact ⟨h.acknowledged, h.record⟩
    | handling d => exact h
    | ended => exact h
  | finish x =>
    unfold Intake.step
    cases i.phase with
    | polling => exact h
    | handling d => exact h.finish d x
    | ended => exact h

/-- **A loop that has ended handles nothing and acknowledges nothing.** -/
theorem ended_step (h : i.phase = .ended) (e : Event) :
    (i.step config e).phase = .ended ∧ (i.step config e).handled = i.handled ∧
      (i.step config e).acknowledged = i.acknowledged := by
  cases e with
  | forward d => exact ⟨h, rfl, rfl⟩
  | stop => exact ⟨h, rfl, rfl⟩
  | turn => simp [step, h]
  | finish x => simp [step, h]

/-! ## A run -/

theorem feed_sorted (h : i.Sorted pushed) (events : List Event) :
    (i.feed config events).Sorted (pushed ++ events.filterMap Event.pushed?) := by
  induction events generalizing i pushed with
  | nil =>
    rw [List.filterMap_nil, List.append_nil]
    exact h
  | cons e events ih =>
    have hstep : (i.step config e).Sorted (pushed ++ e.pushed?.toList) := h.step e
    have hrest := ih hstep
    rw [List.append_assoc] at hrest
    have hcons : (e :: events).filterMap Event.pushed? =
        e.pushed?.toList ++ events.filterMap Event.pushed? := by
      cases hpushed : e.pushed? <;> simp [hpushed]
    rw [hcons]
    exact hrest

theorem feed_recorded (h : i.Recorded config w) (events : List Event) :
    (i.feed config events).Recorded config w := by
  induction events generalizing i with
  | nil => exact h
  | cons e events ih => exact ih (h.step e)

theorem ended_feed (h : i.phase = .ended) (events : List Event) :
    (i.feed config events).handled = i.handled ∧
      (i.feed config events).acknowledged = i.acknowledged := by
  induction events generalizing i with
  | nil => exact ⟨rfl, rfl⟩
  | cons e events ih =>
    obtain ⟨hphase, hhandled, hacknowledged⟩ := ended_step h e
    obtain ⟨h1, h2⟩ := ih hphase
    exact ⟨h1.trans hhandled, h2.trans hacknowledged⟩

end Intake

/-! ## A worker on a subscription -/

/-- A worker that listens to a subscription, and the keeper of that. -/
structure Consumer where
  intake : Intake
  keeper : Broker.Subscriber.State

namespace Consumer

/-- What happens to a worker or to the keeper of its subscription. -/
inductive Event where
  | worker (event : Intake.Event)
  | keeper (event : Broker.Subscriber.Event)

/-- The delivery the broker pushes with an event, if there is one. -/
def Event.pushed? : Event → Option Broker.Delivery
  | worker event => event.pushed?
  | keeper _ => none

/-- How a worker treats the queue of a subscription. -/
def config (subscription : Broker.Subscription) (pollTimeout : Span) : Config :=
  ⟨subscription.exchange, subscription.autoAck, pollTimeout⟩

/-- A worker whose subscription was just set up. -/
def start (subscription : Broker.Subscription) (connection : Broker.ConnectionId)
    (channel : Broker.Channel) (version : Nat) (w : World) : Consumer where
  intake := { inbox := { capacity := subscription.capacity }, world := w }
  keeper := Broker.Subscriber.start connection channel version

/-- One event. A loop that ends tells the keeper to stop. -/
def step (subscription : Broker.Subscription) (pollTimeout : Span) (c : Consumer) :
    Event → Consumer
  | .worker event =>
    let intake := c.intake.step (config subscription pollTimeout) event
    { intake
      keeper :=
        if intake.phase = .ended ∧ c.intake.phase ≠ .ended then
          (Broker.Subscriber.step subscription c.keeper .stop).1
        else c.keeper }
  | .keeper event => { c with keeper := (Broker.Subscriber.step subscription c.keeper event).1 }

/-- One event after another. -/
def feed (subscription : Broker.Subscription) (pollTimeout : Span) (c : Consumer)
    (events : List Event) : Consumer :=
  events.foldl (step subscription pollTimeout) c

/-- The event of a worker. -/
def Event.worker? : Event → Option Intake.Event
  | worker event => some event
  | keeper _ => none

variable {subscription : Broker.Subscription} {pollTimeout : Span}

/-- **What the keeper does leaves the worker and its inbox alone.** -/
theorem feed_intake (c : Consumer) (events : List Event) :
    (c.feed subscription pollTimeout events).intake =
      c.intake.feed (config subscription pollTimeout) (events.filterMap Event.worker?) := by
  induction events generalizing c with
  | nil => rfl
  | cons e events ih =>
    cases e with
    | worker event => exact ih (c.step subscription pollTimeout (.worker event))
    | keeper event => exact ih (c.step subscription pollTimeout (.keeper event))

theorem pushed_worker (events : List Event) :
    (events.filterMap Event.worker?).filterMap Intake.Event.pushed? =
      events.filterMap Event.pushed? := by
  rw [List.filterMap_filterMap]
  refine List.filterMap_congr fun e _ => ?_
  cases e <;> rfl

/-- **Every handled delivery is acknowledged once, and nothing else is**, over
every run of a worker on its subscription: whatever is pushed and on whatever
channels, whenever a channel or the connection is lost and restored, and
whenever the loop is told to stop. What was handled is a beginning of what
was forwarded, which is a beginning of what was pushed. With the broker's own
acknowledgement none is sent; without it each handled delivery has its own,
on its channel and by its tag, and the commit that sends it closes the block
of its handling. Once the inbox is closed, nothing more is handled. -/
theorem deliveries_acknowledged (subscription : Broker.Subscription) (pollTimeout : Span)
    (connection : Broker.ConnectionId) (channel : Broker.Channel) (version : Nat) (w : World)
    (events : List Event) :
    ∃ i : Intake,
      ((start subscription connection channel version w).feed subscription pollTimeout
        events).intake = i ∧
      i.handled.reverse <+: i.forwarded.reverse ∧
      i.forwarded.reverse <+: events.filterMap Event.pushed? ∧
      i.acknowledged.reverse = (if subscription.autoAck then [] else
        i.handled.reverse.map fun d => ⟨d.channel, d.tag, false⟩) ∧
      (∃ ms : List Message,
        ms.map (fun m => (m.tag, m.content)) =
          i.handled.reverse.map (fun d => (d.tag, d.content)) ∧
        i.world.calls = w.calls ++ blocks (config subscription pollTimeout) w ms ∧
        (blocks (config subscription pollTimeout) w ms).filterMap committed? =
          i.acknowledged.reverse.map (·.tag)) ∧
      (i.inbox.closed = true → ∀ later : List Event,
        let j := ((start subscription connection channel version w).feed subscription pollTimeout
          (events ++ later)).intake
        j.handled = i.handled ∧ j.acknowledged = i.acknowledged) := by
  have hsorted : (start subscription connection channel version w).intake.Sorted [] :=
    ⟨List.nil_prefix, List.nil_prefix, fun _ => ⟨rfl, rfl⟩, fun hclosed => by cases hclosed⟩
  have hrecorded : (start subscription connection channel version w).intake.Recorded
      (config subscription pollTimeout) w := by
    refine ⟨?_, [], rfl, ?_, .refl w⟩
    · show [] = if subscription.autoAck then [] else []
      split <;> rfl
    · exact (List.append_nil _).symm
  have hs : (((start subscription connection channel version w).feed subscription pollTimeout
      events).intake).Sorted (events.filterMap Event.pushed?) := by
    rw [feed_intake, ← pushed_worker]
    exact Intake.feed_sorted hsorted _
  have hr : (((start subscription connection channel version w).feed subscription pollTimeout
      events).intake).Recorded (config subscription pollTimeout) w := by
    rw [feed_intake]
    exact Intake.feed_recorded hrecorded _
  obtain ⟨ms, hms, hcalls, -⟩ := hr.record
  refine ⟨_, rfl, hs.handled, hs.forwarded, hr.acknowledged, ⟨ms, hms, hcalls, ?_⟩, ?_⟩
  · have htags := congrArg (List.map Prod.fst) hms
    rw [List.map_map, List.map_map] at htags
    rw [hr.acknowledged, blocks_committed]
    split
    · rfl
    · rw [List.map_map]
      exact htags
  · intro hclosed later
    have hlater : ((start subscription connection channel version w).feed subscription pollTimeout
        (events ++ later)).intake = Intake.feed (config subscription pollTimeout)
          ((start subscription connection channel version w).feed subscription pollTimeout
            events).intake (later.filterMap Event.worker?) := by
      rw [← feed_intake, feed, List.foldl_append]
      rfl
    simp only [hlater]
    exact Intake.ended_feed (hs.ended hclosed) _

end Consumer

end Worker

end NotificationFeed
