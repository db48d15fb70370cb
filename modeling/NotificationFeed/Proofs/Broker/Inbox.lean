import NotificationFeed.Broker.Client
/-!
# Inbox — what a consumer still gets after it was closed

A consumer takes the deliveries in the order in which they were forwarded:
what was taken, what waits inside and what waits outside are, in this order,
what was forwarded (`after_forwarded`). Inside there is as much of that as
there is room for (`Filled`). Closing lets go what waits outside and what
comes later, and nothing else: the polls after it hand out what was inside,
and only when that is used up do they find the consumer closed
(`polls_after_close`). A consumer is therefore not closed for its owner once
it was closed, unless nothing waited inside (`closed_at_once_iff`). The keepers
of the connection and of the subscription have no part in it: to close the
consumer closes its inbox, and a poll of it is a poll of that
(`Client.poll_closeConsumer`).
-/

namespace NotificationFeed

namespace Broker

/-- The delivery that a poll hands out, if it does. -/
def Polled.delivery? : Polled → Option Delivery
  | delivery d => some d
  | timeout | closed => none

/-- The deliveries that polls hand out, in order. -/
def handed (polls : List Polled) : List Delivery := polls.filterMap Polled.delivery?

namespace Inbox

variable {i : Inbox} {d : Delivery} {events : List Event}

/-- What happens to an inbox. -/
inductive Event where
  /-- The broker delivers. -/
  | forward (delivery : Delivery)
  /-- The consumer polls until the time of the poll is over. -/
  | poll
  deriving DecidableEq, Repr

/-- The delivery that an event forwards, if it does. -/
def Event.forwarded? : Event → Option Delivery
  | forward d => some d
  | poll => none

/-- The deliveries that are forwarded, in order. -/
def forwarded (events : List Event) : List Delivery := events.filterMap Event.forwarded?

/-- An inbox after one event. -/
def step (i : Inbox) : Event → Inbox
  | .forward d => i.forward d
  | .poll => i.poll.2

/-- An inbox after one event after another. -/
def after (i : Inbox) (events : List Event) : Inbox := events.foldl step i

/-- What the polls among the events give, in order. -/
def polls : Inbox → List Event → List Polled
  | _, [] => []
  | i, .forward d :: events => (i.forward d).polls events
  | i, .poll :: events => i.poll.1 :: i.poll.2.polls events

/-- The deliveries that were forwarded and not taken: those inside, then those outside. -/
def row (i : Inbox) : List Delivery := i.waiting ++ i.outside

/-- **There is no room left unused**: inside is as much of the row as there is room for. -/
def Filled (i : Inbox) : Prop := i.waiting = i.row.take i.capacity

/-! ## While it is open -/

/-- Letting in what waits outside keeps the row. -/
theorem refill_row (i : Inbox) :
    i.refill.waiting ++ i.refill.outside = i.waiting ++ i.outside := by
  simp [refill]

theorem Filled.length_le (h : i.Filled) : i.waiting.length ≤ i.capacity := by
  have hlength := congrArg List.length h
  rw [List.length_take] at hlength
  omega

/-- Letting in what waits outside leaves no room unused. -/
theorem filled_refill (h : i.waiting.length ≤ i.capacity) : i.refill.Filled := by
  have hinside : i.refill.waiting = i.row.take i.capacity := by
    rw [row, List.take_append, List.take_of_length_le h]
    rfl
  rw [Filled, row, refill_row, hinside]
  rfl

theorem forward_open (h : i.closed = false) (d : Delivery) :
    i.forward d = { i with outside := i.outside ++ [d] }.refill := by
  simp [forward, h]

/-- What is forwarded comes to the end of the row. -/
theorem row_forward (h : i.closed = false) (d : Delivery) : (i.forward d).row = i.row ++ [d] := by
  rw [forward_open h, row, refill_row]
  exact (List.append_assoc _ _ _).symm

theorem poll_cons {rest : List Delivery} (h : i.waiting = d :: rest) :
    i.poll = (.delivery d, { i with waiting := rest }.refill) := by
  simp [poll, h]

theorem poll_nil (h : i.waiting = []) :
    i.poll = (if i.closed then .closed else .timeout, i) := by
  simp [poll, h]

/-- **What a poll takes is the head of the row.** -/
theorem row_poll (i : Inbox) : i.row = handed [i.poll.1] ++ i.poll.2.row := by
  cases hwaiting : i.waiting with
  | nil =>
    rw [poll_nil hwaiting]
    cases i.closed <;> rfl
  | cons d rest =>
    rw [poll_cons hwaiting, row, row, refill_row, hwaiting]
    rfl

/-- **What holds of an inbox while it is open.** -/
structure Open (capacity : Nat) (i : Inbox) : Prop where
  isOpen : i.closed = false
  capacity : i.capacity = capacity
  filled : i.Filled

variable {capacity : Nat}

theorem open_empty (capacity : Nat) : Open capacity { capacity } :=
  ⟨rfl, rfl, List.take_nil.symm⟩

theorem Open.step (h : i.Open capacity) (e : Event) : (i.step e).Open capacity := by
  cases e with
  | forward d =>
    rw [Inbox.step, forward_open h.isOpen]
    exact ⟨h.isOpen, h.capacity, filled_refill h.filled.length_le⟩
  | poll =>
    rw [Inbox.step]
    cases hwaiting : i.waiting with
    | nil => rwa [poll_nil hwaiting]
    | cons d rest =>
      have hroom : rest.length ≤ i.capacity := by
        have hlength := h.filled.length_le
        rw [hwaiting, List.length_cons] at hlength
        omega
      rw [poll_cons hwaiting]
      exact ⟨h.isOpen, h.capacity, filled_refill hroom⟩

/-- **Nothing is lost and nothing overtakes.** -/
theorem after_forwarded (h : i.Open capacity) (events : List Event) :
    (i.after events).Open capacity ∧
      i.row ++ forwarded events = handed (i.polls events) ++ (i.after events).row := by
  induction events generalizing i with
  | nil => exact ⟨h, List.append_nil _⟩
  | cons e events ih =>
    obtain ⟨hopen, hrow⟩ := ih (h.step e)
    refine ⟨hopen, ?_⟩
    cases e with
    | forward d =>
      calc i.row ++ forwarded (.forward d :: events)
          = (i.forward d).row ++ forwarded events := by
            rw [row_forward h.isOpen, List.append_assoc]
            rfl
        _ = _ := hrow
    | poll =>
      calc i.row ++ forwarded (.poll :: events)
          = handed [i.poll.1] ++ (i.poll.2.row ++ forwarded events) := by
            rw [← List.append_assoc, ← row_poll]
            rfl
        _ = handed [i.poll.1] ++ (handed (i.poll.2.polls events) ++ _) := congrArg _ hrow
        _ = _ := by
            rw [← List.append_assoc, handed, handed, ← List.filterMap_append]
            rfl

/-! ## Once it is closed -/

/-- **A closed inbox**: nobody waits outside. -/
structure Shut (i : Inbox) : Prop where
  closed : i.closed = true
  outside : i.outside = []

theorem shut_close (i : Inbox) : i.close.Shut := ⟨rfl, rfl⟩

/-- What comes after the close is let go. -/
theorem Shut.forward (h : i.Shut) (d : Delivery) : i.forward d = i := by
  simp [Inbox.forward, h.closed]

theorem Shut.poll_cons {rest : List Delivery} (h : i.Shut) (hwaiting : i.waiting = d :: rest) :
    i.poll = (.delivery d, { i with waiting := rest }) := by
  rw [Inbox.poll_cons hwaiting, refill]
  simp [h.outside]

/-- **The polls of a closed inbox hand out what is inside, and then find it closed.** -/
theorem Shut.polls (h : i.Shut) (events : List Event) :
    i.polls events = (i.waiting.map Polled.delivery).take (events.count .poll) ++
      List.replicate (events.count .poll - i.waiting.length) .closed := by
  induction events generalizing i with
  | nil => simp [Inbox.polls]
  | cons e events ih =>
    cases e with
    | forward d =>
      rw [Inbox.polls, h.forward d, ih h]
      simp
    | poll =>
      rw [Inbox.polls, List.count_cons_self]
      cases hwaiting : i.waiting with
      | nil =>
        rw [poll_nil hwaiting, h.closed, ih h, hwaiting]
        simp [List.replicate_succ]
      | cons d rest =>
        have hshut : Shut { i with waiting := rest } := ⟨h.closed, h.outside⟩
        rw [h.poll_cons hwaiting, ih hshut]
        simp

/-- **Once it is closed a consumer hands out what was inside**, in order and each delivery once,
and then it is found closed. Take any number of deliveries and polls before the close and after it.
Of what had been forwarded and was not taken, that is what there was room for; what waited outside
and what came later is never handed out. -/
theorem polls_after_close (capacity : Nat) (before later : List Event) :
    let inbox : Inbox := { capacity }
    let left := (forwarded before).drop (handed (inbox.polls before)).length
    let inside := left.take capacity
    (inbox.after before).close.polls later =
      (inside.map Polled.delivery).take (later.count .poll) ++
        List.replicate (later.count .poll - inside.length) .closed := by
  intro inbox left inside
  obtain ⟨hopen, hrow⟩ := after_forwarded (open_empty capacity) before
  have hforwarded : forwarded before = handed (inbox.polls before) ++ (inbox.after before).row :=
    hrow
  have hleft : left = (inbox.after before).row := by
    simp only [left]
    rw [hforwarded, List.drop_left]
  have hinside : (inbox.after before).waiting = inside := by
    rw [hopen.filled, hopen.capacity, ← hleft]
  rw [(shut_close _).polls later, ← hinside]
  rfl

/-- Two deliveries, room for one and a third delivery after the close. -/
example :
    let first : Delivery := ⟨⟨0, 0⟩, 1, "follow", false, []⟩
    let second : Delivery := ⟨⟨0, 0⟩, 2, "follow", false, []⟩
    let third : Delivery := ⟨⟨0, 0⟩, 3, "follow", false, []⟩
    let inbox := ({ capacity := 1 } : Inbox).after [.forward first, .forward second]
    inbox.close.polls [.forward third, .poll, .poll] = [.delivery first, .closed] := by
  decide

/-- **A consumer is closed for its owner at once only if nothing waits inside.** -/
theorem closed_at_once_iff (i : Inbox) :
    (∀ later, ∀ p ∈ i.close.polls later, p = .closed) ↔ i.waiting = [] := by
  constructor
  · intro h
    cases hwaiting : i.waiting with
    | nil => rfl
    | cons d rest =>
      have hclose : i.close.waiting = d :: rest := hwaiting
      have hfirst : i.close.polls [.poll] = [.delivery d] := by
        rw [Inbox.polls, Inbox.poll_cons hclose]
        rfl
      have hclosed := h [.poll] (.delivery d) (by rw [hfirst]; exact List.mem_singleton_self _)
      cases hclosed
  · intro hwaiting later p hp
    have hempty : i.close.waiting = [] := hwaiting
    rw [(shut_close i).polls later, hempty, List.map_nil, List.take_nil, List.nil_append] at hp
    exact List.eq_of_mem_replicate hp

end Inbox

/-! ## The consumer -/

namespace Client

variable {c c' : Client}

/-- The keepers know nothing of the inbox. -/
theorem publish_inbox (c : Client) (actions : List Link.Action) :
    (c.publish actions).inbox = c.inbox := by
  unfold publish
  induction actions generalizing c with
  | nil => rfl
  | cons action actions ih =>
    rw [List.foldl_cons, ih]
    cases action <;> rfl

theorem foldl_tell_inbox (c : Client) (events : List Subscriber.Event) :
    (events.foldl tell c).inbox = c.inbox := by
  induction events generalizing c with
  | nil => rfl
  | cons event events ih => exact ih (c.tell event)

theorem work_inbox (c : Client) (i : Worker.Intake) : (c.work i).inbox = c.inbox := by
  have hstop : ∀ (p : Prop) [Decidable p] (c : Client),
      (if p then c.tell .stop else c).inbox = c.inbox := by
    intro p _ c
    split <;> rfl
  exact hstop _ _

/-- **What happens by itself leaves the inbox alone.** -/
theorem advance_inbox (h : c.advance = some c') : c'.inbox = c.inbox := by
  unfold advance at h
  split at h
  · rw [← Option.some.inj h, publish_inbox]
  · split at h
    · rw [← Option.some.inj h]
      exact foldl_tell_inbox _ _
    · split at h
      · rw [← Option.some.inj h, work_inbox]
      · cases h

theorem settleFor_inbox (n : Nat) (c : Client) : (c.settleFor n).inbox = c.inbox := by
  induction n generalizing c with
  | zero => rfl
  | succ n ih =>
    unfold settleFor
    split
    · rename_i c' hadvance
      rw [ih, advance_inbox hadvance]
    · rfl

/-- **To close the consumer closes its inbox and does nothing else to it.** -/
theorem closeConsumer_inbox (c : Client) :
    c.closeConsumer.inbox = c.inbox.map Inbox.close := settleFor_inbox _ _

/-- A poll of the consumer is a poll of its inbox. -/
theorem poll_inbox {i : Inbox} (h : c.inbox = some i) :
    c.poll.1 = i.poll.1 ∧ c.poll.2.inbox = some i.poll.2 := by
  cases hwaiting : i.waiting with
  | nil =>
    rw [poll, h, Option.map_some, Inbox.poll_nil hwaiting]
    cases i.closed <;> exact ⟨rfl, h⟩
  | cons d rest =>
    rw [poll, h, Option.map_some, Inbox.poll_cons hwaiting]
    exact ⟨rfl, rfl⟩

/-- **A consumer that was closed hands out the delivery that waits first**, and is found closed if
none does. -/
theorem poll_closeConsumer {i : Inbox} (h : c.inbox = some i) :
    c.closeConsumer.poll.1 = (i.waiting.head?.map Polled.delivery).getD .closed := by
  have hclosed : c.closeConsumer.inbox = some i.close := by
    rw [closeConsumer_inbox, h]
    rfl
  rw [(poll_inbox hclosed).1]
  cases hwaiting : i.waiting with
  | nil =>
    have hempty : i.close.waiting = [] := hwaiting
    rw [Inbox.poll_nil hempty]
    rfl
  | cons d rest =>
    have hfirst : i.close.waiting = d :: rest := hwaiting
    rw [Inbox.poll_cons hfirst]
    rfl

end Client

end Broker

end NotificationFeed
