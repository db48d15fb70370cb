import NotificationFeed.Notification
import NotificationFeed.Broker.Subscription
/-!
# Deliveries that wait for their consumer

What the broker delivers is kept in order until the consumer takes it. There
is room for a fixed number; a delivery that finds no room waits outside, in
order, and comes in as soon as one is taken. After the consumer has closed
its inbox nothing comes in any more, what waits outside is let go, and what
was in before can still be taken.

A delivery is acknowledged on the channel it arrived on, and by its tag on
that channel: tags begin anew on every channel.
-/

namespace NotificationFeed

namespace Broker

/-- A message and how it arrived. -/
structure Delivery where
  channel : Channel
  tag : Nat
  routingKey : String
  redelivered : Bool
  content : Bytes
  deriving DecidableEq, Repr, Inhabited

/-- An acknowledgement; one for several deliveries would cover all tags up to its own. -/
structure Acknowledgement where
  channel : Channel
  tag : Nat
  several : Bool
  deriving DecidableEq, Repr, Inhabited

/-- The acknowledgement of a delivery, unless delivery was enough. -/
def Delivery.acknowledgement (d : Delivery) (autoAck : Bool) : Option Acknowledgement :=
  if autoAck then none else some ⟨d.channel, d.tag, false⟩

/-- The deliveries that wait for one consumer. -/
structure Inbox where
  capacity : Nat
  /-- The deliveries that can be taken, oldest first. -/
  waiting : List Delivery := []
  /-- The deliveries that found no room, oldest first. -/
  outside : List Delivery := []
  closed : Bool := false
  deriving DecidableEq, Repr, Inhabited

/-- What a poll gives. -/
inductive Polled where
  | delivery (delivery : Delivery)
  | timeout
  | closed
  deriving DecidableEq, Repr, Inhabited

namespace Inbox

/-- Lets in what waits outside, as far as there is room. -/
def refill (i : Inbox) : Inbox :=
  let room := i.capacity - i.waiting.length
  { i with waiting := i.waiting ++ i.outside.take room, outside := i.outside.drop room }

/-- Takes a delivery of the broker; a closed inbox lets it go. -/
def forward (i : Inbox) (d : Delivery) : Inbox :=
  if i.closed then i else { i with outside := i.outside ++ [d] }.refill

/-- What a poll gives that waits until its time is over. -/
def poll (i : Inbox) : Polled × Inbox :=
  match i.waiting with
  | d :: rest => (.delivery d, { i with waiting := rest }.refill)
  | [] => (if i.closed then .closed else .timeout, i)

/-- Closes the inbox. -/
def close (i : Inbox) : Inbox := { i with closed := true, outside := [] }

end Inbox

end Broker

end NotificationFeed
