/-!
# Subscriptions

What a consumer listens to: a queue that is bound to a topic exchange. Both
outlive the broker's restarts, so every instance that names the same queue
competes for the same messages. A subscription is set up on a channel by five
requests in a fixed order.
-/

namespace NotificationFeed

namespace Broker

/-- The number of a connection, counted from its keeper's first. -/
abbrev ConnectionId := Nat

/-- A channel on a connection. A number is never used for two channels. -/
structure Channel where
  number : Nat
  connection : ConnectionId
  deriving DecidableEq, Repr, Inhabited

/-- What a consumer listens to. -/
structure Subscription where
  exchange : String
  queue : String
  bindingKey : String
  /-- The name under which the consumer is cancelled. -/
  consumerTag : String
  /-- Whether the broker forgets a message as soon as it is delivered. -/
  autoAck : Bool
  /-- How many deliveries may wait for their acknowledgement; zero is no limit. -/
  prefetchCount : Nat
  deriving DecidableEq, Repr, Inhabited

/-- A request that is part of setting a subscription up. -/
inductive Setup where
  | declareExchange (name kind : String) (durable : Bool)
  | declareQueue (name : String) (durable : Bool)
  | bindQueue (queue exchange key : String)
  | limitDeliveries (size count : Nat) (wholeConnection : Bool)
  | consume (queue tag : String) (noAck : Bool)
  deriving DecidableEq, Repr, Inhabited

namespace Subscription

/-- The requests that set a subscription up, in order. -/
def setup (s : Subscription) : List Setup :=
  [.declareExchange s.exchange "topic" true,
    .declareQueue s.queue true,
    .bindQueue s.queue s.exchange s.bindingKey,
    .limitDeliveries 0 s.prefetchCount false,
    .consume s.queue s.consumerTag s.autoAck]

/-- How many deliveries are kept for the consumer before it takes them; never none. -/
def capacity (s : Subscription) : Nat := max s.prefetchCount 1

end Subscription

end Broker

end NotificationFeed
