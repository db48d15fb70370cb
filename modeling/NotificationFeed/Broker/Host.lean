import NotificationFeed.Broker.Inbox
import NotificationFeed.Broker.Link
/-!
# A broker that does as it is told

It takes connections and channels, except those it was told to refuse, and
accepts every request, except that the next request of a listed name makes it
close the channel instead of answering. It keeps the requests it received;
what cannot reach it any more is not among them.
-/

namespace NotificationFeed

namespace Broker

/-- What a broker is asked. -/
inductive Request where
  /-- A connection attempt that was refused. -/
  | refused
  | openConnection (virtualHost : String)
  | closeConnection
  | openChannel
  | closeChannel
  | setup (setup : Setup)
  | cancel (consumerTag : String)
  | acknowledge (tag : Nat) (several : Bool)
  | confirmFlow (active : Bool)
  deriving DecidableEq, Repr, Inhabited

/-- The name of a request. -/
def Request.name : Request → String
  | refused => "refused"
  | openConnection _ => "connection.open"
  | closeConnection => "connection.close"
  | openChannel => "channel.open"
  | closeChannel => "channel.close"
  | setup (.declareExchange ..) => "exchange.declare"
  | setup (.declareQueue ..) => "queue.declare"
  | setup (.bindQueue ..) => "queue.bind"
  | setup (.limitDeliveries ..) => "basic.qos"
  | setup (.consume ..) => "basic.consume"
  | cancel _ => "basic.cancel"
  | acknowledge .. => "basic.ack"
  | confirmFlow _ => "channel.flow-ok"

/-- A broker and what it was told. -/
structure Host where
  /-- How many of the next connection attempts are refused. -/
  refusals : Nat := 0
  /-- The names of the requests that are answered by closing the channel, in order. -/
  rejections : List String := []
  connections : List ConnectionId := []
  channels : List Channel := []
  /-- The channel a consumer listens on. -/
  consumer : Option Channel := none
  /-- The tag of the last delivery to that consumer. -/
  lastTag : Nat := 0
  /-- The requests it received, newest first. -/
  past : List Request := []
  deriving DecidableEq, Repr, Inhabited

namespace Host

/-- Writes a request down. -/
def record (h : Host) (request : Request) : Host := { h with past := request :: h.past }

/-- Forgets a channel and the consumer on it. -/
def dropChannel (h : Host) (channel : Channel) : Host :=
  { h with
    channels := h.channels.filter (· != channel)
    consumer := h.consumer.filter (· != channel) }

/-- Forgets a connection and all on it. -/
def dropConnection (h : Host) (connection : ConnectionId) : Host :=
  { h with
    connections := h.connections.filter (· != connection)
    channels := h.channels.filter (·.connection != connection)
    consumer := h.consumer.filter (·.connection != connection) }

/-- Answers a connection attempt; tells whether there is a connection. -/
def connect (h : Host) (arguments : Link.Arguments) (connection : ConnectionId) : Bool × Host :=
  match h.refusals with
  | 0 =>
    (true, { h.record (.openConnection arguments.virtualHost) with
      connections := connection :: h.connections })
  | n + 1 => (false, { h.record .refused with refusals := n })

/-- Answers the close of a connection, if that reaches it. -/
def closeConnection (h : Host) (connection : ConnectionId) : Host :=
  if connection ∈ h.connections then (h.record .closeConnection).dropConnection connection else h

/-- What becomes of a request. -/
inductive Answer where
  | accepted
  /-- The channel was closed instead. -/
  | rejected
  /-- The request never arrived. -/
  | lost
  deriving DecidableEq, Repr, Inhabited

/-- Answers a request that arrived on a channel, unless it has to be rejected. -/
def judge (h : Host) (channel : Channel) (request : Request) : Answer × Host :=
  let h := h.record request
  match h.rejections with
  | name :: rest =>
    if name = request.name then (.rejected, { h.dropChannel channel with rejections := rest })
    else (.accepted, h)
  | [] => (.accepted, h)

/-- Answers the wish for a channel. -/
def openChannel (h : Host) (channel : Channel) : Answer × Host :=
  if channel.connection ∈ h.connections then
    match h.judge channel .openChannel with
    | (.accepted, h) => (.accepted, { h with channels := channel :: h.channels })
    | refused => refused
  else (.lost, h)

/-- Answers a request on a channel. -/
def receive (h : Host) (channel : Channel) (request : Request) : Answer × Host :=
  if channel ∈ h.channels then
    match h.judge channel request with
    | (.accepted, h) =>
      match request with
      | .setup (.consume ..) => (.accepted, { h with consumer := some channel, lastTag := 0 })
      | .cancel _ => (.accepted, { h with consumer := h.consumer.filter (· != channel) })
      | .closeChannel => (.accepted, h.dropChannel channel)
      | _ => (.accepted, h)
    | refused => refused
  else (.lost, h)

/-- Receives an acknowledgement, for which an open connection is enough; tells whether it came. -/
def acknowledge (h : Host) (acknowledgement : Acknowledgement) : Bool × Host :=
  if acknowledgement.channel.connection ∈ h.connections then
    (true, h.record (.acknowledge acknowledgement.tag acknowledgement.several))
  else (false, h)

/-- Delivers to the consumer, if there is one. -/
def deliver (h : Host) (routingKey : String) (redelivered : Bool) (content : Bytes) :
    Option Delivery × Host :=
  match h.consumer with
  | some channel =>
    let tag := h.lastTag + 1
    (some { channel, tag, routingKey, redelivered, content }, { h with lastTag := tag })
  | none => (none, h)

end Host

end Broker

end NotificationFeed
