import NotificationFeed.Broker.Establish
import NotificationFeed.Broker.Link
import NotificationFeed.Broker.Subscriber
import NotificationFeed.Worker.Handle
/-!
# Starting a worker on a broker

A worker is given a handle on the connection and tries once to set its
subscription up. If that works, the handle goes to the keeper of the
subscription and one loop runs. If not, the handle is given up, the journal
tells why, and the worker stays idle; all else goes on.

A connection is closed by its last handle and by no other.
-/

namespace NotificationFeed

namespace Worker

/-- What there is once a worker was started. -/
structure Footing where
  worker : Handle
  /-- The keeper of the subscription, if there is one. -/
  keeper : Option Broker.Subscriber.State
  /-- How many handles on the connection are alive. -/
  handles : Nat
  entries : List Entry
  deriving DecidableEq, Repr, Inhabited

/-- The entry for a worker that runs. -/
def startedEntry (subscription : Broker.Subscription) : Entry :=
  .info "consumer started" [("exchange", subscription.exchange), ("queue", subscription.queue)]

/-- The entry for a worker that could not start. -/
def failedEntry (failure : Broker.StartFailure) : Entry :=
  .error "failed to start consumer" [("err", failure.message)]

/-- What there is once the subscription was set up or not. `handles` counts the worker's own, and
`version` is that of the published connection when it was read. -/
def footing (subscription : Broker.Subscription) (handles version : Nat) :
    Except Broker.StartFailure (Broker.ConnectionId × Broker.Channel) → Footing
  | .ok (connection, channel) => {
      worker := .running
      keeper := some (Broker.Subscriber.start connection channel version)
      handles
      entries := [startedEntry subscription] }
  | .error failure => {
      worker := .idle
      keeper := none
      handles := handles - 1
      entries := [failedEntry failure] }

/-- Starts a worker. -/
def start (subscription : Broker.Subscription) (handles version : Nat) :
    Program Broker.Establish.surroundings Footing := do
  return footing subscription handles version (← (Broker.Establish.establish subscription).run)

/-- The entry for a close of a connection that others still use. -/
def inUseEntry : Entry := .error "connection is still in use, refusing to close it" []

/-- Closes a connection by one of its handles; gives the number of handles left. -/
def closeConnection (arguments : Broker.Link.Arguments) (handles : Nat) (link : Broker.Link.State) :
    Nat × List Entry × Broker.Link.State × List Broker.Link.Action :=
  if handles = 1 then (0, [], Broker.Link.step arguments link .stop)
  else (handles - 1, [inUseEntry], link, [])

end Worker

end NotificationFeed
