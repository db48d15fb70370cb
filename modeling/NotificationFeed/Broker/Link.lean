import NotificationFeed.Broker.Subscription
/-!
# Keeping a connection

The keeper of a connection waits for the network to fail and then opens the
connection again, for as long as it takes. What it publishes is the
connection that others may use, and nothing while there is none: the value is
withdrawn before the broken connection is closed, and a new one is published
only once it is complete. A signal to stop may come at any moment.

An event is what the keeper is woken by, an action is what it does then; what
an action leads to comes back as another event. An event that the keeper does
not wait for changes nothing.
-/

namespace NotificationFeed

namespace Broker

namespace Link

/-- How a connection is opened. -/
structure Arguments where
  virtualHost : String
  deriving DecidableEq, Repr, Inhabited

/-- What the keeper is at. -/
inductive Phase where
  /-- It waits for the network to fail. -/
  | connected
  /-- It waits for the close of the broken connection. -/
  | dropping
  /-- It waits for a new connection. -/
  | opening
  /-- It waits for the callback of a new connection to be registered. -/
  | registering (fresh : ConnectionId)
  /-- It waits for the close of a new connection that could not be completed. -/
  | discarding (fresh : ConnectionId)
  /-- It waits before the next attempt. -/
  | resting
  /-- It was told to stop and waits for the close of its connection. -/
  | closing
  | closed
  deriving DecidableEq, Repr, Inhabited

/-- A keeper and what it publishes. -/
structure State where
  phase : Phase := .connected
  /-- The last connection that was complete. -/
  current : ConnectionId
  published : Option ConnectionId
  /-- The number of the next connection. -/
  next : ConnectionId
  deriving DecidableEq, Repr, Inhabited

/-- What wakes the keeper. -/
inductive Event where
  /-- The network failed. -/
  | failed
  | opened
  | refused
  | registered
  | unregistered
  /-- A close that was asked for has come to its end, well or not. -/
  | ended
  /-- The pause between two attempts is over. -/
  | rested
  | stop
  deriving DecidableEq, Repr, Inhabited

/-- What the keeper does. -/
inductive Action where
  | publish (connection : Option ConnectionId)
  | open (arguments : Arguments)
  | register (connection : ConnectionId)
  | close (connection : ConnectionId)
  deriving DecidableEq, Repr, Inhabited

/-- The keeper of a connection that was just opened. -/
def start (connection : ConnectionId) : State where
  current := connection
  published := some connection
  next := connection + 1

/-- Whether the keeper was told to stop. -/
def Phase.isStopping : Phase → Bool
  | closing | closed => true
  | _ => false

/-- Wakes the keeper. -/
def step (arguments : Arguments) (s : State) : Event → State × List Action
  | .stop =>
    if s.phase.isStopping then (s, [])
    else ({ s with phase := .closing, published := none }, [.publish none, .close s.current])
  | event =>
    match s.phase, event with
    | .connected, .failed =>
      ({ s with phase := .dropping, published := none }, [.publish none, .close s.current])
    | .dropping, .ended | .resting, .rested => ({ s with phase := .opening }, [.open arguments])
    | .opening, .opened =>
      ({ s with phase := .registering s.next, next := s.next + 1 }, [.register s.next])
    | .opening, .refused | .discarding _, .ended => ({ s with phase := .resting }, [])
    | .registering fresh, .registered =>
      ({ s with phase := .connected, current := fresh, published := some fresh },
        [.publish (some fresh)])
    | .registering fresh, .unregistered => ({ s with phase := .discarding fresh }, [.close fresh])
    | .closing, .ended => ({ s with phase := .closed }, [])
    | _, _ => (s, [])

end Link

end Broker

end NotificationFeed
