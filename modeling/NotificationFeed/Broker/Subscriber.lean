import NotificationFeed.Broker.Subscription
/-!
# Keeping a subscription

The keeper of a subscription holds a channel on which the subscription was
set up. Two things make it begin anew: another connection was published, or
the broker closed the channel or cancelled the consumer. It then closes the
channel it has, opens another one and sets the subscription up there, and
goes on trying until that works.

The published connection carries a version. Wherever the keeper waits, but
not while it closes the channel it leaves or pauses after a setup that was
refused, a version it has not seen is noticed before all else, and whatever
it waited for is forgotten. Each channel has a signal of its own, so one that
was raised for an earlier channel is never taken for the present one.
-/

namespace NotificationFeed

namespace Broker

namespace Subscriber

/-- What the keeper is at. -/
inductive Phase where
  /-- The subscription is set up; it waits for a reason to begin anew. -/
  | consuming
  /-- It is about to read which connection is published. -/
  | reading
  /-- No connection is published; it waits for one. -/
  | waiting
  /-- It waits for the close of the channel it leaves. -/
  | leaving
  /-- It waits for a channel. -/
  | opening (on : ConnectionId)
  /-- It waits for the callback of a new channel to be registered. -/
  | registering (fresh : Channel)
  /-- It waits for the close of a new channel that could not be completed. -/
  | discarding (fresh : Channel)
  /-- It waits before it asks for a channel again. -/
  | resting (on : ConnectionId)
  /-- It is about to send the first request of the setup. -/
  | beginning
  /-- It waits for the answer to one request of the setup; the rest are still to be sent. -/
  | subscribing (awaited : Setup) (rest : List Setup)
  /-- It waits after a setup that was refused. -/
  | pausing
  /-- It was told to stop and waits for the end of its cancellation. -/
  | cancelling
  /-- It waits for the close of its last channel. -/
  | closing
  | stopped
  deriving DecidableEq, Repr, Inhabited

/-- Whether a version that was not seen is noticed in a phase. -/
def Phase.isWatching : Phase → Bool
  | consuming | waiting | opening _ | registering _ | discarding _ | resting _ | beginning
  | subscribing .. => true
  | reading | leaving | pausing | cancelling | closing | stopped => false

/-- Whether the keeper was told to stop. -/
def Phase.isStopping : Phase → Bool
  | cancelling | closing | stopped => true
  | _ => false

/-- A keeper and what it hears of others. -/
structure State where
  phase : Phase := .consuming
  /-- The connection it read last. -/
  connection : Option ConnectionId
  /-- The last channel that was complete. -/
  channel : Channel
  /-- The connection that is published at present, and the version of that. -/
  published : Option ConnectionId
  version : Nat
  /-- The version it has seen. -/
  seen : Nat
  /-- The channels whose signal is raised. -/
  raised : List Channel := []
  /-- The number of the next channel. -/
  next : Nat
  deriving DecidableEq, Repr, Inhabited

/-- What wakes the keeper, or happens beside it. -/
inductive Event where
  /-- Another connection is published, or none any more. -/
  | published (connection : Option ConnectionId)
  /-- The broker closed a channel or cancelled the consumer on it. -/
  | signalled (channel : Channel)
  /-- A version that was not seen is noticed. -/
  | noticed
  /-- The signal of its channel is noticed. -/
  | restore
  /-- It goes on where it does not have to wait. -/
  | resume
  | opened
  | refused
  | registered
  | unregistered
  | accepted
  | rejected
  /-- A close or a cancellation that was asked for has come to its end, well or not. -/
  | ended
  /-- A pause is over. -/
  | rested
  | stop
  deriving DecidableEq, Repr, Inhabited

/-- What the keeper does. -/
inductive Action where
  | openChannel (on : ConnectionId)
  | register (channel : Channel)
  | request (channel : Channel) (setup : Setup)
  | cancel (channel : Channel) (consumerTag : String)
  | closeChannel (channel : Channel)
  deriving DecidableEq, Repr, Inhabited

namespace State

/-- Whether a version is published that the keeper has not seen. -/
def isPending (s : State) : Bool := s.version != s.seen

/-- Goes back to the published connection; its version counts as seen. -/
def reread (s : State) : State × List Action := ({ s with phase := .reading, seen := s.version }, [])

/-- Leaves the channel it has. -/
def leave (s : State) : State × List Action :=
  ({ s with phase := .leaving }, [.closeChannel s.channel])

/-- Asks for a channel. -/
def openOn (s : State) (on : ConnectionId) : State × List Action :=
  if s.isPending then s.reread else ({ s with phase := .opening on }, [.openChannel on])

/-- Sends the next request of a setup; with none left the subscription is set up. -/
def request (s : State) : List Setup → State × List Action
  | [] => ({ s with phase := .consuming }, [])
  | setup :: rest => ({ s with phase := .subscribing setup rest }, [.request s.channel setup])

end State

/-- The keeper of a subscription that was just set up. -/
def start (connection : ConnectionId) (channel : Channel) (seen : Nat) : State where
  connection := some connection
  channel := channel
  published := some connection
  version := seen
  seen := seen
  next := channel.number + 1

/-- What a keeper that is not interrupted does at an event. -/
def proceed (subscription : Subscription) (s : State) (event : Event) : State × List Action :=
  match s.phase, event with
  | .consuming, .restore =>
    if s.channel ∈ s.raised then { s with raised := s.raised.filter (· != s.channel) }.leave
    else (s, [])
  | .reading, .resume =>
    let s := { s with connection := s.published, seen := s.version }
    if s.connection.isSome then s.leave else ({ s with phase := .waiting }, [])
  | .leaving, .ended =>
    match s.connection with
    | some on => s.openOn on
    | none => ({ s with phase := .reading }, [])
  | .opening on, .opened =>
    let fresh : Channel := ⟨s.next, on⟩
    ({ s with phase := .registering fresh, next := s.next + 1 }, [.register fresh])
  | .opening on, .refused => ({ s with phase := .resting on }, [])
  | .registering fresh, .registered => ({ s with phase := .beginning, channel := fresh }, [])
  | .registering fresh, .unregistered =>
    ({ s with phase := .discarding fresh }, [.closeChannel fresh])
  | .discarding fresh, .ended => ({ s with phase := .resting fresh.connection }, [])
  | .resting on, .rested => ({ s with phase := .opening on }, [.openChannel on])
  | .beginning, .resume => s.request subscription.setup
  | .subscribing _ rest, .accepted => s.request rest
  | .subscribing .., .rejected => ({ s with phase := .pausing }, [])
  | .pausing, .rested => s.leave
  | .cancelling, .ended => ({ s with phase := .closing }, [.closeChannel s.channel])
  | .closing, .ended => ({ s with phase := .stopped }, [])
  | _, _ => (s, [])

/-- Wakes the keeper. -/
def step (subscription : Subscription) (s : State) : Event → State × List Action
  | .published connection => ({ s with published := connection, version := s.version + 1 }, [])
  | .signalled channel =>
    (if channel.number < s.next then { s with raised := channel :: s.raised } else s, [])
  | .stop =>
    if s.phase.isStopping then (s, [])
    else ({ s with phase := .cancelling }, [.cancel s.channel subscription.consumerTag])
  | event =>
    if s.phase.isWatching && s.isPending then s.reread else proceed subscription s event

end Subscriber

end Broker

end NotificationFeed
