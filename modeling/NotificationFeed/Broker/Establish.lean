import NotificationFeed.Program
import NotificationFeed.Broker.Subscription
/-!
# Setting a subscription up

A consumer begins on the connection that is published when it starts: it
opens a channel there and sends the requests of its setup one by one. Nothing
is tried twice. Where a step fails, no later one is taken, and a channel that
was opened is closed.
-/

namespace NotificationFeed

namespace Broker

/-- Why the broker, or the way to it, did not do what was asked. -/
structure Refusal where
  text : String
  deriving DecidableEq, Repr, Inhabited

/-- Why a consumer could not begin. -/
inductive StartFailure where
  /-- No connection is published. -/
  | restoring
  | refused (refusal : Refusal)
  deriving DecidableEq, Repr, Inhabited

/-- The text of a failed start. -/
def StartFailure.message : StartFailure → String
  | restoring => "connection is being restored"
  | refused refusal => refusal.text

namespace Establish

/-- One atomic call on the way to a subscription. -/
inductive Call where
  /-- Reads the published connection; its version counts as seen. -/
  | borrow
  | openChannel (on : ConnectionId)
  | register (channel : Channel)
  | request (channel : Channel) (setup : Setup)
  | closeChannel (channel : Channel)
  deriving DecidableEq, Repr

/-- What each call is answered with. -/
abbrev Call.Reply : Call → Type
  | .borrow => Option ConnectionId
  | .openChannel _ => Except Refusal Channel
  | .register _ | .request .. => Except Refusal Unit
  | .closeChannel _ => Unit

/-- What a consumer may ask on its way to a subscription. -/
abbrev surroundings : Interface := ⟨Call, Call.Reply⟩

/-- A step on the way that may be refused. -/
abbrev Step (ε α : Type) : Type := ExceptT ε (Program surroundings) α

/-- Asks for one thing. -/
def ask (call : Call) : Program surroundings (Call.Reply call) := .call (I := surroundings) call

/-- Sends a list of requests, each after the one before was accepted. -/
def apply (channel : Channel) : List Setup → Step Refusal Unit
  | [] => pure ()
  | setup :: rest => do
    ExceptT.mk (ask (.request channel setup))
    apply channel rest

/-- Runs a step, and closes the channel if it is refused. -/
def closingOnRefusal (channel : Channel) (step : Step Refusal α) : Step Refusal α :=
  ExceptT.mk do
    match ← step.run with
    | .ok a => return .ok a
    | .error refusal =>
      ask (.closeChannel channel)
      return .error refusal

/-- Opens a channel whose signal is heard. -/
def openChannel (on : ConnectionId) : Step Refusal Channel := do
  let channel ← ExceptT.mk (ask (.openChannel on))
  closingOnRefusal channel (ExceptT.mk (ask (.register channel)))
  return channel

/-- Opens a channel and sets a subscription up on it. -/
def subscribe (subscription : Subscription) (on : ConnectionId) : Step Refusal Channel := do
  let channel ← openChannel on
  closingOnRefusal channel (apply channel subscription.setup)
  return channel

/-- Sets a subscription up on the connection that is published. -/
def establish (subscription : Subscription) : Step StartFailure (ConnectionId × Channel) :=
  ExceptT.mk do
    match ← ask .borrow with
    | none => return .error .restoring
    | some on =>
      let channel ← (subscribe subscription on).run
      return (channel.mapError StartFailure.refused).map fun channel => (on, channel)

end Establish

end Broker

end NotificationFeed
