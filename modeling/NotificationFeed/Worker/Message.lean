import NotificationFeed.Event.Process
import NotificationFeed.World
/-!
# Handling one message

A message of the queue is handled once, whatever becomes of it: its event is
processed, the outcome goes into the journal and into the metrics, and unless
the queue takes delivery for handling the message is committed. An outcome
may be a throw of a collaborator; it ends here.
-/

namespace NotificationFeed

namespace Worker

/-- How the worker treats its queue. -/
structure Config where
  /-- The label of the queue in metrics. -/
  topic : String
  /-- Whether the queue forgets a message as soon as it is delivered. -/
  autoAck : Bool
  pollTimeout : Span
  deriving DecidableEq, Repr, Inhabited

/-- A message of the queue, and what the world does to its handling. -/
structure Message where
  tag : Nat
  content : Bytes
  disturbance : Disturbance := {}
  deriving DecidableEq, Repr, Inhabited

/-- How the processing of an event ended. -/
abbrev Outcome := Except Panic (Except Failure Int)

/-- Whether the event became a notification. -/
def Outcome.isSuccess : Outcome → Bool
  | .ok (.ok _) => true
  | _ => false

/-- The journal entry for an outcome. An event of an unknown type is told by the reason of its
failure. -/
def Outcome.entry : Outcome → Entry
  | .ok (.ok id) => .info "event processed" [("notification_id", toString id)]
  | .ok (.error failure) =>
    let fields := [("err", failure.message)]
    match failure with
    | .invalidInput reason =>
      if reason = Event.unknownType then .warn "skipped event" fields
      else .error "rejected invalid event" fields
    | _ => .error "failed to process event" fields
  | .error panic => .error "event processing panicked" [("panic", panic.text.getD "unknown panic")]

/-- The name of the work in metrics. -/
def consumeOperation : String := "consume"

/-- What comes before the processing of a message; gives the moment at which it starts. -/
def arrive : Service.Task Span := do
  Service.note (.info "processing event" [])
  Service.readStopwatch

/-- Commits a message, unless its delivery was enough. -/
def settle (config : Config) (tag : Nat) : Service.Task Unit :=
  if config.autoAck then pure ()
  else do
    match ← Service.commit tag with
    | .ok () => pure ()
    | .error text => Service.note (.warn "failed to commit message" [("err", text)])

/-- What comes after the processing of a message that started at a given moment. -/
def conclude (config : Config) (tag : Nat) (started : Span) (outcome : Outcome) :
    Service.Task Unit := do
  Service.note outcome.entry
  Service.observe (.messageCounted config.topic consumeOperation outcome.isSuccess)
  let ended ← Service.readStopwatch
  Service.observe (.messageTimed config.topic consumeOperation (ended - started))
  settle config tag

/-- Handles a message in a world. -/
def handle (config : Config) (message : Message) (w : World) : World :=
  match w.run message.disturbance arrive with
  | (.error _, w) => w
  | (.ok started, w) =>
    let (outcome, w) := w.run message.disturbance (Event.process message.content).run
    (w.run message.disturbance (conclude config message.tag started outcome)).2

end Worker

end NotificationFeed
