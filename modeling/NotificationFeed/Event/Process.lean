import NotificationFeed.Event.Envelope
import NotificationFeed.Service
/-!
# From events to notifications

An event of a known type becomes a notification for the user it concerns.
The first fault of an event is the one reported: its envelope, its type, its
payload, the follower, the followee. An event that is refused here reaches no
collaborator.
-/

namespace NotificationFeed

namespace Event

/-- The events this service turns into notifications. -/
inductive Kind where
  | followCreated
  deriving DecidableEq, Repr, Inhabited

/-- The name of an event type, in envelopes and as the kind of a notification. -/
def Kind.name : Kind → String
  | .followCreated => "follow_created"

/-- The event type with a name. -/
def Kind.ofName? (name : String) : Option Kind :=
  if name = "follow_created" then some .followCreated else none

/-- The reason given for events of a type this service does not know. -/
def unknownType : String := "unknown event type"

/-- The notification a followed user gets. -/
def followCreatedDraft (payload : Bytes) : Except Failure Draft := do
  match FollowCreated.decode payload with
  | none => throw (.invalidInput "malformed follow_created payload")
  | some event =>
    if event.followerId ≤ 0 then throw (.invalidInput "follower_id must be positive")
    if event.followeeId ≤ 0 then throw (.invalidInput "followee_id must be positive")
    return { userId := event.followeeId, kind := Kind.followCreated.name, createdAt := none, payload }

/-- The notification an event of a known type stands for. -/
def draft (kind : Kind) (payload : Bytes) : Except Failure Draft :=
  match kind with
  | .followCreated => followCreatedDraft payload

/-- The kind of an event; an unknown type is written into the journal. -/
def recognise (eventType : String) : Service.Operation Kind :=
  match Kind.ofName? eventType with
  | some kind => do
    Service.tell "decoded event" [("event_type", kind.name)]
    return kind
  | none => do
    ExceptT.lift (Service.note (.warn "unknown event type" [("event_type", eventType)]))
    throw (.invalidInput unknownType)

/-- Turns the content of one event into a stored notification; gives its identifier. -/
def process (content : Bytes) : Service.Operation Int :=
  match Envelope.decode content with
  | none => throw (.invalidInput "malformed event envelope")
  | some envelope => do
    let kind ← recognise envelope.eventType
    let draft ← ExceptT.mk (pure (draft kind envelope.payload))
    Service.save draft

end Event

end NotificationFeed
