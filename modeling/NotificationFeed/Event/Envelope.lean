import NotificationFeed.Json.Parse
import NotificationFeed.Json.Scalar
/-!
# Events and their payloads

An event arrives as an envelope: the type of the event and a payload that is
kept as the text it was written with. Both the envelope and the payload of a
known event are records: an object with the named fields in any order and
others between them, or an array of exactly the fields in their order. A
field that is named twice or is missing makes the record unreadable.
-/

namespace NotificationFeed

namespace Event

open Json

/-- The entries of an object under the texts of their keys; every key must be a text. -/
def namedEntries (entries : List (Bytes × Node)) : Option (List (String × Node)) :=
  entries.mapM fun (key, n) => (stringText key).map (·, n)

/-- The node under a name that occurs exactly once. -/
def single? (name : String) (entries : List (String × Node)) : Option Node :=
  match entries.filter (·.1 == name) with
  | [(_, n)] => some n
  | _ => none

/-- The nodes of the two fields of a record. -/
def fields? (first second : String) : Node → Option (Node × Node)
  | .array _ elements =>
    match elements.nodes with
    | [a, b] => some (a, b)
    | _ => none
  | .object _ members => do
    let entries ← namedEntries members.entries
    let a ← single? first entries
    let b ← single? second entries
    return (a, b)
  | _ => none

/-- The text of a node that is a string. -/
def text? : Node → Option String
  | .string inner => stringText inner
  | _ => none

/-- The value of a node that is a 64-bit signed integer. -/
def integer64? : Node → Option Int
  | .number text => do
    let n ← integer? text
    if Int64.minValue.toInt ≤ n ∧ n ≤ Int64.maxValue.toInt then some n else none
  | _ => none

/-- The type of an event, and its payload as it was written. -/
structure Envelope where
  eventType : String
  payload : Bytes
  deriving DecidableEq, Repr, Inhabited

/-- Reads an envelope. The payload must be UTF-8 as a whole. -/
def Envelope.decode (content : Bytes) : Option Envelope := do
  let document ← Document.parse content
  let (eventType, payload) ← fields? "event_type" "payload" document.root
  let eventType ← text? eventType
  let _ ← decodeText payload.text
  return { eventType, payload := payload.text }

/-- One user began to follow another. -/
structure FollowCreated where
  followerId : Int
  followeeId : Int
  deriving DecidableEq, Repr, Inhabited

/-- Reads the payload of a new follower. -/
def FollowCreated.decode (payload : Bytes) : Option FollowCreated := do
  let document ← Document.parse payload
  let (followerId, followeeId) ← fields? "follower_id" "followee_id" document.root
  let followerId ← integer64? followerId
  let followeeId ← integer64? followeeId
  return { followerId, followeeId }

end Event

end NotificationFeed
