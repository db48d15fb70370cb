import NotificationFeed.Wire.Message
import NotificationFeed.Rpc.Handler
/-!
# Responses on the wire

Fields are written in ascending order and defaults are left out, except the
moment of a notification, which is always there.
-/

namespace NotificationFeed

namespace Wire

open Rpc

/-- Writes a moment. -/
def encodeTimestamp (t : Timestamp) : Bytes := putInt 1 t.seconds ++ putInt 2 t.nanos

/-- Reads a moment. -/
def decodeTimestamp (s : Bytes) : Option Timestamp := do
  let fields ← fieldsOf s
  let seconds ← fields.last 1 0 Value.int64?
  let nanos ← fields.last 2 0 Value.int32?
  return { seconds, nanos := nanos.toInt }

/-- Writes a notification. -/
def encodeNotification (n : NotificationView) : Bytes :=
  putInt 1 n.id ++ putInt 2 n.userId ++ putText 3 n.kind ++ putFlag 4 n.isRead ++
    putPart 5 (encodeTimestamp n.createdAt) ++ putBytes 6 n.payload

/-- Reads a notification; its moment must be there. -/
def decodeNotification (s : Bytes) : Option NotificationView := do
  let fields ← fieldsOf s
  let id ← fields.last 1 0 Value.int64?
  let userId ← fields.last 2 0 Value.int64?
  let kind ← fields.last 3 "" Value.text?
  let isRead ← fields.last 4 false Value.flag?
  let moment ← fields.last 5 none (·.bytes?.map some)
  let createdAt ← decodeTimestamp (← moment)
  let payload ← fields.last 6 [] Value.bytes?
  return { id, userId, kind, isRead, createdAt, payload }

/-- Writes a page of a feed. -/
def encodeFeed (feed : FeedView) : Bytes :=
  feed.notifications.flatMap (putPart 1 <| encodeNotification ·) ++ putInt 2 feed.totalCount

/-- Reads a page of a feed. -/
def decodeFeed (s : Bytes) : Option FeedView := do
  let fields ← fieldsOf s
  let parts ← (fields.values 1).mapM Value.bytes?
  let notifications ← parts.mapM decodeNotification
  let totalCount ← fields.last 2 0 Value.int64?
  return { notifications, totalCount }

/-- Writes the message of a response. -/
def encodeResponse : (method : Method) → method.Response → Bytes
  | .send, id => putInt 1 id
  | .details, notification => encodeNotification notification
  | .feed, feed => encodeFeed feed
  | .read, _ | .readAll, _ | .remove, _ => []
  | .unread, count => putInt 1 count

/-- Reads the message of a response. -/
def decodeResponse : (method : Method) → Bytes → Option method.Response
  | .send, s => fieldsOf s >>= (·.last 1 0 Value.int64?)
  | .details, s => decodeNotification s
  | .feed, s => decodeFeed s
  | .read, s | .readAll, s | .remove, s => (fieldsOf s).map fun _ => ()
  | .unread, s => fieldsOf s >>= (·.last 1 0 Value.int64?)

end Wire

end NotificationFeed
