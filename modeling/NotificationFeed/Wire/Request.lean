import NotificationFeed.Wire.Message
import NotificationFeed.Rpc.Request
/-!
# Requests on the wire

Which field of which message holds which part of a request.
-/

namespace NotificationFeed

namespace Wire

open Rpc

/-- Reads the message of a request. -/
def decodeRequest (method : Method) (body : Bytes) : Option Request := do
  let fields ← fieldsOf body
  match method with
  | .send =>
    return .send (← fields.last 1 0 Value.int64?) (← fields.last 2 "" Value.text?)
      (← fields.last 3 [] Value.bytes?)
  | .details => return .details (← fields.last 1 0 Value.int64?)
  | .feed =>
    return .feed (← fields.last 1 0 Value.int64?) (← fields.last 2 0 Value.int32?)
      (← fields.last 3 0 Value.int32?)
  | .read => return .read (← fields.last 1 0 Value.int64?)
  | .readAll => return .readAll (← fields.last 1 0 Value.int64?)
  | .remove => return .remove (← fields.last 1 0 Value.int64?)
  | .unread => return .unread (← fields.last 1 0 Value.int64?)

end Wire

end NotificationFeed
