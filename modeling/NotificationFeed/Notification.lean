import NotificationFeed.Time.Instant
/-!
# Notifications

What one user is told: a kind, opaque bytes, when it was created and whether
it was read. A draft is a notification that has no identifier yet.
-/

namespace NotificationFeed

/-- A run of bytes. -/
abbrev Bytes := List UInt8

/-- A notification that has not been stored: it has no identifier, and it will start unread. -/
structure Draft where
  userId : Int
  kind : String
  /-- Filled with the present moment when missing. -/
  createdAt : Option Instant
  payload : Bytes
  deriving DecidableEq, Repr, Inhabited

/-- A stored notification. -/
structure Notification where
  id : Int
  userId : Int
  kind : String
  isRead : Bool
  createdAt : Instant
  /-- Opaque bytes, given back exactly as they were saved. -/
  payload : Bytes
  deriving DecidableEq, Repr, Inhabited

/-- One page of a user's notifications, newest first. -/
structure Feed where
  notifications : List Notification
  /-- How many notifications the user has in all, not only on the page. -/
  total : Int
  deriving DecidableEq, Repr, Inhabited

/-- A user as the user directory describes them. -/
structure User where
  id : Int
  username : String
  email : String
  deriving DecidableEq, Repr, Inhabited

end NotificationFeed
