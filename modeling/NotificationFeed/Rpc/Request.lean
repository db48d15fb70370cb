import NotificationFeed.Notification
import NotificationFeed.Failure
/-!
# Remote requests

The seven methods of the remote interface, a request for each, and the shape
a request must have. The first broken rule of a request is the one reported.
-/

namespace NotificationFeed

namespace Rpc

/-- The methods of the remote interface. -/
inductive Method where
  | send | details | feed | read | readAll | remove | unread
  deriving DecidableEq, Repr, Inhabited

namespace Method

/-- All methods. -/
def all : List Method := [send, details, feed, read, readAll, remove, unread]

/-- The name of a method in paths, labels and journals. -/
def name : Method → String
  | send => "SendNotification"
  | details => "GetNotificationDetails"
  | feed => "GetUserNotificationFeed"
  | read => "ReadNotification"
  | readAll => "ReadAllUserNotifications"
  | remove => "RemoveNotification"
  | unread => "GetUnreadCount"

end Method

/-- A request, with the fields of its message. -/
inductive Request where
  | send (userId : Int) (kind : String) (payload : Bytes)
  | details (notificationId : Int)
  | feed (userId : Int) (limit page : Int32)
  | read (notificationId : Int)
  | readAll (userId : Int)
  | remove (notificationId : Int)
  | unread (userId : Int)
  deriving DecidableEq, Repr

namespace Request

/-- The method of a request. -/
def method : Request → Method
  | send .. => .send
  | details _ => .details
  | feed .. => .feed
  | read _ => .read
  | readAll _ => .readAll
  | remove _ => .remove
  | unread _ => .unread

/-- The largest page that may be asked for. -/
def maxLimit : Int := 100

/-- An identifier of a user is positive. -/
def checkUserId (userId : Int) : Except Failure Unit :=
  if 0 < userId then .ok () else .error (.validation "user_id must be positive")

/-- An identifier of a notification is positive. -/
def checkNotificationId (id : Int) : Except Failure Unit :=
  if 0 < id then .ok () else .error (.validation "notification_id must be positive")

/-- Checks the shape of a request. Zero is a good limit and a good page: it stands for the
default. -/
def check : Request → Except Failure Unit
  | send userId kind payload => do
    checkUserId userId
    if kind.isEmpty then throw (.validation "type is empty")
    if payload.isEmpty then throw (.validation "payload is empty")
  | feed userId limit page => do
    checkUserId userId
    if limit.toInt < 0 ∨ maxLimit < limit.toInt then
      throw (.validation "limit must be between 0 and 100")
    if page.toInt < 0 then throw (.validation "page is negative")
  | details id | read id | remove id => checkNotificationId id
  | readAll userId | unread userId => checkUserId userId

end Request

end Rpc

end NotificationFeed
