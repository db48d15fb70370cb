import NotificationFeed.Notification
import NotificationFeed.Failure
/-!
# What can be asked of a keeper of notifications

Seven requests, each with the type of its answer. The keeper in memory and
the keeper in a database answer the same requests.
-/

namespace NotificationFeed

namespace Store

/-- One atomic request to a keeper of notifications. -/
inductive Request where
  | create (draft : Draft)
  | find (id : Int)
  /-- A slice of a user's notifications, newest first: `limit` of them after the first `offset`. -/
  | page (userId limit offset : Int)
  | markRead (id : Int)
  | markAllRead (userId : Int)
  | delete (id : Int)
  | countUnread (userId : Int)
  deriving DecidableEq, Repr

/-- What a successful request is answered with. -/
abbrev Request.Answer : Request → Type
  | .create _ => Int
  | .find _ => Notification
  | .page .. => Feed
  | .markRead _ => Unit
  | .markAllRead _ => Nat
  | .delete _ => Unit
  | .countUnread _ => Int

/-- A request is refused with a store failure, or answered. -/
abbrev Request.Reply (r : Request) : Type := Except StoreFailure r.Answer

end Store

end NotificationFeed
