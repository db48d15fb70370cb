import NotificationFeed.Store.Request
/-!
# Notifications in memory

The store holds notifications in the order they were created and the last
identifier it gave out. Identifiers are counted up from one and never given
out twice. A user's feed is the user's notifications, newest first; of two
created at the same moment the later one comes first.
-/

namespace NotificationFeed

/-- Notifications in memory. -/
structure Store where
  /-- The last identifier given out; zero before the first. It counts the notifications ever created,
  so it fits into 64 bits as long as fewer than 2 ^ 63 are. -/
  lastId : Int := 0
  /-- The stored notifications, in the order of their creation. -/
  rows : List Notification := []
  deriving DecidableEq, Repr, Inhabited

namespace Store

/-- Whether `a` comes no later than `b` in a feed: newest first, then highest identifier first. -/
def precedes (a b : Notification) : Bool :=
  decide (b.createdAt < a.createdAt) || (decide (b.createdAt = a.createdAt) && decide (b.id ≤ a.id))

/-- A user's notifications in the order of their creation. -/
def ofUser (s : Store) (userId : Int) : List Notification :=
  s.rows.filter (·.userId == userId)

/-- A user's notifications, newest first. -/
def feed (s : Store) (userId : Int) : List Notification :=
  (s.ofUser userId).mergeSort precedes

/-- A user's notifications that were not read. -/
def unread (s : Store) (userId : Int) : List Notification :=
  s.rows.filter fun n => n.userId == userId && !n.isRead

/-- A signed 64-bit number as an unsigned count: a negative one is beyond every list. -/
def asCount (n : Int) : Nat := (n % UInt64.size).toNat

/-- Stores a draft as a new, unread notification. A draft without a moment is created `now`. -/
def create (s : Store) (draft : Draft) (now : Instant) : Int × Store :=
  let id := s.lastId + 1
  (id, {
    lastId := id
    rows := s.rows ++ [{
      id, userId := draft.userId, kind := draft.kind, isRead := false
      createdAt := draft.createdAt.getD now, payload := draft.payload }] })

/-- The notification with an identifier. -/
def find? (s : Store) (id : Int) : Option Notification :=
  s.rows.find? (·.id == id)

/-- One page of a user's feed and the length of the whole feed. -/
def page (s : Store) (userId limit offset : Int) : Feed where
  notifications := ((s.feed userId).drop (asCount offset)).take (asCount limit)
  total := (s.feed userId).length

/-- Marks every notification that `which` picks as read. -/
def markWhere (s : Store) (which : Notification → Bool) : Store :=
  { s with rows := s.rows.map fun n => if which n then { n with isRead := true } else n }

/-- Drops the notification with an identifier. -/
def erase (s : Store) (id : Int) : Store :=
  { s with rows := s.rows.filter (·.id != id) }

/-- Answers one request; `now` is the moment at which it is answered. A refused request leaves
the store as it was. -/
def perform (now : Instant) : (r : Request) → Store → r.Reply × Store
  | .create draft, s =>
    let (id, s') := s.create draft now
    (.ok id, s')
  | .find id, s =>
    match s.find? id with
    | some n => (.ok n, s)
    | none => (.error .notificationNotFound, s)
  | .page userId limit offset, s => (.ok (s.page userId limit offset), s)
  | .markRead id, s =>
    match s.find? id with
    | some _ => (.ok (), s.markWhere (·.id == id))
    | none => (.error .notificationNotFound, s)
  | .markAllRead userId, s =>
    (.ok (s.unread userId).length, s.markWhere (·.userId == userId))
  | .delete id, s =>
    match s.find? id with
    | some _ => (.ok (), s.erase id)
    | none => (.error .notificationNotFound, s)
  | .countUnread userId, s => (.ok ((s.unread userId).length : Int), s)

end Store

end NotificationFeed
