import NotificationFeed.Service.Surroundings
import NotificationFeed.Service.Window
/-!
# The seven operations

Each operation writes its start into the journal, checks its arguments, asks
its collaborators and writes its end. Whatever its outcome, it is counted
once under its name, unless a collaborator threw.
-/

namespace NotificationFeed

namespace Service

/-- Writes one `info` entry. -/
def tell (message : String) (fields : List (String × String)) : Operation Unit :=
  ExceptT.lift (note (.info message fields))

/-- Counts an operation under its name, as a success or not. -/
def counted (operation : String) (body : Operation α) : Operation α :=
  ExceptT.mk do
    let result ← body.run
    observe (.operationCounted operation result.isOk)
    return result

/-- Refuses an identifier of a notification that is not positive. -/
def checkId (id : Int) : Operation Unit :=
  if 0 < id then pure () else throw (.invalidInput "id must be positive")

/-- Refuses an identifier of a user that is not positive. -/
def checkUserId (userId : Int) : Operation Unit :=
  if 0 < userId then pure () else throw (.invalidInput "user_id must be positive")

/-- Refuses a draft for no user or of no kind. -/
def checkDraft (draft : Draft) : Operation Unit := do
  checkUserId draft.userId
  if draft.kind.isEmpty then throw (.invalidInput "notification type is empty")

/-- Gives a draft the present moment if it has none. -/
def dated (draft : Draft) : Operation Draft :=
  match draft.createdAt with
  | some _ => pure draft
  | none => do
    let now ← ExceptT.lift readClock
    return { draft with createdAt := some now }

/-- Stores a draft for a user the directory knows; gives its identifier. -/
def save (draft : Draft) : Operation Int :=
  counted "save_notification" do
    tell "saving notification" [("user_id", toString draft.userId)]
    checkDraft draft
    let _ ← findUser draft.userId
    let draft ← dated draft
    let id ← ask (.create draft)
    tell "saved notification" [("id", toString id)]
    return id

/-- Gives one notification. -/
def details (id : Int) : Operation Notification :=
  counted "get_notification_details" do
    tell "finding notification" [("id", toString id)]
    checkId id
    let notification ← ask (.find id)
    tell "found notification" [("id", toString id)]
    return notification

/-- Gives one page of a user's notifications, newest first. -/
def feed (userId : Int) (limit page : Int32) : Operation Feed :=
  counted "get_user_notification_feed" do
    tell "finding notifications feed"
      [("user_id", toString userId), ("limit", toString limit.toInt), ("page", toString page.toInt)]
    checkUserId userId
    let window := Window.ofPage limit page
    let feed ← ask (.page userId window.limit window.offset)
    tell "found notifications feed"
      [("user_id", toString userId), ("count", toString feed.notifications.length),
        ("total", toString feed.total)]
    return feed

/-- Marks one notification as read. -/
def read (id : Int) : Operation Unit :=
  counted "read_notification" do
    tell "marking notification as read" [("id", toString id)]
    checkId id
    ask (.markRead id)
    tell "marked notification as read" [("id", toString id)]

/-- Marks all of a user's notifications as read. -/
def readAll (userId : Int) : Operation Unit :=
  counted "read_all_user_notifications" do
    tell "marking all notifications as read" [("user_id", toString userId)]
    checkUserId userId
    let updated ← ask (.markAllRead userId)
    tell "marked all notifications as read"
      [("user_id", toString userId), ("updated", toString (updated : Nat))]

/-- Removes one notification. -/
def remove (id : Int) : Operation Unit :=
  counted "remove_notification" do
    tell "removing notification" [("id", toString id)]
    checkId id
    ask (.delete id)
    tell "removed notification" [("id", toString id)]

/-- Counts a user's notifications that were not read. -/
def unread (userId : Int) : Operation Int :=
  counted "get_unread_count" do
    tell "counting unread notifications" [("user_id", toString userId)]
    checkUserId userId
    let count ← ask (.countUnread userId)
    tell "counted unread notifications" [("user_id", toString userId), ("count", toString count)]
    return count

end Service

end NotificationFeed
