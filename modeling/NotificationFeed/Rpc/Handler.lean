import NotificationFeed.Rpc.Request
import NotificationFeed.Service
/-!
# Answering remote requests

A handler checks the shape of its request, makes one call of the service and
turns the outcome into a response or a status. Every request ends with two
observations and a journal entry, under the method and the code of the
status that was given.
-/

namespace NotificationFeed

namespace Rpc

/-- A notification as a response shows it. -/
structure NotificationView where
  id : Int
  userId : Int
  kind : String
  isRead : Bool
  createdAt : Timestamp
  payload : Bytes
  deriving DecidableEq, Repr, Inhabited

/-- A stored notification as a response shows it. -/
def NotificationView.ofNotification (n : Notification) : NotificationView where
  id := n.id
  userId := n.userId
  kind := n.kind
  isRead := n.isRead
  createdAt := n.createdAt.timestamp
  payload := n.payload

/-- One page of a feed as a response shows it. -/
structure FeedView where
  notifications : List NotificationView
  totalCount : Int
  deriving DecidableEq, Repr, Inhabited

/-- A feed as a response shows it. -/
def FeedView.ofFeed (feed : Feed) : FeedView where
  notifications := feed.notifications.map .ofNotification
  totalCount := feed.total

/-- What a successful request of a method is answered with. -/
abbrev Method.Response : Method → Type
  | .send => Int
  | .details => NotificationView
  | .feed => FeedView
  | .read | .readAll | .remove => Unit
  | .unread => Int

/-- The one call of the service that a request stands for. -/
def Request.serve : (request : Request) → Service.Operation request.method.Response
  | .send userId kind payload => Service.save { userId, kind, createdAt := none, payload }
  | .details id => NotificationView.ofNotification <$> Service.details id
  | .feed userId limit page => FeedView.ofFeed <$> Service.feed userId limit page
  | .read id => Service.read id
  | .readAll userId => Service.readAll userId
  | .remove id => Service.remove id
  | .unread userId => Service.unread userId

/-- The work of a request, between its arrival and its answer. -/
def Request.perform (request : Request) : Service.Operation request.method.Response := do
  ExceptT.mk (pure request.check)
  request.serve

/-- The status a failure is answered with; the failure itself goes into the journal. -/
def refuse (failure : Failure) : Service.Task Status := do
  Service.note ⟨.warn, none, [("err", failure.message)]⟩
  return failure.status

/-- The code of an answer. -/
def codeOf : Except Status α → Code
  | .ok _ => .ok
  | .error status => status.code

/-- Runs the work of a request of `method` and reports how it ended and how long it took. -/
def observed (method : Method) (work : Service.Operation α) : Service.Task (Except Status α) := do
  let started ← Service.readStopwatch
  let answer ← match ← work.run with
    | .ok response => pure (.ok response)
    | .error failure => do
      let status ← refuse failure
      pure (.error status)
  let ended ← Service.readStopwatch
  let code := (codeOf answer).name
  Service.observe (.requestCounted method.name code)
  Service.observe (.requestTimed method.name code (ended - started))
  Service.note (.info "request handled"
    [("method", method.name), ("code", code), ("elapsed", Span.text (ended - started))])
  return answer

/-- Answers a request. -/
def handle (request : Request) : Service.Task (Except Status request.method.Response) :=
  observed request.method request.perform

end Rpc

end NotificationFeed
