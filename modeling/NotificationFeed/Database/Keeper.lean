import NotificationFeed.Store.Request
import NotificationFeed.Database.Surroundings
/-!
# The keeper of notifications in a database

It answers the same requests as the keeper in memory, each by one query, or
by two for a page: the page itself and, if that came back, the length of the
feed. Every query is counted and timed under its own name, and a query
counts as a success once its answer could be read; that nothing was touched
is seen after that.

A row that is wanted and not there means that there is no such notification,
unless the query was to create one.
-/

namespace NotificationFeed

namespace Database

/-- What a failed query means to the one who asked. -/
def Query.blame (query : Query) : QueryFailure → StoreFailure
  | .noRow =>
    match query with
    | .insert .. => .databaseQuery
    | _ => .notificationNotFound
  | .noColumn _ | .noFirstColumn | .undecodable .. | .refused .. | .disconnected => .databaseQuery

/-- Whether an answer could be read. -/
def succeeded : Except QueryFailure α → Bool
  | .ok _ => true
  | .error _ => false

/-- The journal entry for a failed query. -/
def Query.failureEntry (query : Query) (failure : QueryFailure) : Entry :=
  .error "database query failed" [("query_type", query.name), ("err", failure.message)]

/-- Reports a query that was started at a moment and whose answer was read. The journal tells
every failure but that of a notification that is not there. -/
def finish (query : Query) (started : Span) (answer : Except QueryFailure α) :
    Task (Except StoreFailure α) := do
  observe (.queryCounted query.name (succeeded answer))
  let ended ← readStopwatch
  observe (.queryTimed query.name (ended - started))
  match answer with
  | .ok a => return .ok a
  | .error failure =>
    let blame := query.blame failure
    if blame = .databaseQuery then note (query.failureEntry failure)
    return .error blame

/-- Runs a query and reads its answer. -/
def ask (query : Query) (read : Reply → Except QueryFailure α) : Task (Except StoreFailure α) := do
  let started ← readStopwatch
  let reply ← execute (.query query)
  finish query started (read reply)

/-- The answer to a request that has to touch a notification. -/
def touchedOne : Except StoreFailure Nat → Except StoreFailure Unit
  | .ok 0 => .error .notificationNotFound
  | .ok _ => .ok ()
  | .error failure => .error failure

/-- Answers one request. -/
def perform : (request : Store.Request) → Task request.Reply
  | .create draft => do
    let createdAt ← draft.createdAt.elim readClock pure
    ask (.insert draft.userId draft.kind createdAt draft.payload) Reply.number
  | .find id => ask (.selectOne id) Reply.notification
  | .page userId limit offset => do
    match ← ask (.selectPage userId limit offset) Reply.notifications with
    | .error failure => return .error failure
    | .ok notifications =>
      let total ← ask (.countAll userId) Reply.number
      return total.map (⟨notifications, ·⟩)
  | .markRead id => do return touchedOne (← ask (.markRead id) Reply.affected)
  | .markAllRead userId => ask (.markAllRead userId) Reply.affected
  | .delete id => do return touchedOne (← ask (.delete id) Reply.affected)
  | .countUnread userId => ask (.countUnread userId) Reply.number

/-- Runs a statement that sets the table up. -/
def prepare (setup : Setup) : ExceptT QueryFailure (Program surroundings) Unit :=
  ExceptT.mk do
    let reply ← execute (.setup setup)
    return reply.affected.map fun _ => ()

/-- Sets the table up; the first statement that fails ends it. -/
def bootstrap : ExceptT QueryFailure (Program surroundings) Unit := do
  prepare .table
  prepare .feedIndex
  prepare .unreadIndex

end Database

end NotificationFeed
