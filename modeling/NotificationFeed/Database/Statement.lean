import NotificationFeed.Notification
import NotificationFeed.Database.Moment
/-!
# Statements

What the keeper of notifications asks a database: three statements that set
its table up, and eight that work on it. A statement is a text with places
for parameters and the parameters themselves; values are never part of the
text. The text is a row of clauses.
-/

namespace NotificationFeed

namespace Database

/-- A value that travels beside the text of a statement. -/
inductive Parameter where
  | int (n : Int)
  | text (s : String)
  | bytes (b : Bytes)
  | moment (micros : Micros)
  deriving DecidableEq, Repr, Inhabited

/-- A statement that sets the table up, and changes nothing where it was run before. -/
inductive Setup where
  | table
  | feedIndex
  | unreadIndex
  deriving DecidableEq, Repr, Inhabited

/-- A statement that works on the table. -/
inductive Query where
  | insert (userId : Int) (kind : String) (createdAt : Instant) (payload : Bytes)
  | selectOne (id : Int)
  | selectPage (userId limit offset : Int)
  | countAll (userId : Int)
  | markRead (id : Int)
  | markAllRead (userId : Int)
  | delete (id : Int)
  | countUnread (userId : Int)
  deriving DecidableEq, Repr

/-- Anything a database is asked. -/
inductive Statement where
  | setup (setup : Setup)
  | query (query : Query)
  deriving DecidableEq, Repr

/-- The clauses of a statement that sets the table up. -/
def Setup.clauses : Setup → List String
  | table =>
    ["CREATE TABLE IF NOT EXISTS notifications", "(", "id BIGSERIAL PRIMARY KEY,",
      "user_id BIGINT NOT NULL,", "type TEXT NOT NULL,", "is_read BOOLEAN NOT NULL DEFAULT FALSE,",
      "created_at TIMESTAMPTZ NOT NULL DEFAULT now(),", "payload BYTEA NOT NULL", ")"]
  | feedIndex =>
    ["CREATE INDEX IF NOT EXISTS index_notifications_user_id_created_at",
      "ON notifications (user_id, created_at DESC)"]
  | unreadIndex =>
    ["CREATE INDEX IF NOT EXISTS index_notifications_unread_user_id", "ON notifications (user_id)",
      "WHERE is_read = FALSE"]

namespace Query

/-- The name of a query in metrics and in the journal. -/
def name : Query → String
  | insert .. => "create"
  | selectOne _ => "get_by_id"
  | selectPage .. => "list_by_user"
  | countAll _ => "count_by_user"
  | markRead _ => "mark_as_read"
  | markAllRead _ => "mark_all_as_read"
  | delete _ => "delete"
  | countUnread _ => "count_unread"

/-- The clauses of a query. -/
def clauses : Query → List String
  | insert .. =>
    ["INSERT INTO notifications (user_id, type, is_read, created_at, payload)",
      "VALUES ($1, $2, FALSE, $3, $4)", "RETURNING id"]
  | selectOne _ =>
    ["SELECT id, user_id, type, is_read, created_at, payload", "FROM notifications",
      "WHERE id = $1"]
  | selectPage .. =>
    ["SELECT id, user_id, type, is_read, created_at, payload", "FROM notifications",
      "WHERE user_id = $1", "ORDER BY created_at DESC, id DESC", "LIMIT $2 OFFSET $3"]
  | countAll _ => ["SELECT COUNT(*)", "FROM notifications", "WHERE user_id = $1"]
  | markRead _ => ["UPDATE notifications", "SET is_read = TRUE", "WHERE id = $1"]
  | markAllRead _ =>
    ["UPDATE notifications", "SET is_read = TRUE", "WHERE user_id = $1 AND is_read = FALSE"]
  | delete _ => ["DELETE FROM notifications", "WHERE id = $1"]
  | countUnread _ =>
    ["SELECT COUNT(*)", "FROM notifications", "WHERE user_id = $1 AND is_read = FALSE"]

/-- The parameters of a query, in the order of their places. -/
def parameters : Query → List Parameter
  | insert userId kind createdAt payload =>
    [.int userId, .text kind, .moment (toMicros createdAt), .bytes payload]
  | selectPage userId limit offset => [.int userId, .int limit, .int offset]
  | selectOne id | markRead id | delete id => [.int id]
  | countAll userId | markAllRead userId | countUnread userId => [.int userId]

end Query

namespace Statement

/-- The clauses of a statement. -/
def clauses : Statement → List String
  | setup s => s.clauses
  | query q => q.clauses

/-- The text of a statement. -/
def text (s : Statement) : String := " ".intercalate s.clauses

/-- The parameters of a statement. -/
def parameters : Statement → List Parameter
  | setup _ => []
  | query q => q.parameters

end Statement

end Database

end NotificationFeed
