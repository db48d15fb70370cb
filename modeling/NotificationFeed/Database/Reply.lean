import NotificationFeed.Utf8
import NotificationFeed.Database.Moment
/-!
# Replies of a database

A statement is answered with rows, with the number of rows it touched, with
an error, or by the loss of the connection. Columns are found by name and
have to be of the very type of what is read from them: a narrower number is
not widened, and nothing that is read may be missing.
-/

namespace NotificationFeed

namespace Database

/-- A value in a row. -/
inductive Cell where
  | int8 (n : Int)
  | int4 (n : Int)
  | bool (b : Bool)
  | text (utf8 : Bytes)
  | bytea (b : Bytes)
  | timestamptz (micros : Micros)
  deriving DecidableEq, Repr, Inhabited

/-- The types of columns. -/
inductive ColumnType where
  | int8 | int4 | bool | text | bytea | timestamptz
  deriving DecidableEq, Repr, Inhabited

namespace ColumnType

/-- The name of a type in the database. -/
def name : ColumnType → String
  | int8 => "INT8"
  | int4 => "INT4"
  | bool => "BOOL"
  | text => "TEXT"
  | bytea => "BYTEA"
  | timestamptz => "TIMESTAMPTZ"

/-- The name of the type that its values are read into. -/
def valueName : ColumnType → String
  | int8 => "i64"
  | int4 => "i32"
  | bool => "bool"
  | text => "alloc::string::String"
  | bytea => "alloc::vec::Vec<u8>"
  | timestamptz => "time::offset_date_time::OffsetDateTime"

end ColumnType

/-- The type of a value. -/
def Cell.type : Cell → ColumnType
  | int8 _ => .int8
  | int4 _ => .int4
  | bool _ => .bool
  | text _ => .text
  | bytea _ => .bytea
  | timestamptz _ => .timestamptz

/-- Named columns in their order, each with a value or without. -/
abbrev Row := List (String × Option Cell)

/-- What a database answers a statement with. -/
inductive Reply where
  /-- No rows come back; so many were touched. -/
  | done (affected : Nat)
  | rows (given : List Row)
  | refused (message code : String)
  /-- The connection broke before there was an answer. -/
  | disconnected
  deriving DecidableEq, Repr, Inhabited

/-- Why a value could not be read. -/
inductive DecodingFailure where
  /-- There is no value. -/
  | null
  | mismatch (wanted given : ColumnType)
  /-- The bytes of a text are none. -/
  | notText (fault : Utf8.Fault)
  deriving DecidableEq, Repr, Inhabited

/-- The text of a failed decoding. -/
def DecodingFailure.message : DecodingFailure → String
  | null => "unexpected null; try decoding as an `Option`"
  | mismatch wanted given =>
    "mismatched types; \x52ust type `" ++ wanted.valueName ++ "` (as SQL type `" ++ wanted.name ++
      "`) is not compatible with SQL type `" ++ given.name ++ "`"
  | notText fault => fault.message

/-- Why a value is not read as one of a type. A text that is wanted and given is none. -/
def DecodingFailure.of (wanted : ColumnType) : Cell → DecodingFailure
  | .text utf8 =>
    if wanted = .text then .notText ((Utf8.fault? utf8).getD ⟨utf8.length, none⟩)
    else .mismatch wanted .text
  | cell => .mismatch wanted cell.type

/-- Why a statement gave nothing. -/
inductive QueryFailure where
  /-- A row was wanted and there is none. -/
  | noRow
  /-- A row has no column of this name. -/
  | noColumn (name : String)
  /-- A row has no columns at all. -/
  | noFirstColumn
  /-- The value in a column could not be read; the column is told by the text of its index. -/
  | undecodable (index : String) (cause : DecodingFailure)
  | refused (message code : String)
  | disconnected
  deriving DecidableEq, Repr, Inhabited

/-- The text of a failed statement. -/
def QueryFailure.message : QueryFailure → String
  | noRow => "no rows returned by a query that expected to return at least one row"
  | noColumn name => "no column found for name: " ++ name
  | noFirstColumn => "column index out of bounds: the len is 0, but the index is 0"
  | undecodable index cause =>
    "error occurred while decoding column " ++ index ++ ": " ++ cause.message
  | refused message _ => "error returned from database: " ++ message
  | disconnected =>
    "error communicating with database: expected to read 5 bytes, got 0 bytes at EOF"

namespace Row

/-- Reads a column by name; of two columns of one name the later counts. -/
def read (row : Row) (column : String) (wanted : ColumnType) (as : Cell → Option α) :
    Except QueryFailure α :=
  match row.reverse.find? (·.1 == column) with
  | none => .error (.noColumn column)
  | some (_, none) => .error (.undecodable ("\"" ++ column ++ "\"") .null)
  | some (_, some cell) =>
    match as cell with
    | some a => .ok a
    | none => .error (.undecodable ("\"" ++ column ++ "\"") (.of wanted cell))

/-- A 64-bit number. -/
def int8? : Cell → Option Int
  | .int8 n => some n
  | _ => none

/-- A flag. -/
def bool? : Cell → Option Bool
  | .bool b => some b
  | _ => none

/-- A text, if its bytes are one. -/
def text? : Cell → Option String
  | .text utf8 => String.fromUTF8? ⟨utf8.toArray⟩
  | _ => none

/-- A run of bytes. -/
def bytea? : Cell → Option Bytes
  | .bytea b => some b
  | _ => none

/-- A moment. -/
def moment? : Cell → Option Instant
  | .timestamptz micros => some (ofMicros micros)
  | _ => none

/-- The notification in a row. -/
def notification (row : Row) : Except QueryFailure Notification := do
  let id ← row.read "id" .int8 int8?
  let userId ← row.read "user_id" .int8 int8?
  let kind ← row.read "type" .text text?
  let isRead ← row.read "is_read" .bool bool?
  let createdAt ← row.read "created_at" .timestamptz moment?
  let payload ← row.read "payload" .bytea bytea?
  return { id, userId, kind, isRead, createdAt, payload }

/-- The number in the first column. -/
def number : Row → Except QueryFailure Int
  | [] => .error .noFirstColumn
  | (_, none) :: _ => .error (.undecodable "0" .null)
  | (_, some cell) :: _ =>
    match int8? cell with
    | some n => .ok n
    | none => .error (.undecodable "0" (.of .int8 cell))

/-- The row a notification is kept in. -/
def ofNotification (n : Notification) : Row :=
  [("id", some (.int8 n.id)), ("user_id", some (.int8 n.userId)),
    ("type", some (.text n.kind.toUTF8.toList)), ("is_read", some (.bool n.isRead)),
    ("created_at", some (.timestamptz (toMicros n.createdAt))),
    ("payload", some (.bytea n.payload))]

end Row

namespace Reply

/-- The rows of a reply. -/
def allRows : Reply → Except QueryFailure (List Row)
  | done _ => .ok []
  | rows given => .ok given
  | refused message code => .error (.refused message code)
  | disconnected => .error .disconnected

/-- The first row of a reply. -/
def firstRow (reply : Reply) : Except QueryFailure Row := do
  match ← reply.allRows with
  | row :: _ => return row
  | [] => throw .noRow

/-- The number of rows a statement touched; rows that come back count as touched. -/
def affected : Reply → Except QueryFailure Nat
  | done affected => .ok affected
  | rows given => .ok given.length
  | refused message code => .error (.refused message code)
  | disconnected => .error .disconnected

/-- The number a statement was asked for. -/
def number (reply : Reply) : Except QueryFailure Int := do (← reply.firstRow).number

/-- The notification a statement was asked for. -/
def notification (reply : Reply) : Except QueryFailure Notification := do
  (← reply.firstRow).notification

/-- All notifications of a reply; one row that cannot be read spoils it. -/
def notifications (reply : Reply) : Except QueryFailure (List Notification) := do
  (← reply.allRows).mapM Row.notification

end Reply

end Database

end NotificationFeed
