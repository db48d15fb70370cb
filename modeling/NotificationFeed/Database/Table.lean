import NotificationFeed.Database.Keeper
/-!
# What the queries mean

The table of notifications and what each text does to it and answers, with the
parameters that go in its places. Rows lie in no order that matters: a page is
put in order by the query, and an identifier is the next one of the table's
sequence, which never goes back.

Others may write to the same table. What they commit lands between two
statements, never within one.
-/

namespace NotificationFeed

namespace Database

/-- The table of notifications; its moments are whole microseconds. -/
structure Table where
  /-- The last identifier of the sequence; zero before the first. -/
  lastId : Int := 0
  rows : List Notification := []
  deriving DecidableEq, Repr, Inhabited

namespace Table

/-- The order of a page: later moments first and, at one moment, greater identifiers first. -/
def newerFirst (a b : Notification) : Bool :=
  if a.createdAt = b.createdAt then decide (b.id ≤ a.id) else decide (b.createdAt < a.createdAt)

/-- The rows that a condition picks. -/
def select (t : Table) (condition : Notification → Bool) : List Notification :=
  t.rows.filter condition

/-- A single number as a reply. -/
def counted (rows : List Notification) : Reply := .rows [[("count", some (.int8 rows.length))]]

/-- Rows as a reply. -/
def listed (rows : List Notification) : Reply := .rows (rows.map Row.ofNotification)

/-- Sets the flag of the rows that a condition picks, and counts them. -/
def update (t : Table) (condition : Notification → Bool) : Reply × Table :=
  (.done (t.select condition).length,
    { t with rows := t.rows.map fun n => if condition n then { n with isRead := true } else n })

/-- Whether a notification is one of a user's. -/
def belongsTo (userId : Int) (n : Notification) : Bool := decide (n.userId = userId)

/-- Whether the database can hold a moment of the calendar: its own calendar begins later, in the
year -4712, and goes on beyond the end of this one. -/
def holds (micros : Micros) : Bool := decide (-211813488000000000 ≤ micros.value)

/-- What a query makes of a table, and what it answers. -/
abbrev Effect := Table → Reply × Table

/-- Puts a new row in. A text with the character zero and a moment beyond the calendar are
refused. -/
def insert (userId : Int) (kind : String) (micros : Micros) (payload : Bytes) (t : Table) :
    Reply × Table :=
  if kind.toList.contains '\x00' then
    (.refused "invalid byte sequence for encoding \"UTF8\": 0x00" "22021", t)
  else if !holds micros then (.refused "timestamp out of range" "22008", t)
  else
    let id := t.lastId + 1
    let row : Notification := {
      id, userId, kind, isRead := false, createdAt := ofMicros micros, payload }
    (.rows [[("id", some (.int8 id))]], { lastId := id, rows := t.rows ++ [row] })

/-- Lists a slice of a user's rows in the order of a page. A slice of negative size or start is
refused. -/
def list (userId limit offset : Int) (t : Table) : Reply × Table :=
  if offset < 0 then (.refused "OFFSET must not be negative" "2201X", t)
  else if limit < 0 then (.refused "LIMIT must not be negative" "2201W", t)
  else
    let ordered := (t.select (belongsTo userId)).mergeSort newerFirst
    (listed ((ordered.drop offset.toNat).take limit.toNat), t)

/-- **What the texts mean**, each with the parameters in its places. -/
def meanings : List (List String × (List Parameter → Option Effect)) := [
  (["INSERT INTO notifications (user_id, type, is_read, created_at, payload)",
      "VALUES ($1, $2, FALSE, $3, $4)", "RETURNING id"],
    fun
    | [.int userId, .text kind, .moment createdAt, .bytes payload] =>
      some (insert userId kind createdAt payload)
    | _ => none),
  (["SELECT id, user_id, type, is_read, created_at, payload", "FROM notifications",
      "WHERE id = $1"],
    fun
    | [.int id] => some fun t => (listed (t.select fun n => decide (n.id = id)), t)
    | _ => none),
  (["SELECT id, user_id, type, is_read, created_at, payload", "FROM notifications",
      "WHERE user_id = $1", "ORDER BY created_at DESC, id DESC", "LIMIT $2 OFFSET $3"],
    fun
    | [.int userId, .int limit, .int offset] => some (list userId limit offset)
    | _ => none),
  (["SELECT COUNT(*)", "FROM notifications", "WHERE user_id = $1"],
    fun
    | [.int userId] => some fun t => (counted (t.select (belongsTo userId)), t)
    | _ => none),
  (["UPDATE notifications", "SET is_read = TRUE", "WHERE id = $1"],
    fun
    | [.int id] => some fun t => t.update fun n => decide (n.id = id)
    | _ => none),
  (["UPDATE notifications", "SET is_read = TRUE", "WHERE user_id = $1 AND is_read = FALSE"],
    fun
    | [.int userId] => some fun t => t.update fun n => belongsTo userId n && !n.isRead
    | _ => none),
  (["DELETE FROM notifications", "WHERE id = $1"],
    fun
    | [.int id] => some fun t =>
      (.done (t.select fun n => decide (n.id = id)).length,
        { t with rows := t.select fun n => decide (n.id ≠ id) })
    | _ => none),
  (["SELECT COUNT(*)", "FROM notifications", "WHERE user_id = $1 AND is_read = FALSE"],
    fun
    | [.int userId] => some fun t =>
      (counted (t.select fun n => belongsTo userId n && !n.isRead), t)
    | _ => none)]

/-- The meaning of a text with its parameters; none for another text, or other parameters. -/
def meaning? (clauses : List String) (parameters : List Parameter) : Option Effect :=
  (meanings.find? (·.1 == clauses)).bind (·.2 parameters)

/-- Runs one query, by its text and its parameters. -/
def execute (query : Query) : Effect :=
  (meaning? query.clauses query.parameters).getD fun t => (.refused "syntax error" "42601", t)

end Table

/-- A table that others write to as well. -/
structure SharedTable where
  table : Table := {}
  /-- What others commit before each coming statement. -/
  others : List (List Query) := []
  /-- The states the table has had, newest first and the present one left out. -/
  former : List Table := []
  /-- What the calendar clock shows at each reading. -/
  clock : Nat → Instant := fun _ => ⟨0⟩
  readings : Nat := 0

namespace SharedTable

/-- Puts a new state in the place of the present one. -/
def advance (s : SharedTable) (table : Table) : SharedTable :=
  { s with table, former := s.table :: s.former }

/-- Takes in what others have committed by now. -/
def catchUp (s : SharedTable) : SharedTable :=
  let s' := (s.others.headD []).foldl (fun s q => s.advance (Table.execute q s.table).2) s
  { s' with others := s.others.tail }

/-- Runs a statement by its meaning. -/
def apply (s : SharedTable) (effect : Table.Effect) : Reply × SharedTable :=
  let s := s.catchUp
  let (reply, table) := effect s.table
  (reply, s.advance table)

/-- Answers one call. A statement is run by its text and its parameters; one that sets the table up
finds it there. -/
def answer : Program.Answerer surroundings SharedTable := fun call s =>
  match call with
  | .execute statement =>
    let meaning := Table.meaning? statement.clauses statement.parameters
    let (reply, s) := meaning.elim (.done 0, s) s.apply
    (.ok reply, s)
  | .readClock => (.ok (s.clock s.readings), { s with readings := s.readings + 1 })
  | .readStopwatch => (.ok 0, s)
  | .observe _ | .note _ => (.ok (), s)

/-- Runs a step of the keeper on the table. -/
def run (s : SharedTable) (task : Task α) : Except Panic α × SharedTable := task.run answer s

end SharedTable

end Database

end NotificationFeed
