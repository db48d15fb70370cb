import NotificationFeed.Database.Reply
import NotificationFeed.Proofs.Text
import Mathlib.Data.List.Forall2
/-!
# Database — what a reply holds

A row has a value under a name if the last column of that name holds it
(`Row.Has`), and it shows a notification if it has the value of every field in
the type of that field (`Row.Shows`). What a reply gives is said from there,
without the readers: the number in its first row, the notification in it, the
notifications of all its rows, the number of rows that were touched. Each
reader reads exactly that, and only a reader of one row misses a row.
-/

namespace NotificationFeed

namespace Database

variable {α : Type} {row : Row} {n : Notification} {reply : Reply}

/-! ## Rows -/

namespace Row

/-- **A row has a value under a name**: the last column of that name holds it. -/
def Has (row : Row) (column : String) (cell : Cell) : Prop :=
  ∃ before after, row = before ++ (column, some cell) :: after ∧ ∀ c ∈ after, c.1 ≠ column

theorem has_iff {column : String} {cell : Cell} : row.Has column cell ↔
    (row.reverse.find? (·.1 == column)).bind (·.2) = some cell := by
  rw [Option.bind_eq_some_iff]
  constructor
  · rintro ⟨before, after, rfl, hafter⟩
    refine ⟨(column, some cell), ?_, rfl⟩
    have hlast : after.reverse.find? (·.1 == column) = none := by
      simpa using hafter
    simp [List.find?_append, hlast]
  · rintro ⟨⟨name, value⟩, hfind, hvalue⟩
    obtain ⟨hname, after, before, hrow, hafter⟩ := List.find?_eq_some_iff_append.1 hfind
    obtain rfl : name = column := by simpa using hname
    obtain rfl : value = some cell := hvalue
    refine ⟨before.reverse, after.reverse, ?_, ?_⟩
    · have hreverse := congrArg List.reverse hrow
      simpa using hreverse
    · simpa using hafter

variable {column : String} {wanted : ColumnType} {as : Cell → Option α}

/-- **A column is read if it is there in the right type.** -/
theorem read_eq_ok_iff {a : α} :
    row.read column wanted as = .ok a ↔ ∃ cell, row.Has column cell ∧ as cell = some a := by
  simp only [has_iff]
  rw [read]
  cases row.reverse.find? (·.1 == column) with
  | none => simp
  | some entry =>
    obtain ⟨name, _ | cell⟩ := entry
    · simp
    · cases h : as cell <;> simp [h]

/-- What cannot be read is a column. -/
theorem read_ne_noRow : row.read column wanted as ≠ .error .noRow := by
  rw [read]
  cases row.reverse.find? (·.1 == column) with
  | none => exact nofun
  | some entry =>
    obtain ⟨name, _ | cell⟩ := entry
    · exact nofun
    · cases h : as cell <;> simp [h]

/-- **A row shows a notification**: it has the value of each field, in the type of that field. -/
structure Shows (row : Row) (n : Notification) : Prop where
  id : row.Has "id" (.int8 n.id)
  userId : row.Has "user_id" (.int8 n.userId)
  kind : row.Has "type" (.text n.kind.toUTF8.toList)
  isRead : row.Has "is_read" (.bool n.isRead)
  createdAt : ∃ micros, row.Has "created_at" (.timestamptz micros) ∧ ofMicros micros = n.createdAt
  payload : row.Has "payload" (.bytea n.payload)

end Row

/-! ## In sequence -/

section

variable {ε β : Type} {x : Except ε α} {f : α → Except ε β}

theorem bind_eq_ok {b : β} : (x >>= f) = .ok b ↔ ∃ a, x = .ok a ∧ f a = .ok b := by
  cases x with
  | error e => exact ⟨nofun, fun ⟨_, h, _⟩ => nomatch h⟩
  | ok a => exact ⟨fun h => ⟨a, rfl, h⟩, fun ⟨_, rfl, h⟩ => h⟩

theorem bind_ne_error {e : ε} (hx : x ≠ .error e) (hf : ∀ a, f a ≠ .error e) :
    (x >>= f) ≠ .error e := by
  cases x with
  | error e' => exact fun h => hx (congrArg Except.error (Except.error.inj h))
  | ok a => exact hf a

end

namespace Row

theorem int8?_eq_some {cell : Cell} {k : Int} : int8? cell = some k ↔ cell = .int8 k := by
  cases cell <;> simp [int8?]

theorem bool?_eq_some {cell : Cell} {b : Bool} : bool? cell = some b ↔ cell = .bool b := by
  cases cell <;> simp [bool?]

theorem bytea?_eq_some {cell : Cell} {b : Bytes} : bytea? cell = some b ↔ cell = .bytea b := by
  cases cell <;> simp [bytea?]

theorem text?_eq_some {cell : Cell} {t : String} :
    text? cell = some t ↔ cell = .text t.toUTF8.toList := by
  cases cell <;> simp [text?, fromUTF8?_eq_some_iff]

theorem moment?_eq_some {cell : Cell} {t : Instant} :
    moment? cell = some t ↔ ∃ micros, cell = .timestamptz micros ∧ ofMicros micros = t := by
  cases cell <;> simp [moment?]

/-- **A notification is read from the rows that show it.** -/
theorem notification_eq_ok : row.notification = .ok n ↔ row.Shows n := by
  obtain ⟨id, userId, kind, isRead, createdAt, payload⟩ := n
  simp only [notification, bind_eq_ok, read_eq_ok_iff, int8?_eq_some, bool?_eq_some,
    bytea?_eq_some, text?_eq_some, moment?_eq_some, exists_eq_right]
  constructor
  · rintro ⟨_, hid, _, huser, _, hkind, _, hread, _, ⟨_, hcell, micros, rfl, hmoment⟩, _, hpayload,
      h⟩
    cases h
    exact ⟨hid, huser, hkind, hread, ⟨micros, hcell, hmoment⟩, hpayload⟩
  · rintro ⟨hid, huser, hkind, hread, ⟨micros, hcell, hmoment⟩, hpayload⟩
    exact ⟨_, hid, _, huser, _, hkind, _, hread, _, ⟨_, hcell, micros, rfl, hmoment⟩, _, hpayload,
      rfl⟩

theorem notification_ne_noRow : row.notification ≠ .error .noRow :=
  bind_ne_error read_ne_noRow fun _ => bind_ne_error read_ne_noRow fun _ =>
    bind_ne_error read_ne_noRow fun _ => bind_ne_error read_ne_noRow fun _ =>
      bind_ne_error read_ne_noRow fun _ => bind_ne_error read_ne_noRow fun _ => nofun

/-- **A number is read from the first column.** -/
theorem number_eq_ok {k : Int} :
    row.number = .ok k ↔ ∃ column rest, row = (column, some (.int8 k)) :: rest := by
  rcases row with _ | ⟨⟨name, _ | cell⟩, rest⟩
  · simp [number]
  · simp [number]
  · cases h : int8? cell with
    | some n =>
      obtain rfl := int8?_eq_some.1 h
      simp [number, int8?]
    | none =>
      have hother : cell ≠ .int8 k := by
        rintro rfl
        cases h
      simp [number, h, hother]

theorem number_ne_noRow : row.number ≠ .error .noRow := by
  rcases row with _ | ⟨⟨name, _ | cell⟩, rest⟩
  · exact nofun
  · exact nofun
  · cases h : int8? cell <;> simp [number, h]

end Row

/-! ## Replies -/

namespace Reply

/-- **The rows that come back with a reply**; one that only counts brings none. -/
inductive Brings : Reply → List Row → Prop
  | none (affected : Nat) : Brings (.done affected) []
  | all (given : List Row) : Brings (.rows given) given

/-- **The number of rows that were touched**; those that come back count as touched. -/
inductive Touches : Reply → Nat → Prop
  | none (affected : Nat) : Touches (.done affected) affected
  | all (given : List Row) : Touches (.rows given) given.length

/-- **A reply counts to a number**: it stands first in the first row. -/
def Counts (reply : Reply) (k : Int) : Prop :=
  ∃ column rest rows, reply.Brings (((column, some (.int8 k)) :: rest) :: rows)

/-- **A reply shows a notification** in its first row. -/
def Shows (reply : Reply) (n : Notification) : Prop :=
  ∃ row rows, reply.Brings (row :: rows) ∧ row.Shows n

/-- **A reply lists notifications**: each of its rows shows one of them, in order. -/
def Lists (reply : Reply) (notifications : List Notification) : Prop :=
  ∃ rows, reply.Brings rows ∧ List.Forall₂ Row.Shows rows notifications

theorem allRows_eq_ok {rows : List Row} : reply.allRows = .ok rows ↔ reply.Brings rows := by
  constructor
  · intro h
    cases reply with
    | done k => obtain rfl := Except.ok.inj h; exact .none k
    | rows given => obtain rfl := Except.ok.inj h; exact .all given
    | refused message code => cases h
    | disconnected => cases h
  · rintro (_ | _) <;> rfl

theorem allRows_ne_noRow : reply.allRows ≠ .error .noRow := by
  cases reply <;> exact nofun

theorem affected_eq_ok {k : Nat} : reply.affected = .ok k ↔ reply.Touches k := by
  constructor
  · intro h
    cases reply with
    | done k => obtain rfl := Except.ok.inj h; exact .none k
    | rows given => obtain rfl := Except.ok.inj h; exact .all given
    | refused message code => cases h
    | disconnected => cases h
  · rintro (_ | _) <;> rfl

theorem affected_ne_noRow : reply.affected ≠ .error .noRow := by
  cases reply <;> exact nofun

theorem firstRow_eq_ok : reply.firstRow = .ok row ↔ ∃ rows, reply.Brings (row :: rows) := by
  simp only [firstRow, bind_eq_ok, allRows_eq_ok]
  constructor
  · rintro ⟨rows, hrows, h⟩
    cases rows with
    | nil => cases h
    | cons first rest => cases h; exact ⟨rest, hrows⟩
  · rintro ⟨rows, hrows⟩
    exact ⟨row :: rows, hrows, rfl⟩

/-- **A row is missed if none comes back.** -/
theorem firstRow_eq_noRow : reply.firstRow = .error .noRow ↔ reply.Brings [] := by
  rw [← allRows_eq_ok, firstRow]
  cases hrows : reply.allRows with
  | error failure =>
    have hne : failure ≠ .noRow := by
      rintro rfl
      exact allRows_ne_noRow hrows
    exact ⟨fun h => absurd (Except.error.inj h) hne, nofun⟩
  | ok rows =>
    cases rows with
    | nil => exact ⟨fun _ => rfl, fun _ => rfl⟩
    | cons row rest => exact ⟨nofun, nofun⟩

/-- What is read from one row is missed if that row is, and not for another reason. -/
theorem bind_firstRow_eq_noRow {read : Row → Except QueryFailure α}
    (hread : ∀ row, read row ≠ .error .noRow) :
    (reply.firstRow >>= read) = .error .noRow ↔ reply.Brings [] := by
  rw [← firstRow_eq_noRow]
  cases hrow : reply.firstRow with
  | error failure => exact ⟨fun h => congrArg Except.error (Except.error.inj h), fun h => h ▸ rfl⟩
  | ok row => exact ⟨fun h => absurd h (hread row), nofun⟩

theorem number_eq_ok {k : Int} : reply.number = .ok k ↔ reply.Counts k := by
  simp only [number, bind_eq_ok, firstRow_eq_ok, Row.number_eq_ok]
  constructor
  · rintro ⟨_, ⟨rows, hrows⟩, column, rest, rfl⟩
    exact ⟨column, rest, rows, hrows⟩
  · rintro ⟨column, rest, rows, hrows⟩
    exact ⟨_, ⟨rows, hrows⟩, column, rest, rfl⟩

theorem number_eq_noRow : reply.number = .error .noRow ↔ reply.Brings [] :=
  bind_firstRow_eq_noRow fun _ => Row.number_ne_noRow

theorem notification_eq_ok : reply.notification = .ok n ↔ reply.Shows n := by
  simp only [notification, bind_eq_ok, firstRow_eq_ok, Row.notification_eq_ok]
  constructor
  · rintro ⟨row, ⟨rows, hrows⟩, hshows⟩
    exact ⟨row, rows, hrows, hshows⟩
  · rintro ⟨row, rows, hrows, hshows⟩
    exact ⟨row, ⟨rows, hrows⟩, hshows⟩

theorem notification_eq_noRow : reply.notification = .error .noRow ↔ reply.Brings [] :=
  bind_firstRow_eq_noRow fun _ => Row.notification_ne_noRow

/-- Rows are read one after another, and one that cannot be read spoils them all. -/
theorem mapM_notification_eq_ok {rows : List Row} {notifications : List Notification} :
    rows.mapM Row.notification = .ok notifications ↔ List.Forall₂ Row.Shows rows notifications := by
  induction rows generalizing notifications with
  | nil =>
    rw [List.mapM_nil, List.forall₂_nil_left_iff]
    exact ⟨fun h => (Except.ok.inj h).symm, fun h => h ▸ rfl⟩
  | cons row rows ih =>
    simp only [List.mapM_cons, bind_eq_ok, Row.notification_eq_ok, ih, List.forall₂_cons_left_iff]
    constructor
    · rintro ⟨n, hn, rest, hrest, h⟩
      exact ⟨n, rest, hn, hrest, (Except.ok.inj h).symm⟩
    · rintro ⟨n, rest, hn, hrest, rfl⟩
      exact ⟨n, hn, rest, hrest, rfl⟩

theorem mapM_notification_ne_noRow (rows : List Row) :
    rows.mapM Row.notification ≠ .error .noRow := by
  induction rows with
  | nil => exact nofun
  | cons row rows ih =>
    rw [List.mapM_cons]
    exact bind_ne_error Row.notification_ne_noRow fun _ => bind_ne_error ih fun _ => nofun

theorem notifications_eq_ok {notifications : List Notification} :
    reply.notifications = .ok notifications ↔ reply.Lists notifications := by
  simp only [Reply.notifications, bind_eq_ok, allRows_eq_ok, mapM_notification_eq_ok]
  rfl

theorem notifications_ne_noRow : reply.notifications ≠ .error .noRow :=
  bind_ne_error allRows_ne_noRow mapM_notification_ne_noRow

end Reply

end Database

end NotificationFeed
