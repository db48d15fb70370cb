import NotificationFeed.Database.Table
import NotificationFeed.Proofs.Text
/-!
# Database — what is read from its replies

A row holds a notification as values of the database. Its columns are found
by name and each is of the type that is read from it, and its moment comes
back unchanged if it is one of the calendar and the database can tell it from
the moments around it: then the notification in the row is the one that was
put there.
-/

namespace NotificationFeed

namespace Database

/-- **A moment of the calendar in whole microseconds.** -/
def Whole (t : Instant) : Prop := ∃ micros, ofMicros micros = t

theorem whole_ofMicros (micros : Micros) : Whole (ofMicros micros) := ⟨micros, rfl⟩

/-- Such a moment comes back as it was given. -/
theorem ofMicros_toMicros {t : Instant} (h : Whole t) : ofMicros (toMicros t) = t := by
  obtain ⟨micros, rfl⟩ := h
  rw [toMicros_ofMicros]

instance (t : Instant) : Decidable (Whole t) :=
  decidable_of_iff (ofMicros (toMicros t) = t) ⟨fun h => ⟨_, h⟩, ofMicros_toMicros⟩

theorem Row.read_eq_ok {α : Type} {row : Row} {column name : String} {wanted : ColumnType}
    {as : Cell → Option α} {cell : Cell} {a : α}
    (hcell : row.reverse.find? (·.1 == column) = some (name, some cell)) (has : as cell = some a) :
    row.read column wanted as = .ok a := by
  rw [Row.read, hcell]
  simp only [has]

/-- **A notification is read back from its row.** -/
theorem Row.notification_ofNotification {n : Notification} (h : Whole n.createdAt) :
    Row.notification (Row.ofNotification n) = .ok n := by
  have hkind : (Row.ofNotification n).read "type" .text Row.text? = .ok n.kind :=
    Row.read_eq_ok rfl (fromUTF8?_toUTF8 n.kind)
  have hcreated : (Row.ofNotification n).read "created_at" .timestamptz Row.moment? =
      .ok n.createdAt := Row.read_eq_ok rfl (congrArg some (ofMicros_toMicros h))
  rw [Row.notification, hkind, hcreated]
  rfl

variable {rows : List Notification}

/-- **All rows are read back**, in their order. -/
theorem notifications_listed (h : ∀ n ∈ rows, Whole n.createdAt) :
    (Table.listed rows).notifications = .ok rows := by
  show (rows.map Row.ofNotification).mapM Row.notification = .ok rows
  induction rows with
  | nil => rfl
  | cons n rows ih =>
    rw [List.forall_mem_cons] at h
    rw [List.map_cons, List.mapM_cons, Row.notification_ofNotification h.1, ih h.2]
    rfl

/-- The one row that was asked for is the first, and there may be none. -/
theorem notification_listed (h : ∀ n ∈ rows, Whole n.createdAt) :
    (Table.listed rows).notification = rows.head?.elim (.error .noRow) .ok := by
  cases rows with
  | nil => rfl
  | cons n rows => exact Row.notification_ofNotification (h n List.mem_cons_self)

theorem number_counted (rows : List Notification) :
    (Table.counted rows).number = .ok (rows.length : Int) := rfl

end Database

end NotificationFeed
