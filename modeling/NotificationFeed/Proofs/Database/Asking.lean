import NotificationFeed.Database.Table
import NotificationFeed.Proofs.Text
/-!
# Database — asking one that gives the queries their meaning

What the keeper wants with a query (`Query.effect`) is what the text of the
query means with its parameters in their places (`meaning?_query`). Of the
database it is then only said what its clients can rely on (`Evaluates`): a
statement with a meaning is answered from the table, in whose rows there is no
order that could be relied on, and nothing but a statement changes the table.
What else it is made of is left open, and so are the clocks, the metrics and
the journal. The table of this library, when nobody else writes to it, is such
a database (`evaluates_shared`).

The keeper surrounds a query with observations. None of them matters to what
it answers (`Unmoved.finish`), so a query is asked in one step
(`Evaluates.ask`).
-/

namespace NotificationFeed

namespace Database

variable {σ α β : Type} {answer : Program.Answerer surroundings σ}

/-! ## Texts and their meanings -/

/-- What the keeper wants with a query. -/
def Query.effect : Query → Table.Effect
  | .insert userId kind createdAt payload, t =>
    t.insert userId kind (toMicros createdAt) payload
  | .selectOne id, t => (Table.listed (t.select fun n => decide (n.id = id)), t)
  | .selectPage userId limit offset, t => t.list userId limit offset
  | .countAll userId, t => (Table.counted (t.select (Table.belongsTo userId)), t)
  | .markRead id, t => t.update fun n => decide (n.id = id)
  | .markAllRead userId, t => t.update fun n => Table.belongsTo userId n && !n.isRead
  | .delete id, t =>
    (.done (t.select fun n => decide (n.id = id)).length,
      { t with rows := t.select fun n => decide (n.id ≠ id) })
  | .countUnread userId, t =>
    (Table.counted (t.select fun n => Table.belongsTo userId n && !n.isRead), t)

/-- **The text of a query means what the keeper wants with it.** -/
theorem meaning?_query (query : Query) :
    Table.meaning? query.clauses query.parameters = some query.effect := by
  cases query with
  | _ =>
    rw [Query.clauses, Query.parameters]
    rfl

theorem execute_eq (query : Query) : Table.execute query = query.effect := by
  rw [Table.execute, meaning?_query]
  rfl

/-- **A query that only looks.** -/
inductive Query.Looks : Query → Prop
  | selectOne (id : Int) : Looks (.selectOne id)
  | selectPage (userId limit offset : Int) : Looks (.selectPage userId limit offset)
  | countAll (userId : Int) : Looks (.countAll userId)
  | countUnread (userId : Int) : Looks (.countUnread userId)

/-- It leaves the table as it is. -/
theorem Query.Looks.unchanged {query : Query} (h : query.Looks) (t : Table) :
    (Table.execute query t).2 = t := by
  rw [execute_eq]
  cases h with
  | selectOne id => rfl
  | selectPage userId limit offset =>
    rw [Query.effect, Table.list]
    split
    · rfl
    · split <;> rfl
  | countAll userId => rfl
  | countUnread userId => rfl

/-! ## Runs -/

/-- **The task runs from `s` to the result `a`**, and what it leaves has `P`. -/
def RunsTo (answer : Program.Answerer surroundings σ) (task : Task α) (s : σ) (a : α)
    (P : σ → Prop) : Prop :=
  ∃ s', task.run answer s = (.ok a, s') ∧ P s'

variable {P Q : σ → Prop} {s : σ}

theorem RunsTo.done {a : α} (hs : P s) : RunsTo answer (.done a) s a P := ⟨s, rfl, hs⟩

/-- One call, and then the rest. -/
theorem RunsTo.ask {call : Call} {resume : call.Reply → Task α} {reply : call.Reply} {s' : σ} {a : α}
    (hanswer : answer call s = (.ok reply, s')) (hrest : RunsTo answer (resume reply) s' a P) :
    RunsTo answer (.ask call resume) s a P := by
  obtain ⟨s'', hrun, hs''⟩ := hrest
  refine ⟨s'', ?_, hs''⟩
  rw [Program.run_ask, hanswer]
  exact hrun

theorem RunsTo.bind {p : Task α} {f : α → Task β} {a : α} {b : β} (hp : RunsTo answer p s a P)
    (hf : ∀ {s'}, P s' → RunsTo answer (f a) s' b Q) : RunsTo answer (p >>= f) s b Q := by
  obtain ⟨s', hrun, hs'⟩ := hp
  obtain ⟨s'', hrest, hs''⟩ := hf hs'
  refine ⟨s'', ?_, hs''⟩
  rw [Program.run_bind, hrun]
  exact hrest

/-- **What is asked beside the statements is answered**, and leaves what has `P` with `P`. -/
structure Unmoved (answer : Program.Answerer surroundings σ) (P : σ → Prop) : Prop where
  beside : ∀ {s}, P s → ∀ call, (∀ statement, call ≠ .execute statement) →
    ∃ reply s', answer call s = (.ok reply, s') ∧ P s'

namespace Unmoved

variable (h : Unmoved answer P)
include h

/-- It makes no difference to what comes after it. -/
theorem skip (hs : P s) {call : Call} {resume : call.Reply → Task α} {a : α}
    (hcall : ∀ statement, call ≠ .execute statement)
    (hresume : ∀ reply {s'}, P s' → RunsTo answer (resume reply) s' a P) :
    RunsTo answer (.ask call resume) s a P := by
  obtain ⟨reply, s', hanswer, hs'⟩ := h.beside hs call hcall
  exact .ask hanswer (hresume reply hs')

/-- Reporting a query only puts the blame. -/
theorem finish (hs : P s) (query : Query) (started : Span) (found : Except QueryFailure α) :
    RunsTo answer (Database.finish query started found) s (found.mapError query.blame) P := by
  refine h.skip hs nofun fun _ _ hs => h.skip hs nofun fun ended _ hs =>
    h.skip hs nofun fun _ _ hs => ?_
  cases found with
  | ok a => exact .done hs
  | error failure =>
    simp only
    split
    · exact h.skip hs nofun fun _ _ hs => .done hs
    · exact .done hs

end Unmoved

/-! ## The table of this library -/

namespace SharedTable

/-- A statement with a meaning is answered from the table as others have left it. -/
theorem answer_statement {statement : Statement} {effect : Table.Effect}
    (hmeaning : Table.meaning? statement.clauses statement.parameters = some effect)
    (s : SharedTable) :
    SharedTable.answer (.execute statement) s =
      (.ok (effect s.catchUp.table).1, s.catchUp.advance (effect s.catchUp.table).2) := by
  rw [SharedTable.answer, hmeaning]
  rfl

/-- All else is answered, and at most a clock has moved. -/
theorem answer_beside {call : Call} (hcall : ∀ statement, call ≠ .execute statement)
    (s : SharedTable) :
    ∃ reply readings, SharedTable.answer call s = (.ok reply, { s with readings }) := by
  cases call with
  | execute statement => exact absurd rfl (hcall statement)
  | readClock => exact ⟨_, _, rfl⟩
  | readStopwatch => exact ⟨_, _, rfl⟩
  | observe observation => exact ⟨_, _, rfl⟩
  | note entry => exact ⟨_, _, rfl⟩

end SharedTable

/-! ## A database of one client -/

/-- **A database that gives the texts their meaning.** Where a state shows a table, each statement
with a meaning is answered from that table with its rows in some order, and the state after it
shows what the statement makes of them. Whatever else is asked is answered and leaves the table as
it was. -/
structure Evaluates (answer : Program.Answerer surroundings σ) (shows : σ → Table → Prop) :
    Prop where
  statement : ∀ {s t}, shows s t → ∀ statement effect,
    Table.meaning? statement.clauses statement.parameters = some effect → ∃ rows s',
      rows.Perm t.rows ∧ answer (.execute statement) s = (.ok (effect { t with rows }).1, s') ∧
      shows s' (effect { t with rows }).2
  beside : ∀ {s t}, shows s t → ∀ call, (∀ statement, call ≠ .execute statement) →
    ∃ reply s', answer call s = (.ok reply, s') ∧ shows s' t

/-- A shared table to which nobody else writes. -/
theorem evaluates_shared :
    Evaluates SharedTable.answer fun s t => s.others = [] ∧ s.table = t where
  statement := by
    rintro ⟨table, others, former, clock, readings⟩ t ⟨halone, htable⟩ statement effect hmeaning
    obtain rfl : others = [] := halone
    obtain rfl : table = t := htable
    exact ⟨table.rows, _, .refl _, SharedTable.answer_statement hmeaning _, rfl, rfl⟩
  beside := by
    rintro s t hs call hcall
    obtain ⟨reply, readings, hanswer⟩ := SharedTable.answer_beside hcall s
    exact ⟨reply, _, hanswer, hs⟩

variable {shows : σ → Table → Prop} {t : Table} {R : Table → Prop}

/-- What shows a table with `R`. -/
def Showing (shows : σ → Table → Prop) (R : Table → Prop) (s : σ) : Prop := ∃ t, shows s t ∧ R t

namespace Evaluates

variable (h : Evaluates answer shows)
include h

theorem unmoved (R : Table → Prop) : Unmoved answer (Showing shows R) where
  beside := by
    rintro s ⟨t, hs, ht⟩ call hcall
    obtain ⟨reply, s', hanswer, hs'⟩ := h.beside hs call hcall
    exact ⟨reply, s', hanswer, t, hs', ht⟩

/-- **A query is answered from the table.** What is read from the answer, and what holds of the
table after it, must not depend on the order of the rows. -/
theorem ask (hs : shows s t) (query : Query) (read : Reply → Except QueryFailure α)
    {found : Except QueryFailure α}
    (hquery : ∀ rows, rows.Perm t.rows →
      read (Table.execute query { t with rows }).1 = found ∧
        R (Table.execute query { t with rows }).2) :
    RunsTo answer (Database.ask query read) s (found.mapError query.blame) (Showing shows R) := by
  obtain ⟨started, s₁, hclock, hs₁⟩ := h.beside hs .readStopwatch nofun
  obtain ⟨rows, s₂, hperm, hanswer, hs₂⟩ :=
    h.statement hs₁ (.query query) query.effect (meaning?_query query)
  rw [← execute_eq] at hanswer hs₂
  obtain ⟨hread, ht₂⟩ := hquery rows hperm
  rw [← hread]
  exact .ask hclock (.ask hanswer ((h.unmoved R).finish ⟨_, hs₂, ht₂⟩ query started _))

end Evaluates

end Database

end NotificationFeed
