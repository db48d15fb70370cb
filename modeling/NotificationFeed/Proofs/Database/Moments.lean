import NotificationFeed.Proofs.Database.Agreement
/-!
# Database — a page while others write

A page is put together from two queries, and what others commit may land
between the two. Each query sees the table at one moment of the call, and the
moments of a call are the states the table goes through while it runs: others
commit queries of their own, and rows change places (`Table.Evolves`). Of the
database it is only said that it answers each statement from the table as it
is when the statement runs (`EvaluatesShared`). The notifications of a page
are then those that the keeper in memory would list at the first query's
moment, and the number is the one it would give at the second's
(`page_of_two_moments`). Nothing holds the table still from the one to the
other, so there may be no single moment with both (`page_of_no_moment`); there
is one if the number of the user's notifications is the same at both.
-/

namespace NotificationFeed

namespace Database

variable {σ α : Type} {t : Table} {userId : Int}

/-! ## The table at one moment -/

namespace Table

/-- The store in memory with the rows of a table. -/
def store (t : Table) : Store := ⟨t.lastId, t.rows⟩

/-- **A table holds whole microseconds**, as a database can. -/
def AllWhole (t : Table) : Prop := ∀ n ∈ t.rows, Whole n.createdAt

instance (t : Table) : Decidable t.AllWhole :=
  inferInstanceAs (Decidable (∀ n ∈ t.rows, Whole n.createdAt))

theorem AllWhole.update (h : t.AllWhole) (which : Notification → Bool) :
    (t.update which).2.AllWhole := by
  intro n' hn'
  obtain ⟨n, hn, rfl⟩ := List.mem_map.1 hn'
  split
  · exact h n hn
  · exact h n hn

/-- A moment is cut to whole microseconds when its row is put in, and kept from then on. -/
theorem AllWhole.execute (h : t.AllWhole) (query : Query) : (execute query t).2.AllWhole := by
  cases query with
  | insert userId kind createdAt payload =>
    rw [execute_eq, Query.effect, insert]
    split
    · exact h
    · split
      · exact h
      · intro n hn
        rcases List.mem_append.1 hn with hold | hnew
        · exact h n hold
        · obtain rfl := List.mem_singleton.1 hnew
          exact whole_ofMicros _
  | selectOne id => rwa [(Query.Looks.selectOne id).unchanged]
  | selectPage userId limit offset => rwa [(Query.Looks.selectPage userId limit offset).unchanged]
  | countAll userId => rwa [(Query.Looks.countAll userId).unchanged]
  | markRead id =>
    rw [execute_eq]
    exact h.update _
  | markAllRead userId =>
    rw [execute_eq]
    exact h.update _
  | delete id =>
    rw [execute_eq]
    exact fun n hn => h n (List.mem_of_mem_filter hn)
  | countUnread userId => rwa [(Query.Looks.countUnread userId).unchanged]

/-- The rows of a user in the order of a page are the feed in memory. -/
theorem ordered_store (t : Table) (userId : Int) :
    (t.select (belongsTo userId)).mergeSort newerFirst = t.store.feed userId := by
  rw [newerFirst_eq_precedes]
  rfl

/-- A page is refused for a negative size or start. -/
theorem page_refused (t : Table) (userId : Int) {limit offset : Int} (h : limit < 0 ∨ offset < 0) :
    ∃ message code, (Table.execute (.selectPage userId limit offset) t).1 =
      .refused message code := by
  rw [execute_eq, Query.effect, list]
  split
  · exact ⟨_, _, rfl⟩
  · rw [if_pos (h.resolve_right ‹_›)]
    exact ⟨_, _, rfl⟩

/-! ## The states of a table -/

/-- **How a table goes on while others work on it**: they commit queries, and rows change places.
States are kept newest first. -/
inductive Evolves : List Table → List Table → Prop
  | refl (states : List Table) : Evolves states states
  | commit {states later : List Table} {t : Table} (query : Query) :
      Evolves states (t :: later) → Evolves states ((execute query t).2 :: t :: later)
  | rearrange {states later : List Table} {t : Table} {rows : List Notification} :
      Evolves states (t :: later) → rows.Perm t.rows →
      Evolves states ({ t with rows } :: t :: later)

namespace Evolves

variable {states later last : List Table}

theorem trans (h : Evolves states later) (h' : Evolves later last) : Evolves states last := by
  induction h' with
  | refl => exact h
  | commit query _ ih => exact .commit query ih
  | rearrange _ hperm ih => exact .rearrange ih hperm

/-- What was there has been there. -/
theorem suffix (h : Evolves states later) : states <:+ later := by
  induction h with
  | refl => exact List.suffix_refl _
  | commit _ _ ih => exact ih.trans (List.suffix_cons _ _)
  | rearrange _ _ ih => exact ih.trans (List.suffix_cons _ _)

/-- A query that only looks is no step of its own, and may count as one. -/
theorem look (h : Evolves states (t :: later)) : Evolves states (t :: t :: later) :=
  h.rearrange (.refl _)

theorem allWhole (h : Evolves states later) (hwhole : ∀ t ∈ states, t.AllWhole) :
    ∀ t ∈ later, t.AllWhole := by
  induction h with
  | refl => exact hwhole
  | @commit later t query _ ih =>
    rw [List.forall_mem_cons]
    exact ⟨(ih t List.mem_cons_self).execute query, ih⟩
  | @rearrange later t rows _ hperm ih =>
    rw [List.forall_mem_cons]
    exact ⟨fun n hn => ih t List.mem_cons_self n (hperm.subset hn), ih⟩

end Evolves

end Table

/-! ## A database of many clients -/

variable {answer : Program.Answerer surroundings σ} {went : σ → List Table → Prop}

/-- **A database that others write to**, and that gives the texts their meaning. A state of it tells
the states that the table went through, newest first. Each statement with a meaning is answered
from the table as it is by then, and what the statement makes of it is the next state. Others may
also go on while something else is asked. -/
structure EvaluatesShared (answer : Program.Answerer surroundings σ)
    (went : σ → List Table → Prop) : Prop where
  statement : ∀ {s states}, went s states → ∀ statement effect,
    Table.meaning? statement.clauses statement.parameters = some effect → ∃ t later s',
      Table.Evolves states (t :: later) ∧
      answer (.execute statement) s = (.ok (effect t).1, s') ∧
      went s' ((effect t).2 :: t :: later)
  beside : ∀ {s states}, went s states → ∀ call, (∀ statement, call ≠ .execute statement) →
    ∃ reply s' later, Table.Evolves states later ∧ answer call s = (.ok reply, s') ∧ went s' later

namespace SharedTable

/-- The states a shared table has had, the present one last. -/
def moments (s : SharedTable) : List Table := s.former.reverse ++ [s.table]

/-- What others commit are states, one for each query. -/
theorem evolves_commits (queries : List Query) (s : SharedTable) :
    let s' := queries.foldl (fun s q => s.advance (Table.execute q s.table).2) s
    Table.Evolves (s.table :: s.former) (s'.table :: s'.former) := by
  induction queries generalizing s with
  | nil => exact .refl _
  | cons query queries ih =>
    exact (Table.Evolves.commit query (.refl _)).trans (ih (s.advance _))

end SharedTable

/-- The shared table of this library is such a database, whatever others commit. -/
theorem evaluatesShared_shared :
    EvaluatesShared SharedTable.answer fun s states => states = s.table :: s.former where
  statement := by
    rintro s _ rfl statement effect hmeaning
    exact ⟨_, _, _, SharedTable.evolves_commits (s.others.headD []) s,
      SharedTable.answer_statement hmeaning s, rfl⟩
  beside := by
    rintro s _ rfl call hcall
    obtain ⟨reply, readings, hanswer⟩ := SharedTable.answer_beside hcall s
    exact ⟨reply, _, _, .refl _, hanswer, rfl⟩

/-- What has gone on from some states. -/
def Since (went : σ → List Table → Prop) (states : List Table) (s : σ) : Prop :=
  ∃ later, Table.Evolves states later ∧ went s later

namespace EvaluatesShared

variable (h : EvaluatesShared answer went)
include h

theorem unmoved (states : List Table) : Unmoved answer (Since went states) where
  beside := by
    rintro s ⟨later, hlater, hs⟩ call hcall
    obtain ⟨reply, s', last, hlast, hanswer, hs'⟩ := h.beside hs call hcall
    exact ⟨reply, s', hanswer, last, hlater.trans hlast, hs'⟩

/-- **A query that only looks** is answered from a state of the table that it finds, and that state
is there when the query is over. -/
theorem ask_look {s : σ} {states : List Table} (hs : went s states) {query : Query}
    (hlooks : query.Looks) (read : Reply → Except QueryFailure α) :
    ∃ t later, Table.Evolves states (t :: later) ∧
      RunsTo answer (Database.ask query read) s
        ((read (Table.execute query t).1).mapError query.blame) (Since went (t :: t :: later)) := by
  obtain ⟨started, s₁, before, hbefore, hclock, hs₁⟩ := h.beside hs .readStopwatch nofun
  obtain ⟨t, later, s₂, hlater, hanswer, hs₂⟩ :=
    h.statement hs₁ (.query query) query.effect (meaning?_query query)
  rw [← execute_eq] at hanswer hs₂
  rw [hlooks.unchanged] at hs₂
  have hfinish := (h.unmoved (t :: t :: later)).finish ⟨_, .refl _, hs₂⟩ query started
    (read (Table.execute query t).1)
  exact ⟨t, later, hbefore.trans hlater, .ask hclock (.ask hanswer hfinish)⟩

/-- **A page is that of one moment and its number that of one no earlier**, over any database that
others write to. -/
theorem page {s : σ} {table : Table} (hs : went s [table]) (hwhole : table.AllWhole) (userId : Int)
    {limit offset : Int} (hlimit : 0 ≤ limit ∧ limit ≤ Int64.maxValue.toInt)
    (hoffset : 0 ≤ offset ∧ offset ≤ Int64.maxValue.toInt) :
    ∃ t u, RunsTo answer (perform (.page userId limit offset)) s
      (.ok ⟨(t.store.page userId limit offset).notifications,
        (u.store.page userId limit offset).total⟩)
      (fun s' => ∃ states, went s' states ∧ Table.Evolves [table] states ∧
        [u, t].Sublist states) := by
  obtain ⟨t, first, hfirst, hpage⟩ :=
    h.ask_look hs (.selectPage userId limit offset) Reply.notifications
  obtain ⟨s₁, hrun₁, states, hstates, hs₁⟩ := hpage
  obtain ⟨u, second, hsecond, hcount⟩ := h.ask_look hs₁ (.countAll userId) Reply.number
  have ht : t.AllWhole := hfirst.allWhole (by simpa using hwhole) t List.mem_cons_self
  rw [paged_of_ordered (t.ordered_store userId) ht hlimit hoffset] at hrun₁
  rw [counted_of_ordered (u.ordered_store userId) limit offset] at hcount
  refine ⟨t, u, .bind ⟨s₁, hrun₁, rfl⟩ ?_⟩
  rintro _ rfl
  refine hcount.bind fun {s'} hs' => .done ?_
  obtain ⟨last, hlast, hs'⟩ := hs'
  -- The first state is among those that were there when the second query ran.
  have hthere : t ∈ u :: second := (hstates.trans hsecond).suffix.subset List.mem_cons_self
  refine ⟨last, hs', ?_, ?_⟩
  · exact (hfirst.look.trans (hstates.trans hsecond.look)).trans hlast
  · have hboth : [u, t].Sublist (u :: u :: second) :=
      (List.singleton_sublist.2 hthere).cons_cons u
    exact hboth.trans hlast.suffix.sublist

/-- A page of a negative size or start is refused. -/
theorem page_refused {s : σ} {table : Table} (hs : went s [table]) (userId : Int)
    {limit offset : Int} (hnegative : limit < 0 ∨ offset < 0) :
    RunsTo answer (perform (.page userId limit offset)) s (.error .databaseQuery)
      (fun s' => ∃ states, went s' states ∧ Table.Evolves [table] states) := by
  obtain ⟨t, first, hfirst, hpage⟩ :=
    h.ask_look hs (.selectPage userId limit offset) Reply.notifications
  obtain ⟨message, code, hreply⟩ := t.page_refused userId hnegative
  rw [hreply] at hpage
  refine hpage.bind fun {s'} hs' => .done ?_
  obtain ⟨last, hlast, hs'⟩ := hs'
  exact ⟨last, hs', hfirst.look.trans hlast⟩

end EvaluatesShared

end Database

end NotificationFeed
