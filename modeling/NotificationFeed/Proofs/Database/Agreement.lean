import Mathlib
import NotificationFeed.Proofs.Database.Asking
import NotificationFeed.Proofs.Database.Reading
import NotificationFeed.Proofs.Store.Feed
import NotificationFeed.Proofs.Store.Run
/-!
# Database — the two keepers give the same answers

A table keeps what a store keeps if it holds the same notifications, in
whatever order, and has given out the same identifiers (`Table.Keeps`). The
queries then find in the table what the requests find in the store. Three
things have to be bridged on the way: the order of a page is written
differently on the two sides and has to be strict, or the order of the rows
would show; marking all of a user's notifications picks only the unread ones
on one side and all of them on the other; and where nothing was touched, one
side looks before it writes and the other after.

The database refuses what it cannot represent and rounds what it cannot hold
exactly, so the requests are those that it can take as they are
(`Store.Request.Storable`).
-/

namespace NotificationFeed

/-- **What a database takes as it is.** The text has no character zero, the moment is given, is in
whole microseconds and within the calendar, and the numbers of a slice are not negative 64-bit
numbers. -/
def Store.Request.Storable : Store.Request → Prop
  | create draft => '\x00' ∉ draft.kind.toList ∧
      ∃ t ∈ draft.createdAt, Database.Whole t ∧
        Database.Table.holds (Database.toMicros t) = true
  | page _ limit offset => (0 ≤ limit ∧ limit ≤ Int64.maxValue.toInt) ∧
      (0 ≤ offset ∧ offset ≤ Int64.maxValue.toInt)
  | _ => True

instance : DecidablePred Store.Request.Storable
  | .create _ => inferInstanceAs (Decidable (_ ∧ _))
  | .page .. => inferInstanceAs (Decidable ((_ ∧ _) ∧ (_ ∧ _)))
  | .find _ | .markRead _ | .markAllRead _ | .delete _ | .countUnread _ => .isTrue trivial

namespace Database

/-! ## The same notifications -/

/-- **A table keeps what a store keeps**: the notifications in whatever order, and the last
identifier that was given out. -/
structure Table.Keeps (t : Table) (s : Store) : Prop where
  lastId : t.lastId = s.lastId
  rows : t.rows.Perm s.rows
  whole : ∀ n ∈ s.rows, Whole n.createdAt
  wellNumbered : s.WellNumbered

variable {t : Table} {s : Store} {id userId : Int}

theorem keeps_empty : ({} : Table).Keeps {} where
  lastId := rfl
  rows := .refl _
  whole := by simp
  wellNumbered := Store.wellNumbered_empty

/-- The order in which a table keeps its rows does not matter. -/
theorem Table.Keeps.rearranged (h : t.Keeps s) {rows : List Notification}
    (hrows : rows.Perm t.rows) : Table.Keeps { t with rows } s :=
  { h with rows := hrows.trans h.rows }

/-- The two ways to write the order of a page. -/
theorem newerFirst_eq_precedes : Table.newerFirst = Store.precedes := by
  funext a b
  have hirrefl : ¬ b.createdAt < b.createdAt := Int.lt_irrefl _
  rw [Table.newerFirst, Store.precedes]
  by_cases hsame : a.createdAt = b.createdAt
  · simp [hsame, hirrefl]
  · simp [hsame, Ne.symm hsame]

/-- **A page is the same slice on both sides**, once the rows of the user lie in the order of the
feed. -/
theorem paged_of_ordered {limit offset : Int}
    (hordered : (t.select (Table.belongsTo userId)).mergeSort Table.newerFirst = s.feed userId)
    (hwhole : ∀ n ∈ s.rows, Whole n.createdAt)
    (hlimit : 0 ≤ limit ∧ limit ≤ Int64.maxValue.toInt)
    (hoffset : 0 ≤ offset ∧ offset ≤ Int64.maxValue.toInt) :
    (Table.execute (.selectPage userId limit offset) t).1.notifications =
      .ok (s.page userId limit offset).notifications := by
  have hpage : (((t.select (Table.belongsTo userId)).mergeSort Table.newerFirst).drop
      offset.toNat).take limit.toNat = (s.page userId limit offset).notifications := by
    rw [hordered, Store.page, Store.asCount_of_nonneg hlimit.1 hlimit.2,
      Store.asCount_of_nonneg hoffset.1 hoffset.2]
  have hlisted : ∀ n ∈ (s.page userId limit offset).notifications, Whole n.createdAt := by
    intro n hn
    exact hwhole n (Store.mem_of_mem_page hn)
  rw [← hpage] at hlisted ⊢
  rw [execute_eq, Query.effect, Table.list, if_neg (by omega), if_neg (by omega)]
  exact notifications_listed hlisted

/-- So is the length of the feed. -/
theorem counted_of_ordered
    (hordered : (t.select (Table.belongsTo userId)).mergeSort Table.newerFirst = s.feed userId)
    (limit offset : Int) : (Table.execute (.countAll userId) t).1.number =
      .ok (s.page userId limit offset).total := by
  have hlength : (t.select (Table.belongsTo userId)).length = (s.feed userId).length := by
    rw [← hordered, List.length_mergeSort]
  rw [execute_eq, Query.effect, number_counted, hlength]
  rfl

namespace Table.Keeps

variable (h : t.Keeps s)
include h

/-- A condition picks the same notifications. -/
theorem select (which : Notification → Bool) : (t.select which).Perm (s.rows.filter which) :=
  h.rows.filter which

theorem whole_select (which : Notification → Bool) : ∀ n ∈ t.select which, Whole n.createdAt := by
  intro n hn
  exact h.whole n (h.rows.subset (List.mem_of_mem_filter hn))

/-- **One identifier picks what is found under it.** -/
theorem select_id (id : Int) : t.select (fun n => decide (n.id = id)) = (s.find? id).toList := by
  have hperm : (t.select fun n => decide (n.id = id)).Perm (s.find? id).toList := by
    rw [← h.wellNumbered.filter_id id]
    exact h.select (·.id == id)
  cases hfind : s.find? id with
  | none => rw [hfind] at hperm; exact hperm.eq_nil
  | some n => rw [hfind] at hperm; exact List.perm_singleton.1 hperm

/-- **The rows of a user in the order of a page are the user's feed.** -/
theorem ordered (userId : Int) :
    (t.select (belongsTo userId)).mergeSort newerFirst = s.feed userId := by
  rw [newerFirst_eq_precedes]
  have hperm : ((t.select (belongsTo userId)).mergeSort Store.precedes).Perm (s.ofUser userId) :=
    (List.mergeSort_perm _ _).trans (h.select (belongsTo userId))
  exact Store.eq_feed h.wellNumbered hperm
    (List.pairwise_mergeSort Store.precedes_trans Store.precedes_total _)

/-! ## What the queries find -/

theorem found (id : Int) : (Table.execute (.selectOne id) t).1.notification =
    (s.find? id).elim (.error .noRow) .ok := by
  have hread := notification_listed (h.whole_select fun n => decide (n.id = id))
  rw [h.select_id id] at hread
  rw [execute_eq, Query.effect, h.select_id id, hread]
  cases s.find? id <;> rfl

theorem paged {limit offset : Int} (hlimit : 0 ≤ limit ∧ limit ≤ Int64.maxValue.toInt)
    (hoffset : 0 ≤ offset ∧ offset ≤ Int64.maxValue.toInt) :
    (Table.execute (.selectPage userId limit offset) t).1.notifications =
      .ok (s.page userId limit offset).notifications :=
  paged_of_ordered (h.ordered userId) h.whole hlimit hoffset

theorem counted_all (limit offset : Int) : (Table.execute (.countAll userId) t).1.number =
    .ok (s.page userId limit offset).total :=
  counted_of_ordered (h.ordered userId) limit offset

/-- Unread notifications are picked by one condition on both sides. -/
theorem length_unread : (t.select fun n => belongsTo userId n && !n.isRead).length =
    (s.unread userId).length :=
  (h.select _).length_eq

theorem counted_unread : (Table.execute (.countUnread userId) t).1.number =
    .ok ((s.unread userId).length : Int) := by
  rw [execute_eq, Query.effect, number_counted, h.length_unread]

/-- The number of rows that there are under one identifier. -/
theorem length_id (id : Int) : (t.select fun n => decide (n.id = id)).length =
    (s.find? id).toList.length := by
  rw [h.select_id id]

theorem touched_markRead (id : Int) : (Table.execute (.markRead id) t).1.affected =
    .ok (s.find? id).toList.length := by
  rw [execute_eq, Query.effect, ← h.length_id]
  rfl

theorem touched_delete (id : Int) : (Table.execute (.delete id) t).1.affected =
    .ok (s.find? id).toList.length := by
  rw [execute_eq, Query.effect, ← h.length_id]
  rfl

theorem touched_markAllRead : (Table.execute (.markAllRead userId) t).1.affected =
    .ok (s.unread userId).length := by
  rw [execute_eq, Query.effect, ← h.length_unread]
  rfl

/-! ## What the queries make of a table -/

theorem unchanged {query : Query} (hlooks : query.Looks) : (Table.execute query t).2.Keeps s := by
  rw [hlooks.unchanged]
  exact h

theorem created {draft : Draft} {moment : Instant} (hkind : '\x00' ∉ draft.kind.toList)
    (hmoment : draft.createdAt = some moment) (hwhole : Whole moment)
    (hholds : Table.holds (toMicros moment) = true) (now : Instant) :
    (Table.execute (.insert draft.userId draft.kind moment draft.payload) t).1.number =
        .ok (s.create draft now).1 ∧
      (Table.execute (.insert draft.userId draft.kind moment draft.payload) t).2.Keeps
        (s.create draft now).2 := by
  have hzero : ¬ draft.kind.toList.contains '\x00' = true := by simpa using hkind
  have hheld : ¬ (!Table.holds (toMicros moment)) = true := by simp [hholds]
  rw [execute_eq, Query.effect, Table.insert, if_neg hzero, if_neg hheld, ofMicros_toMicros hwhole,
    h.lastId]
  refine ⟨rfl, rfl, ?_, ?_, h.wellNumbered.create⟩
  · rw [Store.create, hmoment]
    exact h.rows.append (.refl _)
  · intro n hn
    rcases Store.mem_create.1 hn with hold | rfl
    · exact h.whole n hold
    · rwa [hmoment]

/-- Two conditions may differ on what is marked already. -/
theorem updated {which which' : Notification → Bool}
    (hsame : ∀ n, (if which n then { n with isRead := true } else n) =
      if which' n then { n with isRead := true } else n) :
    (t.update which).2.Keeps (s.markWhere which') where
  lastId := h.lastId
  rows := by
    rw [Table.update, Store.markWhere, funext hsame]
    exact h.rows.map _
  whole := by
    intro n' hn'
    obtain ⟨n, hn, hc⟩ := Store.mem_markWhere hn'
    rw [hc.createdAt]
    exact h.whole n hn
  wellNumbered := h.wellNumbered.markWhere

theorem marked (id : Int) :
    (Table.execute (.markRead id) t).2.Keeps (s.markWhere (·.id == id)) := by
  rw [execute_eq]
  refine h.updated fun n => ?_
  simp only [decide_eq_true_eq, beq_iff_eq]

/-- To mark what is marked already makes no difference. -/
theorem marked_all (userId : Int) :
    (Table.execute (.markAllRead userId) t).2.Keeps (s.markWhere (·.userId == userId)) := by
  rw [execute_eq]
  refine h.updated fun n => ?_
  obtain ⟨id, owner, kind, isRead, createdAt, payload⟩ := n
  cases isRead with
  | true => simp
  | false => simp [belongsTo]

theorem deleted (id : Int) : (Table.execute (.delete id) t).2.Keeps (s.erase id) where
  lastId := h.lastId
  rows := by
    have hcondition : (fun n : Notification => decide (n.id ≠ id)) = (·.id != id) := by
      funext n
      exact Bool.eq_iff_iff.2 (by simp)
    rw [execute_eq, Query.effect, Store.erase, hcondition]
    exact h.select _
  whole n hn := h.whole n (Store.mem_erase.1 hn).1
  wellNumbered := h.wellNumbered.erase

end Table.Keeps

/-! ## One request -/

section

variable {σ : Type} {answer : Program.Answerer surroundings σ} {shows : σ → Table → Prop} {d : σ}
variable {s' : Store} {α : Type}

/-- A query is asked of a table that keeps what the store keeps. -/
theorem Evaluates.ask_keeps (h : Evaluates answer shows) (hd : shows d t) (ht : t.Keeps s)
    (query : Query) (read : Reply → Except QueryFailure α) {found : Except QueryFailure α}
    (hquery : ∀ {t : Table}, t.Keeps s → read (Table.execute query t).1 = found ∧
      (Table.execute query t).2.Keeps s') :
    RunsTo answer (Database.ask query read) d (found.mapError query.blame)
      (Showing shows (·.Keeps s')) :=
  h.ask hd query read fun _ hrows => hquery (ht.rearranged hrows)

/-- A query that touches what is found under an identifier. That nothing is there is seen from
the number of rows that were touched. -/
theorem Evaluates.touch (h : Evaluates answer shows) (hd : shows d t) (ht : t.Keeps s)
    (query : Query) (id : Int)
    (hquery : ∀ {t : Table}, t.Keeps s →
      (Table.execute query t).1.affected = .ok (s.find? id).toList.length ∧
        (Table.execute query t).2.Keeps s') :
    RunsTo answer (do return touchedOne (← Database.ask query Reply.affected)) d
      ((s.find? id).elim (.error .notificationNotFound) fun _ => .ok ())
      (Showing shows (·.Keeps s')) := by
  have htouched : touchedOne (.ok (s.find? id).toList.length) =
      (s.find? id).elim (.error .notificationNotFound) fun _ => .ok () := by
    cases s.find? id <;> rfl
  have hask := h.ask_keeps hd ht query Reply.affected hquery
  refine hask.bind fun hd => ?_
  rw [← htouched]
  exact .done hd

/-- **One request**: it is answered as by the store, and the table keeps what the store keeps. -/
theorem Evaluates.perform (h : Evaluates answer shows) (hd : shows d t) (ht : t.Keeps s)
    (x : Store.Step) (hx : x.request.Storable) :
    RunsTo answer (Database.perform x.request) d (x.reply s)
      (Showing shows (·.Keeps (x.next s))) := by
  obtain ⟨now, request⟩ := x
  cases request with
  | create draft =>
    obtain ⟨hkind, moment, hmoment, hwhole, hholds⟩ := hx
    rw [Database.perform, hmoment]
    exact h.ask_keeps hd ht (.insert draft.userId draft.kind moment draft.payload) Reply.number
      fun ht => ht.created hkind hmoment hwhole hholds now
  | find id =>
    have hask := h.ask_keeps hd ht (.selectOne id) Reply.notification
      fun ht => ⟨ht.found id, ht.unchanged (.selectOne id)⟩
    rw [Store.Step.next_find, Store.Step.reply_find]
    cases hfind : s.find? id with
    | none => rw [hfind] at hask; exact hask
    | some n => rw [hfind] at hask; exact hask
  | page userId limit offset =>
    obtain ⟨hlimit, hoffset⟩ := hx
    have hpage := h.ask_keeps hd ht (.selectPage userId limit offset) Reply.notifications
      fun ht => ⟨ht.paged hlimit hoffset, ht.unchanged (.selectPage userId limit offset)⟩
    refine hpage.bind fun ⟨t, hd, ht⟩ => ?_
    have hcount := h.ask_keeps hd ht (.countAll userId) Reply.number
      fun ht => ⟨ht.counted_all limit offset, ht.unchanged (.countAll userId)⟩
    exact hcount.bind .done
  | markRead id =>
    have htouch := h.touch hd ht (.markRead id) id
      fun ht => ⟨ht.touched_markRead id, ht.marked id⟩
    rw [Store.Step.next_markRead, Store.Step.reply_markRead]
    exact htouch
  | markAllRead userId =>
    exact h.ask_keeps hd ht (.markAllRead userId) Reply.affected
      fun ht => ⟨ht.touched_markAllRead, ht.marked_all userId⟩
  | delete id =>
    have htouch := h.touch hd ht (.delete id) id
      fun ht => ⟨ht.touched_delete id, ht.deleted id⟩
    rw [Store.Step.next_delete, Store.Step.reply_delete]
    exact htouch
  | countUnread userId =>
    exact h.ask_keeps hd ht (.countUnread userId) Reply.number
      fun ht => ⟨ht.counted_unread, ht.unchanged (.countUnread userId)⟩

/-! ## Requests one after another -/

/-- A request to the keeper in a database, and what it comes to. -/
abbrev Exchange := NotificationFeed.Exchange ⟨Store.Request, fun r => Except Panic r.Reply⟩

/-- What the keeper in a database comes to over requests that are made one after another. -/
def exchanges (answer : Program.Answerer surroundings σ) (d : σ) :
    List Store.Request → List Exchange
  | [] => []
  | request :: later =>
    let (reply, d') := (Database.perform request).run answer d
    ⟨request, reply⟩ :: exchanges answer d' later

/-- From where the table keeps what the store keeps, the answers are the same. -/
theorem Evaluates.exchanges_eq (h : Evaluates answer shows) (hd : shows d t) (ht : t.Keeps s)
    {steps : List Store.Step} (hsteps : ∀ x ∈ steps, x.request.Storable) :
    exchanges answer d (steps.map (·.request)) =
      (s.exchanges steps).map fun x => ⟨x.call, .ok x.reply⟩ := by
  induction steps generalizing d t s with
  | nil => rfl
  | cons x steps ih =>
    rw [List.forall_mem_cons] at hsteps
    obtain ⟨d', hrun, t', hd', ht'⟩ := h.perform hd ht x hsteps.1
    have hlater := ih hd' ht' hsteps.2
    rw [List.map_cons, exchanges, hrun, Store.exchanges_cons, List.map_cons, ← hlater]

/-- **Both keepers give the same answers.** Take any database that gives the queries their meaning,
with an empty table to begin with, and requests that it can take as they are. Made one after
another, by one client, they are answered by the keeper in that database as they are by the keeper
in memory, request by request. -/
theorem keepers_agree (h : Evaluates answer shows) (hempty : shows d {}) {steps : List Store.Step}
    (hsteps : ∀ x ∈ steps, x.request.Storable) :
    exchanges answer d (steps.map (·.request)) =
      (({} : Store).exchanges steps).map fun x => ⟨x.call, .ok x.reply⟩ :=
  h.exchanges_eq hempty keeps_empty hsteps

/-- Two notifications of one moment and an older one, a page that begins within the feed, and
requests about what is not there. -/
theorem keepers_agree_shared :
    let steps : List Store.Step := [⟨⟨0⟩, .create ⟨7, "like", some ⟨5000⟩, [1]⟩⟩,
      ⟨⟨0⟩, .create ⟨8, "like", some ⟨-9000⟩, []⟩⟩, ⟨⟨0⟩, .create ⟨7, "follow", some ⟨5000⟩, []⟩⟩,
      ⟨⟨0⟩, .create ⟨7, "", some ⟨2000⟩, []⟩⟩, ⟨⟨0⟩, .markRead 1⟩, ⟨⟨0⟩, .markRead 1⟩,
      ⟨⟨0⟩, .find 1⟩, ⟨⟨0⟩, .find 5⟩, ⟨⟨0⟩, .page 7 1 1⟩, ⟨⟨0⟩, .markAllRead 7⟩, ⟨⟨0⟩, .delete 3⟩,
      ⟨⟨0⟩, .delete 3⟩, ⟨⟨0⟩, .markRead 3⟩, ⟨⟨0⟩, .countUnread 7⟩]
    (∀ x ∈ steps, x.request.Storable) ∧
      exchanges SharedTable.answer { clock := fun n => ⟨n⟩ } (steps.map (·.request)) =
        [⟨.create ⟨7, "like", some ⟨5000⟩, [1]⟩, .ok (.ok 1)⟩,
          ⟨.create ⟨8, "like", some ⟨-9000⟩, []⟩, .ok (.ok 2)⟩,
          ⟨.create ⟨7, "follow", some ⟨5000⟩, []⟩, .ok (.ok 3)⟩,
          ⟨.create ⟨7, "", some ⟨2000⟩, []⟩, .ok (.ok 4)⟩, ⟨.markRead 1, .ok (.ok ())⟩,
          ⟨.markRead 1, .ok (.ok ())⟩, ⟨.find 1, .ok (.ok ⟨1, 7, "like", true, ⟨5000⟩, [1]⟩)⟩,
          ⟨.find 5, .ok (.error .notificationNotFound)⟩,
          ⟨.page 7 1 1, .ok (.ok ⟨[⟨1, 7, "like", true, ⟨5000⟩, [1]⟩], 3⟩)⟩,
          ⟨.markAllRead 7, .ok (.ok 2)⟩, ⟨.delete 3, .ok (.ok ())⟩,
          ⟨.delete 3, .ok (.error .notificationNotFound)⟩,
          ⟨.markRead 3, .ok (.error .notificationNotFound)⟩, ⟨.countUnread 7, .ok (.ok 0)⟩] := by
  intro steps
  have hstorable : ∀ x ∈ steps, x.request.Storable := by decide
  refine ⟨hstorable, (keepers_agree evaluates_shared ⟨rfl, rfl⟩ hstorable).trans ?_⟩
  cbv

end

end Database

end NotificationFeed
