import NotificationFeed.Proofs.History.Anew
import NotificationFeed.Proofs.Service.Paging
/-!
# Histories — the most recent first

A feed is sorted by the moments of its notifications, and the moments are read
off a clock. Where no command brings a moment of its own (`Command.Undated`)
and the clock never goes back, the moments ascend in the order of creation
(`World.after_dated`). Two that coincide are told apart by the identifiers,
which ascend too, so sorting a feed turns the order of creation around and
does nothing else (`Store.feed_eq_reverse`).

What was created and what was removed is read off the answers of the commands
(`World.births`, `World.removals`), never off the store, so a feed is known
from the answers alone (`feed_most_recent`).
-/

namespace NotificationFeed

/-! ## Commands without a moment -/

/-- **A command that brings no moment**: what it creates, if anything, is created through an
operation, which reads the clock. -/
def Command.Undated : Command → Prop
  | keeper request => ∀ draft, request ≠ .create draft
  | service (.save draft) => draft.createdAt = none
  | service _ | remote _ | event _ => True

namespace Core

variable {α β : Type}

/-- What it has stored brings no moment, and it asks for no creation itself. -/
def Undated : Core α → Prop
  | settled _ => True
  | asks request _ => ∀ draft, request ≠ .create draft
  | stores draft _ => draft.createdAt = none

/-- The draft that it has stored. -/
def wanted : Core α → Option Draft
  | settled _ | asks .. => none
  | stores draft _ => some draft

theorem undated_map {g : Core α} (f : α → β) (h : g.Undated) : (g.map f).Undated := by
  cases g <;> exact h

theorem wanted_map (f : α → β) (g : Core α) : (g.map f).wanted = g.wanted := by
  cases g <;> rfl

end Core

namespace Service

theorem inquiryCore_undated {α : Type} {subject : Int} {reason : String} {request : Store.Request}
    {view : request.Answer → α} (h : ∀ draft, request ≠ .create draft) :
    (inquiryCore subject reason request view).Undated := by
  unfold inquiryCore
  split
  · exact h
  · trivial

theorem inquiryCore_wanted {α : Type} {subject : Int} {reason : String} {request : Store.Request}
    {view : request.Answer → α} : (inquiryCore subject reason request view).wanted = none := by
  unfold inquiryCore
  split <;> rfl

theorem saveCore_undated {draft : Draft} (h : draft.createdAt = none) :
    (saveCore draft).Undated := by
  unfold saveCore
  split
  · split
    · trivial
    · exact h
  · trivial

theorem wanted_of_saveCore {draft wanted : Draft} (h : (saveCore draft).wanted = some wanted) :
    wanted = draft := by
  unfold saveCore at h
  split at h
  · split at h
    · cases h
    · exact (Option.some.inj h).symm
  · cases h

namespace Request

theorem core_undated {r : Request} (h : (Command.service r).Undated) : r.core.Undated := by
  cases r with
  | save draft => exact saveCore_undated h
  | _ => exact inquiryCore_undated nofun

theorem wanted_of_core {r : Request} {draft : Draft} (h : r.core.wanted = some draft) :
    r.wanted = some draft := by
  cases r with
  | save wanted => exact congrArg some (wanted_of_saveCore h).symm
  | _ => exact absurd (inquiryCore_wanted.symm.trans h) nofun

end Request

end Service

namespace Event

/-- An event brings no moment. -/
theorem createdAt_of_read {content : Bytes} {draft : Draft} (h : read content = .ok draft) :
    draft.createdAt = none := by
  obtain ⟨_, _, _, _, -, -, -, -, -, -, rfl⟩ := of_read_eq_ok h
  rfl

end Event

namespace Command

/-- **Without its asides** a command that brings no moment brings none. -/
theorem core_undated {c : Command} (h : c.Undated) : c.core.Undated := by
  cases c with
  | keeper request => exact h
  | service r => exact Service.Request.core_undated h
  | remote r =>
    refine Core.undated_map _ ?_
    unfold Rpc.Request.performCore
    split
    · trivial
    · refine Core.undated_map _ (Service.Request.core_undated ?_)
      cases r <;> trivial
  | event content =>
    show (Event.core content).Undated
    unfold Event.core
    split
    · trivial
    · rename_i hread
      exact Service.saveCore_undated (Event.createdAt_of_read hread)

/-- What a command has stored is what it wants stored. -/
theorem wanted_of_core {c : Command} {draft : Draft} (h : c.core.wanted = some draft) :
    c.wanted = some draft := by
  cases c with
  | keeper request => cases h
  | service r => exact Service.Request.wanted_of_core h
  | remote r =>
    replace h : r.performCore.wanted = some draft := (Core.wanted_map _ _).symm.trans h
    unfold Rpc.Request.performCore at h
    show r.wanted = _
    unfold Rpc.Request.wanted
    split at h
    · cases h
    · rename_i hcheck
      rw [hcheck]
      exact Service.Request.wanted_of_core ((Core.wanted_map _ _).symm.trans h)
  | event content =>
    replace h : (Event.core content).wanted = some draft := h
    unfold Event.core at h
    show (Event.read content).toOption = _
    split at h
    · cases h
    · rename_i hread
      rw [hread, Service.wanted_of_saveCore h]
      rfl

end Command

/-! ## One step -/

namespace World

/-- A request that is answered alike at all times leaves the clock alone. The store is what the
request makes of it, or as it was. -/
theorem answer_store_timeless {request : Store.Request} (h : request.Timeless) (w : World) :
    (answer (.store request) w).2.clock = w.clock ∧
      (answer (.store request) w).2.readings = w.readings ∧
      ((answer (.store request) w).2.store = w.store ∨
        (answer (.store request) w).2.store = (Store.perform ⟨0⟩ request w.store).2) := by
  simp only [answer, record, elapse]
  split
  · exact ⟨rfl, rfl, .inl rfl⟩
  · exact ⟨rfl, rfl, .inl rfl⟩
  · unfold perform
    split
    · cases h
    · exact ⟨rfl, rfl, .inr rfl⟩

end World

/-- A request that is no creation gives no identifier out. -/
theorem Store.lastId_perform {request : Request} (h : ∀ draft, request ≠ .create draft)
    (now : Instant) (s : Store) : (perform now request s).2.lastId = s.lastId := by
  cases request with
  | create draft => exact absurd rfl (h draft)
  | find id | markRead id | delete id =>
    simp only [perform]
    cases s.find? id <;> rfl
  | page userId limit offset => rfl
  | markAllRead userId => rfl
  | countUnread userId => rfl

theorem Store.Request.timeless_of_ne {request : Request} (h : ∀ draft, request ≠ .create draft) :
    request.Timeless := by
  cases request with
  | create draft => exact absurd rfl (h draft)
  | _ => trivial

/-- **What comes between two worlds when a draft may have been stored**: the clock is the same and
was read no less, and an identifier is given out for the draft alone, with the moment that the
clock showed then. -/
structure World.Stores (w v : World) (wanted : Option Draft) : Prop where
  clock : v.clock = w.clock
  readings : w.readings ≤ v.readings
  created : v.store.lastId = w.store.lastId ∨ ∃ draft, wanted = some draft ∧
    v.readings = w.readings + 1 ∧
    v.store = (w.store.create { draft with createdAt := some (w.clock w.readings) } ⟨0⟩).2

namespace Core

variable {α : Type}

/-- A core that ends with a request ends with what the request leaves. -/
theorem run_ask_done (c : Service.Call) (view : c.Reply → α) (w : World) :
    ((Program.ask (I := Service.surroundings) c fun reply => .done (view reply)).run
      World.answer w).2 = (World.answer c w).2 := by
  rw [Program.run_ask]
  rcases World.answer c w with ⟨_ | _, _⟩ <;> rfl

theorem run_program_stores {g : Core α} (h : g.Undated) (w : World) :
    w.Stores (g.program.run World.answer w).2 g.wanted := by
  cases g with
  | settled a => exact ⟨rfl, Nat.le_refl _, .inl rfl⟩
  | asks request view =>
    obtain ⟨hclock, hreadings, hstore⟩ :=
      World.answer_store_timeless (Store.Request.timeless_of_ne h) w
    rw [program, run_ask_done]
    refine ⟨hclock, Nat.le_of_eq hreadings.symm, .inl ?_⟩
    rcases hstore with hstore | hstore
    · rw [hstore]
    · rw [hstore, Store.lastId_perform h]
  | stores draft view =>
    have hdraft : draft.createdAt = none := h
    rw [program, Program.run_ask]
    simp only [World.answer, World.record]
    cases w.directory.lookUp draft.userId with
    | error failure => exact ⟨rfl, Nat.le_refl _, .inl rfl⟩
    | ok user =>
      -- The clock is read, and the creation is asked for with what it showed.
      simp only [date, hdraft]
      rw [Program.run_ask]
      simp only [World.answer, World.record, World.readClock]
      rw [create, run_ask_done]
      have htimeless : Store.Request.Timeless
        (.create { draft with createdAt := some (w.clock w.readings) }) := rfl
      obtain ⟨hclock, hreadings, hstore⟩ := World.answer_store_timeless htimeless
        { w with
          past := .readClock :: .findUser draft.userId :: w.past
          readings := w.readings + 1 }
      refine ⟨hclock, ?_, ?_⟩
      · rw [hreadings]
        exact Nat.le_succ _
      · rcases hstore with hstore | hstore
        · exact .inl (congrArg Store.lastId hstore)
        · exact .inr ⟨draft, rfl, hreadings, hstore⟩

end Core

/-- **A step of a history in which no command brings a moment.** -/
theorem Move.stores {m : Move} (h : m.command.Undated) (w : World) :
    w.Stores (m.run w).2 m.command.wanted := by
  obtain ⟨-, hakin⟩ :=
    World.run_follows m.command.task_follows { w with directory := m.directory } m.disturbance
  have hstores := Core.run_program_stores (Command.core_undated h)
    { w with directory := m.directory, disturbance := m.disturbance }
  refine ⟨hakin.clock.trans hstores.clock, ?_, ?_⟩
  · exact Nat.le_trans hstores.readings (Nat.le_of_eq hakin.readings.symm)
  · rcases hstores.created with hsame | ⟨draft, hwanted, hread, hstore⟩
    · exact .inl ((congrArg Store.lastId hakin.store).trans hsame)
    · exact .inr ⟨draft, Command.wanted_of_core hwanted, hakin.readings.trans hread,
        hakin.store.trans hstore⟩

/-! ## The moments of a history -/

namespace Store

/-- The moments of what is stored. -/
def moments (s : Store) : List Instant := s.rows.map (·.createdAt)

/-- **A deed gives an identifier out, or leaves of the moments what it leaves, in their order.** -/
theorem Deed.Makes.moments {deed : Deed} {s s' : Store} (h : deed.Makes s s') :
    s.lastId < s'.lastId ∨ s'.moments.Sublist s.moments := by
  cases deed with
  | nothing =>
    obtain rfl : s' = s := h
    exact .inr (.refl _)
  | showed ids =>
    obtain ⟨-, rfl⟩ := h
    exact .inr (.refl _)
  | created id =>
    obtain ⟨hnew, hlast, -⟩ := created_makes h
    exact .inl (by omega)
  | removed id =>
    obtain ⟨-, rfl⟩ := h
    exact .inr (List.filter_sublist.map _)
  | marked =>
    obtain ⟨which, rfl⟩ := h
    have hsame : (s.markWhere which).moments = s.moments := by
      rw [Store.moments, markWhere, List.map_map]
      exact List.map_congr_left fun n _ => (continues_mark which n).createdAt
    exact .inr (hsame ▸ .refl _)

end Store

namespace World

variable {w v : World}

/-- **The moments were read off the clock, in the order of creation.** -/
structure Dated (w v : World) : Prop where
  clock : v.clock = w.clock
  readings : w.readings ≤ v.readings
  read : ∀ t ∈ v.store.moments, ∃ i, w.readings ≤ i ∧ i < v.readings ∧ t = w.clock i
  ascending : v.store.moments.Pairwise (· ≤ ·)

/-- **The clock never goes back**, as far as it is read from one world to another. -/
def ClockAscends (w v : World) : Prop :=
  ∀ i j, w.readings ≤ i → i ≤ j → j < v.readings → w.clock i ≤ w.clock j

/-- **A step keeps the moments in the order of creation**: what it creates is dated last. -/
theorem Dated.step (h : w.Dated v) {m : Move} (hundated : m.command.Undated)
    (hascends : w.ClockAscends (m.run v).2) : w.Dated (m.run v).2 := by
  obtain ⟨hclock, hreadings, hcreated⟩ := m.stores hundated v
  rcases hcreated with hsame | ⟨draft, -, hread, hstore⟩
  · have hleft : (m.run v).2.store.moments.Sublist v.store.moments :=
      (m.makes v).moments.resolve_left (by omega)
    refine ⟨hclock.trans h.clock, Nat.le_trans h.readings hreadings, fun t ht => ?_,
      h.ascending.sublist hleft⟩
    obtain ⟨i, hfrom, hto, rfl⟩ := h.read t (hleft.subset ht)
    exact ⟨i, hfrom, by omega, rfl⟩
  · have hmoments : (m.run v).2.store.moments = v.store.moments ++ [w.clock v.readings] := by
      rw [hstore]
      simp [Store.moments, Store.create, h.clock]
    have hlast := h.readings
    refine ⟨hclock.trans h.clock, Nat.le_trans h.readings hreadings, fun t ht => ?_, ?_⟩
    · rw [hmoments, List.mem_append, List.mem_singleton] at ht
      rcases ht with ht | rfl
      · obtain ⟨i, hfrom, hto, rfl⟩ := h.read t ht
        exact ⟨i, hfrom, by omega, rfl⟩
      · exact ⟨v.readings, hlast, by omega, rfl⟩
    · rw [hmoments]
      refine List.pairwise_append.2 ⟨h.ascending, List.pairwise_singleton _ _, fun t ht t' ht' => ?_⟩
      rw [List.mem_singleton] at ht'
      subst ht'
      obtain ⟨i, hfrom, hto, rfl⟩ := h.read t ht
      exact hascends i v.readings hfrom (Nat.le_of_lt hto) (by omega)

/-- **Along a history** without moments of its own the moments stay in the order of creation. -/
theorem after_dated {moves : List Move} (hundated : ∀ m ∈ moves, m.command.Undated)
    (hascends : w.fresh.ClockAscends (w.fresh.after moves)) :
    w.fresh.Dated (w.fresh.after moves) := by
  induction moves using List.reverseRecOn with
  | nil => exact ⟨rfl, Nat.le_refl _, nofun, .nil⟩
  | append_singleton moves m ih =>
    have hm : m.command.Undated := hundated m (by simp)
    rw [after_snoc] at hascends ⊢
    have hreadings := (m.stores hm (w.fresh.after moves)).readings
    exact (ih (fun x hx => hundated x (List.mem_append_left _ hx))
      fun i j hi hij hj => hascends i j hi hij (by omega)).step hm hascends

end World

/-! ## What was created and what was removed -/

/-- The identifier that a step gave out, with the user it is for. -/
def Move.birth? (m : Move) (w : World) : Option (Int × Int) :=
  match m.deed w, m.command.wanted with
  | .created id, some draft => some (id, draft.userId)
  | _, _ => none

/-- The identifier that a step removed. -/
def Move.removal? (m : Move) (w : World) : Option Int :=
  match m.deed w with
  | .removed id => some id
  | _ => none

namespace World

variable {w v : World}

/-- What a history gave out, in the order of creation. -/
def births (w : World) : List Move → List (Int × Int)
  | [] => []
  | m :: later => (m.birth? w).toList ++ (m.run w).2.births later

/-- What a history removed. -/
def removals (w : World) : List Move → List Int
  | [] => []
  | m :: later => (m.removal? w).toList ++ (m.run w).2.removals later

/-- **What remains of a user's notifications after a history**, in the order of creation. -/
def remaining (w : World) (moves : List Move) (userId : Int) : List Int :=
  (((w.births moves).filter fun birth => !(w.removals moves).contains birth.1).filter
    (·.2 == userId)).map (·.1)

theorem births_snoc (moves : List Move) (m : Move) (w : World) :
    w.births (moves ++ [m]) = w.births moves ++ (m.birth? (w.after moves)).toList := by
  induction moves generalizing w with
  | nil => simp [births, after]
  | cons x later ih => simp [births, ih, after]

theorem removals_snoc (moves : List Move) (m : Move) (w : World) :
    w.removals (moves ++ [m]) = w.removals moves ++ (m.removal? (w.after moves)).toList := by
  induction moves generalizing w with
  | nil => simp [removals, after]
  | cons x later ih => simp [removals, ih, after]

end World

namespace Store

/-- What is stored, and for whom. -/
def holders (s : Store) : List (Int × Int) := s.rows.map fun n => (n.id, n.userId)

/-- **A store holds what was created and not removed**, in the order of creation. -/
structure Accounts (s : Store) (births : List (Int × Int)) (removals : List Int) : Prop where
  holders : s.holders = births.filter fun birth => !removals.contains birth.1
  gone : ∀ id ∈ removals, id ≤ s.lastId

end Store

/-- **A step keeps the account.** -/
theorem Move.accounts {m : Move} (hundated : m.command.Undated) {w : World}
    (hnumbered : w.store.WellNumbered) {births : List (Int × Int)} {removals : List Int}
    (h : w.store.Accounts births removals) :
    (m.run w).2.store.Accounts (births ++ (m.birth? w).toList)
      (removals ++ (m.removal? w).toList) := by
  have hmakes := m.makes w
  cases hdeed : m.deed w with
  | nothing =>
    rw [hdeed] at hmakes
    rw [show (m.run w).2.store = w.store from hmakes]
    simpa [birth?, removal?, hdeed] using h
  | showed ids =>
    rw [hdeed] at hmakes
    rw [hmakes.2]
    simpa [birth?, removal?, hdeed] using h
  | marked =>
    rw [hdeed] at hmakes
    obtain ⟨which, hstore⟩ := hmakes
    have hholders : (w.store.markWhere which).holders = w.store.holders := by
      rw [Store.holders, Store.markWhere, List.map_map]
      refine List.map_congr_left fun n _ => ?_
      have hsame := Store.continues_mark which n
      exact Prod.ext hsame.id hsame.userId
    simp only [birth?, removal?, hdeed, Option.toList_none, List.append_nil]
    rw [hstore]
    exact ⟨hholders.trans h.holders, h.gone⟩
  | removed id =>
    rw [hdeed] at hmakes
    obtain ⟨⟨n, hn, hid⟩, hstore⟩ := hmakes
    have hholders : (w.store.erase id).holders = w.store.holders.filter (·.1 != id) := by
      rw [Store.holders, Store.erase, Store.holders, List.filter_map]
      rfl
    simp only [birth?, removal?, hdeed, Option.toList_none, Option.toList_some, List.append_nil]
    rw [hstore]
    refine ⟨?_, fun i hi => ?_⟩
    · rw [hholders, h.holders, List.filter_filter]
      refine List.filter_congr fun birth _ => ?_
      by_cases hsame : birth.1 = id <;> simp [hsame]
    · rcases List.mem_append.1 hi with hi | hi
      · exact h.gone i hi
      · rw [List.mem_singleton.1 hi, ← hid]
        exact hnumbered.bounded n hn
  | created id =>
    rw [hdeed] at hmakes
    obtain ⟨hnew, hlast, -⟩ := Store.created_makes hmakes
    -- Something was given out, so it was the draft that the command wanted stored.
    rcases (m.stores hundated w).created with hsame | ⟨draft, hwanted, -, hstore⟩
    · omega
    have hid : id = w.store.lastId + 1 := by
      rw [← hlast, hstore]
      rfl
    simp only [birth?, removal?, hdeed, hwanted, Option.toList_none, Option.toList_some,
      List.append_nil]
    refine ⟨?_, fun i hi => Int.le_trans (h.gone i hi) (by omega)⟩
    have hfresh : removals.contains id = false := by
      rw [List.contains_eq_mem, decide_eq_false_iff_not]
      intro hmem
      have := h.gone id hmem
      omega
    rw [hstore, List.filter_append, ← h.holders, hid]
    rw [hid] at hfresh
    simp only [Store.holders, Store.create, List.map_append, List.map_cons, List.map_nil,
      List.filter_cons, List.filter_nil, hfresh]
    rfl

namespace World

variable {w : World}

/-- **Along a history** a store holds what its commands were told of. -/
theorem after_accounts {moves : List Move} (hundated : ∀ m ∈ moves, m.command.Undated) :
    (w.fresh.after moves).store.Accounts (w.fresh.births moves) (w.fresh.removals moves) := by
  induction moves using List.reverseRecOn with
  | nil => exact ⟨rfl, nofun⟩
  | append_singleton moves m ih =>
    rw [after_snoc, births_snoc, removals_snoc]
    exact m.accounts (hundated m (by simp)) (w.fresh_wellNumbered moves)
      (ih fun x hx => hundated x (List.mem_append_left _ hx))

end World

/-! ## The feed -/

namespace Store

variable {s : Store}

/-- **Where the moments ascend in the order of creation, a feed is that order turned around.** -/
theorem feed_eq_reverse (hnumbered : s.WellNumbered) (hmoments : s.moments.Pairwise (· ≤ ·))
    (userId : Int) : s.feed userId = (s.ofUser userId).reverse := by
  have hrows : s.rows.Pairwise fun a b => precedes b a = true := by
    have hascending := List.pairwise_map.1 hmoments
    refine (hascending.and hnumbered.ascending).imp fun {a b} hab => ?_
    obtain ⟨hle, hlt⟩ := hab
    have hle' : a.createdAt.nanos ≤ b.createdAt.nanos := hle
    rw [precedes_iff]
    omega
  refine (eq_feed hnumbered (List.reverse_perm _) ?_).symm
  exact List.pairwise_reverse.2 (hrows.filter _)

/-- The identifiers of a user's notifications, by the account. -/
theorem ids_ofUser {births : List (Int × Int)} {removals : List Int}
    (h : s.Accounts births removals) (userId : Int) :
    (s.ofUser userId).map (·.id) =
      ((births.filter fun birth => !removals.contains birth.1).filter
        (·.2 == userId)).map (·.1) := by
  rw [← h.holders, holders, List.filter_map, List.map_map]
  rfl

end Store

/-- **A feed shows the most recent first**, over every history in which nothing is created but
through an operation that reads the clock, and in which the clock never goes back. The feed of a
user is strictly descending by identifier, and it lists what was created for the user and not
removed, the last created first, also where the clock showed the same moment twice. The first page
of it shows the most recent ones. -/
theorem feed_most_recent (w : World) (moves : List Move)
    (hundated : ∀ m ∈ moves, m.command.Undated)
    (hascends : w.fresh.ClockAscends (w.fresh.after moves)) (userId : Int) :
    ((w.fresh.after moves).store.feed userId).Perm ((w.fresh.after moves).store.ofUser userId) ∧
      ((w.fresh.after moves).store.feed userId).Pairwise (·.id > ·.id) ∧
      ((w.fresh.after moves).store.feed userId).map (·.id) =
        (w.fresh.remaining moves userId).reverse ∧
      ∀ (u : World) (d : Disturbance) (limit page : Int32),
        u.store = (w.fresh.after moves).store → d.fault = none → 0 < userId →
        Service.Window.number page = 1 →
        ∃ part, (u.run d (Service.feed userId limit page).run).1 = .ok (.ok part) ∧
          part.notifications.map (·.id) =
            (w.fresh.remaining moves userId).reverse.take (Service.Window.size limit) := by
  have hnumbered := w.fresh_wellNumbered moves
  have hfeed := Store.feed_eq_reverse hnumbered
    (World.after_dated hundated hascends).ascending userId
  have hids : ((w.fresh.after moves).store.feed userId).map (·.id) =
      (w.fresh.remaining moves userId).reverse := by
    rw [hfeed, List.map_reverse, Store.ids_ofUser (World.after_accounts hundated)]
    rfl
  refine ⟨Store.feed_perm _ _, ?_, hids, fun u d limit page hstore hfault huser hpage => ?_⟩
  · rw [hfeed]
    exact List.pairwise_reverse.2 (hnumbered.ascending.filter _)
  · refine ⟨_, (Service.run_feed huser hfault limit page).1, ?_⟩
    rw [hstore, hpage, ← hids, Store.slice, Nat.sub_self, Nat.zero_mul, List.drop_zero,
      List.map_take]

/-- A world whose clock shows each moment twice. -/
def halting : World := { clock := fun n => ⟨n / 2⟩ }

/-- Two notifications of one moment, one of a later moment for another user, one more for the
first, and the first of all removed. -/
def sendings : List Move :=
  [⟨.remote (.send 1 "like" [1]), {}, [(1, .ok ⟨1, "a", "a@b"⟩)]⟩,
    ⟨.service (.save ⟨1, "like", none, [2]⟩), {}, [(1, .ok ⟨1, "a", "a@b"⟩)]⟩,
    ⟨.remote (.send 2 "like" [3]), {}, [(2, .ok ⟨2, "b", "b@b"⟩)]⟩,
    ⟨.remote (.send 1 "like" [4]), {}, [(1, .ok ⟨1, "a", "a@b"⟩)]⟩,
    ⟨.remote (.remove 1), {}, []⟩]

theorem feed_most_recent_sendings :
    ((∀ m ∈ sendings, m.command.Undated) ∧
      halting.fresh.ClockAscends (halting.fresh.after sendings)) ∧
      ((halting.fresh.after sendings).store.feed 1).map (·.id) = [4, 2] ∧
      ∃ part, ((halting.fresh.after sendings).run {} (Service.feed 1 1 0).run).1 =
          .ok (.ok part) ∧ part.notifications.map (·.id) = [4] := by
  have hundated : ∀ m ∈ sendings, m.command.Undated := by
    simp [sendings, Command.Undated]
  have hascends : halting.fresh.ClockAscends (halting.fresh.after sendings) := by
    intro i j _ hij _
    show ((i : Int) / 2) ≤ (j : Int) / 2
    omega
  obtain ⟨-, -, hids, hpage⟩ := feed_most_recent halting sendings hundated hascends 1
  have hremaining : halting.fresh.remaining sendings 1 = [2, 4] := by rfl
  rw [hremaining] at hids hpage
  exact ⟨⟨hundated, hascends⟩, hids, hpage _ {} 1 0 rfl rfl (by decide) (by decide)⟩

end NotificationFeed
