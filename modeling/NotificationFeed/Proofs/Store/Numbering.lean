import Mathlib.Data.List.Nodup
import NotificationFeed.Store
/-!
# Stores — identifiers and what time leaves of a notification

An operation that changes a store does one of three things (`Deed`): it
appends one notification under the next identifier, it drops one, or it marks
some as read. Each keeps the store well numbered, and each keeps what is left of the
notifications as they were (`Evolves`): the counter never goes back, and a
notification whose identifier was already given out is a continuation of one
that was there. Both are transitive, so they hold between any two moments.
-/

namespace NotificationFeed

/-- **A notification later in its life**: only the flag may have changed, and
never back to unread. -/
structure Notification.Continues (n n' : Notification) : Prop where
  id : n'.id = n.id
  userId : n'.userId = n.userId
  kind : n'.kind = n.kind
  createdAt : n'.createdAt = n.createdAt
  payload : n'.payload = n.payload
  isRead : n.isRead = true → n'.isRead = true

namespace Notification.Continues

variable {n n' n'' : Notification}

theorem refl (n : Notification) : n.Continues n := ⟨rfl, rfl, rfl, rfl, rfl, fun h => h⟩

theorem trans (h : n.Continues n') (h' : n'.Continues n'') : n.Continues n'' :=
  ⟨h'.id.trans h.id, h'.userId.trans h.userId, h'.kind.trans h.kind,
    h'.createdAt.trans h.createdAt, h'.payload.trans h.payload, h'.isRead ∘ h.isRead⟩

end Notification.Continues

namespace Store

variable {s s' s'' : Store} {now : Instant} {draft : Draft} {which : Notification → Bool}
variable {id : Int}

/-! ## The numbering -/

/-- **Identifiers are positive, no greater than the last one given out, and
ascend in the order of creation**; so no two notifications share one. -/
structure WellNumbered (s : Store) : Prop where
  positive : ∀ n ∈ s.rows, 0 < n.id
  bounded : ∀ n ∈ s.rows, n.id ≤ s.lastId
  ascending : s.rows.Pairwise (·.id < ·.id)
  nonneg : 0 ≤ s.lastId

theorem wellNumbered_empty : ({} : Store).WellNumbered where
  positive := by simp
  bounded := by simp
  ascending := .nil
  nonneg := by decide

theorem WellNumbered.nodup (h : s.WellNumbered) : (s.rows.map (·.id)).Nodup := by
  rw [List.Nodup, List.pairwise_map]
  exact h.ascending.imp fun hlt => by omega

/-- Two stored notifications with one identifier are one notification. -/
theorem WellNumbered.eq_of_id (h : s.WellNumbered) {n n' : Notification} (hn : n ∈ s.rows)
    (hn' : n' ∈ s.rows) (hid : n.id = n'.id) : n = n' :=
  List.inj_on_of_nodup_map h.nodup hn hn' hid

/-! ## The three things that happen to a store -/

theorem mem_create {n : Notification} :
    n ∈ (s.create draft now).2.rows ↔ n ∈ s.rows ∨ n = {
      id := s.lastId + 1, userId := draft.userId, kind := draft.kind, isRead := false
      createdAt := draft.createdAt.getD now, payload := draft.payload } := by
  simp [create]

theorem mem_erase {n : Notification} : n ∈ (s.erase id).rows ↔ n ∈ s.rows ∧ n.id ≠ id := by
  simp [erase]

/-- Marking changes the flag of a notification and nothing else. -/
theorem continues_mark (which : Notification → Bool) (n : Notification) :
    n.Continues (if which n then { n with isRead := true } else n) := by
  split
  · exact ⟨rfl, rfl, rfl, rfl, rfl, fun _ => rfl⟩
  · exact .refl n

theorem mem_markWhere {n' : Notification} (h : n' ∈ (s.markWhere which).rows) :
    ∃ n ∈ s.rows, n.Continues n' := by
  simp only [markWhere, List.mem_map] at h
  obtain ⟨n, hn, rfl⟩ := h
  exact ⟨n, hn, continues_mark which n⟩

theorem WellNumbered.create (h : s.WellNumbered) : (s.create draft now).2.WellNumbered where
  positive := by
    intro n hn
    have := h.nonneg
    rcases mem_create.1 hn with hn | rfl
    · exact h.positive n hn
    · show 0 < s.lastId + 1
      omega
  bounded := by
    intro n hn
    show n.id ≤ s.lastId + 1
    rcases mem_create.1 hn with hn | rfl
    · have := h.bounded n hn
      omega
    · exact Int.le_refl _
  ascending := by
    refine List.pairwise_append.2 ⟨h.ascending, List.pairwise_singleton _ _, ?_⟩
    intro n hn n' hn'
    rw [List.mem_singleton] at hn'
    subst hn'
    have := h.bounded n hn
    show n.id < s.lastId + 1
    omega
  nonneg := by
    have := h.nonneg
    show 0 ≤ s.lastId + 1
    omega

theorem WellNumbered.erase (h : s.WellNumbered) : (s.erase id).WellNumbered where
  positive n hn := h.positive n (mem_erase.1 hn).1
  bounded n hn := h.bounded n (mem_erase.1 hn).1
  ascending := h.ascending.filter _
  nonneg := h.nonneg

theorem WellNumbered.markWhere (h : s.WellNumbered) : (s.markWhere which).WellNumbered where
  positive n' hn' := by
    obtain ⟨n, hn, hc⟩ := mem_markWhere hn'
    rw [hc.id]
    exact h.positive n hn
  bounded n' hn' := by
    obtain ⟨n, hn, hc⟩ := mem_markWhere hn'
    rw [hc.id]
    exact h.bounded n hn
  ascending := by
    refine List.pairwise_map.2 (h.ascending.imp fun {a b} hab => ?_)
    split <;> split <;> exact hab
  nonneg := h.nonneg

/-! ## Between two moments -/

/-- **What a later store owes an earlier one**: the counter has not gone back,
and every notification under an identifier that was already given out
continues one that was there. Nothing comes back once it is gone. -/
structure Evolves (s s' : Store) : Prop where
  lastId_le : s.lastId ≤ s'.lastId
  origin : ∀ n' ∈ s'.rows, n'.id ≤ s.lastId → ∃ n ∈ s.rows, n.Continues n'

namespace Evolves

theorem refl (s : Store) : s.Evolves s := ⟨Int.le_refl _, fun n hn _ => ⟨n, hn, .refl n⟩⟩

theorem trans (h : s.Evolves s') (h' : s'.Evolves s'') : s.Evolves s'' where
  lastId_le := Int.le_trans h.lastId_le h'.lastId_le
  origin n'' hn'' hle := by
    obtain ⟨n', hn', hc'⟩ := h'.origin n'' hn'' (Int.le_trans hle h.lastId_le)
    obtain ⟨n, hn, hc⟩ := h.origin n' hn' (by rw [← hc'.id]; exact hle)
    exact ⟨n, hn, hc.trans hc'⟩

/-- An identifier that was given out and is not in use is never in use again. -/
theorem absent (h : s.Evolves s') (hle : id ≤ s.lastId) (habs : ∀ n ∈ s.rows, n.id ≠ id) :
    ∀ n' ∈ s'.rows, n'.id ≠ id := by
  rintro n' hn' rfl
  obtain ⟨n, hn, hc⟩ := h.origin n' hn' hle
  exact habs n hn hc.id.symm

/-- The notification under an identifier is, at any later moment, that same one. -/
theorem continues (h : s.Evolves s') (hs : s.WellNumbered) {n n' : Notification}
    (hn : n ∈ s.rows) (hn' : n' ∈ s'.rows) (hid : n'.id = n.id) : n.Continues n' := by
  obtain ⟨m, hm, hc⟩ := h.origin n' hn' (by rw [hid]; exact hs.bounded n hn)
  rw [hs.eq_of_id hn hm (by rw [← hid, hc.id])]
  exact hc

end Evolves

theorem evolves_create : s.Evolves (s.create draft now).2 where
  lastId_le := by
    show s.lastId ≤ s.lastId + 1
    omega
  origin n' hn' hle := by
    rcases mem_create.1 hn' with hn | rfl
    · exact ⟨n', hn, .refl n'⟩
    · have : s.lastId + 1 ≤ s.lastId := hle
      omega

theorem evolves_erase : s.Evolves (s.erase id) where
  lastId_le := Int.le_refl _
  origin n' hn' _ := ⟨n', (mem_erase.1 hn').1, .refl n'⟩

theorem evolves_markWhere : s.Evolves (s.markWhere which) where
  lastId_le := Int.le_refl _
  origin _ hn' _ := mem_markWhere hn'

/-! ## Deeds -/

/-- What an operation did to the store, as its caller can tell from the answer. -/
inductive Deed where
  | nothing
  /-- It gave out notifications with these identifiers and changed nothing. -/
  | showed (ids : List Int)
  | created (id : Int)
  | removed (id : Int)
  /-- Some notifications were marked as read. -/
  | marked
  deriving DecidableEq, Repr

/-- What a deed makes of a store. -/
def Deed.Makes : Deed → Store → Store → Prop
  | nothing, s, s' => s' = s
  | showed ids, s, s' => (∀ id ∈ ids, ∃ n ∈ s.rows, n.id = id) ∧ s' = s
  | created id, s, s' => ∃ draft now, s.create draft now = (id, s')
  | removed id, s, s' => (∃ n ∈ s.rows, n.id = id) ∧ s' = s.erase id
  | marked, s, s' => ∃ which, s' = s.markWhere which

/-- **A deed keeps the numbering.** -/
theorem Deed.Makes.wellNumbered {deed : Deed} (h : deed.Makes s s') (hs : s.WellNumbered) :
    s'.WellNumbered := by
  cases deed with
  | nothing =>
    obtain rfl : s' = s := h
    exact hs
  | showed ids =>
    obtain ⟨-, rfl⟩ := h
    exact hs
  | created id =>
    obtain ⟨draft, now, hcreate⟩ := h
    have hnew : (s.create draft now).2.WellNumbered := hs.create
    rwa [hcreate] at hnew
  | removed id =>
    obtain ⟨-, rfl⟩ := h
    exact hs.erase
  | marked =>
    obtain ⟨which, rfl⟩ := h
    exact hs.markWhere

/-- **And the notifications that were there.** -/
theorem Deed.Makes.evolves {deed : Deed} (h : deed.Makes s s') : s.Evolves s' := by
  cases deed with
  | nothing =>
    obtain rfl : s' = s := h
    exact .refl _
  | showed ids =>
    obtain ⟨-, rfl⟩ := h
    exact .refl _
  | created id =>
    obtain ⟨draft, now, hcreate⟩ := h
    have hnew : s.Evolves (s.create draft now).2 := evolves_create
    rwa [hcreate] at hnew
  | removed id =>
    obtain ⟨-, rfl⟩ := h
    exact evolves_erase
  | marked =>
    obtain ⟨which, rfl⟩ := h
    exact evolves_markWhere

/-- How many notifications a deed created. -/
def Deed.creations : Deed → Nat
  | created _ => 1
  | nothing | showed _ | removed _ | marked => 0

/-- **The counter of identifiers counts what is created.** -/
theorem Deed.Makes.lastId_eq {deed : Deed} (h : deed.Makes s s') :
    s'.lastId = s.lastId + deed.creations := by
  cases deed with
  | nothing =>
    obtain rfl : s' = s := h
    exact (Int.add_zero _).symm
  | showed ids =>
    obtain ⟨-, rfl⟩ := h
    exact (Int.add_zero _).symm
  | created id =>
    obtain ⟨draft, now, hcreate⟩ := h
    obtain ⟨-, rfl⟩ := Prod.mk.inj hcreate
    rfl
  | removed id =>
    obtain ⟨-, rfl⟩ := h
    exact (Int.add_zero _).symm
  | marked =>
    obtain ⟨which, rfl⟩ := h
    exact (Int.add_zero _).symm

/-- A notification that is not removed stays, as a continuation of itself. -/
theorem Deed.Makes.keeps {deed : Deed} (h : deed.Makes s s') {n : Notification}
    (hn : n ∈ s.rows) (hdeed : deed ≠ .removed n.id) : ∃ n' ∈ s'.rows, n.Continues n' := by
  cases deed with
  | nothing =>
    obtain rfl : s' = s := h
    exact ⟨n, hn, .refl n⟩
  | showed ids =>
    obtain ⟨-, rfl⟩ := h
    exact ⟨n, hn, .refl n⟩
  | created id =>
    obtain ⟨draft, now, hcreate⟩ := h
    have hstays : n ∈ (s.create draft now).2.rows := mem_create.2 (.inl hn)
    rw [hcreate] at hstays
    exact ⟨n, hstays, .refl n⟩
  | removed id =>
    obtain ⟨-, rfl⟩ := h
    have hother : n.id ≠ id := fun hid => hdeed (by rw [hid])
    exact ⟨n, mem_erase.2 ⟨hn, hother⟩, .refl n⟩
  | marked =>
    obtain ⟨which, rfl⟩ := h
    exact ⟨_, List.mem_map_of_mem hn, continues_mark which n⟩

/-- **Where a notification comes from**: it was created just now and starts
unread, or it continues one that was there. -/
theorem Deed.Makes.origin {deed : Deed} (h : deed.Makes s s') {n' : Notification}
    (hn' : n' ∈ s'.rows) :
    (deed = .created n'.id ∧ n'.isRead = false) ∨ ∃ n ∈ s.rows, n.Continues n' := by
  cases deed with
  | nothing =>
    obtain rfl : s' = s := h
    exact .inr ⟨n', hn', .refl n'⟩
  | showed ids =>
    obtain ⟨-, rfl⟩ := h
    exact .inr ⟨n', hn', .refl n'⟩
  | created id =>
    obtain ⟨draft, now, hcreate⟩ := h
    obtain ⟨rfl, rfl⟩ := Prod.mk.inj hcreate
    rcases mem_create.1 hn' with hn | rfl
    · exact .inr ⟨n', hn, .refl n'⟩
    · exact .inl ⟨rfl, rfl⟩
  | removed id =>
    obtain ⟨-, rfl⟩ := h
    exact .inr ⟨n', (mem_erase.1 hn').1, .refl n'⟩
  | marked =>
    obtain ⟨which, rfl⟩ := h
    exact .inr (mem_markWhere hn')

/-- **A created identifier is the next one**, and a notification is under it, unread. -/
theorem created_makes {id : Int} (h : (Deed.created id).Makes s s') :
    s.lastId < id ∧ s'.lastId = id ∧ ∃ n ∈ s'.rows, n.id = id ∧ n.isRead = false := by
  obtain ⟨draft, now, hcreate⟩ := h
  obtain ⟨rfl, rfl⟩ := Prod.mk.inj hcreate
  refine ⟨?_, rfl, _, mem_create.2 (.inr rfl), rfl, rfl⟩
  show s.lastId < s.lastId + 1
  omega

/-- **A removed identifier was in use and is no longer.** -/
theorem removed_makes {id : Int} (h : (Deed.removed id).Makes s s') :
    (∃ n ∈ s.rows, n.id = id) ∧ ∀ n ∈ s'.rows, n.id ≠ id := by
  obtain ⟨hfound, rfl⟩ := h
  exact ⟨hfound, fun n hn => (mem_erase.1 hn).2⟩

/-! ## Requests -/

theorem mem_of_find? {n : Notification} (h : s.find? id = some n) : n ∈ s.rows ∧ n.id = id :=
  ⟨List.mem_of_find?_eq_some h, by simpa using List.find?_some h⟩

theorem find?_eq_none (h : ∀ n ∈ s.rows, n.id ≠ id) : s.find? id = none := by
  simpa [find?] using h

/-- One identifier picks one notification at most. -/
theorem WellNumbered.filter_id (h : s.WellNumbered) (id : Int) :
    s.rows.filter (·.id == id) = (s.find? id).toList := by
  have hrows := h.ascending
  rw [find?]
  generalize s.rows = rows at hrows
  induction rows with
  | nil => rfl
  | cons n rows ih =>
    rw [List.pairwise_cons] at hrows
    by_cases hid : n.id = id
    · have hlater : rows.filter (·.id == id) = [] := by
        refine List.filter_eq_nil_iff.2 fun m hm => ?_
        have := hrows.1 m hm
        simp only [beq_iff_eq]
        omega
      simp [hid, hlater]
    · simp [hid, ih hrows.2]

/-- A page shows what is stored. -/
theorem mem_of_mem_page {userId limit offset : Int} {n : Notification}
    (h : n ∈ (s.page userId limit offset).notifications) : n ∈ s.rows := by
  have hfeed : n ∈ s.feed userId := List.mem_of_mem_drop (List.mem_of_mem_take h)
  rw [feed, List.mem_mergeSort] at hfeed
  exact (List.mem_filter.1 hfeed).1

/-- What a successful request did. -/
def Request.deed : (r : Request) → r.Answer → Deed
  | .create _, id => .created id
  | .delete id, _ => .removed id
  | .markRead _, _ | .markAllRead _, _ => .marked
  | .find _, n => .showed [n.id]
  | .page .., feed => .showed (feed.notifications.map (·.id))
  | .countUnread _, _ => .nothing

/-- **What a request does to the store is what its reply says**; a refused one
does nothing. -/
theorem perform_makes (now : Instant) (r : Request) (s : Store) :
    (match (perform now r s).1 with
      | .ok a => r.deed a
      | .error _ => .nothing).Makes s (perform now r s).2 := by
  cases r with
  | create draft => exact ⟨draft, now, rfl⟩
  | find id =>
    simp only [perform]
    cases hfind : s.find? id with
    | none => rfl
    | some n =>
      refine ⟨fun i hi => ?_, rfl⟩
      rw [List.mem_singleton.1 hi]
      exact ⟨n, (mem_of_find? hfind).1, rfl⟩
  | page userId limit offset =>
    refine ⟨fun i hi => ?_, rfl⟩
    obtain ⟨n, hn, rfl⟩ := List.mem_map.1 hi
    exact ⟨n, mem_of_mem_page hn, rfl⟩
  | markRead id =>
    simp only [perform]
    cases s.find? id with
    | none => rfl
    | some n => exact ⟨_, rfl⟩
  | markAllRead userId => exact ⟨_, rfl⟩
  | delete id =>
    simp only [perform]
    cases hfind : s.find? id with
    | none => rfl
    | some n => exact ⟨⟨n, mem_of_find? hfind⟩, rfl⟩
  | countUnread userId => rfl

/-- The identifier a request asks about, if its answer depends on one notification. -/
def Request.subject? : Request → Option Int
  | .find id | .markRead id | .delete id => some id
  | .create _ | .page .. | .markAllRead _ | .countUnread _ => none

/-- **A request about a notification that is not there is told so.** -/
theorem perform_absent {r : Request} (hsubject : r.subject? = some id)
    (habs : ∀ n ∈ s.rows, n.id ≠ id) (now : Instant) :
    perform now r s = (.error .notificationNotFound, s) := by
  have hfind := find?_eq_none habs
  cases r with
  | find i | markRead i | delete i =>
    obtain rfl : i = id := Option.some.inj hsubject
    simp only [perform, hfind]
  | _ => cases hsubject

end Store

end NotificationFeed
