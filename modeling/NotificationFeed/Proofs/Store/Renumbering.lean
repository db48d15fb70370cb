import Mathlib
import NotificationFeed.Proofs.Store.Run
/-!
# Stores — notifications under other identifiers

An identifier is a number that was counted up to, so it tells how many others
were given out before it. Requests, answers and whole exchanges can be read
under other numbers. The numbers that a user's notifications would have if
there were no others is their rank among themselves (`rank`): it keeps their
order, and it grows by one where one of them is created and nowhere else.
-/

namespace NotificationFeed

/-- The same notification under another number. -/
def Notification.renumber (number : Int → Int) (n : Notification) : Notification :=
  { n with id := number n.id }

/-- The same page with other numbers. -/
def Feed.renumber (number : Int → Int) (part : Feed) : Feed :=
  { part with notifications := part.notifications.map (·.renumber number) }

namespace Store

namespace Request

/-- The same request about the same notification under another number. -/
def renumber (number : Int → Int) : Request → Request
  | create draft => create draft
  | find id => find (number id)
  | page userId limit offset => page userId limit offset
  | markRead id => markRead (number id)
  | markAllRead userId => markAllRead userId
  | delete id => delete (number id)
  | countUnread userId => countUnread userId

/-- The same reply with other numbers. -/
def renumberReply (number : Int → Int) : (r : Request) → r.Reply → (r.renumber number).Reply
  | create _, reply => reply.map number
  | find _, reply => reply.map (·.renumber number)
  | page .., reply => reply.map (·.renumber number)
  | markRead _, reply | delete _, reply => reply
  | markAllRead _, reply => reply
  | countUnread _, reply => reply

/-- The request names the user, or one of these identifiers. -/
def concerns (userId : Int) (ids : List Int) : Request → Bool
  | create draft => draft.userId == userId
  | page u .. | markAllRead u | countUnread u => u == userId
  | find id | markRead id | delete id => ids.contains id

end Request

/-- The same exchange with other numbers. -/
def Exchange.renumber (number : Int → Int) (x : Exchange) : Exchange :=
  ⟨x.call.renumber number, x.call.renumberReply number x.reply⟩

/-- The identifier that an exchange gave out for a notification of the user. -/
def createdFor? (userId : Int) : Exchange → Option Int
  | ⟨.create draft, .ok id⟩ => if draft.userId = userId then some id else none
  | _ => none

/-- **The identifiers of all notifications that were created for a user.** -/
def created (userId : Int) (xs : List Exchange) : List Int := xs.filterMap (createdFor? userId)

/-- **The rank of an identifier**: how many of these are not greater. -/
def rank (ids : List Int) (id : Int) : Int := ids.countP (· ≤ id)

variable {s : Store} {userId i : Int} {x : Step} {steps : List Step} {ids : List Int}

/-! ## What is created -/

theorem createdFor?_eq_some : createdFor? userId ⟨x.request, x.reply s⟩ = some i ↔
    ∃ draft, x.request = .create draft ∧ draft.userId = userId ∧ s.lastId + 1 = i := by
  obtain ⟨now, request⟩ := x
  cases request with
  | create draft =>
    show (if draft.userId = userId then some (s.lastId + 1) else none) = some i ↔ _
    simp
  | _ => simp [createdFor?]

theorem mem_created_cons : i ∈ created userId (s.exchanges (x :: steps)) ↔
    (∃ draft, x.request = .create draft ∧ draft.userId = userId ∧ s.lastId + 1 = i) ∨
      i ∈ created userId ((x.next s).exchanges steps) := by
  rw [← createdFor?_eq_some, exchanges_cons]
  simp only [created, List.mem_filterMap, List.exists_mem_cons_iff]

/-- A creation counts up. -/
theorem Step.next_lastId {draft : Draft} (h : x.request = .create draft) :
    (x.next s).lastId = s.lastId + 1 := by
  rw [next, h]
  rfl

/-- And nothing counts down. -/
theorem Step.lastId_le (x : Step) (s : Store) : s.lastId ≤ (x.next s).lastId :=
  (perform_makes x.now x.request s).evolves.lastId_le

/-- **What is created from now on is new.** -/
theorem lt_of_mem_created (h : i ∈ created userId (s.exchanges steps)) : s.lastId < i := by
  induction steps generalizing s with
  | nil => cases h
  | cons x steps ih =>
    rcases mem_created_cons.1 h with ⟨draft, -, -, rfl⟩ | hlater
    · omega
    · have hnew := ih hlater
      have hle := x.lastId_le s
      omega

theorem nodup_created (s : Store) (steps : List Step) (userId : Int) :
    (created userId (s.exchanges steps)).Nodup := by
  induction steps generalizing s with
  | nil => exact .nil
  | cons x steps ih =>
    rw [exchanges_cons, created, List.filterMap_cons]
    cases hfirst : createdFor? userId ⟨x.request, x.reply s⟩ with
    | none => exact ih _
    | some i =>
      refine List.nodup_cons.2 ⟨fun hlater => ?_, ih _⟩
      obtain ⟨draft, hdraft, -, rfl⟩ := createdFor?_eq_some.1 hfirst
      have hnew := lt_of_mem_created hlater
      rw [x.next_lastId hdraft] at hnew
      omega

/-! ## The rank -/

theorem countP_le_succ (ids : List Int) (i : Int) :
    ids.countP (· ≤ i + 1) = ids.countP (· ≤ i) + ids.count (i + 1) := by
  induction ids with
  | nil => rfl
  | cons j ids ih =>
    rw [List.countP_cons, List.countP_cons, List.count_cons, ih]
    simp only [decide_eq_true_eq, beq_iff_eq]
    split <;> split <;> split <;> omega

/-- The rank grows by one where there is an identifier. -/
theorem rank_succ (h : ids.Nodup) (i : Int) :
    rank ids (i + 1) = rank ids i + if i + 1 ∈ ids then 1 else 0 := by
  rw [rank, rank, countP_le_succ]
  split
  · rename_i hmem
    rw [List.count_eq_one_of_mem h hmem]
    rfl
  · rename_i hmem
    rw [List.count_eq_zero_of_not_mem hmem]
    rfl

theorem rank_mono {j : Int} (h : i ≤ j) : rank ids i ≤ rank ids j := by
  refine Int.ofNat_le.2 (List.countP_mono_left fun k _ hk => ?_)
  simp only [decide_eq_true_eq] at hk ⊢
  omega

/-- **The rank keeps the order of the identifiers.** -/
theorem rank_strictMonoOn (h : ids.Nodup) : StrictMonoOn (rank ids) {i | i ∈ ids} := by
  intro i _ j (hj : j ∈ ids) hlt
  have hgrows := rank_succ h (j - 1)
  rw [Int.sub_add_cancel, if_pos hj] at hgrows
  have hle : rank ids i ≤ rank ids (j - 1) := rank_mono (by omega)
  omega

/-- Below all of them the rank is zero. -/
theorem rank_eq_zero (h : ∀ j ∈ ids, i < j) : rank ids i = 0 := by
  refine Int.natCast_eq_zero.2 (List.countP_eq_zero.2 fun j hj => ?_)
  have := h j hj
  simp only [decide_eq_true_eq]
  omega

end Store

end NotificationFeed
