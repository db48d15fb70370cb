import Mathlib
import NotificationFeed.Proofs.Store.Run
import NotificationFeed.Proofs.Store.Feed
/-!
# Stores — a user's accounts

What is stored for a user is what was created less what was removed. What is
unread went in by a creation and goes out once, by one of three steps: a
reading of it, a reading of all of the user's, or its removal. A step that
finds nothing, or finds it read, moves nothing.

Both accounts are balanced by every step (`Step.kept`, `Step.unread`), so they
are by every run.
-/

namespace NotificationFeed

/-- A notification of a user. -/
def Notification.isOf (userId : Int) (n : Notification) : Bool := n.userId == userId

/-- A notification of a user that was not read. -/
def Notification.isUnreadOf (userId : Int) (n : Notification) : Bool :=
  n.userId == userId && !n.isRead

namespace Store

open Notification (isOf isUnreadOf)

/-! ## The entries -/

/-- The step creates a notification for the user. -/
def creates (userId : Int) (met : Store × Step) : Bool :=
  match met.2.request with
  | .create draft => draft.userId == userId && (met.2.reply met.1).isOk
  | _ => false

/-- The step removes a notification that `which` holds of. -/
def removes (which : Notification → Bool) (met : Store × Step) : Bool :=
  match met.2.request with
  | .delete id => (met.2.reply met.1).isOk && (met.1.find? id).any which
  | _ => false

/-- The step reads, by its identifier, a notification that `which` holds of. -/
def reads (which : Notification → Bool) (met : Store × Step) : Bool :=
  match met.2.request with
  | .markRead id => (met.2.reply met.1).isOk && (met.1.find? id).any which
  | _ => false

/-- How many notifications the step answers that it read, if it reads all of the user's. -/
def readsAll (userId : Int) : Store × Step → Nat
  | (s, ⟨now, .markAllRead u⟩) =>
    if u = userId then ((perform now (.markAllRead u) s).1.toOption).getD 0 else 0
  | _ => 0

variable {s : Store} {userId : Int}

/-! ## Counting what is stored -/

theorem length_ofUser (s : Store) (userId : Int) :
    (s.ofUser userId).length = s.rows.countP (isOf userId) := List.countP_eq_length_filter.symm

theorem length_unread (s : Store) (userId : Int) :
    (s.unread userId).length = s.rows.countP (isUnreadOf userId) :=
  List.countP_eq_length_filter.symm

/-- **Leaving one out** leaves one less, if it is there and is counted. -/
theorem WellNumbered.countP_ne (h : s.WellNumbered) (which : Notification → Bool) (id : Int) :
    s.rows.countP (fun n => which n && n.id != id) + ((s.find? id).any which).toNat =
      s.rows.countP which := by
  have hone : s.rows.countP (fun n => which n && n.id == id) = ((s.find? id).any which).toNat := by
    rw [← List.countP_filter, h.filter_id]
    cases s.find? id with
    | none => rfl
    | some n => cases hn : which n <;> simp [hn]
  rw [List.countP_eq_countP_filter_add s.rows which (·.id == id), List.countP_filter,
    List.countP_filter, hone, Nat.add_comm]
  rfl

/-! ## What a step does to the counts -/

theorem countP_create (which : Notification → Bool) (draft : Draft) (now : Instant) :
    (s.create draft now).2.rows.countP which = s.rows.countP which +
      (which {
        id := s.lastId + 1, userId := draft.userId, kind := draft.kind, isRead := false
        createdAt := draft.createdAt.getD now, payload := draft.payload }).toNat := by
  rw [create, List.countP_append, List.countP_singleton]
  cases which _ <;> rfl

/-- Marking leaves a user's notifications the user's. -/
theorem countP_markWhere_isOf (which : Notification → Bool) :
    (s.markWhere which).rows.countP (isOf userId) = s.rows.countP (isOf userId) := by
  rw [markWhere, List.countP_map]
  refine List.countP_congr fun n _ => ?_
  simp only [Function.comp, isOf]
  split <;> rfl

/-- What is marked is unread no longer, and the rest is as it was. -/
theorem countP_markWhere_isUnreadOf (which : Notification → Bool) :
    (s.markWhere which).rows.countP (isUnreadOf userId) =
      s.rows.countP fun n => isUnreadOf userId n && !which n := by
  rw [markWhere, List.countP_map]
  refine List.countP_congr fun n _ => ?_
  cases hwhich : which n <;> simp [isUnreadOf, hwhich]

theorem countP_erase (h : s.WellNumbered) (which : Notification → Bool) (id : Int) :
    (s.erase id).rows.countP which + ((s.find? id).any which).toNat = s.rows.countP which := by
  rw [erase, List.countP_filter]
  exact h.countP_ne which id

theorem removes_delete (which : Notification → Bool) (s : Store) (now : Instant) (id : Int) :
    removes which (s, ⟨now, .delete id⟩) = (s.find? id).any which := by
  simp only [removes, Step.reply, perform]
  cases s.find? id <;> rfl

theorem reads_markRead (which : Notification → Bool) (s : Store) (now : Instant) (id : Int) :
    reads which (s, ⟨now, .markRead id⟩) = (s.find? id).any which := by
  simp only [reads, Step.reply, perform]
  cases s.find? id <;> rfl

theorem creates_create (userId : Int) (s : Store) (now : Instant) (draft : Draft) :
    creates userId (s, ⟨now, .create draft⟩) = (draft.userId == userId) := Bool.and_true _

theorem readsAll_markAllRead (userId : Int) (s : Store) (now : Instant) (u : Int) :
    readsAll userId (s, ⟨now, .markAllRead u⟩) =
      if u = userId then (s.unread u).length else 0 := rfl

/-- Nothing unread is left when all of a user's is marked. -/
theorem countP_unread_left (s : Store) (userId : Int) :
    s.rows.countP (fun n => isUnreadOf userId n && !n.userId == userId) = 0 := by
  refine List.countP_eq_zero.2 fun n _ => ?_
  rw [isUnreadOf]
  cases n.userId == userId <;> simp

/-- **The account of what is stored**: a creation adds to it, and a removal takes from it. -/
theorem Step.kept (x : Step) (h : s.WellNumbered) (userId : Int) :
    (x.next s).rows.countP (isOf userId) + (removes (isOf userId) (s, x)).toNat =
      s.rows.countP (isOf userId) + (creates userId (s, x)).toNat := by
  obtain ⟨now, request⟩ := x
  cases request with
  | create draft =>
    rw [creates_create]
    exact countP_create _ draft now
  | markRead id =>
    rw [next_markRead]
    exact countP_markWhere_isOf _
  | markAllRead u => exact countP_markWhere_isOf _
  | delete id =>
    rw [next_delete, removes_delete]
    exact countP_erase h _ id
  | find id =>
    rw [next_find]
    rfl
  | page u limit offset => rfl
  | countUnread u => rfl

/-- **The account of what is unread**: a creation adds to it, and each of the three ways out takes
from it what it finds there. -/
theorem Step.unread (x : Step) (h : s.WellNumbered) (userId : Int) :
    (x.next s).rows.countP (isUnreadOf userId) + readsAll userId (s, x) +
        (reads (isUnreadOf userId) (s, x)).toNat + (removes (isUnreadOf userId) (s, x)).toNat =
      s.rows.countP (isUnreadOf userId) + (creates userId (s, x)).toNat := by
  obtain ⟨now, request⟩ := x
  cases request with
  | create draft =>
    rw [creates_create]
    show (s.create draft now).2.rows.countP _ = _
    rw [countP_create, isUnreadOf, Bool.not_false, Bool.and_true]
  | markRead id =>
    rw [next_markRead, reads_markRead, countP_markWhere_isUnreadOf]
    exact h.countP_ne _ id
  | markAllRead u =>
    show (s.markWhere (·.userId == u)).rows.countP _ + _ = _
    rw [countP_markWhere_isUnreadOf]
    by_cases hu : u = userId
    · subst hu
      rw [countP_unread_left, readsAll_markAllRead, if_pos rfl, length_unread]
      exact Nat.zero_add _
    · have hall : s.rows.countP (fun n => isUnreadOf userId n && !n.userId == u) =
          s.rows.countP (isUnreadOf userId) := by
        refine List.countP_congr fun n _ => ?_
        simp only [isUnreadOf, Bool.and_eq_true, beq_iff_eq, Bool.not_eq_true',
          beq_eq_false_iff_ne, and_iff_left_iff_imp]
        rintro ⟨rfl, -⟩
        exact Ne.symm hu
      rw [hall, readsAll_markAllRead, if_neg hu]
      rfl
  | delete id =>
    rw [next_delete, removes_delete]
    exact countP_erase h _ id
  | find id =>
    rw [next_find]
    rfl
  | page u limit offset => rfl
  | countUnread u => rfl

/-! ## What a run does to them -/

/-- **What every step balances, every run does**: if each step adds to an account what it gains
and takes from it what it loses, the account at the end is the account at the start with all that
was gained and without all that was lost. -/
theorem after_balance (account : Store → Nat) (gain loss : Store × Step → Nat)
    (hstep : ∀ s x, s.WellNumbered → account (x.next s) + loss (s, x) = account s + gain (s, x))
    (h : s.WellNumbered) (steps : List Step) :
    account (s.after steps) + ((s.course steps).map loss).sum =
      account s + ((s.course steps).map gain).sum := by
  induction steps generalizing s with
  | nil => rfl
  | cons x steps ih =>
    have hlater := ih (x.next_wellNumbered h)
    have hfirst := hstep s x h
    rw [after_cons, course, List.map_cons, List.map_cons, List.sum_cons, List.sum_cons]
    omega

theorem sum_toNat {α : Type} (p : α → Bool) (l : List α) :
    (l.map fun a => (p a).toNat).sum = l.countP p := by
  induction l with
  | nil => rfl
  | cons a l ih =>
    rw [List.map_cons, List.sum_cons, ih, List.countP_cons]
    cases p a <;> simp [Nat.add_comm]

theorem after_kept (steps : List Step) (userId : Int) :
    (({} : Store).after steps).rows.countP (isOf userId) +
        (({} : Store).course steps).countP (removes (isOf userId)) =
      (({} : Store).course steps).countP (creates userId) := by
  have hbalance := after_balance (·.rows.countP (isOf userId))
    (fun met => (creates userId met).toNat) (fun met => (removes (isOf userId) met).toNat)
    (fun _ x h => x.kept h userId) wellNumbered_empty steps
  rw [sum_toNat, sum_toNat] at hbalance
  exact hbalance.trans (Nat.zero_add _)

theorem after_unread (steps : List Step) (userId : Int) :
    (({} : Store).after steps).rows.countP (isUnreadOf userId) +
        ((({} : Store).course steps).map (readsAll userId)).sum +
        (({} : Store).course steps).countP (reads (isUnreadOf userId)) +
        (({} : Store).course steps).countP (removes (isUnreadOf userId)) =
      (({} : Store).course steps).countP (creates userId) := by
  have hbalance := after_balance (·.rows.countP (isUnreadOf userId))
    (fun met => (creates userId met).toNat)
    (fun met => readsAll userId met + (reads (isUnreadOf userId) met).toNat +
      (removes (isUnreadOf userId) met).toNat)
    (fun _ x h => by simpa only [Nat.add_assoc] using x.unread h userId) wellNumbered_empty steps
  rw [List.sum_map_add, List.sum_map_add, sum_toNat, sum_toNat, sum_toNat] at hbalance
  simp only [Nat.add_assoc] at hbalance ⊢
  exact hbalance.trans (Nat.zero_add _)

/-! ## The accounts -/

/-- **A user's accounts balance**, after every run that begins with nothing stored. The length of
the feed is what was created less what was removed. The count of the unread is that of a whole
feed; reading all of the user's answers just it and leaves none. What was created is still unread,
or it was read in a reading of all, read by itself, or removed unread, and only one of these. -/
theorem accounts_balanced (history : List Step) (userId : Int) (now : Instant) :
    let past := ({} : Store).course history
    let s := ({} : Store).after history
    let total : Int := past.countP (creates userId) - past.countP (removes (isOf userId))
    ∃ unread : Nat,
      (∀ limit offset, ∃ part,
        (perform now (.page userId limit offset) s).1 = .ok ⟨part, total⟩) ∧
      (perform now (.countUnread userId) s).1 = .ok (unread : Int) ∧
      (∀ limit, total ≤ limit → limit ≤ Int64.maxValue.toInt → ∃ full,
        (perform now (.page userId limit 0) s).1 = .ok ⟨full, total⟩ ∧ full.length = total ∧
          full.countP (!·.isRead) = unread) ∧
      (perform now (.markAllRead userId) s).1 = .ok unread ∧
      (perform now (.countUnread userId) (perform now (.markAllRead userId) s).2).1 = .ok 0 ∧
      past.countP (creates userId) = unread + (past.map (readsAll userId)).sum +
        past.countP (reads (isUnreadOf userId)) + past.countP (removes (isUnreadOf userId)) := by
  intro past s total
  have htotal : ((s.feed userId).length : Int) = total := by
    have hkept : s.rows.countP (isOf userId) + past.countP (removes (isOf userId)) =
      past.countP (creates userId) := after_kept history userId
    rw [(feed_perm s userId).length_eq, length_ofUser]
    omega
  have hwhole : (s.feed userId).countP (!·.isRead) = (s.unread userId).length := by
    rw [(feed_perm s userId).countP_eq, ofUser, List.countP_filter, length_unread]
    exact List.countP_congr fun n _ => by rw [isUnreadOf, Bool.and_comm]
  have hleft : ((s.markWhere (·.userId == userId)).unread userId).length = 0 := by
    rw [length_unread, countP_markWhere_isUnreadOf]
    exact countP_unread_left s userId
  refine ⟨(s.unread userId).length, fun limit offset => ?_, rfl, fun limit hlimit hmax => ?_,
    rfl, ?_, ?_⟩
  · rw [← htotal]
    exact ⟨_, rfl⟩
  · refine ⟨s.feed userId, ?_, htotal, hwhole⟩
    have hreach : (s.feed userId).length ≤ limit.toNat := by omega
    show Except.ok (s.page userId limit 0) = _
    rw [page, asCount_of_nonneg (by omega) hmax, htotal, show asCount 0 = 0 from rfl,
      List.drop_zero, List.take_of_length_le hreach]
  · show Except.ok (((s.markWhere (·.userId == userId)).unread userId).length : Int) = _
    rw [hleft]
    rfl
  · rw [length_unread]
    exact (after_unread history userId).symm

/-- Each way out of the unread, and steps that move nothing: a second reading, a second removal, the
removal of what was read, a reading of nothing, and another user's. -/
theorem accounts_balanced_every_way :
    let history : List Step := [⟨⟨1⟩, .create ⟨7, "like", none, []⟩⟩,
      ⟨⟨2⟩, .create ⟨8, "like", none, []⟩⟩, ⟨⟨3⟩, .create ⟨7, "like", none, []⟩⟩,
      ⟨⟨4⟩, .create ⟨7, "like", none, []⟩⟩, ⟨⟨5⟩, .create ⟨7, "like", some ⟨2⟩, []⟩⟩,
      ⟨⟨6⟩, .markRead 1⟩, ⟨⟨6⟩, .markRead 1⟩, ⟨⟨6⟩, .delete 3⟩, ⟨⟨6⟩, .delete 3⟩,
      ⟨⟨6⟩, .delete 1⟩, ⟨⟨7⟩, .markAllRead 7⟩, ⟨⟨8⟩, .create ⟨7, "like", none, []⟩⟩,
      ⟨⟨9⟩, .markRead 9⟩, ⟨⟨9⟩, .delete 2⟩]
    let past := ({} : Store).course history
    let s := ({} : Store).after history
    ((past.countP (creates 7) : Int) - past.countP (removes (isOf 7)) ≤ 3 ∧
        3 ≤ Int64.maxValue.toInt) ∧
      (∃ full, (perform ⟨9⟩ (.page 7 3 0) s).1 = .ok ⟨full, 3⟩ ∧ (full.length : Int) = 3 ∧
        full.countP (!·.isRead) = 1) ∧
      (perform ⟨9⟩ (.markAllRead 7) s).1 = .ok 1 ∧
      past.countP (creates 7) = 1 + 2 + 1 + 1 := by
  intro history past s
  obtain ⟨unread, -, hcount, hwhole, hall, -, hbalance⟩ := accounts_balanced history 7 ⟨9⟩
  obtain rfl : unread = 1 := Int.ofNat.inj (Except.ok.inj hcount).symm
  exact ⟨by decide, hwhole 3 (by decide) (by decide), hall, hbalance⟩

end Store

end NotificationFeed
