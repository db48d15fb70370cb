import NotificationFeed.Proofs.Store.Run
/-!
# Stores — reading and removing in any order

Reading one, reading all of a user's and removing settle what a user has not
dealt with yet. What a row of such requests leaves depends on which requests
are in it and on nothing else (`settled`): not on their order, and not on how
often each of them is made. A removal makes a later request about the same
notification fail, but the notification is gone in the end in every order.
-/

namespace NotificationFeed

namespace Store

/-- A request that marks as read or removes. -/
def Request.Settles : Request → Prop
  | markRead _ | markAllRead _ | delete _ => True
  | create _ | find _ | page .. | countUnread _ => False

/-- **What such requests leave**: the notifications that none of them removes, in the order they
were in, each of them read if it was or if one of the requests reads it. -/
def settled (s : Store) (requests : List Request) : Store :=
  { s with
    rows := (s.rows.filter fun n => decide (.delete n.id ∉ requests)).map fun n =>
      { n with
        isRead := n.isRead || decide (.markRead n.id ∈ requests) ||
          decide (.markAllRead n.userId ∈ requests) } }

variable {s : Store} {requests later : List Request}

/-! ## One request -/

/-- Without a removal it is all marking. -/
theorem settled_of_keeps (s : Store) (h : ∀ id, .delete id ∉ requests) :
    s.settled requests = s.markWhere fun n =>
      decide (.markRead n.id ∈ requests) || decide (.markAllRead n.userId ∈ requests) := by
  simp only [settled, markWhere, h, not_false_eq_true, decide_true, List.filter_true]
  congr 1
  refine List.map_congr_left fun n _ => ?_
  rw [Bool.or_assoc]
  split
  · rename_i hread
    rw [hread, Bool.or_true]
  · rename_i hunread
    rw [eq_false_of_ne_true hunread, Bool.or_false]

theorem settled_markRead (s : Store) (id : Int) :
    s.settled [.markRead id] = s.markWhere (·.id == id) := by
  rw [settled_of_keeps s (by simp)]
  simp [BEq.beq]

theorem settled_markAllRead (s : Store) (userId : Int) :
    s.settled [.markAllRead userId] = s.markWhere (·.userId == userId) := by
  rw [settled_of_keeps s (by simp)]
  simp [BEq.beq]

theorem settled_delete (s : Store) (id : Int) : s.settled [.delete id] = s.erase id := by
  simp [settled, erase, bne, BEq.beq]

/-- **One such request settles what it names**, whether it succeeds or not. -/
theorem Step.next_eq_settled {x : Step} (h : x.request.Settles) (s : Store) :
    x.next s = s.settled [x.request] := by
  obtain ⟨now, request⟩ := x
  cases request with
  | markRead id => rw [settled_markRead, next_markRead]
  | markAllRead userId =>
    rw [settled_markAllRead]
    rfl
  | delete id => rw [settled_delete, next_delete]
  | create _ | find _ | page _ _ _ | countUnread _ => exact h.elim

/-! ## A row of requests -/

theorem settled_nil (s : Store) : s.settled [] = s := by
  simp [settled]

/-- What was settled first stays settled. -/
theorem settled_settled (s : Store) (requests later : List Request) :
    (s.settled requests).settled later = s.settled (requests ++ later) := by
  simp only [settled, List.filter_map, List.map_map, List.filter_filter, List.mem_append]
  congr 1
  refine congrArg₂ List.map (funext fun n => ?_) (List.filter_congr fun n _ => ?_)
  · simp only [Function.comp, Bool.decide_or]
    congr 1
    ac_rfl
  · simp only [Function.comp, not_or, Bool.decide_and]
    exact Bool.and_comm _ _

/-- **Only which requests there are counts.** -/
theorem settled_congr (h : ∀ r, r ∈ requests ↔ r ∈ later) :
    s.settled requests = s.settled later := by
  simp only [settled, h]

/-- **What a run of such requests leaves.** -/
theorem after_eq_settled {steps : List Step} (h : ∀ x ∈ steps, x.request.Settles) (s : Store) :
    s.after steps = s.settled (steps.map (·.request)) := by
  induction steps generalizing s with
  | nil => exact (settled_nil s).symm
  | cons x steps ih =>
    rw [List.forall_mem_cons] at h
    rw [after_cons, ih h.2, x.next_eq_settled h.1, settled_settled]
    rfl

/-- **Reading and removing in any order.** In every store that requests can lead to, a row of
requests that mark as read or remove leaves, in whatever order it is made, the same store: what
they remove is gone, and what they read is read. The whole row once more, in whatever order,
changes nothing. -/
theorem settled_in_any_order (history steps again : List Step) {requests : List Request}
    (hsettles : ∀ r ∈ requests, r.Settles)
    (hsteps : (steps.map (·.request)).Perm requests)
    (hagain : (again.map (·.request)).Perm requests) :
    (({} : Store).after history).after steps = (({} : Store).after history).settled requests ∧
      ((({} : Store).after history).after steps).after again =
        (({} : Store).after history).after steps := by
  have hall : ∀ {row : List Step}, (row.map (·.request)).Perm requests →
      ∀ x ∈ row, x.request.Settles :=
    fun hperm x hx => hsettles _ (hperm.mem_iff.1 (List.mem_map_of_mem hx))
  rw [after_eq_settled (hall hsteps), after_eq_settled (hall hagain), settled_settled]
  refine ⟨settled_congr fun r => hsteps.mem_iff, settled_congr fun r => ?_⟩
  rw [List.mem_append, hagain.mem_iff, hsteps.mem_iff, or_self]

/-- Of these requests one is made twice and two name nothing. In one order a reading comes before
the removal of what it reads, in the other after it. -/
theorem settled_in_any_order_crossing :
    let history : List Step := [⟨⟨5⟩, .create ⟨7, "like", none, [1]⟩⟩,
      ⟨⟨6⟩, .create ⟨7, "like", none, []⟩⟩, ⟨⟨6⟩, .create ⟨8, "follow", none, []⟩⟩,
      ⟨⟨7⟩, .create ⟨9, "like", some ⟨2⟩, []⟩⟩, ⟨⟨8⟩, .create ⟨8, "like", none, []⟩⟩,
      ⟨⟨9⟩, .delete 5⟩]
    let requests : List Request := [.delete 2, .markRead 2, .markAllRead 8, .markRead 6, .delete 5,
      .markRead 1, .delete 2]
    let settled : Store := ⟨5, [⟨1, 7, "like", true, ⟨5⟩, [1]⟩, ⟨3, 8, "follow", true, ⟨6⟩, []⟩,
      ⟨4, 9, "like", false, ⟨2⟩, []⟩]⟩
    ((∀ r ∈ requests, r.Settles) ∧ (({} : Store).after history).settled requests = settled) ∧
      (({} : Store).after history).after (requests.reverse.map fun r => ⟨⟨10⟩, r⟩) = settled ∧
      ((({} : Store).after history).after (requests.reverse.map fun r => ⟨⟨10⟩, r⟩)).after
        ((requests.rotate 3).map fun r => ⟨⟨11⟩, r⟩) = settled := by
  intro history requests settled
  have hsettles : ∀ r ∈ requests, r.Settles := by simp [requests, Request.Settles]
  have hsettled : (({} : Store).after history).settled requests = settled := by decide
  obtain ⟨hafter, hagain⟩ := settled_in_any_order history
    (requests.reverse.map fun r => ⟨⟨10⟩, r⟩) ((requests.rotate 3).map fun r => ⟨⟨11⟩, r⟩)
    hsettles (by decide) (by decide)
  rw [hsettled] at hafter
  exact ⟨⟨hsettles, hsettled⟩, hafter, hagain.trans hafter⟩

end Store

end NotificationFeed
