import NotificationFeed.Proofs.Store.Feed
import NotificationFeed.Proofs.Store.Renumbering
/-!
# Stores — a user by themselves

A store with notifications of many users stands beside one that holds those of
one user only, numbered as if there were no others (`Mirrors`). What concerns
the user is answered alike by both, up to the numbers, and does to both the
same; what does not concern the user leaves the mirror as it is. So the user
cannot tell what others did (`others_unseen`).

The two stores give out different identifiers, and ties in a feed are broken
by identifier. That the rank keeps their order is what makes the feeds agree.
-/

namespace NotificationFeed

namespace Store

/-- **One store mirrors a user's part of another**: it holds what is the user's there, each under
its rank among the user's identifiers, and has counted as far as the rank of the last one. -/
structure Mirrors (ids : List Int) (userId : Int) (s t : Store) : Prop where
  owned : ∀ n ∈ s.rows, n.id ∈ ids ↔ n.userId = userId
  rows : t.rows = (s.ofUser userId).map (·.renumber (rank ids))
  lastId : t.lastId = rank ids s.lastId

namespace Mirrors

variable {ids : List Int} {userId id : Int} {s t : Store}

theorem mem_ids (h : Mirrors ids userId s t) {n : Notification} (hn : n ∈ s.ofUser userId) :
    n.id ∈ ids := by
  obtain ⟨hmem, huser⟩ := mem_ofUser.1 hn
  exact (h.owned n hmem).2 huser

/-- Under its rank each of the user's notifications is found as under its identifier. -/
theorem rank_eq_iff (h : Mirrors ids userId s t) (hnodup : ids.Nodup) {n : Notification}
    (hn : n ∈ s.ofUser userId) (hid : id ∈ ids) : rank ids n.id = rank ids id ↔ n.id = id :=
  (rank_strictMonoOn hnodup).injOn.eq_iff (h.mem_ids hn) hid

/-! ## What is seen -/

theorem ofUser (h : Mirrors ids userId s t) :
    t.ofUser userId = (s.ofUser userId).map (·.renumber (rank ids)) := by
  rw [Store.ofUser, h.rows]
  refine List.filter_eq_self.2 fun n hn => ?_
  obtain ⟨m, hm, rfl⟩ := List.mem_map.1 hn
  exact beq_iff_eq.2 (mem_ofUser.1 hm).2

/-- **The feeds agree**, ties and all. -/
theorem feed (h : Mirrors ids userId s t) (hnodup : ids.Nodup) :
    t.feed userId = (s.feed userId).map (·.renumber (rank ids)) := by
  rw [Store.feed, Store.feed, h.ofUser, List.map_mergeSort]
  intro a ha b hb
  have horder : rank ids b.id ≤ rank ids a.id ↔ b.id ≤ a.id :=
    (rank_strictMonoOn hnodup).le_iff_le (h.mem_ids hb) (h.mem_ids ha)
  rw [Bool.eq_iff_iff, precedes_iff, precedes_iff]
  simp only [Notification.renumber]
  omega

theorem page (h : Mirrors ids userId s t) (hnodup : ids.Nodup) (limit offset : Int) :
    t.page userId limit offset = (s.page userId limit offset).renumber (rank ids) := by
  rw [Store.page, Store.page, h.feed hnodup, List.length_map, ← List.map_drop, ← List.map_take]
  rfl

theorem length_unread (h : Mirrors ids userId s t) :
    (t.unread userId).length = (s.unread userId).length := by
  have hunread : ∀ s : Store, s.unread userId = (s.ofUser userId).filter (!·.isRead) := by
    intro s
    rw [unread, Store.ofUser, List.filter_filter]
    exact List.filter_congr fun n _ => Bool.and_comm _ _
  rw [hunread, hunread, h.ofUser, List.filter_map, List.length_map]
  rfl

/-- A notification of the user is found under its rank. -/
theorem find? (h : Mirrors ids userId s t) (hnodup : ids.Nodup) (hid : id ∈ ids) :
    t.find? (rank ids id) = (s.find? id).map (·.renumber (rank ids)) := by
  rw [Store.find?, h.rows, List.find?_map, Store.ofUser, List.find?_filter, Store.find?]
  congr 1
  refine List.find?_congr fun n hn => Bool.eq_iff_iff.2 ?_
  by_cases huser : n.userId = userId
  · have hrank := h.rank_eq_iff hnodup (mem_ofUser.2 ⟨hn, huser⟩) hid
    simp [Notification.renumber, huser, hrank]
  · have hne : n.id ≠ id := fun hid' => huser ((h.owned n hn).1 (hid' ▸ hid))
    simp [huser, hne]

/-! ## What is done -/

theorem markWhere (h : Mirrors ids userId s t) (which which' : Notification → Bool)
    (hwhich : ∀ n ∈ s.ofUser userId, which' (n.renumber (rank ids)) = which n) :
    Mirrors ids userId (s.markWhere which) (t.markWhere which') where
  owned n' hn' := by
    obtain ⟨n, hn, hc⟩ := mem_markWhere hn'
    rw [hc.id, hc.userId]
    exact h.owned n hn
  rows := by
    have hmarked : (s.markWhere which).ofUser userId =
        (s.ofUser userId).map fun n => if which n then { n with isRead := true } else n := by
      rw [Store.ofUser, Store.markWhere, List.filter_map]
      congr 1
      refine List.filter_congr fun n _ => ?_
      simp only [Function.comp]
      split <;> rfl
    rw [hmarked, Store.markWhere, h.rows, List.map_map, List.map_map]
    refine List.map_congr_left fun n hn => ?_
    simp only [Function.comp, hwhich n hn]
    split <;> rfl
  lastId := h.lastId

theorem filter (h : Mirrors ids userId s t) (which which' : Notification → Bool)
    (hwhich : ∀ n ∈ s.ofUser userId, which' (n.renumber (rank ids)) = which n) :
    Mirrors ids userId { s with rows := s.rows.filter which }
      { t with rows := t.rows.filter which' } where
  owned n hn := h.owned n (List.mem_filter.1 hn).1
  rows := by
    have hkept : Store.ofUser { s with rows := s.rows.filter which } userId =
        (s.ofUser userId).filter which := by
      rw [Store.ofUser, Store.ofUser, List.filter_filter, List.filter_filter]
      exact List.filter_congr fun n _ => Bool.and_comm _ _
    show t.rows.filter which' = _
    rw [hkept, h.rows, List.filter_map]
    exact congrArg _ (List.filter_congr hwhich)
  lastId := h.lastId

/-- Marking others' is not seen. -/
theorem markWhere_others (h : Mirrors ids userId s t) {which : Notification → Bool}
    (hnone : ∀ n ∈ s.ofUser userId, which n = false) :
    Mirrors ids userId (s.markWhere which) t := by
  have hmirrors := h.markWhere which (fun _ => false) fun n hn => (hnone n hn).symm
  rwa [markWhere_of_none fun _ _ => rfl] at hmirrors

/-- Dropping others' is not seen. -/
theorem filter_others (h : Mirrors ids userId s t) {which : Notification → Bool}
    (hall : ∀ n ∈ s.ofUser userId, which n = true) :
    Mirrors ids userId { s with rows := s.rows.filter which } t := by
  have hmirrors := h.filter which (fun _ => true) fun n hn => (hall n hn).symm
  rwa [List.filter_true] at hmirrors

/-- **A creation for the user is mirrored**: the rank grows with the counter. -/
theorem create (h : Mirrors ids userId s t) (hnodup : ids.Nodup) (hid : s.lastId + 1 ∈ ids)
    {draft : Draft} (huser : draft.userId = userId) (now : Instant) :
    (t.create draft now).1 = rank ids (s.create draft now).1 ∧
      Mirrors ids userId (s.create draft now).2 (t.create draft now).2 := by
  have hnext : t.lastId + 1 = rank ids (s.lastId + 1) := by
    rw [rank_succ hnodup, if_pos hid, h.lastId]
  refine ⟨hnext, ?_, ?_, hnext⟩
  · intro n hn
    rcases mem_create.1 hn with hn | rfl
    · exact h.owned n hn
    · exact iff_of_true hid huser
  · rw [Store.create, Store.create, Store.ofUser, List.filter_append, List.map_append, h.rows,
      hnext]
    simp [Store.ofUser, Notification.renumber, huser]

/-- A creation for another user is not seen. -/
theorem create_other (h : Mirrors ids userId s t) (hnodup : ids.Nodup) (hid : s.lastId + 1 ∉ ids)
    {draft : Draft} (huser : draft.userId ≠ userId) (now : Instant) :
    Mirrors ids userId (s.create draft now).2 t := by
  refine ⟨?_, ?_, ?_⟩
  · intro n hn
    rcases mem_create.1 hn with hn | rfl
    · exact h.owned n hn
    · exact iff_of_false hid huser
  · rw [Store.create, Store.ofUser, List.filter_append, h.rows]
    simp [Store.ofUser, huser]
  · show t.lastId = rank ids (s.lastId + 1)
    rw [rank_succ hnodup, if_neg hid, h.lastId, Int.add_zero]

/-! ## Steps -/

/-- **What concerns the user is answered by the mirror** as by the store, up to the numbers. -/
theorem reply (h : Mirrors ids userId s t) (hnodup : ids.Nodup) {x : Step}
    (hconcerns : x.request.concerns userId ids = true)
    (hnew : ∀ draft, x.request = .create draft → s.lastId + 1 ∈ ids) (now : Instant) :
    Step.reply ⟨now, x.request.renumber (rank ids)⟩ t =
      x.request.renumberReply (rank ids) (x.reply s) := by
  obtain ⟨now', request⟩ := x
  cases request with
  | create draft =>
    have hcreated := (h.create hnodup (hnew draft rfl) (beq_iff_eq.1 hconcerns) now).1
    exact congrArg Except.ok hcreated
  | find id | markRead id | delete id =>
    have hfind := h.find? hnodup (List.contains_iff_mem.1 hconcerns)
    simp only [Step.reply, Request.renumber, perform, hfind]
    cases s.find? id <;> rfl
  | page u limit offset =>
    obtain rfl := beq_iff_eq.1 hconcerns
    exact congrArg Except.ok (h.page hnodup limit offset)
  | markAllRead u =>
    obtain rfl := beq_iff_eq.1 hconcerns
    exact congrArg Except.ok h.length_unread
  | countUnread u =>
    obtain rfl := beq_iff_eq.1 hconcerns
    exact congrArg (fun count : Nat => Except.ok (count : Int)) h.length_unread

/-- **And it is done to both.** -/
theorem kept (h : Mirrors ids userId s t) (hnodup : ids.Nodup) {x : Step}
    (hconcerns : x.request.concerns userId ids = true) (htimeless : x.request.Timeless)
    (hnew : ∀ draft, x.request = .create draft → s.lastId + 1 ∈ ids) (now : Instant) :
    Mirrors ids userId (x.next s) (Step.next ⟨now, x.request.renumber (rank ids)⟩ t) := by
  obtain ⟨now', request⟩ := x
  cases request with
  | create draft =>
    show Mirrors ids userId _ (perform now (.create draft) t).2
    rw [perform_timeless htimeless now now']
    exact (h.create hnodup (hnew draft rfl) (beq_iff_eq.1 hconcerns) now').2
  | find id =>
    simp only [Request.renumber, Step.next_find]
    exact h
  | page u limit offset => exact h
  | markRead id =>
    simp only [Request.renumber, Step.next_markRead]
    refine h.markWhere _ _ fun n hn => Bool.eq_iff_iff.2 ?_
    rw [beq_iff_eq, beq_iff_eq]
    exact h.rank_eq_iff hnodup hn (List.contains_iff_mem.1 hconcerns)
  | markAllRead u => exact h.markWhere _ _ fun _ _ => rfl
  | delete id =>
    simp only [Request.renumber, Step.next_delete]
    refine h.filter _ _ fun n hn => Bool.eq_iff_iff.2 ?_
    rw [bne_iff_ne, bne_iff_ne]
    exact (h.rank_eq_iff hnodup hn (List.contains_iff_mem.1 hconcerns)).not
  | countUnread u => exact h

/-- **What does not concern the user** leaves the mirror as it is. -/
theorem dropped (h : Mirrors ids userId s t) (hnodup : ids.Nodup) {x : Step}
    (hconcerns : ¬ x.request.concerns userId ids = true)
    (hnew : ∀ draft, x.request = .create draft → s.lastId + 1 ∉ ids) :
    Mirrors ids userId (x.next s) t := by
  obtain ⟨now, request⟩ := x
  cases request with
  | create draft =>
    exact h.create_other hnodup (hnew draft rfl) (fun huser => hconcerns (beq_iff_eq.2 huser)) now
  | find id =>
    rw [Step.next_find]
    exact h
  | page u limit offset => exact h
  | markRead id =>
    rw [Step.next_markRead]
    refine h.markWhere_others fun n hn => beq_eq_false_iff_ne.2 ?_
    rintro rfl
    exact hconcerns (List.contains_iff_mem.2 (h.mem_ids hn))
  | markAllRead u =>
    refine h.markWhere_others fun n hn => beq_eq_false_iff_ne.2 ?_
    rintro rfl
    exact hconcerns (beq_iff_eq.2 (mem_ofUser.1 hn).2)
  | delete id =>
    rw [Step.next_delete]
    refine h.filter_others fun n hn => bne_iff_ne.2 ?_
    rintro rfl
    exact hconcerns (List.contains_iff_mem.2 (h.mem_ids hn))
  | countUnread u => exact h

end Mirrors

/-! ## Runs -/

/-- **The identifiers are those of the run**: of all that are still to be given out, the list holds
those of the user. -/
def Foretells (ids : List Int) (userId : Int) (s : Store) (steps : List Step) : Prop :=
  ∀ i, s.lastId < i → (i ∈ ids ↔ i ∈ created userId (s.exchanges steps))

namespace Foretells

variable {ids : List Int} {userId : Int} {s : Store} {x : Step} {steps : List Step} {draft : Draft}

theorem mem (h : Foretells ids userId s (x :: steps)) (hdraft : x.request = .create draft)
    (huser : draft.userId = userId) : s.lastId + 1 ∈ ids :=
  (h _ (by omega)).2 (mem_created_cons.2 (.inl ⟨draft, hdraft, huser, rfl⟩))

theorem not_mem (h : Foretells ids userId s (x :: steps)) (hdraft : x.request = .create draft)
    (huser : draft.userId ≠ userId) : s.lastId + 1 ∉ ids := by
  intro hmem
  rcases mem_created_cons.1 ((h _ (by omega)).1 hmem) with ⟨draft', hdraft', huser', -⟩ | hlater
  · rw [hdraft, Request.create.injEq] at hdraft'
    exact huser (hdraft' ▸ huser')
  · have hnew := lt_of_mem_created hlater
    rw [x.next_lastId hdraft] at hnew
    omega

theorem tail (h : Foretells ids userId s (x :: steps)) : Foretells ids userId (x.next s) steps := by
  intro i hi
  have hle := x.lastId_le s
  rw [h i (by omega), mem_created_cons]
  refine or_iff_right ?_
  rintro ⟨draft, hdraft, -, rfl⟩
  rw [x.next_lastId hdraft] at hi
  omega

end Foretells

/-- **A run and its mirror**: made alone and under the numbers of the mirror, the requests that
concern the user are answered as they were among the others. -/
theorem exchanges_mirrored {ids : List Int} {userId : Int} {s t : Store} {steps alone : List Step}
    (h : Mirrors ids userId s t) (hnodup : ids.Nodup)
    (htimeless : ∀ x ∈ steps, x.request.Timeless) (hids : Foretells ids userId s steps)
    (halone : alone.map (·.request) =
      ((steps.map (·.request)).filter (·.concerns userId ids)).map (·.renumber (rank ids))) :
    t.exchanges alone =
      ((s.exchanges steps).filter (·.call.concerns userId ids)).map (·.renumber (rank ids)) := by
  induction steps generalizing s t alone with
  | nil =>
    obtain rfl := List.map_eq_nil_iff.1 halone
    rfl
  | cons x steps ih =>
    rw [List.forall_mem_cons] at htimeless
    rw [List.map_cons, List.filter_cons] at halone
    rw [exchanges_cons, List.filter_cons]
    split at halone
    · rename_i hconcerns
      have hnew : ∀ draft, x.request = .create draft → s.lastId + 1 ∈ ids := by
        intro draft hdraft
        rw [hdraft] at hconcerns
        exact hids.mem hdraft (beq_iff_eq.1 hconcerns)
      obtain ⟨⟨now, request⟩, later, rfl, hrequest, hlater⟩ := List.map_eq_cons_iff.1 halone
      obtain rfl : request = x.request.renumber (rank ids) := hrequest
      have hmirrors := h.kept hnodup hconcerns htimeless.1 hnew now
      rw [if_pos hconcerns, exchanges_cons, List.map_cons,
        ih hmirrors htimeless.2 hids.tail hlater, h.reply hnodup hconcerns hnew now]
      rfl
    · rename_i hconcerns
      have hnew : ∀ draft, x.request = .create draft → s.lastId + 1 ∉ ids := by
        intro draft hdraft
        rw [hdraft] at hconcerns
        exact hids.not_mem hdraft fun huser => hconcerns (beq_iff_eq.2 huser)
      rw [if_neg hconcerns]
      exact ih (h.dropped hnodup hconcerns hnew) htimeless.2 hids.tail halone

/-! ## What a user sees -/

/-- **What a user sees of a run**: the exchanges that concern the user, under the numbers that the
user's notifications would have if there were no others. -/
def share (userId : Int) (xs : List Exchange) : List Exchange :=
  (xs.filter (·.call.concerns userId (created userId xs))).map
    (·.renumber (rank (created userId xs)))

theorem map_call_exchanges (s : Store) (steps : List Step) :
    (s.exchanges steps).map (·.call) = steps.map (·.request) := by
  induction steps generalizing s with
  | nil => rfl
  | cons x steps ih => rw [exchanges_cons, List.map_cons, List.map_cons, ih]

theorem map_call_share (s : Store) (steps : List Step) (userId : Int) :
    (share userId (s.exchanges steps)).map (·.call) =
      ((steps.map (·.request)).filter
        (·.concerns userId (created userId (s.exchanges steps)))).map
          (·.renumber (rank (created userId (s.exchanges steps)))) := by
  rw [← map_call_exchanges s steps, List.filter_map, List.map_map, share, List.map_map]
  rfl

theorem exchanges_alone {steps alone : List Step} {userId : Int}
    (htimeless : ∀ x ∈ steps, x.request.Timeless)
    (halone : alone.map (·.request) = (share userId (({} : Store).exchanges steps)).map (·.call)) :
    ({} : Store).exchanges alone = share userId (({} : Store).exchanges steps) := by
  have hpositive : ∀ i ∈ created userId (({} : Store).exchanges steps), 0 < i :=
    fun i hi => lt_of_mem_created hi
  have hmirrors : Mirrors (created userId (({} : Store).exchanges steps)) userId {} {} :=
    ⟨nofun, rfl, (rank_eq_zero hpositive).symm⟩
  rw [map_call_share] at halone
  exact exchanges_mirrored hmirrors (nodup_created {} steps userId) htimeless
    (fun _ _ => Iff.rfl) halone

/-- **Others are not seen**, by any user and in any run of requests whose drafts have a moment.
The user's identifiers are counted anew, in their order. The requests that concern the user, made
alone and under these numbers, are answered as they were among the others, operation by operation.
So a run in which others do something else, and which asks the same for the user under these
numbers, answers the user the same. -/
theorem others_unseen (steps : List Step) (userId : Int)
    (htimeless : ∀ x ∈ steps, x.request.Timeless) :
    let ids := created userId (({} : Store).exchanges steps)
    StrictMonoOn (rank ids) {i | i ∈ ids} ∧
      (∀ alone : List Step,
        alone.map (·.request) =
          ((steps.map (·.request)).filter (·.concerns userId ids)).map (·.renumber (rank ids)) →
        ({} : Store).exchanges alone =
          ((({} : Store).exchanges steps).filter (·.call.concerns userId ids)).map
            (·.renumber (rank ids))) ∧
      ∀ others : List Step, (∀ x ∈ others, x.request.Timeless) →
        (share userId (({} : Store).exchanges others)).map (·.call) =
          (share userId (({} : Store).exchanges steps)).map (·.call) →
        share userId (({} : Store).exchanges others) =
          share userId (({} : Store).exchanges steps) := by
  intro ids
  refine ⟨rank_strictMonoOn (nodup_created {} steps userId), ?_, ?_⟩
  · intro alone halone
    rw [← map_call_share] at halone
    exact exchanges_alone htimeless halone
  · intro others hothers hsame
    -- Both are answered as their requests are when these are made alone.
    have halone : (((share userId (({} : Store).exchanges steps)).map (·.call)).map fun r =>
        (⟨⟨0⟩, r⟩ : Step)).map (·.request) =
          (share userId (({} : Store).exchanges steps)).map (·.call) := by
      rw [List.map_map]
      exact List.map_id _
    exact (exchanges_alone hothers (halone.trans hsame.symm)).symm.trans
      (exchanges_alone htimeless halone)

/-- Two notifications of one moment among another user's, and a request about the second before it
is created. -/
theorem others_unseen_interleaved :
    let steps : List Step := [⟨⟨1⟩, .create ⟨8, "like", some ⟨5⟩, []⟩⟩,
      ⟨⟨2⟩, .create ⟨7, "like", some ⟨5⟩, [1]⟩⟩, ⟨⟨3⟩, .create ⟨8, "like", some ⟨9⟩, []⟩⟩,
      ⟨⟨3⟩, .find 4⟩, ⟨⟨4⟩, .create ⟨7, "follow", some ⟨5⟩, []⟩⟩, ⟨⟨5⟩, .markRead 2⟩,
      ⟨⟨6⟩, .markAllRead 8⟩, ⟨⟨7⟩, .page 7 10 0⟩, ⟨⟨8⟩, .delete 1⟩, ⟨⟨8⟩, .delete 2⟩,
      ⟨⟨9⟩, .find 4⟩, ⟨⟨9⟩, .find 3⟩, ⟨⟨9⟩, .countUnread 7⟩]
    let alone : List Step := [⟨⟨0⟩, .create ⟨7, "like", some ⟨5⟩, [1]⟩⟩, ⟨⟨0⟩, .find 2⟩,
      ⟨⟨0⟩, .create ⟨7, "follow", some ⟨5⟩, []⟩⟩, ⟨⟨0⟩, .markRead 1⟩, ⟨⟨0⟩, .page 7 10 0⟩,
      ⟨⟨0⟩, .delete 1⟩, ⟨⟨0⟩, .find 2⟩, ⟨⟨0⟩, .countUnread 7⟩]
    ((∀ x ∈ steps, x.request.Timeless) ∧ created 7 (({} : Store).exchanges steps) = [2, 4]) ∧
      ({} : Store).exchanges alone =
        ((({} : Store).exchanges steps).filter (·.call.concerns 7 [2, 4])).map
          (·.renumber (rank [2, 4])) := by
  intro steps alone
  have htimeless : ∀ x ∈ steps, x.request.Timeless := by simp [steps, Request.Timeless]
  have hids : created 7 (({} : Store).exchanges steps) = [2, 4] := by decide
  obtain ⟨-, halone, -⟩ := others_unseen steps 7 htimeless
  rw [hids] at halone
  exact ⟨⟨htimeless, hids⟩, halone alone (by decide)⟩

end Store

end NotificationFeed
