import Mathlib.Data.List.Induction
import NotificationFeed.Proofs.History.Anew
/-!
# Scenes — as if one after another

A command makes one request to the keeper at most, so the errands of a scene
are in an order: that of their requests (`Scene.asked`). Run anew one after
another in this order, they come to what they came to in the scene, and leave
the store that the scene left (`Scene.run_as_in_turn`).

The record of the requests is kept by every happening (`Scene.Recorded`). From
there on nothing is said about a scene any more: the record is cut into one
piece for each errand (`flatMap_shareOf`), and a store that replies to the
whole record replies to each piece in its place.
-/

namespace NotificationFeed

/-! ## The record of a scene -/

namespace Scene

/-- What a happening adds to the record: who makes a request to the keeper, and what it is
replied. -/
def asks (s : Scene) : Happening → List (Nat × Service.Exchange)
  | .begins _ => []
  | .calls who directory disturbance =>
    match s.errands[who]? with
    | none => []
    | some e =>
      (Service.requests (e.next { s.world with directory, disturbance })).map fun x => (who, x)

/-- **The requests to the keeper in a row of happenings**, in order, and who made each. -/
def asked (s : Scene) : List Happening → List (Nat × Service.Exchange)
  | [] => []
  | h :: later => s.asks h ++ (s.step h).asked later

theorem asked_snoc (s : Scene) (happenings : List Happening) (h : Happening) :
    s.asked (happenings ++ [h]) = s.asked happenings ++ (s.run happenings).asks h := by
  induction happenings generalizing s with
  | nil => simp [asked, run]
  | cons first later ih =>
    have hlater := ih (s.step first)
    simp only [List.cons_append, asked, hlater, List.append_assoc]
    rfl

end Scene

/-- What is one errand's own in a record. -/
def shareOf (who : Nat) (record : List (Nat × Service.Exchange)) : List Service.Exchange :=
  (record.filter (·.1 == who)).map (·.2)

section Shares

variable {who i : Nat} {record later : List (Nat × Service.Exchange)}

theorem shareOf_append :
    shareOf who (record ++ later) = shareOf who record ++ shareOf who later := by
  simp [shareOf]

theorem shareOf_own (xs : List Service.Exchange) : shareOf who (xs.map fun x => (who, x)) = xs := by
  induction xs with
  | nil => rfl
  | cons x xs ih =>
    rw [List.map_cons, shareOf, List.filter_cons_of_pos (by simp), List.map_cons]
    exact congrArg (x :: ·) ih

theorem shareOf_eq_nil (h : who ∉ record.map (·.1)) : shareOf who record = [] := by
  rw [shareOf, List.filter_eq_nil_iff.2, List.map_nil]
  intro x hx hwho
  exact h (List.mem_map.2 ⟨x, hx, eq_of_beq hwho⟩)

theorem shareOf_other (h : i ≠ who) (xs : List Service.Exchange) :
    shareOf i (xs.map fun x => (who, x)) = [] := by
  refine shareOf_eq_nil fun hi => ?_
  obtain ⟨x, hx, hxi⟩ := List.mem_map.1 hi
  obtain ⟨y, -, rfl⟩ := List.mem_map.1 hx
  exact h hxi.symm

/-- **The shares of all errands make up the record**, if they are laid out in its order. -/
theorem flatMap_shareOf {order : List Nat} (horder : (record.map (·.1)).Sublist order)
    (hnodup : order.Nodup) : order.flatMap (shareOf · record) = record.map (·.2) := by
  induction order generalizing record with
  | nil =>
    have hempty : record = [] := by simpa using horder
    rw [hempty]
    rfl
  | cons i order ih =>
    obtain ⟨hi, hrest⟩ := List.nodup_cons.1 hnodup
    cases record with
    | nil => simp [shareOf]
    | cons x record =>
      rw [List.map_cons] at horder
      rw [List.flatMap_cons]
      cases horder with
      | cons _ horder =>
        -- Nobody's turn: the errand has no share.
        have hnone : shareOf i (x :: record) = [] :=
          shareOf_eq_nil fun hmem => hi (horder.subset hmem)
        rw [hnone, List.nil_append]
        exact ih horder hrest
      | cons_cons _ horder =>
        -- The first request is the share of the errand, and no other errand has part in it.
        have hnone : shareOf x.1 record = [] := shareOf_eq_nil fun hmem => hi (horder.subset hmem)
        have hfirst : shareOf x.1 (x :: record) = [x.2] := by
          have happend : shareOf x.1 ([x] ++ record) = shareOf x.1 [x] ++ shareOf x.1 record :=
            shareOf_append
          rw [hnone, List.append_nil] at happend
          rw [List.singleton_append] at happend
          rw [happend]
          exact shareOf_own [x.2]
        have hothers : order.flatMap (shareOf · (x :: record)) =
            order.flatMap (shareOf · record) := by
          refine List.flatMap_congr fun j hj => ?_
          have hne : j ≠ x.1 := fun h => hi (h ▸ hj)
          have happend : shareOf j ([x] ++ record) = shareOf j [x] ++ shareOf j record :=
            shareOf_append
          rw [show shareOf j [x] = [] from shareOf_other hne [x.2]] at happend
          exact happend
        rw [hfirst, hothers, ih horder hrest]
        rfl

end Shares

namespace Scene

/-- **What the record of a scene tells**: where its errands stand, which requests are whose, and
what the store has become by them. -/
structure Recorded (start : Store) (s : Scene) (record : List (Nat × Service.Exchange)) : Prop where
  reached : ∀ e ∈ s.errands, e.Reached
  timeless : ∀ e ∈ s.errands, e.command.core.Timeless
  own : ∀ who e, s.errands[who]? = some e → Service.requests e.heard = shareOf who record
  begun : ∀ x ∈ record, x.1 < s.errands.length
  replays : start.Replays (record.map (·.2)) s.world.store

variable {start : Store} {s : Scene} {record : List (Nat × Service.Exchange)}

theorem Recorded.begins (h : Recorded start s record) {c : Command} (hc : c.core.Timeless) :
    Recorded start { s with errands := s.errands ++ [.begin c] } record where
  reached e he := by
    rcases List.mem_append.1 he with he | he
    · exact h.reached e he
    · rw [List.mem_singleton.1 he]
      exact Errand.begin_reached c
  timeless e he := by
    rcases List.mem_append.1 he with he | he
    · exact h.timeless e he
    · rw [List.mem_singleton.1 he]
      exact hc
  own who e he := by
    rcases Nat.lt_or_ge who s.errands.length with hlt | hge
    · rw [List.getElem?_append_left hlt] at he
      exact h.own who e he
    · -- The errand that is begun has asked nothing, and nothing on record is its own.
      rw [List.getElem?_append_right hge, List.getElem?_singleton] at he
      split at he
      · obtain rfl := Option.some.inj he
        symm
        refine shareOf_eq_nil fun hmem => ?_
        obtain ⟨x, hx, rfl⟩ := List.mem_map.1 hmem
        exact absurd (h.begun x hx) (Nat.not_lt.2 hge)
      · cases he
  begun x hx := by
    have hlt := h.begun x hx
    simp only [List.length_append]
    omega
  replays := h.replays

theorem Recorded.calls (h : Recorded start s record) {who : Nat} {e : Errand}
    (hwho : s.errands[who]? = some e) {w : World} (hstore : w.store = s.world.store)
    (hfault : w.disturbance.fault = none) :
    Recorded start { world := (e.step w).2, errands := s.errands.set who (e.step w).1 }
      (record ++ (Service.requests (e.next w)).map fun x => (who, x)) where
  reached x hx := by
    rcases List.mem_or_eq_of_mem_set hx with hx | rfl
    · exact h.reached x hx
    · exact (h.reached e (List.mem_of_getElem? hwho)).step hfault
  timeless x hx := by
    rcases List.mem_or_eq_of_mem_set hx with hx | rfl
    · exact h.timeless x hx
    · exact h.timeless e (List.mem_of_getElem? hwho)
  own i x hx := by
    rw [shareOf_append]
    by_cases hi : i = who
    · subst hi
      rw [List.getElem?_set_self (List.getElem?_eq_some_iff.1 hwho).1] at hx
      obtain rfl := Option.some.inj hx
      rw [shareOf_own, ← h.own i e hwho]
      exact List.filter_append ..
    · rw [List.getElem?_set_ne (Ne.symm hi)] at hx
      rw [shareOf_other hi, List.append_nil]
      exact h.own i x hx
  begun x hx := by
    rw [List.length_set]
    rcases List.mem_append.1 hx with hx | hx
    · exact h.begun x hx
    · obtain ⟨y, -, rfl⟩ := List.mem_map.1 hx
      exact (List.getElem?_eq_some_iff.1 hwho).1
  replays := by
    have hmap : (record ++ (Service.requests (e.next w)).map fun x => (who, x)).map (·.2) =
        record.map (·.2) ++ Service.requests (e.next w) := by
      simp [Function.comp_def]
    rw [hmap, Store.replays_append]
    refine ⟨s.world.store, h.replays, ?_⟩
    rw [← hstore]
    exact e.step_replays hfault

/-- **Every happening keeps to the record.** -/
theorem Recorded.step (h : Recorded start s record) {x : Happening}
    (hdoors : ∀ draft, x ≠ .begins (.keeper (.create draft)))
    (hclear : ∀ who directory disturbance, x = .calls who directory disturbance →
      disturbance.fault = none) : Recorded start (s.step x) (record ++ s.asks x) := by
  cases x with
  | begins c =>
    rw [asks, List.append_nil]
    refine h.begins (Command.core_timeless fun draft hdraft => ?_)
    exact hdoors draft (congrArg Happening.begins hdraft)
  | calls who directory disturbance =>
    cases hwho : s.errands[who]? with
    | none =>
      simp only [Scene.step, asks, hwho, List.append_nil]
      exact h
    | some e =>
      simp only [Scene.step, asks, hwho]
      exact h.calls hwho rfl (hclear who directory disturbance rfl)

/-- **So does every row of happenings** in which no fault hits a request. -/
theorem run_recorded (w : World) (happenings : List Happening)
    (hdoors : ∀ draft, .begins (.keeper (.create draft)) ∉ happenings)
    (hclear : ∀ who directory disturbance, .calls who directory disturbance ∈ happenings →
      disturbance.fault = none) :
    Recorded w.store (run { world := w } happenings) (asked { world := w } happenings) := by
  induction happenings using List.reverseRecOn with
  | nil =>
    exact {
      reached := fun e he => absurd he List.not_mem_nil
      timeless := fun e he => absurd he List.not_mem_nil
      own := fun who e he => by cases he
      begun := fun x hx => absurd hx List.not_mem_nil
      replays := .nil _ }
  | append_singleton happenings x ih =>
    have hbefore := ih
      (fun draft hmem => hdoors draft (List.mem_append_left _ hmem))
      (fun who directory disturbance hmem =>
        hclear who directory disturbance (List.mem_append_left _ hmem))
    rw [run_snoc, asked_snoc]
    refine hbefore.step (fun draft hx => ?_) fun who directory disturbance hx => ?_
    · exact hdoors draft (hx ▸ List.mem_append_right _ List.mem_cons_self)
    · exact hclear who directory disturbance (hx ▸ List.mem_append_right _ List.mem_cons_self)

end Scene

/-! ## One after another -/

/-- **Errands run anew one after another**: what they leave of a world. -/
def World.inTurn (w : World) (es : List Errand) : World := es.foldl (fun w e => (e.again w).2) w

/-- **Where the store replies to their requests as it did**, each comes to the same end. -/
theorem World.inTurn_replays {es : List Errand} (hreached : ∀ e ∈ es, e.Reached)
    (htimeless : ∀ e ∈ es, e.command.core.Timeless) (hended : ∀ e ∈ es, e.rest.result?.isSome)
    {w : World} {s : Store}
    (hstore : w.store.Replays (es.flatMap fun e => Service.requests e.heard) s) :
    (w.inTurn es).store = s ∧ ∀ before e after, es = before ++ e :: after →
      e.rest.result? = some (e.again (w.inTurn before)).1 := by
  induction es generalizing w with
  | nil =>
    cases hstore
    exact ⟨rfl, fun before e after hes => by cases before <;> cases hes⟩
  | cons first es ih =>
    rw [List.flatMap_cons, Store.replays_append] at hstore
    obtain ⟨between, hfirst, hstore⟩ := hstore
    obtain ⟨hresult, hleft⟩ := Errand.again_of_replays (hreached first List.mem_cons_self)
      (htimeless first List.mem_cons_self) (hended first List.mem_cons_self) hfirst
    rw [← hleft] at hstore
    obtain ⟨hend, hresults⟩ := ih (fun e he => hreached e (List.mem_cons_of_mem _ he))
      (fun e he => htimeless e (List.mem_cons_of_mem _ he))
      (fun e he => hended e (List.mem_cons_of_mem _ he)) hstore
    refine ⟨hend, fun before e after hes => ?_⟩
    cases before with
    | nil =>
      obtain ⟨rfl, -⟩ := List.cons.inj hes
      exact hresult
    | cons x before =>
      obtain ⟨rfl, htail⟩ := List.cons.inj hes
      exact hresults before e after htail

namespace Scene

/-- The errands of a scene in some order. -/
def inOrder (s : Scene) (order : List Nat) : List Errand := order.filterMap (s.errands[·]?)

/-- **A scene is as if its errands had been run one after another** in an order, from a world on:
the store is the one that they leave, and each has come to what it comes to after those before
it. -/
structure AsInTurn (w : World) (s : Scene) (order : List Nat) : Prop where
  store : s.world.store = (w.inTurn (s.inOrder order)).store
  results : ∀ before i after e, order = before ++ i :: after → s.errands[i]? = some e →
    e.rest.result? = some (e.again (w.inTurn (s.inOrder before))).1

variable {w : World} {s : Scene} {record : List (Nat × Service.Exchange)}

/-- No errand makes two requests. -/
theorem Recorded.nodup (h : Recorded w.store s record)
    (hended : ∀ e ∈ s.errands, e.rest.result?.isSome) : (record.map (·.1)).Nodup := by
  refine List.nodup_iff_count_le_one.2 fun who => ?_
  have hcount : (record.map (·.1)).count who = (shareOf who record).length := by
    rw [List.count_eq_countP, List.countP_map, List.countP_eq_length_filter, shareOf,
      List.length_map]
    rfl
  rw [hcount]
  cases hwho : s.errands[who]? with
  | none =>
    have hnone : shareOf who record = [] := by
      refine shareOf_eq_nil fun hmem => ?_
      obtain ⟨x, hx, rfl⟩ := List.mem_map.1 hmem
      exact absurd (h.begun x hx) (Nat.not_lt.2 (List.getElem?_eq_none_iff.1 hwho))
    rw [hnone]
    exact Nat.zero_le _
  | some e =>
    have he : e ∈ s.errands := List.mem_of_getElem? hwho
    obtain ⟨result, -, hcore⟩ := (h.reached e he).ended (hended e he)
    have hlength := Core.requests_length_le hcore
    rwa [Errand.work, Service.requests_work, h.own who e hwho] at hlength

theorem Recorded.inOrder_requests (h : Recorded w.store s record) {order : List Nat}
    (horder : ∀ i ∈ order, i < s.errands.length) :
    (s.inOrder order).flatMap (fun e => Service.requests e.heard) =
      order.flatMap (shareOf · record) := by
  induction order with
  | nil => rfl
  | cons i order ih =>
    have hlt : i < s.errands.length := horder i List.mem_cons_self
    have hi : s.errands[i]? = some s.errands[i] := List.getElem?_eq_getElem hlt
    have hrest := ih fun j hj => horder j (List.mem_cons_of_mem _ hj)
    rw [inOrder, List.filterMap_cons_some hi, List.flatMap_cons, List.flatMap_cons, h.own i _ hi]
    exact congrArg (shareOf i record ++ ·) hrest

/-- **Commands beside each other are as if run one after another**, in the
order of their requests to the keeper; those that make none may have any
place. Each is told by the directory and the clock what it was told. -/
theorem run_as_in_turn (w : World) (happenings : List Happening)
    (hdoors : ∀ draft, .begins (.keeper (.create draft)) ∉ happenings)
    (hclear : ∀ who directory disturbance, .calls who directory disturbance ∈ happenings →
      disturbance.fault = none)
    (hended : ∀ e ∈ (run { world := w } happenings).errands, e.rest.result?.isSome) :
    ((asked { world := w } happenings).map (·.1)).Nodup ∧
      (∀ x ∈ asked { world := w } happenings,
        x.1 < (run { world := w } happenings).errands.length) ∧
      ∀ order : List Nat,
        order.Perm (List.range (run { world := w } happenings).errands.length) →
        ((asked { world := w } happenings).map (·.1)).Sublist order →
        AsInTurn w (run { world := w } happenings) order := by
  have hrecorded := run_recorded w happenings hdoors hclear
  refine ⟨hrecorded.nodup hended, hrecorded.begun, fun order hperm hsub => ?_⟩
  have hnodup : order.Nodup := hperm.nodup_iff.2 List.nodup_range
  have hin : ∀ i ∈ order, i < (run { world := w } happenings).errands.length := by
    intro i hi
    exact List.mem_range.1 (hperm.subset hi)
  have hmem : ∀ e ∈ inOrder (run { world := w } happenings) order,
      e ∈ (run { world := w } happenings).errands := by
    intro e he
    obtain ⟨i, -, hi⟩ := List.mem_filterMap.1 he
    exact List.mem_of_getElem? hi
  have hreplays := hrecorded.replays
  rw [← flatMap_shareOf hsub hnodup, ← hrecorded.inOrder_requests hin] at hreplays
  obtain ⟨hstore, hresults⟩ := World.inTurn_replays (fun e he => hrecorded.reached e (hmem e he))
    (fun e he => hrecorded.timeless e (hmem e he)) (fun e he => hended e (hmem e he)) hreplays
  refine ⟨hstore.symm, fun before i after e horder hi => ?_⟩
  refine hresults _ e (inOrder (run { world := w } happenings) after) ?_
  rw [horder, inOrder, List.filterMap_append, List.filterMap_cons_some hi]
  rfl

/-- Two requests to send, one of them for a user whom the directory does not know by then, an
event and a request to mark; they make their calls in turn. -/
def crossing : List Happening :=
  let known : Directory := [(7, .ok ⟨7, "ann", "ann@x"⟩), (42, .ok ⟨42, "bob", "bob@x"⟩)]
  [.begins (.remote (.send 7 "like" [1])), .begins (.event Event.escapedEvent.text),
    .begins (.remote (.readAll 7)), .begins (.remote (.send 42 "like" [2]))] ++
    (List.range 48).map fun i => .calls (i % 4) (if i % 4 = 3 then [] else known) {}

/-- A clock that is never still. -/
def ticking : World := { clock := fun n => ⟨n⟩ }

theorem run_as_in_turn_crossing :
    ((∀ draft, .begins (.keeper (.create draft)) ∉ crossing) ∧
      (∀ who directory disturbance, .calls who directory disturbance ∈ crossing →
        disturbance.fault = none) ∧
      (∀ e ∈ (run { world := ticking } crossing).errands, e.rest.result?.isSome) ∧
      (asked { world := ticking } crossing).map (·.1) = [2, 0, 1] ∧
      ((run { world := ticking } crossing).world.store.rows.map (·.userId)) = [7, 42]) ∧
      AsInTurn ticking (run { world := ticking } crossing) [2, 3, 0, 1] := by
  have hdoors : ∀ draft, .begins (.keeper (.create draft)) ∉ crossing := by
    intro draft h
    simp [crossing] at h
  have hclear : ∀ who directory disturbance, .calls who directory disturbance ∈ crossing →
      disturbance.fault = none := by
    intro who directory disturbance h
    simp only [crossing, List.mem_append, List.mem_cons, List.mem_map, reduceCtorEq, false_or,
      List.not_mem_nil] at h
    obtain ⟨i, -, hi⟩ := h
    cases hi
    rfl
  have hended : ∀ e ∈ (run { world := ticking } crossing).errands, e.rest.result?.isSome := by
    decide +kernel
  have hasked : (asked { world := ticking } crossing).map (·.1) = [2, 0, 1] := by decide +kernel
  have hlength : (run { world := ticking } crossing).errands.length = 4 := by decide +kernel
  obtain ⟨-, -, hinTurn⟩ := run_as_in_turn ticking crossing hdoors hclear hended
  refine ⟨⟨hdoors, hclear, hended, hasked, by decide +kernel⟩, hinTurn [2, 3, 0, 1] ?_ ?_⟩
  · rw [hlength]
    decide
  · rw [hasked]
    decide

end Scene

end NotificationFeed
