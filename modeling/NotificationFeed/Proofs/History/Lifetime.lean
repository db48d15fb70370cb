import Mathlib.Data.List.Induction
import NotificationFeed.Proofs.History.Command
/-!
# Histories — the lifetime of a notification

A history is any row of commands, each with what hits it on its way and with
what the directory answers at that time. Every step makes of the store what
its own answer says, so the numbering and the continuations of notifications
carry over from a step to a history. What follows holds at every two moments
of every history that begins with nothing stored.
-/

namespace NotificationFeed

/-- One step of a history. -/
structure Move where
  command : Command
  disturbance : Disturbance := {}
  directory : Directory := []
  deriving Repr

namespace Move

variable {w : World}

/-- What comes of a step, and the world it leaves. -/
def run (m : Move) (w : World) :
    Except Panic (Except m.command.Refusal m.command.Answer) × World :=
  ({ w with directory := m.directory } : World).run m.disturbance m.command.task

/-- What a step did to the store, by its answer. -/
def deed (m : Move) (w : World) : Store.Deed := World.deedOf m.command.deed (m.run w).1

/-- **A step does to the store what its answer says.** -/
theorem makes (m : Move) (w : World) : (m.deed w).Makes w.store (m.run w).2.store := by
  obtain ⟨o, v, hyields, hmakes⟩ :=
    m.command.makes { w with directory := m.directory, disturbance := m.disturbance }
  obtain ⟨ho, hstore⟩ :=
    World.run_of_yields (w := { w with directory := m.directory }) hyields
  rw [deed, run, ho, hstore]
  exact hmakes

/-- A step about a notification that is not there is told so, unless a fault hits it. -/
theorem absent {m : Move} {id : Int} (hsubject : m.command.subject? = some id)
    (hpositive : 0 < id) (habs : ∀ n ∈ w.store.rows, n.id ≠ id)
    (hfault : m.disturbance.fault = none) :
    (m.run w).1 = .ok (.error m.command.notFound) := by
  obtain ⟨v, hyields⟩ := Command.absent hsubject hpositive habs
    (w := { w with directory := m.directory, disturbance := m.disturbance }) hfault
  exact (World.run_of_yields (w := { w with directory := m.directory }) hyields).1

end Move

namespace World

variable {w : World} {n : Notification}

/-- The world with nothing stored. -/
def fresh (w : World) : World := { w with store := {} }

/-- The world that a history leaves. -/
def after (w : World) (moves : List Move) : World := moves.foldl (fun w m => (m.run w).2) w

theorem after_append (w : World) (moves later : List Move) :
    w.after (moves ++ later) = (w.after moves).after later := List.foldl_append

theorem after_snoc (w : World) (moves : List Move) (m : Move) :
    w.after (moves ++ [m]) = (m.run (w.after moves)).2 := after_append w moves [m]

/-! ## What carries over to a history -/

theorem after_wellNumbered (h : w.store.WellNumbered) (moves : List Move) :
    (w.after moves).store.WellNumbered := by
  induction moves using List.reverseRecOn with
  | nil => exact h
  | append_singleton moves m ih =>
    rw [after_snoc]
    exact (m.makes _).wellNumbered ih

theorem fresh_wellNumbered (w : World) (moves : List Move) :
    (w.fresh.after moves).store.WellNumbered :=
  after_wellNumbered Store.wellNumbered_empty moves

theorem after_evolves (w : World) (moves : List Move) :
    w.store.Evolves (w.after moves).store := by
  induction moves using List.reverseRecOn with
  | nil => exact .refl _
  | append_singleton moves m ih =>
    rw [after_snoc]
    exact ih.trans (m.makes _).evolves

/-- How many notifications a history creates. -/
def creations (w : World) : List Move → Nat
  | [] => 0
  | m :: later => (m.deed w).creations + creations (m.run w).2 later

/-- **The last identifier is raised by the number of notifications created.** From none it fits into
64 bits as long as fewer than 2 ^ 63 are created. -/
theorem lastId_after (w : World) (moves : List Move) :
    (w.after moves).store.lastId = w.store.lastId + w.creations moves := by
  induction moves generalizing w with
  | nil => exact (Int.add_zero _).symm
  | cons m later ih =>
    have hstep := (m.makes w).lastId_eq
    have hlater : (w.after (m :: later)).store.lastId =
        (m.run w).2.store.lastId + creations (m.run w).2 later := ih (m.run w).2
    rw [creations]
    omega

/-- A notification that no step removes stays. -/
theorem after_keeps (hn : n ∈ w.store.rows) (moves : List Move)
    (hkept : ∀ before m rest, moves = before ++ m :: rest →
      m.deed (w.after before) ≠ .removed n.id) :
    ∃ n' ∈ (w.after moves).store.rows, n.Continues n' := by
  induction moves using List.reverseRecOn with
  | nil => exact ⟨n, hn, .refl n⟩
  | append_singleton moves m ih =>
    -- The notification has stayed so far as `n'`, under the same identifier.
    obtain ⟨n', hn', hc⟩ := ih fun before x rest hmoves =>
      hkept before x (rest ++ [m]) (by rw [hmoves, List.append_assoc, List.cons_append])
    have hlast : m.deed (w.after moves) ≠ .removed n'.id := by
      rw [hc.id]
      exact hkept moves m [] rfl
    obtain ⟨n'', hn'', hc'⟩ := (m.makes (w.after moves)).keeps hn' hlast
    rw [after_snoc]
    exact ⟨n'', hn'', hc.trans hc'⟩

/-- **Every notification was created**: some step gave out its identifier, it
was unread then, and it is the same notification now. -/
theorem after_created (w : World) (moves : List Move)
    (hn : n ∈ (w.fresh.after moves).store.rows) :
    ∃ before m rest, moves = before ++ m :: rest ∧
      m.deed (w.fresh.after before) = .created n.id ∧
      ∃ n₀ ∈ (w.fresh.after (before ++ [m])).store.rows, n₀.isRead = false ∧ n₀.Continues n := by
  induction moves using List.reverseRecOn generalizing n with
  | nil => cases hn
  | append_singleton moves m ih =>
    -- Either the last step created it, or it continues one that an earlier step created.
    have hstep := hn
    rw [after_snoc] at hstep
    rcases (m.makes _).origin hstep with ⟨hcreated, hunread⟩ | ⟨n', hn', hc⟩
    · exact ⟨moves, m, [], rfl, hcreated, n, hn, hunread, .refl n⟩
    · obtain ⟨before, x, rest, rfl, hcreated, n₀, hn₀, hunread, hc₀⟩ := ih hn'
      refine ⟨before, x, rest ++ [m], ?_, ?_, n₀, hn₀, hunread, hc₀.trans hc⟩
      · rw [List.append_assoc, List.cons_append]
      · rw [hc.id]
        exact hcreated

/-- An identifier that a step gave out is greater than every one before. -/
theorem created_lt (w : World) (between : List Move) {m m' : Move} {i i' : Int}
    (h : m.deed w = .created i)
    (h' : m'.deed ((m.run w).2.after between) = .created i') : i < i' := by
  have hmakes := m.makes w
  have hmakes' := m'.makes ((m.run w).2.after between)
  rw [h] at hmakes
  rw [h'] at hmakes'
  obtain ⟨-, hlast, -⟩ := Store.created_makes hmakes
  obtain ⟨hnew, -, -⟩ := Store.created_makes hmakes'
  have hle := (after_evolves (m.run w).2 between).lastId_le
  omega

/-- The identifier of the only notification is not given out again when that is removed. -/
example :
    Move.deed ⟨.keeper (.create ⟨7, "like", none, []⟩), {}, []⟩
      (after {} [⟨.keeper (.create ⟨7, "like", none, []⟩), {}, []⟩,
        ⟨.keeper (.delete 1), {}, []⟩]) = .created 2 := rfl

/-- **What a step removed never comes back.** -/
theorem removed_absent (hw : w.store.WellNumbered) (between : List Move) {m : Move} {i : Int}
    (h : m.deed w = .removed i) :
    0 < i ∧ ∀ n ∈ ((m.run w).2.after between).store.rows, n.id ≠ i := by
  have hmakes := m.makes w
  have hmoved := hmakes.evolves.lastId_le
  rw [h] at hmakes
  obtain ⟨⟨n, hn, rfl⟩, hgone⟩ := Store.removed_makes hmakes
  refine ⟨hw.positive n hn, (after_evolves _ between).absent ?_ hgone⟩
  exact Int.le_trans (hw.bounded n hn) hmoved

end World

/-! ## The lifetime -/

/-- **The lifetime of a notification**, over every history that begins with
nothing stored, between a moment, a step `m` taken there, and any later
moment with a step `m'` taken there. The identifiers in the store are
distinct, positive and no greater than the last one given out, which is the
number of those created and fits into 64 bits as long as that does, and a
created identifier is greater than every one created before it. A created
notification is there and unread, and every one that is stored was once created; under its
identifier there is at any later moment only itself, its flag never turned
back, and it is there until a step removes it. After a step has removed it, a
step about it that no fault hits is told that it is not there, no step shows
it, and nothing is stored under its identifier. -/
theorem notification_lifetime (w : World) (before between : List Move) (m m' : Move) :
    (((w.fresh.after before).store.rows.map (·.id)).Nodup ∧
      (∀ n ∈ (w.fresh.after before).store.rows,
        0 < n.id ∧ n.id ≤ (w.fresh.after before).store.lastId) ∧
      (w.fresh.after before).store.lastId = w.fresh.creations before ∧
      (w.fresh.creations before ≤ Int64.maxValue.toInt →
        (w.fresh.after before).store.lastId ≤ Int64.maxValue.toInt) ∧
      ∀ i i', m.deed (w.fresh.after before) = .created i →
        m'.deed (w.fresh.after (before ++ m :: between)) = .created i' → i < i') ∧
    ((∀ i, m.deed (w.fresh.after before) = .created i →
        ∃ n ∈ (w.fresh.after (before ++ [m])).store.rows, n.id = i ∧ n.isRead = false) ∧
      (∀ n ∈ (w.fresh.after before).store.rows, ∃ birth b rest,
        before = birth ++ b :: rest ∧ b.deed (w.fresh.after birth) = .created n.id ∧
        ∃ n₀ ∈ (w.fresh.after (birth ++ [b])).store.rows, n₀.isRead = false ∧ n₀.Continues n) ∧
      (∀ n ∈ (w.fresh.after before).store.rows,
        ∀ n' ∈ (w.fresh.after (before ++ m :: between)).store.rows,
          n'.id = n.id → n.Continues n') ∧
      ∀ n ∈ (w.fresh.after before).store.rows,
        (∀ part x rest, m :: between = part ++ x :: rest →
          x.deed (w.fresh.after (before ++ part)) ≠ .removed n.id) →
        ∃ n' ∈ (w.fresh.after (before ++ m :: between)).store.rows, n.Continues n') ∧
    ∀ i, m.deed (w.fresh.after before) = .removed i →
      (m'.command.subject? = some i → m'.disturbance.fault = none →
        (m'.run (w.fresh.after (before ++ m :: between))).1 = .ok (.error m'.command.notFound)) ∧
      (∀ ids, m'.deed (w.fresh.after (before ++ m :: between)) = .showed ids → i ∉ ids) ∧
      ∀ n ∈ (w.fresh.after (before ++ m :: between)).store.rows, n.id ≠ i := by
  have hnumbered := w.fresh_wellNumbered before
  have hsplit : w.fresh.after (before ++ m :: between) =
      (w.fresh.after before).after (m :: between) := World.after_append _ _ _
  have hstep : (w.fresh.after before).after (m :: between) =
      (m.run (w.fresh.after before)).2.after between := rfl
  have hlast := World.lastId_after w.fresh before
  have hstart : w.fresh.store.lastId = 0 := rfl
  rw [hstart, Int.zero_add] at hlast
  refine ⟨⟨hnumbered.nodup, fun n hn => ⟨hnumbered.positive n hn, hnumbered.bounded n hn⟩,
      hlast, fun hfew => hlast ▸ hfew, ?_⟩,
    ⟨?_, fun n hn => World.after_created w before hn, ?_, ?_⟩, ?_⟩
  · intro i i' h h'
    rw [hsplit, hstep] at h'
    exact World.created_lt _ between h h'
  · intro i h
    have hmakes := m.makes (w.fresh.after before)
    rw [h] at hmakes
    rw [World.after_snoc]
    exact (Store.created_makes hmakes).2.2
  · intro n hn n' hn' hid
    rw [hsplit] at hn'
    exact (World.after_evolves _ _).continues hnumbered hn hn' hid
  · intro n hn hkept
    rw [hsplit]
    refine World.after_keeps hn _ fun part x rest hmoves => ?_
    rw [← World.after_append]
    exact hkept part x rest hmoves
  · intro i h
    obtain ⟨hpositive, habs⟩ := World.removed_absent hnumbered between h
    rw [hsplit, hstep]
    refine ⟨fun hsubject hfault => Move.absent hsubject hpositive habs hfault, ?_, habs⟩
    intro ids hshowed hmem
    have hmakes := m'.makes ((m.run (w.fresh.after before)).2.after between)
    rw [hshowed] at hmakes
    obtain ⟨n, hn, hid⟩ := hmakes.1 i hmem
    exact habs n hn hid

end NotificationFeed
