import NotificationFeed.World
import NotificationFeed.Proofs.Program.Calls
/-!
# Worlds — what an answer depends on

A call is answered from the store, the directory, the two clocks and the
disturbance. The record of earlier calls and the registry of metrics are
written and never read, so two worlds that differ in nothing else (`Alike`)
answer every program in the same way, record the same calls for it
(`World.made`) and stay alike.
-/

namespace NotificationFeed

namespace World

variable {α β : Type} {w v u : World}

/-- **Two worlds that differ at most in what was recorded and observed.** -/
structure Alike (w v : World) : Prop where
  store : w.store = v.store
  directory : w.directory = v.directory
  clock : w.clock = v.clock
  readings : w.readings = v.readings
  stopwatch : w.stopwatch = v.stopwatch
  disturbance : w.disturbance = v.disturbance

namespace Alike

theorem refl (w : World) : w.Alike w := ⟨rfl, rfl, rfl, rfl, rfl, rfl⟩

theorem trans (h : w.Alike v) (h' : v.Alike u) : w.Alike u :=
  ⟨h.store.trans h'.store, h.directory.trans h'.directory, h.clock.trans h'.clock,
    h.readings.trans h'.readings, h.stopwatch.trans h'.stopwatch,
    h.disturbance.trans h'.disturbance⟩

end Alike

/-- **Two worlds that are alike once the disturbance at hand is over.** A run
sets its own disturbance, so nothing else counts for it. -/
def Akin (w v : World) : Prop :=
  ({ w with disturbance := {} } : World).Alike { v with disturbance := {} }

theorem Alike.akin (h : w.Alike v) : w.Akin v :=
  ⟨h.store, h.directory, h.clock, h.readings, h.stopwatch, rfl⟩

namespace Akin

theorem refl (w : World) : w.Akin w := Alike.refl _

theorem trans (h : w.Akin v) (h' : v.Akin u) : w.Akin u := Alike.trans h h'

theorem disturb (h : w.Akin v) (d : Disturbance) :
    ({ w with disturbance := d } : World).Alike { v with disturbance := d } :=
  ⟨h.store, h.directory, h.clock, h.readings, h.stopwatch, rfl⟩

end Akin

/-- Writing a call down leaves a world like itself. -/
theorem record_alike (w : World) (c : Service.Call) : (w.record c).Alike w :=
  ⟨rfl, rfl, rfl, rfl, rfl, rfl⟩

/-- What was recorded before is never looked at. -/
theorem past_akin (w : World) (past : List Service.Call) :
    ({ w with past := past } : World).Akin w :=
  ⟨rfl, rfl, rfl, rfl, rfl, rfl⟩

/-! ## One call -/

/-- **Worlds alike answer alike**: the reply is the same, and so is all that
is left but the past and the registry. -/
theorem answer_alike (h : w.Alike v) (c : Service.Call) :
    (answer c w).1 = (answer c v).1 ∧ (answer c w).2.Alike (answer c v).2 := by
  obtain ⟨h1, h2, h3, h4, h5, h6⟩ := h
  cases w
  cases v
  simp only at h1 h2 h3 h4 h5 h6
  subst h1 h2 h3 h4 h5 h6
  cases c with
  | store request =>
    simp only [answer, record, elapse]
    split
    · exact ⟨rfl, ⟨rfl, rfl, rfl, rfl, rfl, rfl⟩⟩
    · exact ⟨rfl, ⟨rfl, rfl, rfl, rfl, rfl, rfl⟩⟩
    · unfold perform
      split <;> exact ⟨rfl, ⟨rfl, rfl, rfl, rfl, rfl, rfl⟩⟩
  | _ => exact ⟨rfl, ⟨rfl, rfl, rfl, rfl, rfl, rfl⟩⟩

/-- Answering a call writes down that call and no other. -/
theorem past_answer (c : Service.Call) (w : World) : (answer c w).2.past = c :: w.past := by
  cases c with
  | store request =>
    simp only [answer, record, elapse]
    split
    · rfl
    · rfl
    · unfold perform
      split <;> rfl
  | _ => rfl

/-! ## A run -/

/-- **A run sees neither the past nor the registry.** From worlds alike it
ends in the same way, in worlds alike, having recorded the same calls. -/
theorem run_answer_alike (p : Service.Task α) (h : w.Alike v) :
    (p.run answer w).1 = (p.run answer v).1 ∧ (p.run answer w).2.Alike (p.run answer v).2 ∧
      ∃ calls, (p.run answer w).2.past = calls ++ w.past ∧
        (p.run answer v).2.past = calls ++ v.past := by
  induction p generalizing w v with
  | done a => exact ⟨rfl, h, [], rfl, rfl⟩
  | ask c k ih =>
    -- The replies agree, so both runs go on along the same branch, from worlds alike.
    obtain ⟨hr, ha⟩ := answer_alike h c
    have hw := past_answer c w
    have hv := past_answer c v
    simp only [Program.run_ask]
    rcases ew : answer c w with ⟨rw', w'⟩
    rcases ev : answer c v with ⟨rv, v'⟩
    rw [ew] at hr ha hw
    rw [ev] at hr ha hv
    simp only at hr ha hw hv
    subst hr
    cases rw' with
    | error e => exact ⟨rfl, ha, [c], hw, hv⟩
    | ok r =>
      obtain ⟨h1, h2, calls, h3, h4⟩ := ih r ha
      refine ⟨h1, h2, calls ++ [c], ?_, ?_⟩
      · simp [h3, hw]
      · simp [h4, hv]

/-- The calls a program makes in a world under a disturbance, in order. -/
def made (w : World) (d : Disturbance) (p : Service.Task α) : List Service.Call :=
  (({ w with past := [] } : World).run d p).2.trace

/-- **What a run adds to the record is what the program makes.** -/
theorem trace_run (w : World) (d : Disturbance) (p : Service.Task α) :
    (w.run d p).2.trace = w.trace ++ w.made d p := by
  have h : ({ w with disturbance := d } : World).Alike { w with past := [], disturbance := d } :=
    ⟨rfl, rfl, rfl, rfl, rfl, rfl⟩
  obtain ⟨-, -, calls, h1, h2⟩ := run_answer_alike p h
  simp only [made, run, trace]
  rw [h1, h2]
  simp

theorem calls_run (w : World) (d : Disturbance) (p : Service.Task α) :
    (w.run d p).2.calls = w.calls ++ (w.made d p).filter (·.isCollaborator) := by
  rw [calls, trace_run, List.filter_append]
  rfl

/-- Worlds akin come to the same outcome. -/
theorem run_akin (h : w.Akin v) (d : Disturbance) (p : Service.Task α) :
    (w.run d p).1 = (v.run d p).1 := (run_answer_alike p (h.disturb d)).1

/-- And stay akin. -/
theorem run_keeps_akin (h : w.Akin v) (d : Disturbance) (p : Service.Task α) :
    (w.run d p).2.Akin (v.run d p).2 :=
  (run_answer_alike p (h.disturb d)).2.1.akin

/-- And the program makes the same calls in them. -/
theorem made_akin (h : w.Akin v) (d : Disturbance) (p : Service.Task α) :
    w.made d p = v.made d p := by
  have h' : ({ w with past := [] } : World).Akin { v with past := [] } :=
    ⟨h.store, h.directory, h.clock, h.readings, h.stopwatch, rfl⟩
  obtain ⟨-, -, calls, h1, h2⟩ := run_answer_alike p (h'.disturb d)
  simp only [made, run, trace]
  rw [h1, h2]

/-- The calls of a run are calls the program can make. -/
theorem mem_run_answer {P : Service.Call → Prop} {p : Service.Task α} (hp : p.AsksOnly P)
    (w : World) : ∀ c ∈ (p.run answer w).2.past, c ∈ w.past ∨ P c := by
  induction p generalizing w with
  | done a => exact fun c hc => .inl hc
  | ask c k ih =>
    intro x hx
    have hw := past_answer c w
    rw [Program.run_ask] at hx
    rcases ew : answer c w with ⟨r, w'⟩
    rw [ew] at hw
    simp only at hw
    -- One call adds itself to the past; the rest of the run is a branch of the program.
    have key : ∀ y ∈ w'.past, y ∈ w.past ∨ P y := by
      intro y hy
      rw [hw, List.mem_cons] at hy
      rcases hy with rfl | hy
      · exact .inr hp.1
      · exact .inl hy
    simp only [ew] at hx
    cases r with
    | error e => exact key x hx
    | ok r => exact (ih r (hp.2 r) w' x hx).elim (key x) .inr

theorem of_mem_made {P : Service.Call → Prop} {p : Service.Task α} (hp : p.AsksOnly P)
    {d : Disturbance} {c : Service.Call} (hc : c ∈ w.made d p) : P c := by
  rw [made, trace, List.mem_reverse] at hc
  rcases mem_run_answer hp _ c hc with h | h
  · exact absurd h (List.not_mem_nil)
  · exact h

end World

end NotificationFeed
