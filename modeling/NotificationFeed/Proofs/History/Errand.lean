import NotificationFeed.Program.Thread
import NotificationFeed.Proofs.History.Lifetime
import NotificationFeed.Proofs.Program.Exchanges
/-!
# Errands — commands on their way beside each other

Between two calls of one command anything else may happen: other commands
begin, make their calls and end, and the directory and the faults are others
each time. An errand is one command on its way, with its exchanges so far, and
a scene is a world with all errands that were ever begun in it. Commands one
after another are the case in which each errand makes its calls in a row
(`Scene.exists_run_after`).

A command that keeps to a rule does so in every scene
(`Scene.run_lawful`), since no rule looks at who answers.
-/

namespace NotificationFeed

/-- A call of the service and what it was answered. -/
abbrev Service.Exchange := NotificationFeed.Exchange Service.surroundings

namespace World

/-- The exchange that comes of a call; none if it never returns. -/
def exchange (c : Service.Call) (w : World) : List Service.Exchange :=
  match (answer c w).1 with
  | .ok reply => [⟨c, reply⟩]
  | .error _ => []

end World

/-- **A command on its way**: what it has exchanged, and what is left of it to do. -/
structure Errand where
  command : Command
  heard : List Service.Exchange := []
  rest : Thread Service.surroundings (Except command.Refusal command.Answer)

namespace Errand

/-- A command that has made no call yet. -/
def begin (c : Command) : Errand := { command := c, rest := .ok c.task }

/-- What comes of the next call, if there is one left to make. -/
def next (e : Errand) (w : World) : List Service.Exchange :=
  match e.rest with
  | .ok (.ask call _) => w.exchange call
  | .ok (.done _) | .error _ => []

/-- Makes the next call, if there is one. -/
def step (e : Errand) (w : World) : Errand × World :=
  ({ e with heard := e.heard ++ e.next w, rest := (Thread.step World.answer e.rest w).1 },
    (Thread.step World.answer e.rest w).2)

end Errand

/-- A world and the errands in it, in the order in which they were begun. -/
structure Scene where
  world : World
  errands : List Errand := []

/-- **What happens next in a scene**: a command is begun, or an errand makes
its next call, under a disturbance and with what the directory answers then. -/
inductive Happening where
  | begins (command : Command)
  | calls (who : Nat) (directory : Directory) (disturbance : Disturbance)

namespace Scene

/-- What a happening makes of a scene. -/
def step (s : Scene) : Happening → Scene
  | .begins c => { s with errands := s.errands ++ [.begin c] }
  | .calls who directory disturbance =>
    match s.errands[who]? with
    | none => s
    | some e =>
      let (e, world) := e.step { s.world with directory, disturbance }
      { world, errands := s.errands.set who e }

/-- What a row of happenings makes of a scene. -/
def run (s : Scene) (happenings : List Happening) : Scene := happenings.foldl step s

end Scene

/-! ## One call of an errand -/

namespace Errand

variable {e : Errand} {w : World}
variable {rule : Command → List Service.Exchange → Service.Call → Prop}

/-- **What a step of an errand can be**: a call that is answered, a call that
never returns, or nothing, once the errand has ended. -/
theorem step_cases (e : Errand) (w : World) :
    (∃ call resume reply, e.rest = .ok (.ask call resume) ∧
      (World.answer call w).1 = .ok reply ∧
      e.step w = ({ e with heard := e.heard ++ [⟨call, reply⟩], rest := .ok (resume reply) },
        (World.answer call w).2)) ∨
    (∃ call resume panic, e.rest = .ok (.ask call resume) ∧
      (World.answer call w).1 = .error panic ∧
      e.step w = ({ e with rest := .error panic }, (World.answer call w).2)) ∨
    e.step w = (e, w) := by
  obtain ⟨command, heard, rest⟩ := e
  cases rest with
  | error panic => exact .inr (.inr (by simp [step, next, Thread.step]))
  | ok program =>
    cases program with
    | done result => exact .inr (.inr (by simp [step, next, Thread.step]))
    | ask call resume =>
      rcases hanswer : World.answer call w with ⟨panic | reply, v⟩
      · refine .inr (.inl ⟨call, resume, panic, rfl, by rw [hanswer], ?_⟩)
        simp [step, next, Thread.step, World.exchange, hanswer]
      · refine .inl ⟨call, resume, reply, rfl, by rw [hanswer], ?_⟩
        simp [step, next, Thread.step, World.exchange, hanswer]

/-- An errand later on its way: it has exchanged more, and nothing is taken back. -/
structure Extends (e e' : Errand) : Prop where
  command : e'.command = e.command
  heard : e.heard <+: e'.heard

theorem Extends.refl (e : Errand) : e.Extends e := ⟨rfl, List.prefix_rfl⟩

theorem step_extends (e : Errand) (w : World) : e.Extends (e.step w).1 :=
  ⟨rfl, List.prefix_append _ _⟩

/-- **An errand has kept to a rule and will keep to it.** -/
structure Lawful (rule : Command → List Service.Exchange → Service.Call → Prop) (e : Errand) :
    Prop where
  kept : Program.Kept (rule e.command) e.heard
  keeps : ∀ program, e.rest = .ok program →
    program.Obeys (rule e.command) (fun _ _ => True) e.heard

theorem begin_lawful {c : Command} (h : c.task.Obeys (rule c) (fun _ _ => True) []) :
    (begin c).Lawful rule where
  kept := Program.kept_nil
  keeps program hrest := by
    obtain rfl := Except.ok.inj hrest
    exact h

/-- **A step keeps an errand lawful**, whatever the world answers. -/
theorem Lawful.step (h : e.Lawful rule) (w : World) : (e.step w).1.Lawful rule := by
  rcases step_cases e w with ⟨call, resume, reply, hrest, -, hstep⟩ |
    ⟨call, resume, panic, -, -, hstep⟩ | hstep
  · obtain ⟨hcall, hresume⟩ := h.keeps _ hrest
    rw [hstep]
    refine ⟨h.kept.snoc hcall, fun program hprogram => ?_⟩
    obtain rfl := Except.ok.inj hprogram
    exact hresume reply
  · rw [hstep]
    exact ⟨h.kept, fun program hprogram => by cases hprogram⟩
  · rw [hstep]
    exact h

end Errand

/-! ## A scene -/

namespace Scene

variable {s : Scene} {rule : Command → List Service.Exchange → Service.Call → Prop}

theorem run_snoc (s : Scene) (happenings : List Happening) (h : Happening) :
    s.run (happenings ++ [h]) = (s.run happenings).step h := by
  simp [run]

/-- **What a happening can be**: a command is begun, an errand takes a step,
or it is nobody's turn. -/
theorem step_cases (s : Scene) (h : Happening) :
    (∃ c, h = .begins c ∧ s.step h = { s with errands := s.errands ++ [.begin c] }) ∨
    (∃ who e directory disturbance, s.errands[who]? = some e ∧
      s.step h = {
        world := (e.step { s.world with directory, disturbance }).2
        errands := s.errands.set who (e.step { s.world with directory, disturbance }).1 }) ∨
    s.step h = s := by
  cases h with
  | begins c => exact .inl ⟨c, rfl, rfl⟩
  | calls who directory disturbance =>
    cases hwho : s.errands[who]? with
    | none => exact .inr (.inr (by simp only [step, hwho]))
    | some e => exact .inr (.inl ⟨who, e, directory, disturbance, hwho, by simp only [step, hwho]⟩)

/-- An errand that is begun stays in its scene. -/
theorem step_extends (s : Scene) (h : Happening) {e : Errand} (he : e ∈ s.errands) :
    ∃ e' ∈ (s.step h).errands, e.Extends e' := by
  rcases step_cases s h with ⟨c, -, hstep⟩ | ⟨who, x, directory, disturbance, hwho, hstep⟩ | hstep
  · rw [hstep]
    exact ⟨e, List.mem_append_left _ he, .refl e⟩
  · -- The errand whose turn it is goes on in its place; every other one stays as it is.
    obtain ⟨hlt, rfl⟩ := List.getElem?_eq_some_iff.1 hwho
    obtain ⟨i, hi, rfl⟩ := List.getElem_of_mem he
    rw [hstep]
    by_cases hiw : i = who
    · subst hiw
      exact ⟨_, List.mem_set hi _, Errand.step_extends _ _⟩
    · refine ⟨s.errands[i], List.mem_iff_getElem?.2 ⟨i, ?_⟩, .refl _⟩
      rw [List.getElem?_set_ne (Ne.symm hiw)]
      exact List.getElem?_eq_getElem hi
  · rw [hstep]
    exact ⟨e, he, .refl e⟩

/-- **What holds of every errand that is begun, and that a step of an errand keeps** while
something else holds of the store, holds throughout a scene. -/
theorem run_invariant (goal : Errand → Prop) (keeps : Store → Prop)
    (hstep : ∀ e w, goal e → keeps w.store → goal (e.step w).1 ∧ keeps (e.step w).2.store)
    (hs : ∀ e ∈ s.errands, goal e) (hstore : keeps s.world.store) (happenings : List Happening)
    (hbegins : ∀ c, .begins c ∈ happenings → goal (.begin c)) :
    (∀ e ∈ (s.run happenings).errands, goal e) ∧ keeps (s.run happenings).world.store := by
  induction happenings using List.reverseRecOn with
  | nil => exact ⟨hs, hstore⟩
  | append_singleton happenings h ih =>
    obtain ⟨hbefore, hkept⟩ := ih fun c hc => hbegins c (List.mem_append_left _ hc)
    rw [run_snoc]
    rcases step_cases (s.run happenings) h with ⟨c, rfl, hnext⟩ |
      ⟨who, x, directory, disturbance, hwho, hnext⟩ | hnext
    · rw [hnext]
      refine ⟨fun e he => ?_, hkept⟩
      rcases List.mem_append.1 he with he | he
      · exact hbefore e he
      · rw [List.mem_singleton.1 he]
        exact hbegins c (List.mem_append_right _ List.mem_cons_self)
    · have hx := hstep x { (s.run happenings).world with directory, disturbance }
        (hbefore x (List.mem_of_getElem? hwho)) hkept
      rw [hnext]
      refine ⟨fun e he => ?_, hx.2⟩
      rcases List.mem_or_eq_of_mem_set he with he | rfl
      · exact hbefore e he
      · exact hx.1
    · rw [hnext]
      exact ⟨hbefore, hkept⟩

/-- **The errands of a scene keep to a rule** that their commands keep to. -/
theorem run_lawful (hs : ∀ e ∈ s.errands, e.Lawful rule) (happenings : List Happening)
    (hbegins : ∀ c, .begins c ∈ happenings → c.task.Obeys (rule c) (fun _ _ => True) []) :
    ∀ e ∈ (s.run happenings).errands, e.Lawful rule := by
  have hrun := run_invariant (·.Lawful rule) (fun _ => True) (fun e w h _ => ⟨h.step w, trivial⟩)
    hs trivial happenings fun c hc => Errand.begin_lawful (hbegins c hc)
  exact hrun.1

end Scene

/-! ## One command after another -/

namespace World

/-- Answering a call leaves the directory and the disturbance as they are. -/
theorem answer_surroundings (c : Service.Call) (w : World) :
    { (answer c w).2 with directory := w.directory, disturbance := w.disturbance } =
      (answer c w).2 := by
  cases c with
  | store request =>
    simp only [answer, record, elapse]
    split
    · rfl
    · rfl
    · unfold perform
      split <;> rfl
  | _ => rfl

/-- Two worlds are one but for what the directory answers and what hits a call. -/
def Same (w v : World) : Prop :=
  { w with directory := [], disturbance := {} } = { v with directory := [], disturbance := {} }

theorem Same.surround {w v : World} (h : w.Same v) (directory : Directory)
    (disturbance : Disturbance) :
    { w with directory, disturbance } = { v with directory, disturbance } := by
  have hsurround := congrArg (fun u : World => { u with directory, disturbance }) h
  exact hsurround

end World

namespace Scene

theorem run_append (s : Scene) (first second : List Happening) :
    s.run (first ++ second) = (s.run first).run second := List.foldl_append

/-- **An errand whose turn it is to its end** leaves the world that a run of
what was left of it leaves. -/
theorem run_out {s : Scene} {who : Nat} {c : Command} {heard : List Service.Exchange}
    (program : Service.Task (Except c.Refusal c.Answer)) (directory : Directory)
    (disturbance : Disturbance) (hwho : s.errands[who]? = some ⟨c, heard, .ok program⟩) :
    ∃ n, (s.run (List.replicate n (.calls who directory disturbance))).world.Same
      (program.run World.answer { s.world with directory, disturbance }).2 := by
  -- By induction on what is left: the first turn makes one call, the others run out the rest.
  induction program generalizing s heard with
  | done result => exact ⟨0, rfl⟩
  | ask call resume ih =>
    have hstep : s.step (.calls who directory disturbance) = {
        world := ((Errand.mk c heard (.ok (.ask call resume))).step
          { s.world with directory, disturbance }).2
        errands := s.errands.set who ((Errand.mk c heard (.ok (.ask call resume))).step
          { s.world with directory, disturbance }).1 } := by
      simp only [step, hwho]
    have hkeeps := World.answer_surroundings call { s.world with directory, disturbance }
    rcases hanswer : World.answer call { s.world with directory, disturbance } with
      ⟨panic | reply, v⟩
    · -- A call that never returns is the last one.
      refine ⟨1, ?_⟩
      rw [List.replicate_one, run, List.foldl_cons, List.foldl_nil, hstep, Program.run_ask, hanswer]
      simp only [Errand.step, Thread.step, hanswer]
      rfl
    · rw [hanswer] at hkeeps
      have hnext : (s.step (.calls who directory disturbance)).errands[who]? =
          some ⟨c, heard ++ [⟨call, reply⟩], .ok (resume reply)⟩ := by
        rw [hstep, List.getElem?_set_self (List.getElem?_eq_some_iff.1 hwho).1]
        simp [Errand.step, Errand.next, Thread.step, World.exchange, hanswer]
      obtain ⟨n, hn⟩ := ih reply hnext
      refine ⟨n + 1, ?_⟩
      rw [List.replicate_succ, run, List.foldl_cons, Program.run_ask, hanswer]
      have hworld : (s.step (.calls who directory disturbance)).world = v := by
        rw [hstep]
        simp only [Errand.step, Thread.step, hanswer]
      rw [hworld] at hn
      simp only at hkeeps
      rwa [hkeeps] at hn

/-- **A history is a scene** in which each command ends before the next one is begun. -/
theorem exists_run_after (w : World) (moves : List Move) :
    ∃ happenings, (∀ c, .begins c ∈ happenings → ∃ m ∈ moves, m.command = c) ∧
      (run { world := w } happenings).world.Same (w.after moves) := by
  induction moves using List.reverseRecOn with
  | nil => exact ⟨[], fun c hc => absurd hc List.not_mem_nil, rfl⟩
  | append_singleton moves m ih =>
    obtain ⟨happenings, hbegins, hsame⟩ := ih
    -- The command of the last step is begun when the others have ended, and has every turn left.
    have hlast : ((run { world := w } happenings).step (.begins m.command)).errands[
        (run { world := w } happenings).errands.length]? = some (.begin m.command) :=
      List.getElem?_concat_length
    obtain ⟨n, hn⟩ := run_out m.command.task m.directory m.disturbance hlast
    refine ⟨happenings ++ .begins m.command :: List.replicate n
      (.calls (run { world := w } happenings).errands.length m.directory m.disturbance), ?_, ?_⟩
    · intro c hc
      rcases List.mem_append.1 hc with hc | hc
      · obtain ⟨x, hx, hcommand⟩ := hbegins c hc
        exact ⟨x, List.mem_append_left _ hx, hcommand⟩
      · rcases List.mem_cons.1 hc with hc | hc
        · cases hc
          exact ⟨m, List.mem_append_right _ List.mem_cons_self, rfl⟩
        · cases List.eq_of_mem_replicate hc
    · rw [run_append, World.after_snoc]
      have hsurround := hsame.surround m.directory m.disturbance
      unfold Move.run World.run
      simp only [step] at hn
      rw [hsurround] at hn
      exact hn

end Scene

end NotificationFeed
