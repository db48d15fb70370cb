import NotificationFeed.Proofs.World.Alike
/-!
# Worlds — the calls of a run and the time it takes

`Runs p w o calls v` is a run of a program told call by call: from `w` it
makes `calls`, in this order, comes to `o` and leaves `v`. Every program has
such a run, and it is the one that is computed (`runs`, `Runs.run_eq`). Two
runs in sequence are a run, so the calls of a program are found from those of
its parts. Time passes in a request to the keeper and nowhere else, each time
by the delay of the disturbance (`Runs.stopwatch`).
-/

namespace NotificationFeed

/-- A request to the keeper of notifications. -/
def Service.Call.isStore : Service.Call → Bool
  | store _ => true
  | _ => false

/-- **A disturbance under which every call comes back.** -/
def Disturbance.Returns (d : Disturbance) : Prop := ∀ panic, d.fault ≠ some (.throw panic)

namespace World

variable {α β : Type} {w v u : World} {calls calls' : List Service.Call}

/-- **From a world a program makes some calls, comes to an outcome and leaves a world.** -/
inductive Runs : Service.Task α → World → Except Panic α → List Service.Call → World → Prop
  | done (a : α) (w : World) : Runs (.done a) w (.ok a) [] w
  | ask {c : Service.Call} {k : c.Reply → Service.Task α} {reply : c.Reply} {w v u : World}
      {o : Except Panic α} {calls : List Service.Call} (hanswer : answer c w = (.ok reply, v))
      (hrest : Runs (k reply) v o calls u) : Runs (.ask c k) w o (c :: calls) u
  | throw {c : Service.Call} {k : c.Reply → Service.Task α} {panic : Panic} {w v : World}
      (hanswer : answer c w = (.error panic, v)) : Runs (.ask c k) w (.error panic) [c] v

/-- **Every program runs.** -/
theorem runs (p : Service.Task α) (w : World) :
    ∃ calls, Runs p w (p.run answer w).1 calls (p.run answer w).2 := by
  induction p generalizing w with
  | done a => exact ⟨[], .done a w⟩
  | ask c k ih =>
    rw [Program.run_ask]
    rcases hanswer : answer c w with ⟨panic | reply, v⟩
    · exact ⟨[c], .throw hanswer⟩
    · obtain ⟨calls, hrest⟩ := ih reply v
      exact ⟨c :: calls, .ask hanswer hrest⟩

section

variable {c : Service.Call} {reply : Except Panic c.Reply}

/-- One call is one line of the record. -/
theorem trace_of_answer (h : answer c w = (reply, v)) : v.trace = w.trace ++ [c] := by
  have hpast := past_answer c w
  rw [h] at hpast
  rw [trace, hpast, List.reverse_cons]
  rfl

/-- No call changes the disturbance, and only a request to the keeper takes time. -/
theorem stopwatch_of_answer (h : answer c w = (reply, v)) : v.disturbance = w.disturbance ∧
    v.stopwatch = w.stopwatch + if c.isStore then w.disturbance.delay else 0 := by
  obtain rfl : v = (answer c w).2 := by rw [h]
  cases c with
  | store request =>
    simp only [answer, record, elapse]
    split
    · exact ⟨rfl, rfl⟩
    · exact ⟨rfl, rfl⟩
    · unfold perform
      split <;> exact ⟨rfl, rfl⟩
  | _ => exact ⟨rfl, rfl⟩

end

/-- A call comes back where none is thrown. -/
theorem answer_returns (c : Service.Call) (h : w.disturbance.Returns) :
    ∃ reply, (answer c w).1 = .ok reply := by
  cases c with
  | store request =>
    simp only [answer, record, elapse]
    split
    · exact ⟨_, rfl⟩
    · exact absurd ‹_› (h _)
    · exact ⟨_, rfl⟩
  | _ => exact ⟨_, rfl⟩

namespace Runs

variable {p : Service.Task α} {f : α → Service.Task β} {a : α} {o : Except Panic α}
variable {o' : Except Panic β}

/-- It is the run that is computed. -/
theorem run_eq (h : Runs p w o calls v) : p.run answer w = (o, v) := by
  induction h with
  | done a w => rfl
  | ask hanswer _ ih => rw [Program.run_ask, hanswer, ← ih]
  | throw hanswer => rw [Program.run_ask, hanswer]

/-- **Its calls are what it adds to the record.** -/
theorem trace_eq (h : Runs p w o calls v) : v.trace = w.trace ++ calls := by
  induction h with
  | done a w => exact (List.append_nil _).symm
  | ask hanswer _ ih =>
    rw [ih, trace_of_answer hanswer, List.append_assoc]
    rfl
  | throw hanswer => exact trace_of_answer hanswer

/-- **In sequence**: the second starts from the world that the first leaves. -/
theorem bind (hp : Runs p w (.ok a) calls v) (hf : Runs (f a) v o' calls' u) :
    Runs (p >>= f) w o' (calls ++ calls') u := by
  generalize ho : Except.ok a = o at hp
  induction hp with
  | done b w =>
    obtain rfl := Except.ok.inj ho
    exact hf
  | ask hanswer _ ih => exact .ask hanswer (ih hf ho)
  | throw hanswer => cases ho

/-- What a program can ask for bounds what a run of it asks for. -/
theorem asksOnly {P : Service.Call → Prop} (h : Runs p w o calls v) (hp : p.AsksOnly P) :
    ∀ c ∈ calls, P c := by
  induction h with
  | done a w => exact fun c hc => absurd hc List.not_mem_nil
  | ask hanswer _ ih => exact List.forall_mem_cons.2 ⟨hp.1, ih (hp.2 _)⟩
  | throw hanswer => exact List.forall_mem_singleton.2 hp.1

/-- **Time passes in the requests to the keeper and nowhere else.** -/
theorem stopwatch (h : Runs p w o calls v) :
    v.stopwatch = w.stopwatch + calls.countP (·.isStore) * w.disturbance.delay := by
  induction h with
  | done a w => simp
  | @ask c k reply w v u o calls hanswer _ ih =>
    obtain ⟨hdisturbance, hcall⟩ := stopwatch_of_answer hanswer
    rw [ih, hcall, hdisturbance, List.countP_cons, Nat.add_mul]
    cases c.isStore with
    | false => simp
    | true =>
      rw [if_pos rfl, if_pos rfl, Nat.one_mul, Nat.add_assoc, Nat.add_comm w.disturbance.delay]
  | @throw c k panic w v hanswer =>
    rw [(stopwatch_of_answer hanswer).2, List.countP_singleton]
    cases c.isStore <;> simp

/-- **Where nothing is thrown, a program comes to its end.** -/
theorem returns (h : Runs p w o calls v) (hreturns : w.disturbance.Returns) :
    ∃ a, o = .ok a := by
  induction h with
  | done a w => exact ⟨a, rfl⟩
  | ask hanswer _ ih => exact ih ((stopwatch_of_answer hanswer).1 ▸ hreturns)
  | @throw c k panic w v hanswer =>
    obtain ⟨reply, hreply⟩ := answer_returns c hreturns
    rw [hanswer] at hreply
    cases hreply

end Runs

/-- **A run under a disturbance.** -/
theorem run_of_runs {p : Service.Task α} {d : Disturbance} {o : Except Panic α}
    (h : Runs p { w with disturbance := d } o calls v) :
    w.run d p = (o, { v with disturbance := {} }) ∧ w.made d p = calls := by
  have hrun : w.run d p = (o, { v with disturbance := {} }) := by
    rw [run, h.run_eq]
  refine ⟨hrun, ?_⟩
  have htrace := trace_run w d p
  rw [hrun] at htrace
  exact (List.append_cancel_left (h.trace_eq.symm.trans htrace)).symm

end World

end NotificationFeed
