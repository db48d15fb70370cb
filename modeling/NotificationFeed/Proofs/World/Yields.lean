import NotificationFeed.Service
import NotificationFeed.Proofs.World.Alike
import NotificationFeed.Proofs.Store.Numbering
/-!
# Worlds — what a program comes to

`Yields p w o v` says that from `w` the program `p` comes to the outcome `o`
and leaves a world like `v`. The record of calls and the registry are left
out of sight, so a journal entry or an observation leaves the world as it
was, and a program is evaluated by composing its steps.

The store changes in one place only, a request that no fault hits.
-/

namespace NotificationFeed

namespace World

variable {α β : Type} {w v u : World}

/-- **From `w` the program comes to an outcome and leaves a world like `v`.** -/
structure Yields (p : Service.Task α) (w : World) (o : Except Panic α) (v : World) : Prop where
  outcome : (p.run answer w).1 = o
  world : (p.run answer w).2.Alike v

namespace Yields

theorem done (a : α) (w : World) : Yields (.done a) w (.ok a) w := ⟨rfl, .refl w⟩

theorem pure (a : α) (w : World) : Yields (Pure.pure a) w (.ok a) w := done a w

theorem call (c : Service.Call) (w : World) :
    Yields (Program.call (I := Service.surroundings) c) w (answer c w).1 (answer c w).2 := by
  refine ⟨?_, ?_⟩ <;> rw [Program.call, Program.run_ask] <;>
    rcases answer c w with ⟨_ | _, _⟩
  exacts [rfl, rfl, .refl _, .refl _]

/-- **In sequence**: what comes after starts from the world that is left. -/
theorem bind {p : Service.Task α} {f : α → Service.Task β} {a : α} {o : Except Panic β}
    (hp : Yields p w (.ok a) v) (hf : Yields (f a) v o u) : Yields (p >>= f) w o u := by
  obtain ⟨hp1, hp2⟩ := hp
  -- What comes after was evaluated from `v`; the run goes on from a world like it.
  obtain ⟨ho, hw, -⟩ := run_answer_alike (f a) hp2
  constructor <;> rw [Program.run_bind] <;> rcases hr : p.run answer w with ⟨r, w'⟩ <;>
    rw [hr] at hp1 ho hw <;> simp only at hp1 <;> subst hp1
  · exact ho.trans hf.outcome
  · exact hw.trans hf.world

/-- A throw ends the sequence. -/
theorem bind_throw {p : Service.Task α} {f : α → Service.Task β} {e : Panic}
    (hp : Yields p w (.error e) v) : Yields (p >>= f) w (.error e) v := by
  obtain ⟨hp1, hp2⟩ := hp
  constructor <;> rw [Program.run_bind] <;> rcases hr : p.run answer w with ⟨r, w'⟩ <;>
    rw [hr] at hp1 hp2 <;> simp only at hp1 <;> subst hp1
  · rfl
  · exact hp2

/-- What is done with every result, a throw apart. -/
theorem bind_map {p : Service.Task α} {f : α → Service.Task β}
    {o : Except Panic α} {g : α → β} (hp : Yields p w o v)
    (hf : ∀ a, Yields (f a) v (.ok (g a)) v) : Yields (p >>= f) w (o.map g) v := by
  cases o with
  | ok a => exact hp.bind (hf a)
  | error e => exact hp.bind_throw

/-! ## Steps that may fail -/

/-- An operation that succeeds is followed by the next one. -/
theorem run_bind {x : Service.Operation α} {f : α → Service.Operation β} {a : α}
    {o : Except Panic (Except Failure β)} (hx : Yields x.run w (.ok (.ok a)) v)
    (hf : Yields (f a).run v o u) : Yields (x >>= f).run w o u := by
  rw [ExceptT.run_bind]
  exact hx.bind hf

/-- One that fails is followed by nothing. -/
theorem run_bind_failure {x : Service.Operation α} {f : α → Service.Operation β} {e : Failure}
    (hx : Yields x.run w (.ok (.error e)) v) : Yields (x >>= f).run w (.ok (.error e)) v := by
  rw [ExceptT.run_bind]
  exact hx.bind (pure _ v)

/-- What is done with the answer of an operation, a failure or a throw apart. -/
theorem run_bind_map {x : Service.Operation α} {f : α → Service.Operation β}
    {o : Except Panic (Except Failure α)} {g : α → β} (hx : Yields x.run w o v)
    (hf : ∀ a, Yields (f a).run v (.ok (.ok (g a))) v) :
    Yields (x >>= f).run w (o.map (·.map g)) v := by
  rw [ExceptT.run_bind]
  refine bind_map hx fun r => ?_
  cases r with
  | ok a => exact hf a
  | error e => exact pure _ v

/-- Showing the answer of an operation in another form. -/
theorem map {x : Service.Operation α} {o : Except Panic (Except Failure α)} (g : α → β)
    (hx : Yields x.run w o v) : Yields (g <$> x).run w (o.map (·.map g)) v := by
  rw [map_eq_pure_bind]
  exact hx.run_bind_map fun a => pure _ v

/-- An operation that only checks. -/
theorem run_pure (a : α) (w : World) :
    Yields (Pure.pure a : Service.Operation α).run w (.ok (.ok a)) w := pure _ w

theorem run_throw (e : Failure) (w : World) :
    Yields (throw e : Service.Operation α).run w (.ok (.error e)) w := pure _ w

/-- A step that cannot fail, among steps that may. -/
theorem lift {p : Service.Task α} {a : α} (hp : Yields p w (.ok a) v) :
    Yields (ExceptT.lift p : Service.Operation α).run w (.ok (.ok a)) v := hp.bind (pure _ v)

/-! ## Calls beside the work -/

theorem note (e : Entry) (w : World) : Yields (Service.note e) w (.ok ()) w :=
  ⟨rfl, record_alike w _⟩

theorem observe (o : Metrics.Observation) (w : World) :
    Yields (Service.observe o) w (.ok ()) w := ⟨rfl, ⟨rfl, rfl, rfl, rfl, rfl, rfl⟩⟩

theorem readStopwatch (w : World) : Yields Service.readStopwatch w (.ok w.stopwatch) w :=
  ⟨rfl, record_alike w _⟩

theorem readClock (w : World) : Yields Service.readClock w (.ok w.readClock.1) w.readClock.2 :=
  ⟨rfl, ⟨rfl, rfl, rfl, rfl, rfl, rfl⟩⟩

theorem tell (message : String) (fields : List (String × String)) (w : World) :
    Yields (Service.tell message fields).run w (.ok (.ok ())) w :=
  (note (.info message fields) w).lift

theorem findUser (id : Int) (w : World) :
    Yields (Service.findUser id).run w (.ok (w.directory.lookUp id)) w :=
  ⟨rfl, record_alike w _⟩

/-- **Asking the keeper** gives its reply, as an operation tells it. -/
theorem ask (request : Store.Request) (w : World) :
    Yields (Service.ask request).run w
      ((answer (.store request) w).1.map (·.mapError StoreFailure.toFailure))
      (answer (.store request) w).2 :=
  bind_map (call (.store request) w) fun _ => pure _ _

/-- An operation is counted whatever it comes to. -/
theorem counted (name : String) {x : Service.Operation α} {o : Except Panic (Except Failure α)}
    (hx : Yields x.run w o v) : Yields (Service.counted name x).run w o v := by
  have h : Yields (x.run >>= fun r => do
      Service.observe (.operationCounted name r.isOk)
      return r) w (o.map id) v :=
    bind_map hx fun r => (observe (.operationCounted name r.isOk) v).bind (pure r v)
  rwa [Except.map_id] at h

end Yields

/-- What a run under a disturbance comes to. -/
theorem run_of_yields {p : Service.Task α} {d : Disturbance} {o : Except Panic α}
    (h : Yields p { w with disturbance := d } o v) :
    (w.run d p).1 = o ∧ (w.run d p).2.store = v.store := ⟨h.outcome, h.world.store⟩

/-! ## Requests to the store -/

/-- The store answers by itself; what the world adds is the moment. -/
theorem perform_eq (request : Store.Request) (w : World) :
    ∃ now, (w.perform request).1 = (Store.perform now request w.store).1 ∧
      (w.perform request).2.store = (Store.perform now request w.store).2 := by
  unfold perform
  split
  · exact ⟨w.readClock.1, rfl, rfl⟩
  · exact ⟨⟨0⟩, rfl, rfl⟩

/-- A request that no fault hits is answered, at some moment. -/
theorem answer_store_clear (request : Store.Request) (hfault : w.disturbance.fault = none) :
    ∃ now, (answer (.store request) w).1 = .ok (Store.perform now request w.store).1 ∧
      (answer (.store request) w).2.store = (Store.perform now request w.store).2 := by
  obtain ⟨now, hreply, hstore⟩ :=
    perform_eq request ((w.record (.store request)).elapse w.disturbance.delay)
  refine ⟨now, ?_, ?_⟩ <;> simp only [answer, record, elapse, hfault]
  · exact congrArg Except.ok hreply
  · exact hstore

/-- What happens to a request: it is refused, or never comes back, and then
the store is as it was; or it is answered, at some moment. -/
theorem answer_store (request : Store.Request) (w : World) :
    (∃ failure, w.disturbance.fault = some (.refuse failure) ∧
      (answer (.store request) w).1 = .ok (.error failure) ∧
      (answer (.store request) w).2.store = w.store) ∨
    (∃ panic, w.disturbance.fault = some (.throw panic) ∧
      (answer (.store request) w).1 = .error panic ∧
      (answer (.store request) w).2.store = w.store) ∨
    (w.disturbance.fault = none ∧ ∃ now,
      (answer (.store request) w).1 = .ok (Store.perform now request w.store).1 ∧
      (answer (.store request) w).2.store = (Store.perform now request w.store).2) := by
  cases hfault : w.disturbance.fault with
  | none => exact .inr (.inr ⟨rfl, answer_store_clear request hfault⟩)
  | some fault =>
    simp only [answer, record, elapse, hfault]
    cases fault with
    | refuse failure => exact .inl ⟨failure, rfl, rfl, rfl⟩
    | throw panic => exact .inr (.inl ⟨panic, rfl, rfl, rfl⟩)

/-- What an operation did, read off its outcome: a failure or a throw did nothing. -/
def deedOf {ε : Type} (deed : α → Store.Deed) : Except Panic (Except ε α) → Store.Deed
  | .ok (.ok a) => deed a
  | .ok (.error _) | .error _ => .nothing

/-- What an operation did does not depend on how its answer is shown. -/
theorem deedOf_map {ε ε' : Type} (deed : α → Store.Deed) {deed' : β → Store.Deed}
    {f : Except ε α → Except ε' β} (hok : ∀ a, ∃ b, f (.ok a) = .ok b ∧ deed' b = deed a)
    (herror : ∀ e, ∃ e', f (.error e) = .error e') (o : Except Panic (Except ε α)) :
    deedOf deed' (o.map f) = deedOf deed o := by
  rcases o with panic | e | a
  · rfl
  · obtain ⟨e', he'⟩ := herror e
    simp [Except.map, deedOf, he']
  · obtain ⟨b, hb, hdeed⟩ := hok a
    simp [Except.map, deedOf, hb, hdeed]

/-- **A request does to the store what its reply says**, whatever hits it. -/
theorem answer_store_makes (request : Store.Request) (w : World) :
    (deedOf request.deed (answer (.store request) w).1).Makes w.store
      (answer (.store request) w).2.store := by
  rcases answer_store request w with ⟨failure, -, hreply, hstore⟩ | ⟨panic, -, hreply, hstore⟩ |
    ⟨-, now, hreply, hstore⟩
  · rw [hreply, hstore]
    rfl
  · rw [hreply, hstore]
    rfl
  · rw [hreply, hstore]
    have := Store.perform_makes now request w.store
    revert this
    cases (Store.perform now request w.store).1 <;> exact id

end World

end NotificationFeed
