import NotificationFeed.Proofs.History.Errand
import NotificationFeed.Proofs.History.Core
import NotificationFeed.Proofs.History.Storing
import NotificationFeed.Proofs.Store.Run
/-!
# Errands — run anew

A command that has ended is run once more, in one go, where the directory
answers and the clock shows what they did the first time (`Errand.again`).
All that is left open is the store. Of it a command sees the reply to one
request at most, so it comes to the same end wherever that request is replied
to as it was (`Errand.again_of_replays`).

What was replied is written down with the requests, and `Store.Replays` says
that a store by itself replies so. What an errand has exchanged says where it
stands (`Errand.Reached`), and its core with it.
-/

namespace NotificationFeed

/-! ## What a store replies by itself -/

/-- A request to the keeper. -/
def Service.Call.isRequest : Service.Call → Bool
  | store _ => true
  | _ => false

namespace Store

/-- **A store replies to requests, one after another**, as it is written down. -/
inductive Replays : Store → List Service.Exchange → Store → Prop
  | nil (s : Store) : Replays s [] s
  | request {s s' : Store} {request : Request} {reply : request.Reply} {now : Instant}
      {later : List Service.Exchange} (hreply : (perform now request s).1 = reply)
      (h : Replays (perform now request s).2 later s') :
      Replays s (⟨.store request, reply⟩ :: later) s'

variable {s s' : Store} {xs ys : List Service.Exchange}

theorem replays_append :
    Replays s (xs ++ ys) s' ↔ ∃ between, Replays s xs between ∧ Replays between ys s' := by
  constructor
  · intro h
    induction xs generalizing s with
    | nil => exact ⟨s, .nil s, h⟩
    | cons x xs ih =>
      cases h with
      | request hreply h =>
        obtain ⟨between, hxs, hys⟩ := ih h
        exact ⟨between, .request hreply hxs, hys⟩
  · rintro ⟨between, hxs, hys⟩
    induction hxs with
    | nil s => exact hys
    | request hreply _ ih => exact .request hreply (ih hys)

theorem Replays.one {request : Request} {reply : request.Reply}
    (h : Replays s [⟨.store request, reply⟩] s') (htimeless : request.Timeless) (now : Instant) :
    perform now request s = (reply, s') := by
  cases h with
  | request hreply h =>
    cases h
    rw [← hreply, perform_timeless htimeless]

end Store

/-! ## A core run anew -/

namespace Service

/-- What the directory answered, for the users that were looked up. -/
def answers (past : List Exchange) : Directory :=
  past.filterMap fun
    | ⟨.findUser id, answer⟩ => some (id, answer)
    | _ => none

/-- What the clock showed first. -/
def moment (past : List Exchange) : Instant := (readings past).headD ⟨0⟩

/-- The exchanges with the keeper. -/
def requests (past : List Exchange) : List Exchange := past.filter (·.call.isRequest)

theorem answers_work (past : List Exchange) :
    answers (past.filter fun x => !x.call.isAside) = answers past := by
  rw [answers, List.filterMap_filter]
  refine List.filterMap_congr fun x _ => ?_
  obtain ⟨call, reply⟩ := x
  cases call <;> rfl

theorem moment_work (past : List Exchange) :
    moment (past.filter fun x => !x.call.isAside) = moment past := by
  rw [moment, readings, List.filterMap_filter]
  congr 1
  refine List.filterMap_congr fun x _ => ?_
  obtain ⟨call, reply⟩ := x
  cases call <;> rfl

theorem requests_work (past : List Exchange) :
    requests (past.filter fun x => !x.call.isAside) = requests past := by
  rw [requests, List.filter_filter]
  refine List.filter_congr fun x _ => ?_
  obtain ⟨call, reply⟩ := x
  cases call <;> rfl

end Service

namespace World

/-- A request that no fault hits and that is answered alike at all times. -/
theorem answer_timeless {w : World} {request : Store.Request} (h : request.Timeless)
    (hfault : w.disturbance.fault = none) :
    (answer (.store request) w).1 = .ok (Store.perform ⟨0⟩ request w.store).1 ∧
      (answer (.store request) w).2.store = (Store.perform ⟨0⟩ request w.store).2 := by
  obtain ⟨now, hreply, hstore⟩ := answer_store_clear request hfault
  rw [hreply, hstore, Store.perform_timeless h now ⟨0⟩]
  exact ⟨rfl, rfl⟩

/-- Where nothing hits it, every call is answered. -/
theorem answer_clear {w : World} (hfault : w.disturbance.fault = none) (c : Service.Call) :
    ∃ reply, (answer c w).1 = .ok reply := by
  cases c with
  | store request =>
    obtain ⟨now, hreply, -⟩ := answer_store_clear request hfault
    exact ⟨_, hreply⟩
  | _ => exact ⟨_, rfl⟩

end World

namespace Core

variable {α β : Type}

/-- What it asks the keeper does not depend on the time. -/
def Timeless : Core α → Prop
  | asks request _ => request.Timeless
  | settled _ | stores .. => True

theorem timeless_map {g : Core α} (f : α → β) (h : g.Timeless) : (g.map f).Timeless := by
  cases g <;> exact h

/-- **One request at most** is made on the way to the end. -/
theorem requests_length_le {g : Core α} {xs : List Service.Exchange} {a : α}
    (h : g.program.Reaches xs (.done a)) : (Service.requests xs).length ≤ 1 := by
  have hcreate : ∀ {draft : Draft} {view : Except Failure Int → α} {xs : List Service.Exchange},
      (create draft view).Reaches xs (.done a) → (Service.requests xs).length ≤ 1 := by
    intro draft view xs h
    obtain ⟨reply, later, rfl, hend⟩ := h.of_ask
    obtain ⟨rfl, -⟩ := hend.of_done
    exact Nat.le_refl _
  cases g with
  | settled b =>
    obtain ⟨rfl, -⟩ := h.of_done
    exact Nat.zero_le _
  | asks request view =>
    obtain ⟨reply, later, rfl, hend⟩ := h.of_ask
    obtain ⟨rfl, -⟩ := hend.of_done
    exact Nat.le_refl _
  | stores draft view =>
    obtain ⟨known, later, rfl, hlater⟩ := h.of_ask
    cases known with
    | error failure =>
      obtain ⟨rfl, -⟩ := hlater.of_done
      exact Nat.zero_le _
    | ok user =>
      simp only [date] at hlater
      cases hmoment : draft.createdAt with
      | some t =>
        simp only [hmoment] at hlater
        have hlength : (Service.requests later).length ≤ 1 := hcreate hlater
        exact hlength
      | none =>
        simp only [hmoment] at hlater
        obtain ⟨now, last, rfl, hlast⟩ := hlater.of_ask
        have hlength : (Service.requests last).length ≤ 1 := hcreate hlast
        exact hlength

/-- The last request of a core, made anew. -/
theorem run_request {request : Store.Request} {view : request.Reply → α}
    {xs : List Service.Exchange} {a : α}
    (h : (Program.ask (I := Service.surroundings) (.store request)
      fun reply => .done (view reply)).Reaches xs (.done a))
    (htimeless : request.Timeless) {w : World} {s : Store} (hfault : w.disturbance.fault = none)
    (hstore : w.store.Replays (Service.requests xs) s) :
    ((Program.ask (I := Service.surroundings) (.store request)
        fun reply => .done (view reply)).run World.answer w).1 = .ok a ∧
      ((Program.ask (I := Service.surroundings) (.store request)
        fun reply => .done (view reply)).run World.answer w).2.store = s := by
  obtain ⟨reply, later, rfl, hend⟩ := h.of_ask
  obtain ⟨rfl, ha⟩ := hend.of_done
  obtain rfl := Program.done.inj ha
  have hperform : Store.perform ⟨0⟩ request w.store = (reply, s) := hstore.one htimeless ⟨0⟩
  obtain ⟨hreply, hleft⟩ := World.answer_timeless htimeless hfault
  rw [hperform] at hreply hleft
  rw [Program.run_ask]
  rcases hanswer : World.answer (.store request) w with ⟨r, v⟩
  rw [hanswer] at hreply hleft
  simp only at hreply hleft
  subst hreply
  exact ⟨rfl, hleft⟩

/-- **A core run anew comes to the same end**, in a world that answers as it
was answered. -/
theorem run_again {g : Core α} {xs : List Service.Exchange} {a : α}
    (h : g.program.Reaches xs (.done a)) (htimeless : g.Timeless) {w : World} {s : Store}
    (hanswers : w.directory = Service.answers xs) (hclock : w.clock = fun _ => Service.moment xs)
    (hfault : w.disturbance.fault = none) (hstore : w.store.Replays (Service.requests xs) s) :
    (g.program.run World.answer w).1 = .ok a ∧ (g.program.run World.answer w).2.store = s := by
  cases g with
  | settled b =>
    obtain ⟨rfl, hb⟩ := h.of_done
    obtain rfl := Program.done.inj hb
    cases hstore
    exact ⟨rfl, rfl⟩
  | asks request view => exact run_request h htimeless hfault hstore
  | stores draft view =>
    obtain ⟨known, later, rfl, hlater⟩ := h.of_ask
    have hknown : w.directory.lookUp draft.userId = known := by
      rw [hanswers]
      simp [Service.answers, Directory.lookUp]
    rw [program, Program.run_ask]
    simp only [World.answer, World.record, hknown]
    cases known with
    | error failure =>
      obtain ⟨rfl, hb⟩ := hlater.of_done
      obtain rfl := Program.done.inj hb
      cases hstore
      exact ⟨rfl, rfl⟩
    | ok user =>
      -- The user was known; what is left is the reading of the clock, if any, and the request.
      simp only [date] at hlater ⊢
      cases hmoment : draft.createdAt with
      | some t =>
        simp only [hmoment] at hlater ⊢
        have hdated : (Store.Request.create draft).Timeless := by
          rw [Store.Request.Timeless, hmoment]
          rfl
        exact run_request hlater hdated hfault hstore
      | none =>
        simp only [hmoment] at hlater ⊢
        obtain ⟨now, last, rfl, hlast⟩ := hlater.of_ask
        have hnow : w.clock w.readings = now := by
          rw [hclock]
          rfl
        rw [Program.run_ask]
        simp only [World.answer, World.record, World.readClock, hnow]
        exact run_request hlast rfl hfault hstore

end Core

namespace Service.Request

theorem saveCore_timeless (draft : Draft) : (saveCore draft).Timeless := by
  unfold saveCore
  split
  · split <;> trivial
  · trivial

/-- No operation asks for a draft to be dated by the keeper. -/
theorem core_timeless (r : Request) : r.core.Timeless := by
  have hinquiry : ∀ {α : Type} {subject : Int} {reason : String} {request : Store.Request}
      {view : request.Answer → α}, request.Timeless →
      (inquiryCore subject reason request view).Timeless := by
    intro α subject reason request view h
    unfold inquiryCore
    split
    · exact h
    · trivial
  cases r with
  | save draft => exact saveCore_timeless draft
  | details id => exact hinquiry trivial
  | feed userId limit page => exact hinquiry trivial
  | read id => exact hinquiry trivial
  | readAll userId => exact hinquiry trivial
  | remove id => exact hinquiry trivial
  | unread userId => exact hinquiry trivial

end Service.Request

/-- So does no command, a draft given to the keeper itself apart. -/
theorem Command.core_timeless {c : Command} (h : ∀ draft, c ≠ .keeper (.create draft)) :
    c.core.Timeless := by
  cases c with
  | keeper r =>
    cases r with
    | create draft => exact absurd rfl (h draft)
    | _ => trivial
  | service r => exact r.core_timeless
  | remote r =>
    refine Core.timeless_map _ ?_
    unfold Rpc.Request.performCore
    split
    · trivial
    · exact Core.timeless_map _ r.operation.core_timeless
  | event content =>
    show (Event.core content).Timeless
    unfold Event.core
    split
    · trivial
    · exact Service.Request.saveCore_timeless _

/-! ## An errand run anew -/

/-- What a call that nothing hits makes of the store is what its exchange tells. -/
theorem World.exchange_replays {w : World} (hfault : w.disturbance.fault = none)
    (c : Service.Call) :
    w.store.Replays (Service.requests (w.exchange c)) (answer c w).2.store := by
  cases c with
  | store request =>
    obtain ⟨now, hreply, hstore⟩ := answer_store_clear request hfault
    simp only [exchange, hreply, hstore]
    exact .request rfl (.nil _)
  | _ => exact .nil _

namespace Errand

variable {e : Errand} {w : World}

/-- **What an errand has exchanged reaches where it stands.** -/
def Reached (e : Errand) : Prop :=
  ∃ program, e.rest = .ok program ∧ e.command.task.Reaches e.heard program

theorem begin_reached (c : Command) : (begin c).Reached := ⟨c.task, rfl, .here _⟩

theorem Reached.step (h : e.Reached) (hfault : w.disturbance.fault = none) : (e.step w).1.Reached := by
  rcases step_cases e w with ⟨call, resume, reply, hrest, -, hstep⟩ |
    ⟨call, resume, panic, -, hpanic, -⟩ | hstep
  · obtain ⟨program, hprogram, hreaches⟩ := h
    rw [hrest] at hprogram
    obtain rfl := Except.ok.inj hprogram
    rw [hstep]
    exact ⟨resume reply, rfl, hreaches.snoc reply⟩
  · obtain ⟨reply, hreply⟩ := World.answer_clear hfault call
    rw [hreply] at hpanic
    cases hpanic
  · rw [hstep]
    exact h

/-- What it has exchanged, asides apart. -/
def work (e : Errand) : List Service.Exchange := e.heard.filter fun x => !x.call.isAside

/-- **What an errand has exchanged reaches where it stands**, unless a call never returned. -/
def OnCourse (e : Errand) : Prop :=
  ∀ program, e.rest = .ok program → e.command.task.Reaches e.heard program

theorem Reached.onCourse (h : e.Reached) : e.OnCourse := by
  intro program hprogram
  obtain ⟨stands, hrest, hreaches⟩ := h
  rw [hrest] at hprogram
  obtain rfl := Except.ok.inj hprogram
  exact hreaches

theorem begin_onCourse (c : Command) : (begin c).OnCourse := (begin_reached c).onCourse

/-- **A step stays on course**, whatever hits its call. -/
theorem OnCourse.step (h : e.OnCourse) (w : World) : (e.step w).1.OnCourse := by
  rcases step_cases e w with ⟨call, resume, reply, hrest, -, hstep⟩ |
    ⟨call, resume, panic, -, -, hstep⟩ | hstep
  · have hreaches := (h _ hrest).snoc reply
    rw [hstep]
    intro program hprogram
    obtain rfl := Except.ok.inj hprogram
    exact hreaches
  · rw [hstep]
    intro program hprogram
    cases hprogram
  · rw [hstep]
    exact h

/-- **An errand that has ended** has brought its core to the same end. -/
theorem OnCourse.ended (h : e.OnCourse) {result : Except e.command.Refusal e.command.Answer}
    (hrest : e.rest = .ok (.done result)) :
    e.command.core.program.Reaches e.work (.done result) := by
  obtain ⟨q, hcore, hq⟩ := e.command.task_follows.reaches (h _ hrest)
  obtain rfl := hq.eq_done
  exact hcore

theorem Reached.ended (h : e.Reached) (hended : e.rest.result?.isSome) :
    ∃ result, e.rest = .ok (.done result) ∧ e.command.core.program.Reaches e.work (.done result) := by
  obtain ⟨program, hrest, -⟩ := id h
  cases program with
  | ask call resume =>
    rw [hrest] at hended
    cases hended
  | done result => exact ⟨result, hrest, h.onCourse.ended hrest⟩

/-- What a step makes of the store is what its exchange tells. -/
theorem step_replays (e : Errand) (hfault : w.disturbance.fault = none) :
    w.store.Replays (Service.requests (e.next w)) (e.step w).2.store := by
  obtain ⟨command, heard, rest⟩ := e
  cases rest with
  | error panic => exact .nil _
  | ok program =>
    cases program with
    | done result => exact .nil _
    | ask call resume =>
      have hworld : (Thread.step World.answer (.ok (.ask call resume)) w).2 =
          (World.answer call w).2 := by
        rw [Thread.step]
        rcases World.answer call w with ⟨panic | reply, v⟩ <;> rfl
      have hreplays := World.exchange_replays hfault call
      rw [← hworld] at hreplays
      exact hreplays

/-- The world as an errand met it: the directory answers what it answered then, and the clock
shows what it showed then. -/
def stage (e : Errand) (w : World) : World :=
  { w with directory := Service.answers e.heard, clock := fun _ => Service.moment e.heard }

/-- **An errand run anew**, its command in one go and from its beginning. -/
def again (e : Errand) (w : World) :
    Except Panic (Except e.command.Refusal e.command.Answer) × World :=
  (e.stage w).run {} e.command.task

/-- **It comes to the same end** wherever the store replies to its request as it did. -/
theorem again_of_replays (hreached : e.Reached) (htimeless : e.command.core.Timeless)
    (hended : e.rest.result?.isSome) {s : Store}
    (hstore : w.store.Replays (Service.requests e.heard) s) :
    e.rest.result? = some (e.again w).1 ∧ (e.again w).2.store = s := by
  obtain ⟨result, hrest, hcore⟩ := hreached.ended hended
  have hclock : (e.stage w).clock = fun _ => Service.moment e.work := by
    rw [work, Service.moment_work]
    rfl
  rw [← Service.requests_work] at hstore
  obtain ⟨hresult, hleft⟩ := Core.run_again (w := { e.stage w with disturbance := {} }) hcore
    htimeless (Service.answers_work e.heard).symm hclock rfl hstore
  obtain ⟨houtcome, hworld⟩ := World.run_follows e.command.task_follows (e.stage w) {}
  refine ⟨?_, hworld.store.trans hleft⟩
  rw [hrest, again, houtcome]
  exact congrArg some hresult.symm

end Errand

end NotificationFeed
