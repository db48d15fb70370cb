import NotificationFeed.Proofs.History.Lifetime
import NotificationFeed.Proofs.Rpc.Account
/-!
# Remote requests — what a row of them adds up to

A visit is one request, with what the directory answers at that time, how long
the keeper takes and whether it refuses. Each visit of a row leaves its own
account behind those of the visits before, and an account counts one request,
under one method and one code. Names tell methods and codes apart, so over
every row the counts are the numbers of answers (`requests_accounted`).
-/

namespace NotificationFeed

/-! ## Names -/

/-- What differs along a list of all there is tells all apart. -/
theorem injective_of_nodup {α β : Type} {f : α → β} {all : List α} (hall : ∀ a, a ∈ all)
    (hnodup : (all.map f).Nodup) : Function.Injective f :=
  fun a b => List.inj_on_of_nodup_map hnodup (hall a) (hall b)

theorem Code.mem_all (code : Code) : code ∈ all := by cases code <;> decide

/-- **The names of the codes tell them apart.** -/
theorem Code.name_injective : Function.Injective name := injective_of_nodup mem_all (by decide)

namespace Rpc

namespace Method

theorem mem_all (method : Method) : method ∈ all := by cases method <;> decide

/-- **So do the names of the methods**, and those of their operations. -/
theorem name_injective : Function.Injective name := injective_of_nodup mem_all (by decide)

theorem operation_injective : Function.Injective operation :=
  injective_of_nodup mem_all (by decide)

end Method

/-! ## What an account counts -/

namespace Account

variable {r : Request} {delay : Span} {answer : Except Status r.method.Response}
variable {asked calls : List Service.Call}

/-- A question is no observation. -/
theorem count_asked (h : Account r delay answer asked calls) (o : Metrics.Observation) :
    asked.count (.observe o) = 0 := by
  refine List.count_eq_zero.2 fun hmem => ?_
  cases h.questions _ hmem

/-- **A request is counted once**, under its method and the code of its answer. -/
theorem count_requests (h : Account r delay answer asked calls) (method : Method)
    (code : Code) : calls.count (.observe (.requestCounted method.name code.name)) =
      if r.method = method ∧ codeOf answer = code then 1 else 0 := by
  have hoperation : (countOf r answer.isOk).count
      (.observe (.requestCounted method.name code.name)) = 0 := by
    unfold countOf
    split <;> rfl
  rw [h.calls, List.count_append, List.count_append, h.count_asked, hoperation]
  simp [reports, List.count_cons, Method.name_injective.eq_iff, Code.name_injective.eq_iff]

/-- **Its operation is counted as a success** if its answer is Ok. -/
theorem count_successes (h : Account r delay answer asked calls) (method : Method) :
    calls.count (.observe (.operationCounted method.operation true)) =
      if r.method = method ∧ codeOf answer = .ok then 1 else 0 := by
  have hreports : (reports r.method answer (if asked.any (·.isStore) then delay else 0)).count
      (.observe (.operationCounted method.operation true)) = 0 := rfl
  rw [h.calls, List.count_append, List.count_append, h.count_asked, hreports]
  simp only [h.code]
  cases hok : answer.isOk with
  | false =>
    unfold countOf
    split <;> simp
  | true =>
    rw [countOf, if_pos (h.shaped hok)]
    simp [List.count_cons, Method.operation_injective.eq_iff]

end Account

/-! ## A row of visits -/

/-- **One remote request**, what the directory answers at that time, how long the keeper takes and
whether it refuses. -/
structure Visit where
  request : Request
  directory : Directory := []
  delay : Span := 0
  refusal : Option StoreFailure := none

/-- A visit that is over: what was answered and the calls to collaborators. -/
structure Handled where
  visit : Visit
  reply : Except Panic (Except Status visit.request.method.Response)
  calls : List Service.Call

/-- Whether an answer to the method was given with the code. -/
def Handled.gave (method : Method) (code : Code) (x : Handled) : Bool :=
  match x.reply with
  | .ok answer => x.visit.request.method = method ∧ codeOf answer = code
  | .error _ => false

namespace Visit

def disturbance (v : Visit) : Disturbance where
  delay := v.delay
  fault := v.refusal.map .refuse

/-- A refusal comes back. -/
theorem disturbance_returns (v : Visit) : v.disturbance.Returns := by
  intro panic hfault
  obtain ⟨failure, -, hthrow⟩ := Option.map_eq_some_iff.1 hfault
  cases hthrow

/-- A visit as a step of a history. -/
def move (v : Visit) : Move := ⟨.remote v.request, v.disturbance, v.directory⟩

/-- What comes of a visit. -/
def handled (v : Visit) (w : World) : Handled where
  visit := v
  reply := (v.move.run w).1
  calls := (({ w with directory := v.directory } : World).made v.disturbance
    (handle v.request)).filter (·.isCollaborator)

/-- **Every visit leaves an account.** -/
theorem handled_account (v : Visit) (w : World) :
    ∃ answer asked, (v.handled w).reply = .ok answer ∧
      Account v.request v.delay answer asked (v.handled w).calls :=
  handle_account v.request { w with directory := v.directory } v.disturbance_returns

theorem calls_move (v : Visit) (w : World) :
    (v.move.run w).2.calls = w.calls ++ (v.handled w).calls :=
  World.calls_run { w with directory := v.directory } v.disturbance (handle v.request)

end Visit

/-- What comes of each visit of a row. -/
def handledIn (w : World) : List Visit → List Handled
  | [] => []
  | v :: rest => v.handled w :: handledIn (v.move.run w).2 rest

theorem handledIn_visits (w : World) (visits : List Visit) :
    (handledIn w visits).map (·.visit) = visits := by
  induction visits generalizing w with
  | nil => rfl
  | cons v rest ih => exact congrArg (v :: ·) (ih _)

/-- The record of a row is that of its visits, one behind the other. -/
theorem calls_after (w : World) (visits : List Visit) :
    (w.after (visits.map Visit.move)).calls =
      w.calls ++ (handledIn w visits).flatMap (·.calls) := by
  induction visits generalizing w with
  | nil => exact (List.append_nil _).symm
  | cons v rest ih =>
    show ((v.move.run w).2.after (rest.map Visit.move)).calls = _
    rw [ih, v.calls_move, List.append_assoc]
    rfl

/-- Each visit of a row leaves an account, whatever came before. -/
theorem handledIn_account (w : World) (visits : List Visit) :
    ∀ x ∈ handledIn w visits, ∃ answer asked, x.reply = .ok answer ∧
      Account x.visit.request x.visit.delay answer asked x.calls := by
  induction visits generalizing w with
  | nil => exact fun x hx => absurd hx List.not_mem_nil
  | cons v rest ih => exact List.forall_mem_cons.2 ⟨v.handled_account w, ih _⟩

/-- **What each counts once or not at all, all count as often as it is counted once.** -/
theorem count_flatMap_calls {c : Service.Call} {good : Handled → Bool} {xs : List Handled}
    (h : ∀ x ∈ xs, x.calls.count c = if good x then 1 else 0) :
    (xs.flatMap (·.calls)).count c = xs.countP good := by
  induction xs with
  | nil => rfl
  | cons x rest ih =>
    obtain ⟨hx, hrest⟩ := List.forall_mem_cons.1 h
    rw [List.flatMap_cons, List.count_append, hx, ih hrest, List.countP_cons, Nat.add_comm]

/-- **Every request of a row is accounted for**, from any world, with any
answers of the directory, delays and refusals. The record grows by the
accounts of the requests, in their order; as many requests are counted under a
method and a code as answers were given to the method with the code, and as
many successes of its operation as answers with Ok. -/
theorem requests_accounted (w : World) (visits : List Visit) :
    (handledIn w visits).map (·.visit) = visits ∧
    (w.after (visits.map Visit.move)).calls =
      w.calls ++ (handledIn w visits).flatMap (·.calls) ∧
    (∀ x ∈ handledIn w visits, ∃ answer asked, x.reply = .ok answer ∧
      Account x.visit.request x.visit.delay answer asked x.calls) ∧
    ∀ method : Method,
      (∀ code : Code,
        ((handledIn w visits).flatMap (·.calls)).count
            (.observe (.requestCounted method.name code.name)) =
          (handledIn w visits).countP (Handled.gave method code)) ∧
      ((handledIn w visits).flatMap (·.calls)).count
          (.observe (.operationCounted method.operation true)) =
        (handledIn w visits).countP (Handled.gave method .ok) := by
  refine ⟨handledIn_visits w visits, calls_after w visits, handledIn_account w visits,
    fun method => ⟨fun code => count_flatMap_calls fun x hx => ?_,
      count_flatMap_calls fun x hx => ?_⟩⟩
  · obtain ⟨answer, asked, hreply, haccount⟩ := handledIn_account w visits x hx
    simp only [haccount.count_requests, Handled.gave, hreply, decide_eq_true_eq]
  · obtain ⟨answer, asked, hreply, haccount⟩ := handledIn_account w visits x hx
    simp only [haccount.count_successes, Handled.gave, hreply, decide_eq_true_eq]

end Rpc

end NotificationFeed
