import NotificationFeed.Rpc.Handler
import NotificationFeed.Proofs.Service.Outcome
/-!
# Remote requests — what each comes to

A request of the wrong shape fails with the fault of its shape; any other
comes to what its one operation comes to. Handling it turns a failure into
its status and does nothing else that shows in the answer or the store.
-/

namespace NotificationFeed

namespace Rpc

variable {α : Type} {w v : World}

/-- A request of the wrong shape is refused, and its operation is not begun. -/
theorem yields_perform_refused {request : Request} {failure : Failure}
    (h : request.check = .error failure) (w : World) :
    World.Yields request.perform.run w (.ok (.error failure)) w := by
  unfold Request.perform
  rw [h]
  exact World.Yields.run_bind_failure (.pure _ w)

/-- A request of the right shape comes to what its operation comes to. -/
theorem yields_perform {request : Request} (h : request.check = .ok ())
    {o : Except Panic (Except Failure request.method.Response)}
    (hserve : World.Yields request.serve.run w o v) :
    World.Yields request.perform.run w o v := by
  unfold Request.perform
  rw [h]
  exact World.Yields.run_bind (.pure _ w) hserve

/-- What is reported of a request once its answer is known. -/
def report (method : Method) (started : Span) (answer : Except Status α) :
    Service.Task (Except Status α) := do
  let ended ← Service.readStopwatch
  let code := (codeOf answer).name
  Service.observe (.requestCounted method.name code)
  Service.observe (.requestTimed method.name code (ended - started))
  Service.note (.info "request handled"
    [("method", method.name), ("code", code), ("elapsed", Span.text (ended - started))])
  return answer

/-- The report changes nothing but what is recorded and observed. -/
theorem yields_report (method : Method) (started : Span) (answer : Except Status α) (w : World) :
    World.Yields (report method started answer) w (.ok answer) w := by
  refine (World.Yields.readStopwatch w).bind ?_
  refine (World.Yields.observe _ w).bind ?_
  refine (World.Yields.observe _ w).bind ?_
  refine (World.Yields.note _ w).bind ?_
  exact .pure _ w

/-- **Handling a request only turns its failure into a status.** -/
theorem yields_observed (method : Method) {work : Service.Operation α}
    {o : Except Panic (Except Failure α)} (h : World.Yields work.run w o v) :
    World.Yields (observed method work) w (o.map (·.mapError Failure.status)) v := by
  refine (World.Yields.readStopwatch w).bind ?_
  cases o with
  | error e => exact h.bind_throw
  | ok r =>
    refine h.bind ?_
    cases r with
    | ok response => exact yields_report method w.stopwatch (.ok response) v
    | error failure =>
      refine (World.Yields.note _ v).bind ?_
      exact yields_report method w.stopwatch (.error failure.status) v

end Rpc

end NotificationFeed
