import NotificationFeed.Proofs.Service.Calls
import NotificationFeed.Proofs.Rpc.Shape
import NotificationFeed.Proofs.World.Runs
/-!
# Remote requests — what is reported of each

The account of a request is the row of calls it makes to its collaborators:
first its questions, then the count of its operation, if its shape passed the
check, and behind all of them the two reports, under its method and the code
that it is answered with (`Account`). It is put together from the calls of the
parts: an operation is its questions and its count (`runs_perform`), and the
reports follow once it has ended (`runs_observed`). The time that is reported
is the time between two readings of the stopwatch, and only a request to the
keeper takes any, so it is the delay of the one request or nothing.
-/

namespace NotificationFeed

/-- A core asks the keeper at most once. -/
theorem Core.countP_questions_le {α : Type} (g : Core α) (w : World) :
    (g.questions w).countP (·.isStore) ≤ 1 := by
  cases g with
  | settled a => exact Nat.zero_le _
  | asks request view => exact Nat.le_refl _
  | stores draft view =>
    simp only [questions]
    cases w.directory.lookUp draft.userId with
    | error failure => exact Nat.zero_le _
    | ok user => exact Nat.le_refl _

namespace Rpc

namespace Method

/-- The name under which the operation of a method is counted. -/
def operation : Method → String
  | send => "save_notification"
  | details => "get_notification_details"
  | feed => "get_user_notification_feed"
  | read => "read_notification"
  | readAll => "read_all_user_notifications"
  | remove => "remove_notification"
  | unread => "get_unread_count"

end Method

/-! ## The calls of one request -/

section

open World (Runs)

variable {α : Type} {w v : World} {calls : List Service.Call}

/-- A question, or a call to no collaborator at all. -/
def Inner (c : Service.Call) : Prop := c.isCollaborator = c.isQuestion

/-- One of the six operations that ask the keeper one thing. -/
theorem inquiry_inner {operation : Service.Operation α} {name start reason : String}
    {fields : List (String × String)} {subject : Int} {request : Store.Request}
    {finish : request.Answer → String × List (String × String)} {view : request.Answer → α}
    (h : operation = Service.inquiry name start fields subject reason request finish view) :
    ∃ body, operation = Service.counted name body ∧ body.run.AsksOnly Inner := by
  obtain ⟨body, hinquiry, hbody⟩ :=
    Service.inquiry_counted name start fields subject reason request finish view
  exact ⟨body, h.trans hinquiry, hbody Inner (fun _ => rfl) rfl⟩

/-- **The operation of a request is counted under the name of its method**, and asks its questions
before that. -/
theorem Request.operation_counted (r : Request) :
    ∃ body : Service.Operation r.operation.Answer,
      r.operation.serve = Service.counted r.method.operation body ∧ body.run.AsksOnly Inner := by
  cases r with
  | send userId kind payload =>
    obtain ⟨body, hsave, hbody⟩ :=
      Service.save_counted { userId, kind, createdAt := none, payload }
    exact ⟨body, hsave, hbody Inner (fun _ _ _ => rfl) (fun _ => rfl) rfl fun _ => rfl⟩
  | details id => exact inquiry_inner (Service.details_eq_inquiry id)
  | feed userId limit page => exact inquiry_inner (Service.feed_eq_inquiry userId limit page)
  | read id => exact inquiry_inner (Service.read_eq_inquiry id)
  | readAll userId => exact inquiry_inner (Service.readAll_eq_inquiry userId)
  | remove id => exact inquiry_inner (Service.remove_eq_inquiry id)
  | unread userId => exact inquiry_inner (Service.unread_eq_inquiry userId)

/-- The count of an operation, if its request passed the first check. -/
def countOf (r : Request) (success : Bool) : List Service.Call :=
  if r.check.isOk then [.observe (.operationCounted r.method.operation success)] else []

/-- An operation makes the calls of its body and then its count. -/
theorem runs_counted (name : String) {body : Service.Operation α} {result : Except Failure α}
    (h : Runs body.run w (.ok result) calls v) :
    ∃ u, Runs (Service.counted name body).run w (.ok result)
      (calls ++ [.observe (.operationCounted name result.isOk)]) u :=
  ⟨_, h.bind (.ask rfl (.done result _))⟩

/-- **The work of a request** asks its questions and is counted, or does nothing. -/
theorem runs_perform (r : Request) (hreturns : w.disturbance.Returns) :
    ∃ outcome calls v, Runs r.perform.run w (.ok outcome) calls v ∧
      (outcome.isOk → r.check.isOk) ∧
      calls.filter (·.isCollaborator) =
        calls.filter (·.isQuestion) ++ countOf r outcome.isOk := by
  unfold Request.perform countOf
  cases hcheck : r.check with
  | error failure => exact ⟨.error failure, [], w, .done _ w, id, rfl⟩
  | ok _ =>
    obtain ⟨body, hserve, hbody⟩ := r.operation_counted
    obtain ⟨calls, hruns⟩ := World.runs body.run w
    obtain ⟨result, hresult⟩ := hruns.returns hreturns
    rw [hresult] at hruns
    obtain ⟨u, hcounted⟩ := runs_counted r.method.operation hruns
    rw [← hserve] at hcounted
    let count : Service.Call := .observe (.operationCounted r.method.operation result.isOk)
    have hview : Runs r.serve.run w (.ok (result.map r.view)) (calls ++ [count] ++ []) u := by
      rw [Request.serve_eq_view, ExceptT.run_map, map_eq_pure_bind]
      exact hcounted.bind (.done _ u)
    have hbefore : calls.filter (·.isCollaborator) = calls.filter (·.isQuestion) :=
      List.filter_congr (hruns.asksOnly hbody)
    have hcalls : (calls ++ [count] ++ []).filter (·.isCollaborator) =
        calls.filter (·.isQuestion) ++ [count] := by
      rw [List.append_nil, List.filter_append, hbefore]
      rfl
    have hquestions : (calls ++ [count] ++ []).filter (·.isQuestion) =
        calls.filter (·.isQuestion) := by
      rw [List.append_nil, List.filter_append]
      exact List.append_nil _
    refine ⟨result.map r.view, _, u, hview, fun _ => rfl, ?_⟩
    rw [hcalls, hquestions]
    cases result <;> rfl

/-- What is reported of a request in the end. -/
def reports (method : Method) (answer : Except Status α) (elapsed : Span) : List Service.Call :=
  [.observe (.requestCounted method.name (codeOf answer).name),
    .observe (.requestTimed method.name (codeOf answer).name elapsed)]

theorem runs_report (method : Method) (started : Span) (answer : Except Status α) (w : World) :
    ∃ calls u, Runs (report method started answer) w (.ok answer) calls u ∧
      calls.filter (·.isCollaborator) = reports method answer (w.stopwatch - started) :=
  ⟨_, _, .ask rfl (.ask rfl (.ask rfl (.ask rfl (.done answer _)))), rfl⟩

/-- **A request is reported behind all its work**, with the time the work took. -/
theorem runs_observed (method : Method) {work : Service.Operation α} {outcome : Except Failure α}
    (h : Runs work.run (w.record .readStopwatch) (.ok outcome) calls v) :
    ∃ all u, Runs (observed method work) w (.ok (outcome.mapError Failure.status)) all u ∧
      all.filter (·.isCollaborator) = calls.filter (·.isCollaborator) ++
        reports method (outcome.mapError Failure.status) (v.stopwatch - w.stopwatch) := by
  cases outcome with
  | ok response =>
    obtain ⟨last, u, hreport, hcalls⟩ := runs_report method w.stopwatch (.ok response) v
    refine ⟨_, u, .ask rfl (h.bind hreport), ?_⟩
    rw [List.filter_cons_of_neg Bool.false_ne_true, List.filter_append, hcalls]
    rfl
  | error failure =>
    -- The failure goes into the journal first, which is no call to a collaborator.
    obtain ⟨last, u, hreport, hcalls⟩ :=
      runs_report method w.stopwatch (.error failure.status : Except Status α)
        (v.record (.note ⟨.warn, none, [("err", failure.message)]⟩))
    refine ⟨_, u, .ask rfl (h.bind (.ask rfl hreport)), ?_⟩
    rw [List.filter_cons_of_neg Bool.false_ne_true, List.filter_append,
      List.filter_cons_of_neg Bool.false_ne_true, hcalls]
    rfl

/-- What is told of a failure is never that it went well. -/
theorem codeOf_mapError (outcome : Except Failure α) :
    codeOf (outcome.mapError Failure.status) = .ok ↔
      (outcome.mapError Failure.status).isOk := by
  cases outcome with
  | ok a => exact ⟨fun _ => rfl, fun _ => rfl⟩
  | error failure => cases failure <;> exact ⟨nofun, nofun⟩

end

/-! ## The account of one request -/

/-- **The account of a request**, whose request to the keeper takes `delay`: what it was answered,
what it asked and all its calls to collaborators. -/
structure Account (r : Request) (delay : Span) (answer : Except Status r.method.Response)
    (asked calls : List Service.Call) : Prop where
  /-- It asks the directory and the keeper, the keeper at most once. -/
  questions : ∀ c ∈ asked, c.isQuestion
  one : asked.countP (·.isStore) ≤ 1
  /-- Behind that its operation is counted, if its shape passed the check, and then the request,
  under its method and the code of its answer. The time is the time that the keeper took. -/
  calls : calls = asked ++ countOf r answer.isOk ++
    reports r.method answer (if asked.any (·.isStore) then delay else 0)
  /-- The code says whether it went well, and that it did only if its shape passed the check. -/
  code : codeOf answer = .ok ↔ answer.isOk
  shaped : answer.isOk → r.check.isOk

section

variable {r : Request} {delay elapsed : Span} {answer : Except Status r.method.Response}
variable {asked calls made : List Service.Call}

/-- What a request asks are the questions among its calls. -/
theorem filter_isQuestion (hasked : ∀ c ∈ asked, c.isQuestion)
    (hmade : made.filter (·.isCollaborator) =
      asked ++ countOf r answer.isOk ++ reports r.method answer elapsed) :
    made.filter (·.isQuestion) = asked := by
  have hquestion : made.filter (·.isQuestion) =
      (made.filter (·.isCollaborator)).filter (·.isQuestion) := by
    rw [List.filter_filter]
    refine List.filter_congr fun c _ => ?_
    cases c <;> rfl
  have hcount : (countOf r answer.isOk).filter (·.isQuestion) = [] := by
    unfold countOf
    split <;> rfl
  rw [hquestion, hmade, List.filter_append, List.filter_append, hcount,
    List.filter_eq_self.2 hasked, List.append_nil]
  exact List.append_nil asked

/-- One request at most takes its time, or none does. -/
theorem countP_mul (hone : asked.countP (·.isStore) ≤ 1) (delay : Span) :
    asked.countP (·.isStore) * delay = if asked.any (·.isStore) then delay else 0 := by
  cases hany : asked.any (·.isStore) with
  | false =>
    have hzero : asked.countP (·.isStore) = 0 := by
      simpa [List.countP_eq_zero] using hany
    rw [hzero]
    exact Nat.zero_mul _
  | true =>
    have hpos : 0 < asked.countP (·.isStore) := by
      simpa [List.countP_pos_iff] using hany
    have hsame : asked.countP (·.isStore) = 1 := by omega
    rw [hsame]
    exact Nat.one_mul _

/-- **Every request is accounted for**, whatever the world does to it short of not coming back. -/
theorem handle_account (r : Request) (w : World) {d : Disturbance} (hreturns : d.Returns) :
    ∃ answer asked, (w.run d (handle r)).1 = .ok answer ∧
      Account r d.delay answer asked ((w.made d (handle r)).filter (·.isCollaborator)) := by
  obtain ⟨outcome, calls, v, hperform, hshaped, hcalls⟩ := runs_perform
    (w := ({ w with disturbance := d } : World).record .readStopwatch) r hreturns
  obtain ⟨all, u, hruns, hall⟩ := runs_observed r.method hperform
  obtain ⟨hrun, hmade⟩ := World.run_of_runs hruns
  have hanswer : (outcome.mapError Failure.status).isOk = outcome.isOk := by
    cases outcome <;> rfl
  have hasked : ∀ c ∈ calls.filter (·.isQuestion), c.isQuestion := by
    intro c hc
    exact List.of_mem_filter hc
  rw [hcalls, ← hanswer] at hall
  -- What was asked are the questions of the core, and there is one request to the keeper in it.
  have hone : (calls.filter (·.isQuestion)).countP (·.isStore) ≤ 1 := by
    rw [← filter_isQuestion hasked hall, ← hmade]
    show ((w.made d (handle r)).filter (·.isQuestion)).countP (·.isStore) ≤ 1
    rw [Core.questions_made r.handle_follows]
    exact Core.countP_questions_le _ _
  have htime : v.stopwatch - w.stopwatch =
      if (calls.filter (·.isQuestion)).any (·.isStore) then d.delay else 0 := by
    have hstore : (calls.filter (·.isQuestion)).countP (·.isStore) = calls.countP (·.isStore) := by
      rw [List.countP_filter]
      refine List.countP_congr fun c _ => ?_
      cases c <;> simp [Service.Call.isStore, Service.Call.isQuestion]
    rw [← countP_mul hone, hstore, hperform.stopwatch]
    exact Nat.add_sub_cancel_left w.stopwatch _
  refine ⟨outcome.mapError Failure.status, calls.filter (·.isQuestion), congrArg Prod.fst hrun,
    hasked, hone, ?_, codeOf_mapError outcome, fun hok => hshaped (hanswer ▸ hok)⟩
  rw [← htime, ← hall, ← hmade]
  rfl

end

end Rpc

end NotificationFeed
