import NotificationFeed.Directory.Client
import NotificationFeed.Proofs.History.Core
/-!
# Remote requests — the shape they must have

A request is checked twice: once for its shape, and once more by the operation
it stands for. The two checks were not written as one. Here the shape is said
without either (`Request.WellShaped`). A request without it is refused by the
first check, before anything else is done (`Request.handle_asksOnly`). One with
it passes the second check too (`Request.operation_passes`), and what it asks
the directory and the keeper is what it says (`Request.questions_operation`).

Behind the checks only the directory and the keeper can fail, and neither ever
blames the arguments (`Request.not_blames_of_outcome`). So an answer that does
blames the shape.
-/

namespace NotificationFeed

/-! ## Failures that blame the arguments -/

/-- A failure that is put down to the arguments. -/
def Failure.Blames : Failure → Prop
  | validation _ | invalidInput _ => True
  | userNotFound | notificationNotFound | databaseQuery | externalService _ | unexpected _ => False

theorem Failure.status_code_eq {failure : Failure} :
    failure.status.code = .invalidArgument ↔ failure.Blames := by
  cases failure <;> simp [status, Blames]

/-- The keeper blames no arguments. -/
theorem StoreFailure.not_blames (failure : StoreFailure) : ¬ failure.toFailure.Blames := by
  cases failure <;> exact id

namespace Directory

/-- **A directory that fails as the user service does**: there is no such user, or the service is
out. -/
def FailsAsService (directory : Directory) : Prop :=
  ∀ id failure, directory.lookUp id = .error failure →
    failure = .userNotFound ∨ ∃ reason, failure = .externalService reason

/-- So fails every lookup of the user service. -/
theorem Lookup.answer_fails {lookup : Lookup} {failure : Failure}
    (h : lookup.answer = .error failure) :
    failure = .userNotFound ∨ ∃ reason, failure = .externalService reason := by
  have hstatus : ∀ code, statusFailure code = .userNotFound ∨
      ∃ reason, statusFailure code = .externalService reason := by
    intro code
    unfold statusFailure
    split
    · exact .inl rfl
    · exact .inr ⟨_, rfl⟩
  cases lookup with
  | user u => cases h
  | status number message =>
    cases h
    exact hstatus _
  | refused =>
    cases h
    exact hstatus _
  | silent =>
    cases h
    exact .inr ⟨_, rfl⟩

theorem FailsAsService.not_blames {directory : Directory} (h : directory.FailsAsService) {id : Int}
    {failure : Failure} (hfailure : directory.lookUp id = .error failure) : ¬ failure.Blames := by
  rcases h id failure hfailure with rfl | ⟨reason, rfl⟩
  · exact fun hblames => hblames
  · exact fun hblames => hblames

end Directory

/-! ## The second check -/

namespace Service

/-- The check of its arguments that an operation makes. -/
def Request.check : Request → Operation Unit
  | save draft => checkDraft draft
  | details id | read id | remove id => checkId id
  | feed userId _ _ | readAll userId | unread userId => checkUserId userId

/-- **An operation passes its check**, which stands behind the entry of its start and before all
else. -/
def Request.Passes (r : Request) : Prop :=
  ∃ (name start : String) (fields : List (String × String)) (rest : Operation r.Answer),
    r.serve = counted name (do
      tell start fields
      r.check
      rest) ∧ r.check = pure ()

theorem Request.passes_of_check {r : Request} (h : r.check = pure ()) : r.Passes := by
  cases r <;> exact ⟨_, _, _, _, rfl, h⟩

/-- A call that is part of the service's work: a question, or the count of an operation. -/
def Call.IsWork : Call → Prop
  | findUser _ | store _ | observe (.operationCounted ..) => True
  | _ => False

end Service

/-! ## The shape of a request -/

namespace Rpc

namespace Request

variable {r : Request} {w : World} {d : Disturbance}

/-- **The shape a request must have.** -/
def WellShaped : Request → Prop
  | send userId kind payload => 0 < userId ∧ kind ≠ "" ∧ payload ≠ []
  | details id | read id | remove id => 0 < id
  | feed userId limit page =>
    0 < userId ∧ (0 ≤ limit.toInt ∧ limit.toInt ≤ 100) ∧ 0 ≤ page.toInt
  | readAll userId | unread userId => 0 < userId

/-- **A check is for a shape**: it passes what has the shape, and refuses what has not. -/
def Checks (shape : Prop) (check : Except Failure Unit) : Prop :=
  (shape ∧ check = .ok ()) ∨ (¬ shape ∧ ∃ reason, check = .error (.validation reason))

section Checks

variable {shape shape' fault : Prop} {check : Except Failure Unit}

theorem Checks.iff (h : Checks shape check) (hiff : shape ↔ shape') : Checks shape' check := by
  rcases h with ⟨hshape, hcheck⟩ | ⟨hshape, hcheck⟩
  · exact .inl ⟨hiff.1 hshape, hcheck⟩
  · exact .inr ⟨fun h => hshape (hiff.2 h), hcheck⟩

/-- One check after another. -/
theorem Checks.bind {check' : Unit → Except Failure Unit} (h : Checks shape check)
    (h' : ∀ u, Checks shape' (check' u)) : Checks (shape ∧ shape') (check >>= check') := by
  rcases h with ⟨hshape, rfl⟩ | ⟨hshape, reason, rfl⟩
  · exact (h' ()).iff ⟨fun h => ⟨hshape, h⟩, fun h => h.2⟩
  · exact .inr ⟨fun h => hshape h.1, reason, rfl⟩

theorem checks_unless [Decidable fault] (reason : String) :
    Checks (¬ fault) (if fault then throw (.validation reason) else pure ()) := by
  by_cases h : fault
  · exact .inr ⟨fun hnot => hnot h, reason, if_pos h⟩
  · exact .inl ⟨h, if_neg h⟩

/-- A fault is looked for, and then comes another check. -/
theorem Checks.unless [Decidable fault] {check : Unit → Except Failure Unit}
    (h : ∀ u, Checks shape (check u)) (reason : String) :
    Checks (¬ fault ∧ shape)
      (if fault then throw (.validation reason) >>= check else check ()) := by
  by_cases hfault : fault
  · exact .inr ⟨fun hnot => hnot.1 hfault, reason, if_pos hfault⟩
  · rw [if_neg hfault]
    exact (h ()).iff ⟨fun h => ⟨hfault, h⟩, fun h => h.2⟩

theorem checks_positive (n : Int) (reason : String) :
    Checks (0 < n) (if 0 < n then .ok () else .error (.validation reason)) := by
  by_cases h : 0 < n
  · exact .inl ⟨h, if_pos h⟩
  · exact .inr ⟨h, reason, if_neg h⟩

end Checks

/-- **The first check is for the shape of a request.** -/
theorem checks_wellShaped (r : Request) : Checks r.WellShaped r.check := by
  cases r with
  | details id | read id | remove id => exact checks_positive id _
  | readAll userId | unread userId => exact checks_positive userId _
  | send userId kind payload =>
    have hpayload : Checks (¬ payload.isEmpty = true) _ := checks_unless "payload is empty"
    have hkind : Checks (¬ kind.isEmpty = true ∧ _) _ :=
      Checks.unless (fun _ => hpayload) "type is empty"
    have huser : Checks (0 < userId) (checkUserId userId) := checks_positive userId _
    refine (huser.bind fun _ => hkind).iff ?_
    simp [WellShaped]
  | feed userId limit page =>
    have hpage : Checks (¬ page.toInt < 0) _ := checks_unless "page is negative"
    have hlimit : Checks (¬ (limit.toInt < 0 ∨ maxLimit < limit.toInt) ∧ _) _ :=
      Checks.unless (fun _ => hpage) "limit must be between 0 and 100"
    have huser : Checks (0 < userId) (checkUserId userId) := checks_positive userId _
    refine (huser.bind fun _ => hlimit).iff ?_
    simp only [WellShaped, maxLimit]
    omega

theorem check_of_wellShaped (h : r.WellShaped) : r.check = .ok () := by
  rcases r.checks_wellShaped with ⟨-, hcheck⟩ | ⟨hshape, -⟩
  · exact hcheck
  · exact absurd h hshape

theorem check_of_not_wellShaped (h : ¬ r.WellShaped) :
    ∃ reason, r.check = .error (.validation reason) := by
  rcases r.checks_wellShaped with ⟨hshape, -⟩ | ⟨-, hcheck⟩
  · exact absurd hshape h
  · exact hcheck

/-- A request of the wrong shape is refused and reported, and nothing else is done. -/
theorem handle_asksOnly (h : ¬ r.WellShaped) :
    (handle r).AsksOnly (fun c : Service.Call => ¬ c.IsWork) := by
  obtain ⟨reason, hcheck⟩ := check_of_not_wellShaped h
  refine ⟨fun hwork => hwork, fun started => ?_⟩
  have hperform : r.perform.run = .done (.error (.validation reason)) := by
    unfold perform
    rw [hcheck]
    rfl
  show (r.perform.run >>= _).AsksOnly _
  rw [hperform]
  exact ⟨fun hwork => hwork, fun _ => ⟨fun hwork => hwork, fun _ => ⟨fun hwork => hwork,
    fun _ => ⟨fun hwork => hwork, fun _ => ⟨fun hwork => hwork, fun _ => trivial⟩⟩⟩⟩⟩

/-- **A request of the right shape passes the second check**, that of its operation. -/
theorem operation_passes (h : r.WellShaped) : r.operation.Passes := by
  refine Service.Request.passes_of_check ?_
  cases r with
  | details id | read id | remove id => exact if_pos h
  | readAll userId | unread userId => exact if_pos h
  | feed userId limit page => exact if_pos h.1
  | send userId kind payload =>
    obtain ⟨huser, hkind, -⟩ := h
    have hempty : kind.isEmpty = false := by simpa using hkind
    simp [operation, Service.Request.check, Service.checkDraft, Service.checkUserId, huser, hempty]

/-- What a request of the right shape asks the directory and the keeper, word for word. -/
def questions (w : World) : Request → List Service.Call
  | send userId kind payload =>
    .findUser userId ::
      match w.directory.lookUp userId with
      | .error _ => []
      | .ok _ => [.store (.create
          { userId, kind, createdAt := some (w.clock w.readings), payload })]
  | details id => [.store (.find id)]
  | feed userId limit page =>
    [.store (.page userId (Service.Window.ofPage limit page).limit
      (Service.Window.ofPage limit page).offset)]
  | read id => [.store (.markRead id)]
  | readAll userId => [.store (.markAllRead userId)]
  | remove id => [.store (.delete id)]
  | unread userId => [.store (.countUnread userId)]

theorem questions_inquiryCore {α : Type} {subject : Int} {reason : String}
    {request : Store.Request} {view : request.Answer → α} (h : 0 < subject) (w : World) :
    (Service.inquiryCore subject reason request view).questions w = [.store request] := by
  rw [Service.inquiryCore, if_pos h]
  rfl

theorem questions_operation (h : r.WellShaped) (w : World) :
    r.operation.core.questions w = r.questions w := by
  cases r with
  | send userId kind payload =>
    obtain ⟨huser, hkind, -⟩ := h
    have hempty : ¬ kind.isEmpty = true := by simpa using hkind
    simp only [operation, Service.Request.core, Service.saveCore]
    rw [if_pos huser, if_neg hempty]
    rfl
  | details id | read id | remove id => exact questions_inquiryCore h w
  | readAll userId | unread userId => exact questions_inquiryCore h w
  | feed userId limit page => exact questions_inquiryCore h.1 w

/-- An operation for a request of the right shape fails only as the keeper or the directory does. -/
theorem outcome_operation (h : r.WellShaped) {directory : Directory} {failure : Failure}
    (houtcome : r.operation.core.Outcome directory (.error failure)) :
    (∃ refusal : StoreFailure, failure = refusal.toFailure) ∨
      ∃ id, directory.lookUp id = .error failure := by
  have hinquiry : ∀ {α : Type} {subject : Int} {reason : String} {request : Store.Request}
      {view : request.Answer → α}, 0 < subject →
      (Service.inquiryCore subject reason request view).Outcome directory (.error failure) →
      ∃ refusal : StoreFailure, failure = refusal.toFailure := by
    intro α subject reason request view hsubject h
    rw [Service.inquiryCore, if_pos hsubject] at h
    obtain ⟨reply, hreply⟩ := h
    cases reply with
    | error refusal => exact ⟨refusal, Except.error.inj hreply⟩
    | ok answer => cases hreply
  cases r with
  | send userId kind payload =>
    obtain ⟨huser, hkind, -⟩ := h
    have hempty : ¬ kind.isEmpty = true := by simpa using hkind
    simp only [operation, Service.Request.core, Service.saveCore] at houtcome
    rw [if_pos huser, if_neg hempty] at houtcome
    rcases houtcome with ⟨e, hknown, he⟩ | ⟨reply, hreply⟩
    · obtain rfl := Except.error.inj he
      exact .inr ⟨userId, hknown⟩
    · cases reply with
      | error refusal => exact .inl ⟨refusal, Except.error.inj hreply⟩
      | ok id => cases hreply
  | details id | read id | remove id => exact .inl (hinquiry h houtcome)
  | readAll userId | unread userId => exact .inl (hinquiry h houtcome)
  | feed userId limit page => exact .inl (hinquiry h.1 houtcome)

/-- **Behind the first check nothing blames the arguments**, where the directory fails as the user
service does. -/
theorem not_blames_of_outcome (h : r.WellShaped) {directory : Directory}
    (hdirectory : directory.FailsAsService) {failure : Failure}
    (houtcome : r.performCore.Outcome directory (.error failure)) : ¬ failure.Blames := by
  rw [performCore, check_of_wellShaped h] at houtcome
  obtain ⟨answer, hanswer, hview⟩ := Core.outcome_map houtcome
  cases answer with
  | ok a => cases hview
  | error e =>
    obtain rfl := Except.error.inj hview
    rcases outcome_operation h hanswer with ⟨refusal, rfl⟩ | ⟨id, hknown⟩
    · exact refusal.not_blames
    · exact hdirectory.not_blames hknown

/-- What a request of the wrong shape is answered. -/
theorem run_refused (h : ¬ r.WellShaped) (w : World) (d : Disturbance) :
    (∃ reason, (w.run d r.perform.run).1 = .ok (.error (.validation reason))) ∧
      (w.run d (handle r)).1 = .ok (.error ⟨.invalidArgument, "validation failed"⟩) := by
  obtain ⟨reason, hcheck⟩ := check_of_not_wellShaped h
  have hcore : r.performCore = .settled (.error (.validation reason)) := by
    rw [performCore, hcheck]
  refine ⟨⟨reason, ?_⟩, ?_⟩
  · rw [(World.run_follows r.perform_follows w d).1, hcore]
    rfl
  · rw [(World.run_follows r.handle_follows w d).1, core, hcore]
    rfl

end Request

/-- **A request is answered with `InvalidArgument` for its shape and for nothing
else**, in every world and whatever hits its calls. A request of the wrong
shape is refused before any part of the service's work; one of the right shape
passes the check of its operation and is handed on as it is. -/
theorem invalid_for_shape (r : Request) (w : World) (d : Disturbance)
    (hdirectory : w.directory.FailsAsService) :
    ((∃ message, (w.run d (handle r)).1 = .ok (.error ⟨.invalidArgument, message⟩)) ↔
        ¬ r.WellShaped) ∧
      (¬ r.WellShaped →
        (w.run d (handle r)).1 = .ok (.error ⟨.invalidArgument, "validation failed"⟩) ∧
          ∀ c ∈ w.made d (handle r), ¬ c.IsWork) ∧
      (r.WellShaped → r.operation.Passes ∧
        (w.made d (handle r)).filter (·.isQuestion) = r.questions w) ∧
      ∀ reason, (w.run d r.perform.run).1 ≠ .ok (.error (.invalidInput reason)) := by
  refine ⟨⟨?_, fun h => ⟨_, (Request.run_refused h w d).2⟩⟩, fun h => ?_, fun h => ?_,
    fun reason hrun => ?_⟩
  · rintro ⟨message, hrun⟩ hshape
    obtain ⟨answer, hanswer, hstatus⟩ :=
      Core.outcome_map (Core.outcome_of_run r.handle_follows hrun)
    cases answer with
    | ok response => cases hstatus
    | error failure =>
      have hcode : failure.status.code = .invalidArgument :=
        (congrArg Status.code (Except.error.inj hstatus)).symm
      exact Request.not_blames_of_outcome hshape hdirectory hanswer
        (Failure.status_code_eq.1 hcode)
  · refine ⟨(Request.run_refused h w d).2, fun c hc => ?_⟩
    exact World.of_mem_made (Request.handle_asksOnly h) hc
  · refine ⟨Request.operation_passes h, ?_⟩
    rw [Core.questions_made r.handle_follows, Request.core, Core.questions_map,
      Request.performCore, Request.check_of_wellShaped h, Core.questions_map]
    exact Request.questions_operation h w
  · by_cases hshape : r.WellShaped
    · exact Request.not_blames_of_outcome hshape hdirectory
        (Core.outcome_of_run r.perform_follows hrun) trivial
    · obtain ⟨other, hother⟩ := (Request.run_refused hshape w d).1
      rw [hother] at hrun
      cases hrun

/-- A world in which one user is known and the directory is out for another. -/
def troubled : World where
  directory := [(42, .ok ⟨42, "bob", "bob@x"⟩), (7, .error (.externalService "timed out"))]

theorem invalid_for_shape_troubled :
    troubled.directory.FailsAsService ∧
      (troubled.made { fault := some (.refuse .databaseQuery) }
          (handle (.send 42 "like" [1]))).filter (·.isQuestion) =
        [.findUser 42, .store (.create ⟨42, "like", some ⟨0⟩, [1]⟩)] ∧
      (troubled.run {} (handle (.feed 42 101 0))).1 =
        .ok (.error ⟨.invalidArgument, "validation failed"⟩) := by
  have hdirectory : troubled.directory.FailsAsService := by
    intro id failure h
    unfold Directory.lookUp troubled at h
    simp only [List.find?_cons, List.find?_nil] at h
    split at h
    · cases h
    · split at h
      · cases h
        exact .inr ⟨_, rfl⟩
      · cases h
        exact .inl rfl
  have hsent := invalid_for_shape (.send 42 "like" [1]) troubled
    { fault := some (.refuse .databaseQuery) } hdirectory
  have hpage := invalid_for_shape (.feed 42 101 0) troubled {} hdirectory
  refine ⟨hdirectory, (hsent.2.2.1 ⟨by decide, by decide, by decide⟩).2, (hpage.2.1 ?_).1⟩
  exact fun h => absurd h.2.1.2 (by decide)

end Rpc

end NotificationFeed
