import NotificationFeed.Proofs.Event.Handover
import NotificationFeed.Proofs.History.Errand
/-!
# Storing — when a notification is asked to be stored

A draft is stored only after certain exchanges: its user and its kind were
checked, the directory knew the user, and where the draft came without a
moment, the clock was read once. That is a rule about calls (`storing`). What
a command wants stored is known before it begins (`Command.wanted`), and
every command keeps to the rule for it (`Command.task_obeys`).
-/

namespace NotificationFeed

/-! ## The rule -/

namespace Service

/-- What the calendar clock showed, in order. -/
def readings (past : List Exchange) : List Instant :=
  past.filterMap fun
    | ⟨.readClock, now⟩ => some now
    | _ => none

/-- The directory was asked for a user and knew them. -/
def Knew (past : List Exchange) (userId : Int) : Prop :=
  ∃ user, (⟨.findUser userId, .ok user⟩ : Exchange) ∈ past

/-- A moment is the one that was asked for; if none was, it is what the clock showed, which was
read once. -/
def Dates (asked : Option Instant) (past : List Exchange) (moment : Instant) : Prop :=
  match asked with
  | some t => moment = t
  | none => readings past = [moment]

/-- **A draft is fit to be stored**, after these exchanges, where `asked` was
asked to be stored. -/
structure Fit (asked : Draft) (past : List Exchange) (draft : Draft) : Prop where
  userId : draft.userId = asked.userId
  kind : draft.kind = asked.kind
  payload : draft.payload = asked.payload
  recipient : 0 < draft.userId
  named : draft.kind ≠ ""
  known : Knew past draft.userId
  moment : ∃ t, draft.createdAt = some t ∧ Dates asked.createdAt past t

/-- **What may be asked, and when**: the clock is read once at most, and only
a fit draft of what is wanted is stored. -/
def storing (wanted : Option Draft) (past : List Exchange) : Call → Prop
  | .readClock => readings past = []
  | .store (.create draft) => ∃ asked, wanted = some asked ∧ Fit asked past draft
  | _ => True

variable {α : Type} {past : List Exchange} {want : Option Draft}

theorem readings_append (past later : List Exchange) :
    readings (past ++ later) = readings past ++ readings later := List.filterMap_append

/-- Where the rule was kept to, the clock is not read again. -/
theorem readings_eq_of_kept {later : List Exchange}
    (h : Program.Kept (storing want) (past ++ later)) (hread : readings past ≠ []) :
    readings (past ++ later) = readings past := by
  induction later using List.reverseRecOn with
  | nil => rw [List.append_nil]
  | append_singleton later x ih =>
    rw [← List.append_assoc] at h ⊢
    have hold : readings (past ++ later) = readings past := ih h.of_append
    have hx : storing want (past ++ later) x.call := h (past ++ later) x [] rfl
    obtain ⟨call, reply⟩ := x
    rw [readings_append, hold]
    cases call with
    | readClock =>
      -- The rule allows a reading only where there was none.
      rw [storing, hold] at hx
      exact absurd hx hread
    | _ => simp [readings]

/-! ## The operations keep to it -/

/-- A call that the rule always allows. -/
def Plain : Call → Prop
  | .readClock | .store (.create _) => False
  | _ => True

theorem storing_of_plain (past : List Exchange) (c : Call) (h : Plain c) : storing want past c := by
  cases c with
  | readClock => exact h.elim
  | store request =>
    cases request with
    | create draft => exact h.elim
    | _ => trivial
  | _ => trivial

theorem inquiry_asksPlain {name start reason : String} {fields : List (String × String)}
    {subject : Int} {request : Store.Request}
    {finish : request.Answer → String × List (String × String)} {view : request.Answer → α}
    (hrequest : Plain (.store request)) :
    (inquiry name start fields subject reason request finish view).run.AsksOnly Plain := by
  obtain ⟨body, hinquiry, hbody⟩ :=
    inquiry_counted name start fields subject reason request finish view
  rw [hinquiry]
  refine counted_asksOnly ?_ fun _ => trivial
  exact hbody Plain (fun _ => trivial) hrequest

/-- What is known of a draft once it is admitted. -/
theorem admission_obeys (draft : Draft) (hclock : readings past = []) :
    (admission draft).run.Obeys (storing want)
      (Program.onSuccess fun _ past => 0 < draft.userId ∧ draft.kind ≠ "" ∧
        Knew past draft.userId ∧ readings past = []) past := by
  unfold admission checkDraft checkUserId
  by_cases huser : 0 < draft.userId
  · cases hkind : draft.kind.isEmpty with
    | true =>
      rw [if_pos huser, if_pos rfl]
      trivial
    | false =>
      rw [if_pos huser, if_neg Bool.false_ne_true]
      refine ⟨trivial, ?_⟩
      intro reply
      cases reply with
      | error failure => trivial
      | ok user =>
        have hnamed : draft.kind ≠ "" := by simpa using hkind
        have hreadings : readings (past ++ [⟨.findUser draft.userId, .ok user⟩]) = [] := by
          rw [readings_append, hclock]
          rfl
        exact ⟨huser, hnamed, ⟨user, List.mem_append_right _ List.mem_cons_self⟩, hreadings⟩
  · rw [if_neg huser]
    trivial

/-- A draft that is admitted is stored as it was asked, with its moment. -/
theorem keep_obeys {draft : Draft} (huser : 0 < draft.userId) (hkind : draft.kind ≠ "")
    (hknown : Knew past draft.userId) (hclock : readings past = []) :
    (keep draft).run.Obeys (storing (some draft)) (fun _ _ => True) past := by
  unfold keep dated
  cases hmoment : draft.createdAt with
  | some t =>
    have hdates : Dates draft.createdAt past t := by
      rw [hmoment]
      rfl
    refine ⟨⟨draft, rfl, rfl, rfl, rfl, huser, hkind, hknown, t, hmoment, hdates⟩, ?_⟩
    intro reply
    cases reply with
    | error failure => trivial
    | ok id => exact ⟨trivial, fun _ => trivial⟩
  | none =>
    -- The clock was not read so far, so what it shows now is all that it showed.
    refine ⟨hclock, ?_⟩
    intro now
    have hknown' : Knew (past ++ [⟨.readClock, now⟩]) draft.userId := by
      obtain ⟨user, hmem⟩ := hknown
      exact ⟨user, List.mem_append_left _ hmem⟩
    have hdates : Dates draft.createdAt (past ++ [⟨.readClock, now⟩]) now := by
      rw [hmoment, Dates, readings_append, hclock]
      rfl
    refine ⟨⟨draft, rfl, rfl, rfl, rfl, huser, hkind, hknown', now, rfl, hdates⟩, ?_⟩
    intro reply
    cases reply with
    | error failure => trivial
    | ok id => exact ⟨trivial, fun _ => trivial⟩

/-- An entry of the journal is always allowed, and is no reading of the clock. -/
theorem tell_obeys (message : String) (fields : List (String × String))
    (hclock : readings past = []) :
    (tell message fields).run.Obeys (storing want)
      (Program.onSuccess fun _ past => readings past = []) past := by
  refine ⟨trivial, fun _ => ?_⟩
  show readings _ = []
  rw [readings_append, hclock]
  rfl

/-- So is the count of an operation, whatever it came to. -/
theorem counted_obeys (name : String) {x : Operation α}
    (h : x.run.Obeys (storing want) (fun _ _ => True) past) :
    (counted name x).run.Obeys (storing want) (fun _ _ => True) past :=
  h.bind fun _ _ _ => ⟨trivial, fun _ => trivial⟩

/-- **Saving keeps to the rule.** -/
theorem save_obeys (draft : Draft) (hclock : readings past = []) :
    (save draft).run.Obeys (storing (some draft)) (fun _ _ => True) past := by
  rw [save_eq_keep]
  refine counted_obeys _ ((tell_obeys _ _ hclock).run_bind fun _ past hclock => ?_)
  refine (admission_obeys draft hclock).run_bind fun _ past hadmitted => ?_
  obtain ⟨huser, hkind, hknown, hclock⟩ := hadmitted
  exact keep_obeys huser hkind hknown hclock

/-- What an operation wants stored. -/
def Request.wanted : Request → Option Draft
  | .save draft => some draft
  | _ => none

theorem Request.serve_obeys (r : Request) (hclock : readings past = []) :
    r.serve.run.Obeys (storing r.wanted) (fun _ _ => True) past := by
  cases r with
  | save draft => exact save_obeys draft hclock
  | details id =>
    rw [serve, details_eq_inquiry]
    exact .of_asksOnly (inquiry_asksPlain trivial) storing_of_plain
  | feed userId limit page =>
    rw [serve, feed_eq_inquiry]
    exact .of_asksOnly (inquiry_asksPlain trivial) storing_of_plain
  | read id =>
    rw [serve, read_eq_inquiry]
    exact .of_asksOnly (inquiry_asksPlain trivial) storing_of_plain
  | readAll userId =>
    rw [serve, readAll_eq_inquiry]
    exact .of_asksOnly (inquiry_asksPlain trivial) storing_of_plain
  | remove id =>
    rw [serve, remove_eq_inquiry]
    exact .of_asksOnly (inquiry_asksPlain trivial) storing_of_plain
  | unread userId =>
    rw [serve, unread_eq_inquiry]
    exact .of_asksOnly (inquiry_asksPlain trivial) storing_of_plain

end Service

/-! ## Every command keeps to it -/

namespace Rpc

/-- What a remote request wants stored, if it is of the right shape. -/
def Request.wanted (r : Request) : Option Draft :=
  match r.check with
  | .ok () => r.operation.wanted
  | .error _ => none

theorem Request.payload_ne_nil {userId : Int} {kind : String} {payload : Bytes}
    (h : (send userId kind payload).check = .ok ()) : payload ≠ [] := by
  rintro rfl
  simp only [check, bind, Except.bind] at h
  split at h
  · cases h
  · split at h <;> cases h

theorem report_obeys {α : Type} (method : Method) (started : Span) (answer : Except Status α)
    (past : List Service.Exchange) {wanted : Option Draft} :
    (report method started answer).Obeys (Service.storing wanted) (fun _ _ => True) past := by
  refine .of_asksOnly (P := Service.Plain) ?_ Service.storing_of_plain
  exact ⟨trivial, fun _ => ⟨trivial, fun _ => ⟨trivial, fun _ => ⟨trivial, fun _ => trivial⟩⟩⟩⟩

theorem Request.of_wanted {r : Request} {draft : Draft} (h : r.wanted = some draft) :
    r.check = .ok () ∧ r.operation.wanted = some draft := by
  unfold wanted at h
  split at h
  · rename_i hcheck
    exact ⟨hcheck, h⟩
  · cases h

/-- Showing the answer of an operation in another form asks for nothing. -/
theorem Request.perform_obeys (r : Request) {past : List Service.Exchange}
    (hclock : Service.readings past = []) :
    r.perform.run.Obeys (Service.storing r.wanted) (fun _ _ => True) past := by
  unfold Request.perform
  cases hcheck : r.check with
  | error failure => trivial
  | ok _ =>
    have hwanted : r.wanted = r.operation.wanted := by rw [Request.wanted, hcheck]
    have hserve : r.operation.serve.run.Obeys (Service.storing r.wanted)
        (Program.onSuccess fun _ _ => True) past := by
      rw [hwanted]
      refine (r.operation.serve_obeys hclock).mono fun answer _ _ => ?_
      cases answer <;> trivial
    show r.serve.run.Obeys _ _ _
    rw [serve_eq_view, map_eq_pure_bind]
    exact hserve.run_bind fun _ _ _ => trivial

/-- **A remote request keeps to the rule** of its operation. -/
theorem Request.handle_obeys (r : Request) :
    (handle r).Obeys (Service.storing r.wanted) (fun _ _ => True) [] := by
  refine ⟨trivial, fun started => ?_⟩
  have hperform : r.perform.run.Obeys (Service.storing r.wanted) (fun _ _ => True)
      [⟨.readStopwatch, started⟩] := r.perform_obeys rfl
  refine hperform.bind fun answer past _ => ?_
  cases answer with
  | ok response => exact report_obeys r.method started (.ok response) past
  | error failure =>
    have hreport : ∀ past, (report r.method started
        (.error failure.status : Except Status r.method.Response)).Obeys
        (Service.storing r.wanted) (fun _ _ => True) past :=
      fun past => report_obeys r.method started _ past
    exact ⟨trivial, fun _ => hreport _⟩

end Rpc

namespace Event

/-- An event with a fault only writes into the journal. -/
theorem process_asksPlain {content : Bytes} {failure : Failure}
    (h : read content = .error failure) :
    (process content).run.AsksOnly Service.Plain := by
  unfold read at h
  unfold process
  cases hdecode : Envelope.decode content with
  | none => trivial
  | some envelope =>
    simp only [hdecode] at h
    cases hkind : Kind.ofName? envelope.eventType with
    | none =>
      simp only [recognise, hkind]
      exact ⟨trivial, fun _ => trivial⟩
    | some kind =>
      simp only [hkind] at h
      simp only [recognise, hkind, h]
      exact ⟨trivial, fun _ => trivial⟩

/-- **An event keeps to the rule** for the draft it is read as. -/
theorem process_obeys (content : Bytes) :
    (process content).run.Obeys (Service.storing (read content).toOption) (fun _ _ => True) [] := by
  cases h : read content with
  | error failure => exact .of_asksOnly (process_asksPlain h) Service.storing_of_plain
  | ok draft =>
    rw [(handsOn_of_read h).process]
    refine (Service.tell_obeys _ _ rfl).run_bind fun _ past hclock => ?_
    exact Service.save_obeys draft hclock

end Event

namespace Command

/-- What a command wants stored. The keeper itself is asked for whatever it is asked for. -/
def wanted : Command → Option Draft
  | keeper _ => none
  | service r => r.wanted
  | remote r => r.wanted
  | event content => (Event.read content).toOption

/-- **Every command keeps to the rule**, a draft given to the keeper itself apart. -/
theorem task_obeys {c : Command} (h : ∀ draft, c ≠ .keeper (.create draft)) :
    c.task.Obeys (Service.storing c.wanted) (fun _ _ => True) [] := by
  cases c with
  | keeper r =>
    cases r with
    | create draft => exact absurd rfl (h draft)
    | _ => exact ⟨trivial, fun _ => trivial⟩
  | service r => exact r.serve_obeys rfl
  | remote r => exact r.handle_obeys
  | event content => exact Event.process_obeys content

end Command

end NotificationFeed
