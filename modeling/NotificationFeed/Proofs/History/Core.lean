import NotificationFeed.Proofs.Event.Handover
import NotificationFeed.Proofs.History.Command
import NotificationFeed.Proofs.Program.Following
/-!
# Commands — the core of each

The journal, the stopwatch, the metrics and the queue stand beside the work
(`Service.Call.isAside`). Without them little is left of a command, and there
are three kinds of it (`Core`): it is settled without asking anybody, it makes
one request to the keeper, or it looks a user up, dates a draft and has it
stored. Every command follows its core (`Command.task_follows`), and so does
every run of it (`World.run_follows`).
-/

namespace NotificationFeed

/-! ## Calls beside the work -/

/-- A call beside the work: nothing of the outcome depends on its reply. -/
def Service.Call.isAside : Service.Call → Bool
  | findUser _ | readClock | store _ => false
  | readStopwatch | poll _ | commit _ | closeQueue | observe _ | note _ => true

/-- One program follows another but for calls beside the work. -/
abbrev Service.Follows {α : Type} (p q : Service.Task α) : Prop :=
  Program.Follows Service.Call.isAside p q

namespace World

/-- A call beside the work is answered, and leaves a world like the one before. -/
theorem answer_aside {c : Service.Call} (h : c.isAside = true) (w : World) :
    ∃ reply, (answer c w).1 = .ok reply ∧ (answer c w).2.Alike w := by
  cases c with
  | findUser id => cases h
  | readClock => cases h
  | store request => cases h
  | _ => exact ⟨_, rfl, rfl, rfl, rfl, rfl, rfl, rfl⟩

/-- **A run comes to what it comes to without asides**, leaves a world like
the one then left, and makes the same calls but for them. -/
theorem run_answer_follows {α : Type} {p q : Service.Task α} (h : Service.Follows p q)
    {w v : World} (hworld : w.Alike v) :
    (p.run answer w).1 = (q.run answer v).1 ∧ (p.run answer w).2.Alike (q.run answer v).2 ∧
      ∃ calls, (p.run answer w).2.past = calls ++ w.past ∧
        (q.run answer v).2.past = calls.filter (!·.isAside) ++ v.past := by
  induction h generalizing w v with
  | done a => exact ⟨rfl, hworld, [], rfl, rfl⟩
  | @skip c k q hc hk ih =>
    -- The aside is made by the one program and not by the other.
    obtain ⟨reply, hreply, halike⟩ := answer_aside hc w
    obtain ⟨houtcome, hend, calls, hp, hq⟩ := ih reply (halike.trans hworld)
    have hpast := past_answer c w
    rw [Program.run_ask]
    rcases hanswer : answer c w with ⟨r, w'⟩
    rw [hanswer] at hreply houtcome hend hp hpast
    simp only at hreply houtcome hend hp hpast
    subst hreply
    refine ⟨houtcome, hend, calls ++ [c], ?_, ?_⟩
    · simp [hp, hpast]
    · simp [hq, hc]
  | @both c k k' hc hk ih =>
    obtain ⟨hreply, halike⟩ := answer_alike hworld c
    have hwpast := past_answer c w
    have hvpast := past_answer c v
    simp only [Program.run_ask]
    rcases hw : answer c w with ⟨r, w'⟩
    rcases hv : answer c v with ⟨r', v'⟩
    rw [hw] at hreply halike hwpast
    rw [hv] at hreply halike hvpast
    simp only at hreply halike hwpast hvpast
    subst hreply
    cases r with
    | error panic => exact ⟨rfl, halike, [c], hwpast, by simp [hc, hvpast]⟩
    | ok reply =>
      obtain ⟨houtcome, hend, calls, hp, hq⟩ := ih reply halike
      refine ⟨houtcome, hend, calls ++ [c], ?_, ?_⟩
      · simp [hp, hwpast]
      · simp [hq, hc, hvpast]

/-- A run under a disturbance. -/
theorem run_follows {α : Type} {p q : Service.Task α} (h : Service.Follows p q) (w : World)
    (d : Disturbance) : (w.run d p).1 = (w.run d q).1 ∧ (w.run d p).2.Akin (w.run d q).2 := by
  obtain ⟨houtcome, hend, -⟩ := run_answer_follows h (.refl { w with disturbance := d })
  exact ⟨houtcome, hend.akin⟩

/-- **Without asides a program makes the calls of the one it follows.** -/
theorem made_follows {α : Type} {p q : Service.Task α} (h : Service.Follows p q) (w : World)
    (d : Disturbance) : (w.made d p).filter (!·.isAside) = w.made d q := by
  obtain ⟨-, -, calls, hp, hq⟩ :=
    run_answer_follows h (.refl { w with past := [], disturbance := d })
  simp only [made, run, trace]
  rw [hp, hq]
  simp

end World

/-! ## The core of an operation -/

/-- **What is left of an operation without its asides.** -/
inductive Core (α : Type) : Type where
  /-- It is settled and asks nobody. -/
  | settled (a : α)
  /-- It makes one request and shows the reply. -/
  | asks (request : Store.Request) (view : request.Reply → α)
  /-- It has a draft stored for a user the directory knows. -/
  | stores (draft : Draft) (view : Except Failure Int → α)

namespace Core

variable {α β : Type}

/-- Has a draft stored as it is. -/
def create (draft : Draft) (view : Except Failure Int → α) : Service.Task α :=
  .ask (.store (.create draft)) fun reply => .done (view (reply.mapError StoreFailure.toFailure))

/-- Gives a draft the present moment if it has none, and has it stored. -/
def date (draft : Draft) (view : Except Failure Int → α) : Service.Task α :=
  match draft.createdAt with
  | some _ => create draft view
  | none => .ask .readClock fun now => create { draft with createdAt := some now } view

/-- The program of a core. -/
def program : Core α → Service.Task α
  | settled a => .done a
  | asks request view => .ask (.store request) fun reply => .done (view reply)
  | stores draft view => .ask (.findUser draft.userId) fun
    | .error failure => .done (view (.error failure))
    | .ok _ => date draft view

/-- Shows what comes of it in another form. -/
def map (f : α → β) : Core α → Core β
  | settled a => settled (f a)
  | asks request view => asks request (f ∘ view)
  | stores draft view => stores draft (f ∘ view)

theorem program_map (f : α → β) (g : Core α) :
    (g.map f).program = g.program >>= fun a => .done (f a) := by
  cases g with
  | settled a => rfl
  | asks request view => rfl
  | stores draft view =>
    simp only [map, program, Program.ask_bind]
    congr 1
    funext known
    cases known with
    | error failure => rfl
    | ok user =>
      simp only [date]
      cases draft.createdAt <;> rfl

/-- What is done with every outcome, beside asides, is done with the core. -/
theorem follows_map {p : Service.Task α} {g : Core α} {rest : α → Service.Task β} {f : α → β}
    (h : Service.Follows p g.program) (hrest : ∀ a, Service.Follows (rest a) (.done (f a))) :
    Service.Follows (p >>= rest) (g.map f).program := by
  rw [program_map]
  exact h.bind hrest

end Core

/-! ## What a core comes to -/

/-- A question to the directory or to the keeper. -/
def Service.Call.isQuestion : Service.Call → Bool
  | findUser _ | store _ => true
  | _ => false

namespace Core

variable {α β : Type}

/-- **What a core can come to**, where a directory is asked. -/
def Outcome (directory : Directory) (a : α) : Core α → Prop
  | settled b => a = b
  | asks _ view => ∃ reply, a = view reply
  | stores draft view =>
    (∃ failure, directory.lookUp draft.userId = .error failure ∧ a = view (.error failure)) ∨
      ∃ reply : Except StoreFailure Int, a = view (reply.mapError StoreFailure.toFailure)

/-- **What a core asks** the directory and the keeper in a world. -/
def questions (w : World) : Core α → List Service.Call
  | settled _ => []
  | asks request _ => [.store request]
  | stores draft _ =>
    .findUser draft.userId ::
      match w.directory.lookUp draft.userId with
      | .error _ => []
      | .ok _ => [.store (.create (Service.dating draft w).1)]

theorem outcome_map {f : α → β} {g : Core α} {directory : Directory} {b : β}
    (h : (g.map f).Outcome directory b) : ∃ a, g.Outcome directory a ∧ b = f a := by
  cases g with
  | settled a => exact ⟨a, rfl, h⟩
  | asks request view =>
    obtain ⟨reply, hb⟩ := h
    exact ⟨view reply, ⟨reply, rfl⟩, hb⟩
  | stores draft view =>
    rcases h with ⟨failure, hfailure, hb⟩ | ⟨reply, hb⟩
    · exact ⟨_, .inl ⟨failure, hfailure, rfl⟩, hb⟩
    · exact ⟨_, .inr ⟨reply, rfl⟩, hb⟩

theorem questions_map (f : α → β) (g : Core α) (w : World) :
    (g.map f).questions w = g.questions w := by
  cases g <;> rfl

/-- A last call is made, and its reply is shown if there is one. -/
theorem run_last (c : Service.Call) (view : c.Reply → α) (w : World) :
    ((Program.ask (I := Service.surroundings) c fun reply => .done (view reply)).run
        World.answer w).2.past = c :: w.past ∧
      ∀ a, ((Program.ask (I := Service.surroundings) c fun reply => .done (view reply)).run
        World.answer w).1 = .ok a → ∃ reply, a = view reply := by
  have hpast := World.past_answer c w
  rw [Program.run_ask]
  rcases hanswer : World.answer c w with ⟨panic | reply, v⟩
  · rw [hanswer] at hpast
    exact ⟨hpast, fun a h => by cases h⟩
  · rw [hanswer] at hpast
    exact ⟨hpast, fun a h => ⟨reply, (Except.ok.inj h).symm⟩⟩

/-- **A core asks its questions**, whatever hits them, and comes to one of its outcomes if it comes
to any. -/
theorem run_program (g : Core α) (w : World) :
    (g.program.run World.answer w).2.past.filter (·.isQuestion) =
        (g.questions w).reverse ++ w.past.filter (·.isQuestion) ∧
      ∀ a, (g.program.run World.answer w).1 = .ok a → g.Outcome w.directory a := by
  cases g with
  | settled b => exact ⟨rfl, fun a h => (Except.ok.inj h).symm⟩
  | asks request view =>
    obtain ⟨hpast, houtcome⟩ := run_last (.store request) view w
    refine ⟨?_, houtcome⟩
    simp only [program, hpast]
    rfl
  | stores draft view =>
    rw [program, Program.run_ask]
    simp only [World.answer, World.record, questions, Outcome]
    cases hknown : w.directory.lookUp draft.userId with
    | error failure =>
      refine ⟨rfl, fun a h => .inl ⟨failure, rfl, ?_⟩⟩
      exact (Except.ok.inj h).symm
    | ok user =>
      -- What is left is the reading of the clock, if any, and the last question.
      have hlast : ∀ (dated : Draft) (v : World),
          ((create dated view).run World.answer v).2.past =
            .store (.create dated) :: v.past ∧
          ∀ a, ((create dated view).run World.answer v).1 = .ok a →
            ∃ reply : Except StoreFailure Int, a = view (reply.mapError StoreFailure.toFailure) :=
        fun dated v => run_last (.store (.create dated)) _ v
      simp only [date, Service.dating]
      cases draft.createdAt with
      | some t =>
        obtain ⟨hpast, houtcome⟩ := hlast draft { w with past := .findUser draft.userId :: w.past }
        refine ⟨?_, fun a h => .inr (houtcome a h)⟩
        simp only [hpast]
        rfl
      | none =>
        rw [Program.run_ask]
        simp only [World.answer, World.record, World.readClock]
        obtain ⟨hpast, houtcome⟩ := hlast { draft with createdAt := some (w.clock w.readings) }
          { w with
            past := .readClock :: .findUser draft.userId :: w.past
            readings := w.readings + 1 }
        refine ⟨?_, fun a h => .inr (houtcome a h)⟩
        simp only [hpast]
        rfl

/-- The record of calls and the disturbance have no part in it. -/
theorem questions_fresh (g : Core α) (w : World) (d : Disturbance) :
    g.questions { w with past := [], disturbance := d } = g.questions w := by
  cases g with
  | settled a => rfl
  | asks request view => rfl
  | stores draft view =>
    simp only [questions, Service.dating]
    cases draft.createdAt <;> rfl

variable {p : Service.Task α} {g : Core α}

/-- **What follows a core comes to one of its outcomes.** -/
theorem outcome_of_run (h : Service.Follows p g.program) {w : World} {d : Disturbance} {a : α}
    (hrun : (w.run d p).1 = .ok a) : g.Outcome w.directory a := by
  rw [(World.run_follows h w d).1] at hrun
  exact (g.run_program { w with disturbance := d }).2 a hrun

/-- **And asks its questions and no others.** -/
theorem questions_made (h : Service.Follows p g.program) (w : World) (d : Disturbance) :
    (w.made d p).filter (·.isQuestion) = g.questions w := by
  have hwork : (w.made d p).filter (·.isQuestion) =
      ((w.made d p).filter (!·.isAside)).filter (·.isQuestion) := by
    rw [List.filter_filter]
    refine List.filter_congr fun c _ => ?_
    cases c <;> rfl
  have hpast := (g.run_program { w with past := [], disturbance := d }).1
  rw [questions_fresh, List.filter_nil, List.append_nil] at hpast
  rw [hwork, World.made_follows h, World.made, World.run, World.trace, List.filter_reverse]
  exact List.reverse_eq_iff.2 hpast

end Core

/-! ## The seven operations -/

namespace Service

variable {α β : Type}

/-- An entry of the journal is an aside. -/
theorem tell_follows (message : String) (fields : List (String × String)) {f : Unit → Operation α}
    {q : Task (Except Failure α)} (h : Follows (f ()).run q) :
    Follows (tell message fields >>= f).run q :=
  .skip rfl fun _ => h

/-- So is the count of an operation. -/
theorem counted_follows (name : String) {x : Operation α} {q : Task (Except Failure α)}
    (h : Follows x.run q) : Follows (counted name x).run q := by
  have hcount : Follows (counted name x).run (q >>= .done) :=
    h.bind fun result => .skip rfl fun _ => .done result
  rwa [Program.bind_done] at hcount

section Inquiry

variable {name start reason : String} {fields : List (String × String)} {subject : Int}
variable {request : Store.Request} {finish : request.Answer → String × List (String × String)}
variable {view : request.Answer → α}

/-- The core of an inquiry: its one request, if its subject is positive. -/
def inquiryCore (subject : Int) (reason : String) (request : Store.Request)
    (view : request.Answer → α) : Core (Except Failure α) :=
  if 0 < subject then
    .asks request fun reply => (reply.mapError StoreFailure.toFailure).map view
  else .settled (.error (.invalidInput reason))

theorem inquiry_follows :
    Follows (inquiry name start fields subject reason request finish view).run
      (inquiryCore subject reason request view).program := by
  refine counted_follows name (tell_follows start fields ?_)
  unfold inquiryCore checkPositive
  by_cases h : 0 < subject
  · rw [if_pos h, if_pos h]
    refine .both rfl fun reply => ?_
    cases reply with
    | error failure => exact .done _
    | ok answer => exact .skip rfl fun _ => .done _
  · rw [if_neg h, if_neg h]
    exact .done _

end Inquiry

/-- The core of saving a draft: it is stored, if it is for a user and of a kind. -/
def saveCore (draft : Draft) : Core (Except Failure Int) :=
  if 0 < draft.userId then
    if draft.kind.isEmpty then .settled (.error (.invalidInput "notification type is empty"))
    else .stores draft id
  else .settled (.error (.invalidInput "user_id must be positive"))

theorem keep_follows (draft : Draft) : Follows (keep draft).run (Core.date draft id) := by
  have hcreate : ∀ dated : Draft, Follows
      (do
        let id ← ask (.create dated)
        tell "saved notification" [("id", toString id)]
        return id : Operation Int).run (Core.create dated id) := by
    intro dated
    refine .both rfl fun reply => ?_
    cases reply with
    | error failure => exact .done _
    | ok id => exact .skip rfl fun _ => .done _
  unfold keep dated Core.date
  cases draft.createdAt with
  | some t => exact hcreate draft
  | none => exact .both rfl fun now => hcreate { draft with createdAt := some now }

theorem save_follows (draft : Draft) : Follows (save draft).run (saveCore draft).program := by
  rw [save_eq_keep]
  refine counted_follows _ (tell_follows _ _ ?_)
  unfold admission checkDraft checkUserId saveCore
  by_cases huser : 0 < draft.userId
  · rw [if_pos huser, if_pos huser]
    cases hkind : draft.kind.isEmpty with
    | true => exact .done _
    | false =>
      refine .both rfl fun known => ?_
      cases known with
      | error failure => exact .done _
      | ok user => exact keep_follows draft
  · rw [if_neg huser, if_neg huser]
    exact .done _

/-- The core of an operation. -/
def Request.core : (r : Request) → Core (Except Failure r.Answer)
  | save draft => saveCore draft
  | details id => inquiryCore id "id must be positive" (.find id) fun notification => notification
  | feed userId limit page =>
    inquiryCore userId "user_id must be positive"
      (.page userId (Window.ofPage limit page).limit (Window.ofPage limit page).offset)
      fun feed => feed
  | read id => inquiryCore id "id must be positive" (.markRead id) fun _ => ()
  | readAll userId =>
    inquiryCore userId "user_id must be positive" (.markAllRead userId) fun _ => ()
  | remove id => inquiryCore id "id must be positive" (.delete id) fun _ => ()
  | unread userId =>
    inquiryCore userId "user_id must be positive" (.countUnread userId) fun count => count

/-- **An operation follows its core.** -/
theorem Request.serve_follows (r : Request) : Follows r.serve.run r.core.program := by
  cases r with
  | save draft => exact save_follows draft
  | details id =>
    rw [serve, details_eq_inquiry]
    exact inquiry_follows
  | feed userId limit page =>
    rw [serve, feed_eq_inquiry]
    exact inquiry_follows
  | read id =>
    rw [serve, read_eq_inquiry]
    exact inquiry_follows
  | readAll userId =>
    rw [serve, readAll_eq_inquiry]
    exact inquiry_follows
  | remove id =>
    rw [serve, remove_eq_inquiry]
    exact inquiry_follows
  | unread userId =>
    rw [serve, unread_eq_inquiry]
    exact inquiry_follows

end Service

/-! ## Remote requests and events -/

namespace Rpc

theorem report_follows {α : Type} (method : Method) (started : Span) (answer : Except Status α) :
    Service.Follows (report method started answer) (.done answer) :=
  .skip rfl fun _ => .skip rfl fun _ => .skip rfl fun _ => .skip rfl fun _ => .done answer

/-- What is observed of a request stands beside it. -/
theorem observed_follows {α : Type} (method : Method) {work : Service.Operation α}
    {g : Core (Except Failure α)} (h : Service.Follows work.run g.program) :
    Service.Follows (observed method work) (g.map (·.mapError Failure.status)).program := by
  refine .skip rfl fun started => Core.follows_map h fun answer => ?_
  cases answer with
  | ok response => exact report_follows method started (.ok response)
  | error failure => exact .skip rfl fun _ => report_follows method started (.error failure.status)

namespace Request

/-- The core of the work of a remote request: that of its operation, if it is of the right shape. -/
def performCore (r : Request) : Core (Except Failure r.method.Response) :=
  match r.check with
  | .error failure => .settled (.error failure)
  | .ok () => r.operation.core.map (·.map r.view)

theorem perform_follows (r : Request) : Service.Follows r.perform.run r.performCore.program := by
  unfold perform performCore
  cases r.check with
  | error failure => exact .done _
  | ok _ =>
    show Service.Follows r.serve.run _
    rw [serve_eq_view, map_eq_pure_bind]
    exact Core.follows_map r.operation.serve_follows fun answer => by
      cases answer <;> exact .done _

/-- The core of a remote request. -/
def core (r : Request) : Core (Except Status r.method.Response) :=
  r.performCore.map (·.mapError Failure.status)

/-- **A remote request follows its core.** -/
theorem handle_follows (r : Request) : Service.Follows (handle r) r.core.program :=
  observed_follows r.method r.perform_follows

end Request

end Rpc

namespace Event

/-- The core of an event: that of saving the draft it is read as. -/
def core (content : Bytes) : Core (Except Failure Int) :=
  match read content with
  | .error failure => .settled (.error failure)
  | .ok draft => Service.saveCore draft

/-- An event with a fault is settled by it. -/
theorem process_follows_refused {content : Bytes} {failure : Failure}
    (h : read content = .error failure) :
    Service.Follows (process content).run (.done (.error failure)) := by
  unfold read at h
  unfold process
  cases hdecode : Envelope.decode content with
  | none =>
    simp only [hdecode, Except.error.injEq] at h
    subst h
    exact .done _
  | some envelope =>
    simp only [hdecode] at h
    cases hkind : Kind.ofName? envelope.eventType with
    | none =>
      simp only [hkind, Except.error.injEq] at h
      subst h
      simp only [recognise, hkind]
      exact .skip rfl fun _ => .done _
    | some kind =>
      simp only [hkind] at h
      simp only [recognise, hkind, h]
      exact .skip rfl fun _ => .done _

/-- **An event follows its core.** -/
theorem process_follows (content : Bytes) :
    Service.Follows (process content).run (core content).program := by
  unfold core
  cases h : read content with
  | error failure => exact process_follows_refused h
  | ok draft =>
    rw [(handsOn_of_read h).process]
    exact Service.tell_follows _ _ (Service.save_follows draft)

end Event

namespace Command

/-- The core of a command, through any door. -/
def core : (c : Command) → Core (Except c.Refusal c.Answer)
  | keeper r => .asks r id
  | service r => r.core
  | remote r => r.core
  | event content => Event.core content

/-- **Every command follows its core.** -/
theorem task_follows (c : Command) : Service.Follows c.task c.core.program := by
  cases c with
  | keeper r => exact .both rfl fun reply => .done reply
  | service r => exact r.serve_follows
  | remote r => exact r.handle_follows
  | event content => exact Event.process_follows content

end Command

end NotificationFeed
