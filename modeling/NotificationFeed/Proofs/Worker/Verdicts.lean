import NotificationFeed.Proofs.Event.Defects
import NotificationFeed.Proofs.Rpc.Shape
import NotificationFeed.Proofs.Worker.Handling
/-!
# Messages — what the journal says of their outcome

The journal says in one of five ways how a message ended, each at its own
level (`Verdict`), and no other entry that is written while a message is
handled can be taken for one of them. So every message leaves exactly one
verdict, the one that is due (`Verdict.Due`): what is due is told from the
content and from what saving came to, and not from the text of a failure.

That last point is the one that needs an argument. An event of an unknown
type is told from other refused events by the text of its failure; it works
because saving never blames the arguments of a draft that was handed on.
-/

namespace NotificationFeed

/-- What the journal may say of the outcome of a message. -/
inductive Worker.Verdict where
  | processed | skipped | rejected | failed | panicked
  deriving DecidableEq, Repr, Inhabited

namespace Worker

namespace Verdict

/-- The level of the entry. -/
def level : Verdict → Level
  | processed => .info
  | skipped => .warn
  | rejected | failed | panicked => .error

/-- The message of the entry. -/
def message : Verdict → String
  | processed => "event processed"
  | skipped => "skipped event"
  | rejected => "rejected invalid event"
  | failed => "failed to process event"
  | panicked => "event processing panicked"

/-- All verdicts. -/
def all : List Verdict := [processed, skipped, rejected, failed, panicked]

theorem mem_all (v : Verdict) : v ∈ all := by cases v <;> decide

theorem message_injective {v v' : Verdict} (h : v.message = v'.message) : v = v' := by
  cases v <;> cases v' <;> first | rfl | exact absurd h (by decide)

end Verdict

/-- Whether an entry of the journal is a verdict, by its message. -/
def isVerdict (entry : Entry) : Bool := Verdict.all.any fun v => entry.message == some v.message

/-- An entry gives a verdict. -/
def Gives (entry : Entry) (v : Verdict) : Prop :=
  entry.level = v.level ∧ entry.message = some v.message

/-- An entry gives one verdict at most. -/
theorem Gives.unique {entry : Entry} {v v' : Verdict} (h : Gives entry v) (h' : Gives entry v') :
    v = v' :=
  Verdict.message_injective (Option.some.inj (h.2.symm.trans h'.2))

theorem Gives.isVerdict {entry : Entry} {v : Verdict} (h : Gives entry v) :
    isVerdict entry = true :=
  List.any_eq_true.2 ⟨v, v.mem_all, beq_iff_eq.2 h.2⟩

/-- A call that writes no verdict. -/
def Silent (c : Service.Call) : Prop := ∀ entry, c = .note entry → isVerdict entry = false

theorem silent_note {entry : Entry} (h : isVerdict entry = false) : Silent (.note entry) := by
  rintro _ ⟨⟩
  exact h

/-! ## The verdicts of a run -/

/-- The entries that some calls write, in order. -/
def entries (calls : List Service.Call) : List Entry :=
  calls.filterMap fun
    | .note entry => some entry
    | _ => none

/-- The verdicts among them. -/
def verdicts (calls : List Service.Call) : List Entry := (entries calls).filter isVerdict

theorem verdicts_append (calls calls' : List Service.Call) :
    verdicts (calls ++ calls') = verdicts calls ++ verdicts calls' := by
  rw [verdicts, entries, List.filterMap_append, List.filter_append]
  rfl

theorem verdicts_of_silent {calls : List Service.Call} (h : ∀ c ∈ calls, Silent c) :
    verdicts calls = [] := by
  refine List.filter_eq_nil_iff.2 fun entry hentry => ?_
  obtain ⟨c, hc, hcall⟩ := List.mem_filterMap.1 hentry
  cases c with
  | note e =>
    obtain rfl := Option.some.inj hcall
    rw [h _ hc e rfl]
    exact Bool.false_ne_true
  | _ => cases hcall

/-- Saving a draft writes no verdict. -/
theorem save_silent (draft : Draft) : (Service.save draft).run.AsksOnly Silent := by
  have hcall : ∀ {c : Service.Call}, (∀ entry, c ≠ .note entry) → Silent c :=
    fun h entry heq => absurd heq (h entry)
  obtain ⟨body, hsave, hbody⟩ := Service.save_counted draft
  rw [hsave]
  refine Service.counted_asksOnly (hbody Silent ?_ ?_ ?_ ?_) ?_
  · rintro message fields (rfl | rfl) <;> exact silent_note rfl
  all_goals intros; exact hcall fun _ h => by cases h

/-- **Processing an event writes no verdict**, whatever it is answered. -/
theorem process_silent (content : Bytes) : (Event.process content).run.AsksOnly Silent := by
  refine Event.process_asks (fun entry hentry => silent_note ?_) save_silent content
  obtain ⟨level, message, fields⟩ := entry
  rcases hentry with rfl | rfl <;> rfl

/-! ## The verdict of an outcome -/

theorem gives_refused (d : Event.Defect) :
    Gives (Outcome.entry (.ok (.error (.invalidInput d.reason))))
      (if d = .kind then .skipped else .rejected) := by
  cases d <;> exact ⟨by decide, by decide⟩

/-- A failure that blames no arguments is no refusal. -/
theorem gives_failed {failure : Failure} (h : ¬ failure.Blames) :
    Gives (Outcome.entry (.ok (.error failure))) .failed := by
  cases failure with
  | validation reason => exact absurd trivial h
  | invalidInput reason => exact absurd trivial h
  | _ => exact ⟨rfl, rfl⟩

/-- Every outcome has a verdict. -/
theorem exists_gives (o : Outcome) : ∃ v, Gives o.entry v := by
  rcases o with panic | failure | id
  · exact ⟨.panicked, rfl, rfl⟩
  · by_cases h : failure.Blames
    · cases failure with
      | validation reason => exact ⟨.failed, rfl, rfl⟩
      | invalidInput reason =>
        by_cases hkind : reason = Event.unknownType
        · exact ⟨.skipped, by simp [Outcome.entry, hkind, Entry.warn, Verdict.level],
            by simp [Outcome.entry, hkind, Entry.warn, Verdict.message]⟩
        · exact ⟨.rejected, by simp [Outcome.entry, hkind, Entry.error, Verdict.level],
            by simp [Outcome.entry, hkind, Entry.error, Verdict.message]⟩
      | _ => exact h.elim
    · exact ⟨.failed, gives_failed h⟩
  · exact ⟨.processed, rfl, rfl⟩

/-- **What comes after the processing writes one verdict**, that of the outcome. -/
theorem verdicts_conclude (config : Config) (m : Message) (started : Span) (o : Outcome)
    (w : World) : verdicts (w.made m.disturbance (conclude config m.tag started o)) =
      [o.entry] := by
  obtain ⟨v, hv⟩ := exists_gives o
  have hverdict : isVerdict o.entry = true := hv.isVerdict
  have hcommit : ∀ text, isVerdict (.warn "failed to commit message" [("err", text)]) = false :=
    fun _ => rfl
  unfold World.made World.run conclude settle
  cases hack : config.autoAck with
  | true =>
    simp [verdicts, entries, Service.note, Service.observe, Service.readStopwatch, Program.call,
      Program.run_ask, World.answer, World.record, World.trace, hverdict]
  | false =>
    cases hfail : m.disturbance.commitFailure <;>
      simp [verdicts, entries, Service.note, Service.observe, Service.commit, Service.readStopwatch,
        Program.call, Program.run_ask, World.answer, World.record, World.trace, hfail, hverdict,
        hcommit]

theorem journal_of_trace {w v : World} {calls : List Service.Call}
    (h : v.trace = w.trace ++ calls) : v.journal = w.journal ++ entries calls := by
  rw [World.journal, h, List.filterMap_append]
  rfl

/-- **A handled message leaves one verdict**, that of its outcome. -/
theorem journal_handle (config : Config) (m : Message) (w : World) :
    ∃ written, (handle config m w).journal = w.journal ++ written ∧
      written.filter isVerdict = [(outcome w m).entry] := by
  obtain ⟨u, harrive, hakin, -, hhandle⟩ := handle_eq_conclude config m w
  have hu : u.trace = w.trace ++ w.made m.disturbance arrive := by
    have htrace := World.trace_run w m.disturbance arrive
    rwa [harrive] at htrace
  have htrace : (handle config m w).trace = w.trace ++ (w.made m.disturbance arrive ++
      u.made m.disturbance (Event.process m.content).run ++ (processed u m).made m.disturbance
        (conclude config m.tag w.stopwatch (outcome u m))) := by
    rw [hhandle, World.trace_run, processed, World.trace_run, hu]
    simp only [List.append_assoc]
  have harrival : verdicts (w.made m.disturbance arrive) = [] := rfl
  have hprocess : verdicts (u.made m.disturbance (Event.process m.content).run) = [] :=
    verdicts_of_silent fun c hc => World.of_mem_made (process_silent m.content) hc
  refine ⟨_, journal_of_trace htrace, ?_⟩
  calc verdicts _
      = [(outcome u m).entry] := by
        rw [verdicts_append, verdicts_append, harrival, hprocess, verdicts_conclude]
        rfl
    _ = [(outcome w m).entry] := by rw [outcome_akin hakin]

/-! ## What saving fails for -/

/-- **Saving a draft that has a user and a kind** blames no arguments when it fails. -/
theorem save_not_blames {draft : Draft} {w v : World} {failure : Failure}
    (huser : 0 < draft.userId) (hkind : draft.kind.isEmpty = false)
    (hdirectory : w.directory.FailsAsService)
    (h : World.Yields (Service.save draft).run w (.ok (.error failure)) v) :
    ¬ failure.Blames := by
  have hrecipient : Service.recipient w.directory draft = w.directory.lookUp draft.userId := by
    simp only [Service.recipient, huser, hkind, if_true]
    rfl
  cases hlookUp : w.directory.lookUp draft.userId with
  | error refusal =>
    have hrefused := Service.yields_save_refused (hrecipient.trans hlookUp)
    obtain rfl := Except.error.inj (Except.ok.inj (h.outcome.symm.trans hrefused.outcome))
    exact hdirectory.not_blames hlookUp
  | ok user =>
    have hsaved := Service.yields_save (hrecipient.trans hlookUp)
    have hreply := h.outcome.symm.trans hsaved.outcome
    rcases hanswer : (World.answer (.store (.create (Service.dating draft w).1))
        (Service.dating draft w).2).1 with panic | refusal | id
    · rw [hanswer] at hreply
      cases hreply
    · rw [hanswer] at hreply
      obtain rfl := Except.error.inj (Except.ok.inj hreply)
      exact refusal.not_blames
    · rw [hanswer] at hreply
      cases hreply

/-! ## Every message -/

/-- **When a verdict is due** for a message that is handled in a world. -/
def Verdict.Due (w : World) (m : Message) : Verdict → Prop
  | processed => ∃ id, outcome w m = .ok (.ok id)
  | skipped => ∃ e, Event.Envelope.decode m.content = some e ∧ e.eventType ≠ "follow_created"
  | rejected => ∃ defect : Event.Defect, defect ≠ .kind ∧ defect.IsFirst m.content
  | failed => ∃ draft failure, Event.HandsOn m.content draft ∧
      (w.run m.disturbance (Service.save draft).run).1 = .ok (.error failure)
  | panicked => ∃ panic, outcome w m = .error panic

/-- **What becomes of the content of a message.** -/
inductive Fate (w : World) (m : Message) : Prop where
  /-- It has a defect: the event fails for the first, and nobody is asked, whoever would answer. -/
  | refused (defect : Event.Defect) (first : defect.IsFirst m.content)
      (outcome : outcome w m = .ok (.error (.invalidInput defect.reason)))
      (asksNobody : (Event.process m.content).run.AsksOnly
        fun c : Service.Call => ∃ entry, c = .note entry)
      (calls : ownCalls w m = [])
  /-- It has none: its notification is handed on, and it comes to what saving that comes to. -/
  | handedOn (e : Event.Envelope) (event : Event.FollowCreated)
      (sound : ∀ defect : Event.Defect, ¬ defect.Applies m.content)
      (envelope : Event.Envelope.decode m.content = some e)
      (payload : Event.FollowCreated.decode e.payload = some event)
      (handsOn : Event.HandsOn m.content (Event.notice e event))
      (outcome : outcome w m =
        (w.run m.disturbance (Service.save (Event.notice e event)).run).1)

theorem outcome_of_read {w : World} {m : Message} {draft : Draft}
    (h : Event.read m.content = .ok draft) :
    outcome w m = (w.run m.disturbance (Service.save draft).run).1 :=
  (Event.yields_process h (w := { w with disturbance := m.disturbance }) ⟨rfl, .refl _⟩).outcome

theorem outcome_of_isFirst {w : World} {m : Message} {defect : Event.Defect}
    (h : defect.IsFirst m.content) :
    outcome w m = .ok (.error (.invalidInput defect.reason)) :=
  (Event.yields_process_refused (Event.read_of_isFirst h)
    { w with disturbance := m.disturbance }).outcome

theorem ownCalls_of_asksNobody {w : World} {m : Message} (h : (Event.process m.content).run.AsksOnly
    fun c : Service.Call => ∃ entry, c = .note entry) : ownCalls w m = [] := by
  refine List.filter_eq_nil_iff.2 fun c hc => ?_
  obtain ⟨entry, rfl⟩ := World.of_mem_made h hc
  exact Bool.false_ne_true

/-- **Every content has its fate.** -/
theorem fate (w : World) (m : Message) : Fate w m := by
  by_cases h : ∃ defect : Event.Defect, defect.Applies m.content
  · obtain ⟨applied, happlies⟩ := h
    obtain ⟨defect, hfirst⟩ := Event.Defect.exists_isFirst happlies
    have hnobody := Event.process_asksNobody hfirst
    exact .refused defect hfirst (outcome_of_isFirst hfirst) hnobody
      (ownCalls_of_asksNobody hnobody)
  · have hsound : ∀ defect : Event.Defect, ¬ defect.Applies m.content := not_exists.1 h
    obtain ⟨e, event, he, hevent, hread⟩ := Event.read_of_sound hsound
    exact .handedOn e event hsound he hevent (Event.handsOn_of_read hread) (outcome_of_read hread)

variable {w : World} {m : Message} {v : Verdict}

/-- **Some verdict is due.** -/
theorem exists_due (w : World) (m : Message) : ∃ v : Verdict, v.Due w m := by
  cases fate w m with
  | refused defect hfirst =>
    by_cases hkind : defect = .kind
    · subst hkind
      exact ⟨.skipped, hfirst.1⟩
    · exact ⟨.rejected, defect, hkind, hfirst⟩
  | handedOn e event hsound henvelope hpayload hands houtcome =>
    rcases hsaved : outcome w m with panic | failure | id
    · exact ⟨.panicked, panic, hsaved⟩
    · exact ⟨.failed, _, failure, hands, houtcome.symm.trans hsaved⟩
    · exact ⟨.processed, id, hsaved⟩

/-- **The verdict that is due is given**, where the directory fails as the user service does. -/
theorem Verdict.Due.gives (h : v.Due w m) (hdirectory : w.directory.FailsAsService) :
    Gives (outcome w m).entry v := by
  cases v with
  | processed =>
    obtain ⟨id, houtcome⟩ := h
    rw [houtcome]
    exact ⟨rfl, rfl⟩
  | skipped =>
    obtain ⟨e, he, htype⟩ := h
    -- Nothing but the envelope is looked at before the type.
    have hfirst : Event.Defect.kind.IsFirst m.content := by
      refine ⟨⟨e, he, htype⟩, fun earlier hlt => ?_⟩
      cases earlier with
      | envelope => exact fun hnone => Option.some_ne_none e (he.symm.trans hnone)
      | _ => exact absurd hlt (by decide)
    rw [outcome_of_isFirst hfirst]
    exact gives_refused .kind
  | rejected =>
    obtain ⟨defect, hkind, hfirst⟩ := h
    have hgives := gives_refused defect
    rwa [if_neg hkind, ← outcome_of_isFirst hfirst] at hgives
  | failed =>
    obtain ⟨draft, failure, hands, hsave⟩ := h
    cases fate w m with
    | refused defect hfirst =>
      exact absurd hands ((Event.refuses_of_read (Event.read_of_isFirst hfirst)).not_handsOn draft)
    | handedOn e event hsound henvelope hpayload hands' houtcome =>
      obtain rfl := hands.unique hands'
      have hfollowee : 0 < event.followeeId := Int.not_le.1 fun hle =>
        hsound .followee ⟨e, event, henvelope, hpayload, hle⟩
      rw [houtcome, hsave]
      exact gives_failed (save_not_blames (w := { w with disturbance := m.disturbance })
        hfollowee rfl hdirectory ⟨hsave, .refl _⟩)
  | panicked =>
    obtain ⟨panic, houtcome⟩ := h
    rw [houtcome]
    exact ⟨rfl, rfl⟩

/-- **What is known of a message that was handled**: the fate of its content, and the one verdict
in the journal. -/
structure Judged (config : Config) (w : World) (m : Message) : Prop where
  fate : Fate w m
  verdict : ∃ written entry, (handle config m w).journal = w.journal ++ written ∧
    written.filter isVerdict = [entry] ∧ ∀ v : Verdict, Gives entry v ↔ v.Due w m

/-- **Every message is judged once, and as is due**, whatever its content is, whatever the keeper
answers and whatever the directory answers, as long as it fails as the user service does. -/
theorem judged_as_due (config : Config) (w : World) (m : Message)
    (hdirectory : w.directory.FailsAsService) : Judged config w m := by
  obtain ⟨written, hjournal, hverdicts⟩ := journal_handle config m w
  refine ⟨fate w m, written, _, hjournal, hverdicts, fun v => ?_⟩
  constructor
  · intro hgives
    obtain ⟨due, hdue⟩ := exists_due w m
    obtain rfl := hgives.unique (hdue.gives hdirectory)
    exact hdue
  · exact fun hdue => hdue.gives hdirectory

/-- A world whose directory is out for one user. -/
def outage : World where
  directory := [(42, .error (.externalService "deadline has elapsed"))]

theorem judged_as_due_outage :
    outage.directory.FailsAsService ∧
      outcome outage { tag := 1, content := Event.escapedEvent.text } =
        .ok (.error (.externalService "deadline has elapsed")) ∧
      Judged ⟨"events", false, 0⟩ outage { tag := 1, content := Event.escapedEvent.text } := by
  have hdirectory : outage.directory.FailsAsService := by
    intro id failure h
    simp only [outage, Directory.lookUp, List.find?_cons, List.find?_nil] at h
    split at h <;> cases h
    · exact .inr ⟨_, rfl⟩
    · exact .inl rfl
  exact ⟨hdirectory, by decide +kernel, judged_as_due _ _ _ hdirectory⟩

end Worker

end NotificationFeed
