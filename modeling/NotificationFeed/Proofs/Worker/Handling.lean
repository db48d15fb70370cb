import NotificationFeed.Worker.Message
import NotificationFeed.Proofs.Event.Outcome
/-!
# Messages — what handling one leaves

Handling wraps the processing of an event: it writes down an arrival before
and, after, one count, one duration and at most one commit. The wrapping
reads the stopwatch and writes the record, and touches nothing that a later
message is answered from. So a handled message adds one block to the record
(`block`) and leaves a world akin to the one that bare processing leaves
(`processed`), whatever the processing came to.
-/

namespace NotificationFeed

namespace Worker

variable {config : Config} {m : Message} {w v : World}

/-- What the processing of a message comes to. -/
def outcome (w : World) (m : Message) : Outcome :=
  (w.run m.disturbance (Event.process m.content).run).1

/-- The world that the processing of a message leaves. -/
def processed (w : World) (m : Message) : World :=
  (w.run m.disturbance (Event.process m.content).run).2

/-- The calls that the processing of a message makes to collaborators, in order. -/
def ownCalls (w : World) (m : Message) : List Service.Call :=
  (w.made m.disturbance (Event.process m.content).run).filter (·.isCollaborator)

/-- The commit of a message, unless its delivery was enough. -/
def commits (config : Config) (m : Message) : List Service.Call :=
  if config.autoAck then [] else [.commit m.tag]

/-- **What one message adds to the record**: its own calls, then one count of
its outcome, then one duration, then its commit. -/
def block (config : Config) (w : World) (m : Message) : List Service.Call :=
  ownCalls w m ++
    [.observe (.messageCounted config.topic consumeOperation (outcome w m).isSuccess),
      .observe (.messageTimed config.topic consumeOperation
        ((processed w m).stopwatch - w.stopwatch))] ++
    commits config m

/-! ## The wrapping -/

theorem yields_settle (config : Config) (tag : Nat) (w : World) :
    World.Yields (settle config tag) w (.ok ()) w := by
  unfold settle
  split
  · exact .pure () w
  · have hcommit : World.Yields (Service.commit tag) w
        (.ok (w.disturbance.commitFailure.elim (.ok ()) .error)) w :=
      ⟨rfl, World.record_alike w _⟩
    refine hcommit.bind ?_
    cases w.disturbance.commitFailure with
    | none => exact .pure () w
    | some text => exact .note _ w

/-- What comes after the processing changes nothing an answer depends on. -/
theorem yields_conclude (config : Config) (tag : Nat) (started : Span) (o : Outcome) (w : World) :
    World.Yields (conclude config tag started o) w (.ok ()) w := by
  refine (World.Yields.note _ w).bind ?_
  refine (World.Yields.observe _ w).bind ?_
  refine (World.Yields.readStopwatch w).bind ?_
  refine (World.Yields.observe _ w).bind ?_
  exact yields_settle config tag w

/-- **One count, one duration and one commit**, in this order, whether or not
the commit fails. -/
theorem made_conclude (config : Config) (m : Message) (started : Span) (o : Outcome) (w : World) :
    (w.made m.disturbance (conclude config m.tag started o)).filter (·.isCollaborator) =
      [.observe (.messageCounted config.topic consumeOperation o.isSuccess),
        .observe (.messageTimed config.topic consumeOperation (w.stopwatch - started))] ++
      commits config m := by
  unfold World.made World.run conclude settle commits
  cases hack : config.autoAck with
  | true => rfl
  | false =>
    -- A commit that fails leaves an entry in the journal, which is no call to a collaborator.
    cases hfail : m.disturbance.commitFailure <;>
      simp [Service.note, Service.observe, Service.commit, Service.readStopwatch, Program.call,
        Program.run_ask, World.answer, World.record, World.trace, hfail,
        Service.Call.isCollaborator]

/-- What comes before the processing only reads the stopwatch. -/
theorem run_arrive (w : World) (d : Disturbance) :
    ∃ v, w.run d arrive = (.ok w.stopwatch, v) ∧ v.Akin w ∧ v.calls = w.calls := by
  refine ⟨_, rfl, ⟨rfl, rfl, rfl, rfl, rfl, rfl⟩, ?_⟩
  simp [World.calls, World.trace, World.record, Service.Call.isCollaborator]

/-! ## The processing, in worlds akin -/

theorem outcome_akin (h : w.Akin v) (m : Message) : outcome w m = outcome v m :=
  World.run_akin h _ _

theorem processed_akin (h : w.Akin v) (m : Message) : (processed w m).Akin (processed v m) :=
  World.run_keeps_akin h _ _

theorem block_akin (h : w.Akin v) (config : Config) (m : Message) :
    block config w m = block config v m := by
  have hstop : (processed w m).stopwatch = (processed v m).stopwatch :=
    (processed_akin h m).stopwatch
  have hstart : w.stopwatch = v.stopwatch := h.stopwatch
  simp only [block, ownCalls, outcome_akin h, World.made_akin h, hstop, hstart]

theorem calls_processed (w : World) (m : Message) :
    (processed w m).calls = w.calls ++ ownCalls w m :=
  World.calls_run w m.disturbance _

/-! ## One message -/

/-- **Handling is an arrival, the processing and a conclusion**, each in the world that the one
before leaves. -/
theorem handle_eq_conclude (config : Config) (m : Message) (w : World) :
    ∃ u, w.run m.disturbance arrive = (.ok w.stopwatch, u) ∧ u.Akin w ∧ u.calls = w.calls ∧
      handle config m w = ((processed u m).run m.disturbance
        (conclude config m.tag w.stopwatch (outcome u m))).2 := by
  obtain ⟨u, harrive, hakin, hcalls⟩ := run_arrive w m.disturbance
  refine ⟨u, harrive, hakin, hcalls, ?_⟩
  simp only [handle, harrive]
  rfl

/-- **Handling leaves what bare processing leaves**, the record and the
metrics apart, and adds one block to the record. -/
theorem handle_block (config : Config) (m : Message) (w : World) :
    (handle config m w).Akin (processed w m) ∧
      (handle config m w).calls = w.calls ++ block config w m := by
  obtain ⟨u, -, hakin, hcalls, hhandle⟩ := handle_eq_conclude config m w
  have hstop : (processed u m).stopwatch = (processed w m).stopwatch :=
    (processed_akin hakin m).stopwatch
  rw [hhandle]
  constructor
  · have hconclude : ((processed u m).run m.disturbance
        (conclude config m.tag w.stopwatch (outcome u m))).2.Akin (processed u m) :=
      (yields_conclude config m.tag w.stopwatch (outcome u m) _).world.akin
    exact hconclude.trans (processed_akin hakin m)
  · rw [World.calls_run, made_conclude, calls_processed, hcalls, hstop, outcome_akin hakin, block,
      ownCalls, ownCalls, World.made_akin hakin]
    simp only [List.append_assoc]

/-- **What is told apart as success** is an identifier that came back. -/
theorem Outcome.isSuccess_iff {o : Outcome} : o.isSuccess = true ↔ ∃ id, o = .ok (.ok id) := by
  rcases o with panic | failure | id
  · simp [Outcome.isSuccess]
  · simp [Outcome.isSuccess]
  · simp [Outcome.isSuccess]

/-- **A message that is not processed with success contributes nothing.** -/
theorem processed_store (h : (outcome w m).isSuccess = false) :
    (processed w m).store = w.store := by
  obtain ⟨o, v, hyields, hmakes⟩ :=
    Event.process_makes m.content { w with disturbance := m.disturbance }
  obtain ⟨ho, hstore⟩ := World.run_of_yields hyields
  rw [outcome, ho] at h
  rw [processed, hstore]
  rcases o with panic | failure | id
  · exact hmakes
  · exact hmakes
  · cases h

/-- A message's own calls are those of its processing, and calls to collaborators. -/
theorem of_mem_ownCalls {c : Service.Call} (h : c ∈ ownCalls w m) :
    (∃ id, c = .findUser id) ∨ (∃ draft, c = .store (.create draft)) ∨
      ∃ name ok, c = .observe (.operationCounted name ok) := by
  obtain ⟨hmade, hcollaborator⟩ := List.mem_filter.1 h
  have hmay : Event.MayCall c := World.of_mem_made (Event.process_asksOnly m.content) hmade
  cases c with
  | findUser id => exact .inl ⟨id, rfl⟩
  | store request =>
    cases request with
    | create draft => exact .inr (.inl ⟨draft, rfl⟩)
    | _ => exact hmay.elim
  | observe observation =>
    cases observation with
    | operationCounted name ok => exact .inr (.inr ⟨name, ok, rfl⟩)
    | _ => exact hmay.elim
  | readClock => cases hcollaborator
  | note entry => cases hcollaborator
  | _ => exact hmay.elim

end Worker

end NotificationFeed
