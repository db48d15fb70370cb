import NotificationFeed.Worker.Loop
import NotificationFeed.Proofs.Worker.Handling
/-!
# The loop — its whole record

A queue is a row of messages with gaps between them in which a poll waits in
vain. A run over a queue that closes at its end ends with it, and what it
records is one block for each message, in order. The block of a message is
taken in the world that the bare processing of the messages before it leaves,
so the loop adds nothing to what the messages do and takes nothing away.

The induction is on the queue. The world of the loop and the world of the
bare processing go side by side and stay akin.
-/

namespace NotificationFeed

namespace Worker

variable {w v : World}

/-- The turns a queue makes for the loop: a gap is a poll that waits in vain. -/
def turns (queue : List (Option Message)) : List Turn :=
  queue.map (·.elim .timeout .message)

/-- The messages of a queue, in the order of their arrival. -/
def messages (queue : List (Option Message)) : List Message := queue.filterMap id

/-- One block after another; each message is met in the world that the
messages before it left. -/
def blocks (config : Config) : World → List Message → List Service.Call
  | _, [] => []
  | w, m :: ms => block config w m ++ blocks config (processed w m) ms

/-- The record of a run over a queue: every turn begins with a poll. -/
def transcript (config : Config) : World → List (Option Message) → List Service.Call
  | _, [] => [.poll config.pollTimeout, .closeQueue]
  | w, none :: queue => .poll config.pollTimeout :: transcript config w queue
  | w, some m :: queue =>
    .poll config.pollTimeout :: (block config w m ++ transcript config (processed w m) queue)

/-- Whether a call waits for the next message. -/
def isPoll : Service.Call → Bool
  | .poll _ => true
  | _ => false

/-- The tag a call commits, if it is a commit. -/
def committed? : Service.Call → Option Nat
  | .commit tag => some tag
  | _ => none

/-! ## The blocks -/

/-- A block holds no poll. -/
theorem block_noPoll (config : Config) (w : World) (m : Message) :
    (block config w m).filter (!isPoll ·) = block config w m := by
  refine List.filter_eq_self.2 fun c hc => ?_
  simp only [block, List.append_assoc, List.mem_append] at hc
  rcases hc with hown | hreport | hcommit
  · rcases of_mem_ownCalls hown with ⟨_, rfl⟩ | ⟨_, rfl⟩ | ⟨_, _, rfl⟩ <;> rfl
  · rcases List.mem_cons.1 hreport with rfl | hreport
    · rfl
    · rw [List.mem_singleton.1 hreport]
      rfl
  · unfold commits at hcommit
    split at hcommit
    · cases hcommit
    · rw [List.mem_singleton.1 hcommit]
      rfl

/-- **A block holds the commit of its message and no other.** -/
theorem block_committed (config : Config) (w : World) (m : Message) :
    (block config w m).filterMap committed? = if config.autoAck then [] else [m.tag] := by
  have hown : (ownCalls w m).filterMap committed? = [] := by
    refine List.filterMap_eq_nil_iff.2 fun c hc => ?_
    rcases of_mem_ownCalls hc with ⟨_, rfl⟩ | ⟨_, rfl⟩ | ⟨_, _, rfl⟩ <;> rfl
  rw [block, List.filterMap_append, List.filterMap_append, hown, commits]
  split <;> rfl

theorem blocks_committed (config : Config) (w : World) (ms : List Message) :
    (blocks config w ms).filterMap committed? =
      if config.autoAck then [] else ms.map (·.tag) := by
  induction ms generalizing w with
  | nil => split <;> rfl
  | cons m ms ih =>
    rw [blocks, List.filterMap_append, block_committed, ih]
    split <;> rfl

theorem blocks_snoc (config : Config) (w : World) (ms : List Message) (m : Message) :
    blocks config w (ms ++ [m]) = blocks config w ms ++ block config (ms.foldl processed w) m := by
  induction ms generalizing w with
  | nil => simp [blocks]
  | cons x ms ih =>
    rw [List.cons_append, blocks, ih, blocks, List.append_assoc]
    rfl

/-- **Without its polls the record is the blocks and the close of the queue.** -/
theorem transcript_blocks (config : Config) (w : World) (queue : List (Option Message)) :
    (transcript config w queue).filter (!isPoll ·) =
      blocks config w (messages queue) ++ [.closeQueue] := by
  induction queue generalizing w with
  | nil => rfl
  | cons turn queue ih =>
    cases turn with
    | none => exact ih w
    | some m =>
      show (block config w m ++ transcript config (processed w m) queue).filter (!isPoll ·) =
        block config w m ++ blocks config (processed w m) (messages queue) ++ [.closeQueue]
      rw [List.filter_append, block_noPoll, ih, List.append_assoc]

/-- A poll commits nothing, so the commits of the record are those of the blocks. -/
theorem transcript_committed (config : Config) (w : World) (queue : List (Option Message)) :
    (transcript config w queue).filterMap committed? =
      if config.autoAck then [] else (messages queue).map (·.tag) := by
  have hpolls : (transcript config w queue).filterMap committed? =
      ((transcript config w queue).filter (!isPoll ·)).filterMap committed? := by
    rw [List.filterMap_filter]
    refine List.filterMap_congr fun c _ => ?_
    cases c <;> rfl
  rw [hpolls, transcript_blocks, List.filterMap_append, blocks_committed]
  exact List.append_nil _

/-! ## The run -/

theorem calls_record_poll (config : Config) (w : World) :
    (w.record (.poll config.pollTimeout)).calls = w.calls ++ [.poll config.pollTimeout] := by
  simp [World.calls, Service.Call.isCollaborator]

/-- **A run over a queue**, beside the bare processing of its messages from a
world akin: it ends as the queue closes, it records the transcript, and the
worlds are still akin. -/
theorem run_queue (config : Config) (hakin : w.Akin v) (queue : List (Option Message))
    (rest : List Turn) :
    (run config w (turns queue ++ .closed :: rest)).2 = some .queueClosed ∧
    (run config w (turns queue ++ .closed :: rest)).1.calls =
      w.calls ++ transcript config v queue ∧
    (run config w (turns queue ++ .closed :: rest)).1.Akin
      ((messages queue).foldl processed v) := by
  induction queue generalizing w v with
  | nil =>
    refine ⟨rfl, ?_, ?_⟩
    · simp [turns, run, step, transcript, World.calls, Service.Call.isCollaborator]
    · have hclosed : (run config w (turns [] ++ .closed :: rest)).1.Akin w :=
        ⟨rfl, rfl, rfl, rfl, rfl, rfl⟩
      exact hclosed.trans hakin
  | cons turn queue ih =>
    -- Whatever the turn is, the loop writes its poll down first, and that leaves it akin to `v`.
    have hpolled : (w.record (.poll config.pollTimeout)).Akin v :=
      (World.record_alike w _).akin.trans hakin
    cases turn with
    | none =>
      obtain ⟨hending, hcalls, hworld⟩ := ih hpolled
      refine ⟨hending, hcalls.trans ?_, hworld⟩
      rw [calls_record_poll, List.append_assoc]
      rfl
    | some m =>
      obtain ⟨hprocessed, hblock⟩ :=
        handle_block config m (w.record (.poll config.pollTimeout))
      obtain ⟨hending, hcalls, hworld⟩ := ih (hprocessed.trans (processed_akin hpolled m))
      refine ⟨hending, hcalls.trans ?_, hworld⟩
      rw [hblock, calls_record_poll, block_akin hpolled, transcript]
      simp only [List.append_assoc, List.cons_append, List.nil_append]

/-- **The loop over any queue that closes.** It ends, and without its polls it
has recorded one block for each message, in the order of arrival, and at the
very end the close of the queue. With the queue's own acknowledgement there
is no commit at all, and without it the commits are those of the messages,
each once. What is in the store is what the messages put there when they are
processed one after another without the loop; success is an identifier that
came back, and a message without it contributes nothing. -/
theorem run_records (config : Config) (w : World) (queue : List (Option Message))
    (rest : List Turn) :
    ∃ ended record, run config w (turns queue ++ .closed :: rest) = (ended, some .queueClosed) ∧
      ended.calls = w.calls ++ record ∧
      record.filter (!isPoll ·) = blocks config w (messages queue) ++ [.closeQueue] ∧
      record.filterMap committed? =
        (if config.autoAck then [] else (messages queue).map (·.tag)) ∧
      (∀ v m c, c ∈ ownCalls v m → (∃ id, c = .findUser id) ∨
        (∃ draft, c = .store (.create draft)) ∨
        ∃ name ok, c = .observe (.operationCounted name ok)) ∧
      ended.store = ((messages queue).foldl processed w).store ∧
      (∀ v m, (outcome v m).isSuccess = true ↔ ∃ id, outcome v m = .ok (.ok id)) ∧
      ∀ v m, (outcome v m).isSuccess = false → (processed v m).store = v.store := by
  obtain ⟨hending, hcalls, hakin⟩ := run_queue config (World.Akin.refl w) queue rest
  exact ⟨_, _, Prod.ext rfl hending, hcalls, transcript_blocks config w queue,
    transcript_committed config w queue, fun _ _ _ => of_mem_ownCalls, hakin.store,
    fun _ _ => Outcome.isSuccess_iff, fun _ _ => processed_store⟩

end Worker

end NotificationFeed
