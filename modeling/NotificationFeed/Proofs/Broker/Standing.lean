import NotificationFeed.Proofs.Broker.Correspondence
import NotificationFeed.Proofs.Broker.Moves
/-!
# The keeper of a subscription — where it stands

What a keeper is at, beside its past. Where it holds a channel, that channel
was opened on the connection it read last, no close of it was attempted, and
its signal is raised if and only if one was heard for it (`Held`). Where it
is between two channels, a close of the one it leaves was attempted. While it
sets a subscription up, what was accepted, what waits for its answer and what
is still to be sent are together the setup.

Each move keeps all of this (`Standing.move`), and what a move sends is
allowed after the past it is sent in (`Standing.allowed`).
-/

namespace NotificationFeed

namespace Broker

namespace Subscriber

open Past

variable {subscription : Subscription} {past : List Line} {s s' : State} {e : Event}
variable {actions : List Action} {action : Action} {channel other : Channel}

/-! ## One channel -/

/-- **The keeper holds a channel**, with the number of its next channel, the connection it read
last and the raised signals. -/
structure Held (past : List Line) (next : Nat) (on : Option ConnectionId) (raised : List Channel)
    (channel : Channel) : Prop where
  number : channel.number < next
  opened : ∃ home, on = some home ∧ Opened channel home past
  unclosed : ¬ Closed channel past
  permit : channel ∈ raised ↔ Raised channel past

namespace Held

variable {next : Nat} {on : Option ConnectionId} {raised : List Channel}

theorem hear (h : Held past next on raised channel) (he : e ≠ .signalled channel) :
    Held (.heard e :: past) next on raised channel where
  number := h.number
  opened := h.opened.imp fun _ h => ⟨h.1, h.2.cons _⟩
  unclosed := by simpa [Closed] using h.unclosed
  permit := h.permit.trans (raised_heard he).symm

/-- Its own signal is raised as it is heard, and any other signal is not its own. -/
theorem signal (h : Held past next on raised channel) (other : Channel) :
    Held (.heard (.signalled other) :: past) next on (other :: raised) channel where
  number := h.number
  opened := h.opened.imp fun _ h => ⟨h.1, h.2.cons _⟩
  unclosed := by simpa [Closed] using h.unclosed
  permit := by
    obtain ⟨_, -, hopened⟩ := h.opened
    rw [List.mem_cons, h.permit, Raised]
    exact or_congr_left ⟨fun heq => ⟨heq.symm, hopened.registered⟩, fun heq => heq.1.symm⟩

theorem send (h : Held past next on raised channel) (ha : action ≠ .closeChannel channel) :
    Held (.sent action :: past) next on raised channel where
  number := h.number
  opened := h.opened.imp fun _ h => ⟨h.1, h.2.cons _⟩
  unclosed := by simpa [Closed, ha.symm] using h.unclosed
  permit := h.permit

theorem isSome (h : Held past next on raised channel) : on.isSome = true := by
  obtain ⟨home, rfl, -⟩ := h.opened
  rfl

end Held

/-- A channel that nothing is known of: nothing was sent on it or for it. -/
structure Fresh (past : List Line) (raised : List Channel) (channel : Channel) : Prop where
  unasked : asked channel past = []
  unregistered : .sent (.register channel) ∉ past
  unclosed : ¬ Closed channel past
  silent : channel ∉ raised

namespace Fresh

variable {raised : List Channel}

theorem hear (h : Fresh past raised channel) : Fresh (.heard e :: past) raised channel where
  unasked := h.unasked
  unregistered := by simpa using h.unregistered
  unclosed := by simpa [Closed] using h.unclosed
  silent := h.silent

theorem send (h : Fresh past raised channel) (ha : action.channel? ≠ some channel) :
    Fresh (.sent action :: past) raised channel where
  unasked := by
    have hne (setup : Setup) : action ≠ .request channel setup := by
      rintro rfl
      exact ha rfl
    rw [asked_sent hne]
    exact h.unasked
  unregistered := by
    have hne : Action.register channel ≠ action := fun heq => ha (heq ▸ rfl)
    simpa [hne] using h.unregistered
  unclosed := by
    have hne : Action.closeChannel channel ≠ action := fun heq => ha (heq ▸ rfl)
    simpa [Closed, hne] using h.unclosed
  silent := h.silent

theorem send_all (h : Fresh past raised channel)
    (hactions : ∀ action ∈ actions, action.channel? ≠ some channel) :
    Fresh ((actions.map Line.sent).reverse ++ past) raised channel := by
  induction actions generalizing past with
  | nil => exact h
  | cons action actions ih =>
    rw [List.map_cons, List.reverse_cons, List.append_assoc, List.singleton_append]
    exact ih (h.send (hactions action List.mem_cons_self)) fun other hother =>
      hactions other (List.mem_cons_of_mem _ hother)

end Fresh

/-! ## Where a keeper stands -/

/-- **What holds of its channels, by what the keeper is at.** -/
def Stands (subscription : Subscription) (past : List Line) (s : State) : Phase → Prop
  | .consuming =>
    Held past s.next s.connection s.raised s.channel ∧
      asked s.channel past = subscription.setup ∧ accepted s.channel past = subscription.setup ∧
      awaited past = none
  | .beginning =>
    Held past s.next s.connection s.raised s.channel ∧ asked s.channel past = []
  | .subscribing setup rest =>
    Held past s.next s.connection s.raised s.channel ∧ awaited past = some (s.channel, setup) ∧
      accepted s.channel past ++ [setup] = asked s.channel past ∧
      asked s.channel past ++ rest = subscription.setup
  | .pausing => Held past s.next s.connection s.raised s.channel
  | .registering fresh =>
    Held past s.next s.connection s.raised fresh ∧ s.connection = some fresh.connection ∧
      asked fresh past = [] ∧ Closed s.channel past
  | .discarding fresh => s.connection = some fresh.connection ∧ Closed s.channel past
  | .opening on => s.connection = some on ∧ asking past = some on ∧ Closed s.channel past
  | .resting on => s.connection = some on ∧ Closed s.channel past
  | .leaving => s.connection.isSome = true ∧ Closed s.channel past
  | .reading | .waiting | .cancelling | .closing | .stopped => True

/-- **Where a keeper stands**, beside its past. -/
structure Standing (subscription : Subscription) (past : List Line) (s : State) : Prop where
  number : s.channel.number < s.next
  seen : s.seen ≤ s.version
  published : s.published = Past.published past
  /-- The connection it read last is the one that is published, unless another version is still
  to be seen. -/
  current : s.phase = .reading ∨ s.phase.isStopping = true ∨ s.isPending = true ∨
    s.connection = s.published
  fresh : ∀ channel : Channel, s.next ≤ channel.number → Fresh past s.raised channel
  /-- Every channel that was in use before was left. -/
  left : ∀ channel, channel ≠ s.channel → asked channel past ≠ [] → Closed channel past
  stands : Stands subscription past s s.phase

/-! ## One event -/

/-- What is heard while nothing waits for an answer is no answer. -/
theorem accepted_heard_of_none (channel : Channel) (e : Event) (h : awaited past = none) :
    accepted channel (.heard e :: past) = accepted channel past ∧
      awaited (.heard e :: past) = none := by
  cases e with
  | accepted => exact ⟨by simp [accepted, h], rfl⟩
  | rejected => exact ⟨rfl, rfl⟩
  | _ => exact ⟨rfl, h⟩

/-- **What is heard but not answered to** leaves a keeper where it stands. -/
theorem Stands.hear {phase : Phase} {raised : List Channel}
    (h : Stands subscription past s phase)
    (hheld : ∀ channel, Held past s.next s.connection s.raised channel →
      Held (.heard e :: past) s.next s.connection raised channel)
    (hanswer : ∀ awaited rest, phase = .subscribing awaited rest →
      e ≠ .accepted ∧ e ≠ .rejected) :
    Stands subscription (.heard e :: past) { s with raised := raised } phase := by
  have hclosed : Closed s.channel past → Closed s.channel (.heard e :: past) :=
    List.mem_cons_of_mem _
  cases phase with
  | consuming =>
    obtain ⟨hchannel, hasked, haccepted, hawaited⟩ := h
    obtain ⟨haccepted', hawaited'⟩ := accepted_heard_of_none s.channel e hawaited
    exact ⟨hheld _ hchannel, hasked, haccepted'.trans haccepted, hawaited'⟩
  | beginning => exact ⟨hheld _ h.1, h.2⟩
  | subscribing setup rest =>
    obtain ⟨hchannel, hawaited, haccepted, hrest⟩ := h
    obtain ⟨hne, hne'⟩ := hanswer setup rest rfl
    exact ⟨hheld _ hchannel, (awaited_heard hne hne').trans hawaited,
      (congrArg (· ++ [setup]) (accepted_heard hne)).trans haccepted, hrest⟩
  | pausing => exact hheld _ h
  | registering fresh => exact ⟨hheld _ h.1, h.2.1, h.2.2.1, hclosed h.2.2.2⟩
  | discarding fresh | resting on | leaving => exact ⟨h.1, hclosed h.2⟩
  | opening on => exact ⟨h.1, h.2.1, hclosed h.2.2⟩
  | reading | waiting | cancelling | closing | stopped => trivial

/-- **The setup goes on**: its next request is sent, or with none left it is complete. -/
theorem Stands.request {rest : List Setup}
    (hheld : Held past s.next s.connection s.raised s.channel)
    (haccepted : accepted s.channel past = asked s.channel past)
    (hawaited : rest = [] → awaited past = none)
    (hrest : asked s.channel past ++ rest = subscription.setup) :
    Stands subscription (((s.request rest).2.map Line.sent).reverse ++ past)
      (s.request rest).1 (s.request rest).1.phase := by
  cases rest with
  | nil =>
    rw [List.append_nil] at hrest
    exact ⟨hheld, hrest, haccepted.trans hrest, hawaited rfl⟩
  | cons setup rest =>
    have hasked : asked s.channel (.sent (.request s.channel setup) :: past) =
        asked s.channel past ++ [setup] := if_pos rfl
    refine ⟨hheld.send nofun, rfl, ?_, ?_⟩
    · exact (congrArg (· ++ [setup]) (accepted_sent.trans haccepted)).trans hasked.symm
    · rw [List.singleton_append.symm, ← List.append_assoc] at hrest
      exact (congrArg (· ++ rest) hasked).trans hrest

namespace Standing

/-- What holds by what the keeper is at. -/
theorem stands_at {phase : Phase} (h : Standing subscription past s) (hphase : s.phase = phase) :
    Stands subscription past s phase :=
  hphase ▸ h.stands

/-- **The answer that was waited for**: now all that was asked is accepted. -/
theorem accepted_all {setup : Setup} {rest : List Setup} (h : Standing subscription past s)
    (hphase : s.phase = .subscribing setup rest) :
    accepted s.channel (.heard .accepted :: past) = asked s.channel past := by
  obtain ⟨-, hawaited, haccepted, -⟩ := h.stands_at hphase
  rw [accepted, hawaited, ← haccepted]
  simp

/-- **Every move leads to where a keeper stands.** -/
theorem stands_move (h : Standing subscription past s)
    (hm : Moves subscription s e s' actions) :
    Stands subscription (after e actions past) s' s'.phase := by
  -- A close that was attempted was attempted, whatever is heard and sent later.
  have hclosed : Closed s.channel past → Closed s.channel (after e actions past) :=
    fun h => List.mem_append_right _ (List.mem_cons_of_mem _ h)
  cases hm with
  | idle _ hsignalled hanswer =>
    refine h.stands.hear (fun channel hheld => hheld.hear ?_) hanswer
    rintro rfl
    exact absurd hheld.number (Nat.not_lt.2 (hsignalled channel rfl))
  | published =>
    exact h.stands.hear (fun _ hheld => hheld.hear nofun) fun _ _ _ => ⟨nofun, nofun⟩
  | signalled =>
    exact h.stands.hear (fun _ hheld => hheld.signal _) fun _ _ _ => ⟨nofun, nofun⟩
  | stop | reread | missed | stranded | cancelled | closed => trivial
  | restore hphase => exact ⟨(h.stands_at hphase).1.isSome, List.mem_cons_self⟩
  | found _ hfound => exact ⟨hfound, List.mem_cons_self⟩
  | left hphase hconnection => exact ⟨hconnection, rfl, hclosed (h.stands_at hphase).2⟩
  | @opened on hphase =>
    obtain ⟨hconnection, hasking, hleft⟩ := h.stands_at hphase
    have hfresh := h.fresh ⟨s.next, on⟩ (Nat.le_refl _)
    -- No signal of it counts yet: its callback is registered only now.
    have hheld : Held (.sent (.register ⟨s.next, on⟩) :: .heard .opened :: past) (s.next + 1)
        s.connection s.raised ⟨s.next, on⟩ := {
      number := Nat.lt_succ_self _
      opened := ⟨on, hconnection, [], past, rfl, hasking⟩
      unclosed := by simpa [Closed] using hfresh.unclosed
      permit := iff_of_false hfresh.silent fun hraised =>
        hfresh.unregistered (registered_of_raised hraised) }
    exact ⟨hheld, hconnection, hfresh.unasked, hclosed hleft⟩
  | refused hphase =>
    obtain ⟨hconnection, -, hleft⟩ := h.stands_at hphase
    exact ⟨hconnection, hclosed hleft⟩
  | registered hphase =>
    obtain ⟨hheld, -, hasked, -⟩ := h.stands_at hphase
    exact ⟨hheld.hear nofun, hasked⟩
  | unregistered hphase =>
    obtain ⟨-, hconnection, -, hleft⟩ := h.stands_at hphase
    exact ⟨hconnection, hclosed hleft⟩
  | discarded hphase =>
    obtain ⟨hconnection, hleft⟩ := h.stands_at hphase
    exact ⟨hconnection, hclosed hleft⟩
  | retried hphase =>
    obtain ⟨hconnection, hleft⟩ := h.stands_at hphase
    exact ⟨hconnection, rfl, hclosed hleft⟩
  | begun hphase =>
    obtain ⟨hheld, hasked⟩ := h.stands_at hphase
    refine .request (hheld.hear nofun) ?_ nofun ?_
    · exact (unanswered hasked).2.trans hasked.symm
    · exact congrArg (· ++ _) hasked
  | accepted hphase =>
    obtain ⟨hheld, -, -, hrest⟩ := h.stands_at hphase
    exact .request (hheld.hear nofun) (h.accepted_all hphase) (fun _ => rfl) hrest
  | rejected hphase => exact (h.stands_at hphase).1.hear nofun
  | paused hphase =>
    have hheld : Held past s.next s.connection s.raised s.channel := h.stands_at hphase
    exact ⟨hheld.isSome, List.mem_cons_self⟩

/-- The connection it read last, wherever the keeper reads none and was not told to stop. -/
theorem current_of (h : Standing subscription past s) (hreading : s.phase ≠ .reading)
    (hstopping : s.phase.isStopping = false) :
    s.isPending = true ∨ s.connection = s.published := by
  rcases h.current with hphase | hphase | hcurrent
  · exact absurd hphase hreading
  · rw [hstopping] at hphase
    cases hphase
  · exact hcurrent

/-- **A connection that is not the published one does not go unnoticed.** -/
theorem current_move (h : Standing subscription past s)
    (hm : Moves subscription s e s' actions) :
    s'.phase = .reading ∨ s'.phase.isStopping = true ∨ s'.isPending = true ∨
      s'.connection = s'.published := by
  cases hm with
  | idle => exact h.current
  | signalled => exact h.current
  | published =>
    have hpending : s.version + 1 ≠ s.seen := Nat.ne_of_gt (Nat.lt_succ_of_le h.seen)
    exact .inr (.inr (.inl (bne_iff_ne.2 hpending)))
  | stop | cancelled | closed => exact .inr (.inl rfl)
  | reread | stranded => exact .inl rfl
  | found | missed => exact .inr (.inr (.inr rfl))
  | begun hphase | accepted hphase =>
    have hcurrent := h.current_of (by rw [hphase]; nofun) (by rw [hphase]; rfl)
    rw [State.request_fst]
    exact .inr (.inr hcurrent)
  | restore hphase | left hphase | opened hphase | refused hphase | registered hphase
  | unregistered hphase | discarded hphase | retried hphase | rejected hphase | paused hphase =>
    exact .inr (.inr (h.current_of (by rw [hphase]; nofun) (by rw [hphase]; rfl)))

/-- A channel that is not numbered yet stays fresh. -/
theorem fresh_move (h : Standing subscription past s)
    (hm : Moves subscription s e s' actions) (hnumber : s'.next ≤ channel.number) :
    Fresh (after e actions past) s'.raised channel := by
  have hnext : s.next ≤ channel.number := Nat.le_trans hm.next_le hnumber
  have hfresh := h.fresh channel hnext
  have hraised : Fresh (.heard e :: past) s'.raised channel := { hfresh.hear with
    silent := fun hraised => (hm.raised_le channel hraised).elim hfresh.silent fun hlt =>
      Nat.not_lt.2 hnext hlt }
  refine hraised.send_all fun action haction hchannel => ?_
  rcases hm.channel_of_mem haction hchannel with rfl | hphase | ⟨-, hlt⟩
  · exact absurd h.number (Nat.not_lt.2 hnext)
  · exact absurd (h.stands_at hphase).1.number (Nat.not_lt.2 hnext)
  · exact absurd hlt (Nat.not_lt.2 hnumber)

/-- A channel that is no longer the keeper's was left. -/
theorem left_move (h : Standing subscription past s) (hm : Moves subscription s e s' actions)
    (hother : channel ≠ s'.channel)
    (hasked : asked channel (after e actions past) ≠ []) :
    Closed channel (after e actions past) := by
  have hno (setup : Setup) : .request channel setup ∉ actions := fun haction =>
    hother (hm.channel_of_request haction)
  rw [after, asked_sent_all hno, asked_heard] at hasked
  refine List.mem_append_right _ (List.mem_cons_of_mem _ ?_)
  by_cases hchannel : channel = s.channel
  · -- It was the keeper's until now, so a new one takes its place, and that is not before it was
    -- left.
    subst hchannel
    rcases hm.channel_eq with heq | hphase
    · exact absurd heq.symm hother
    · exact (h.stands_at hphase).2.2.2
  · exact h.left channel hchannel hasked

/-- **One event leaves a keeper where it stands.** -/
theorem move (h : Standing subscription past s) (hm : Moves subscription s e s' actions) :
    Standing subscription (after e actions past) s' where
  number := by
    rcases hm.channel_eq with heq | hphase
    · rw [heq]
      exact Nat.lt_of_lt_of_le h.number hm.next_le
    · exact Nat.lt_of_lt_of_le (h.stands_at hphase).1.number hm.next_le
  seen := hm.seen_le h.seen
  published := by
    rw [after, published_sent_all]
    rcases hm.published_eq with rfl | ⟨hevent, heq⟩
    · rfl
    · rw [heq, h.published, published_heard hevent]
  current := h.current_move hm
  fresh _ := h.fresh_move hm
  left _ := h.left_move hm
  stands := h.stands_move hm

/-- The request of a setup that goes on is the next one on its channel. -/
theorem lawful_request {rest : List Setup} (h : Standing subscription past s)
    (hunclosed : ¬ Closed s.channel past)
    (haccepted : accepted s.channel (.heard e :: past) = asked s.channel past)
    (hrest : asked s.channel past ++ rest = subscription.setup)
    (hlawful : Lawful subscription past) :
    Lawful subscription (after e (s.request rest).2 past) := by
  cases rest with
  | nil => exact hlawful
  | cons setup rest =>
    have hnext : asked s.channel past ++ [setup] ++ rest = subscription.setup := by
      rw [List.append_assoc]
      exact hrest
    refine ⟨⟨⟨rest, hnext⟩, haccepted, ?_, ?_⟩, hlawful⟩
    · simpa [Closed] using hunclosed
    · intro channel hother hasked
      exact List.mem_cons_of_mem _ (h.left channel hother hasked)

/-- **What a move sends is allowed** after all that was sent and heard before. -/
theorem lawful_move (h : Standing subscription past s) (hm : Moves subscription s e s' actions)
    (hlawful : Lawful subscription past) :
    Lawful subscription (after e actions past) := by
  cases hm with
  | begun hphase =>
    obtain ⟨hheld, hasked⟩ := h.stands_at hphase
    refine h.lawful_request hheld.unclosed ((unanswered hasked).2.trans hasked.symm) ?_ hlawful
    rw [hasked, List.nil_append]
  | accepted hphase =>
    obtain ⟨hheld, -, -, hrest⟩ := h.stands_at hphase
    exact h.lawful_request hheld.unclosed (h.accepted_all hphase) hrest hlawful
  | stop | restore | found | left | opened | unregistered | retried | paused | cancelled =>
    exact ⟨trivial, hlawful⟩
  | _ => exact hlawful

end Standing

end Subscriber

end Broker

end NotificationFeed
