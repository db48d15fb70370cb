import NotificationFeed.Broker.Link
/-!
# The keeper of a connection — its moves

What the keeper does and what wakes it is written down line by line, the
newest line first (`Link.Line`). From the lines alone it is read off what is
published, which request waits for its answer, and whether a connection was
opened and its callback registered.

All that one event can make of a keeper is said once, by its moves
(`Link.step_moves`). What the lines say and where the keeper stands fit
together (`Link.Standing`), and every move keeps it so. Two more things never
end once they have begun: that a connection is given up (`Link.GivenUp`), and
that a keeper which was told to stop only listens (`Link.Silent`).
-/

namespace NotificationFeed

namespace Broker

namespace Link

/-! ## Lines -/

/-- One line of what a keeper does and what wakes it. -/
inductive Line where
  | sent (action : Action)
  | heard (event : Event)
  deriving DecidableEq, Repr

/-- The lines once an event was heard and something was done at it. -/
def after (event : Event) (actions : List Action) (past : List Line) : List Line :=
  (actions.map Line.sent).reverse ++ .heard event :: past

/-- Whether an event is the answer to a request. -/
def Action.isAnswered : Action → Event → Bool
  | .open _, .opened | .open _, .refused => true
  | .register _, .registered | .register _, .unregistered => true
  | .close _, .ended => true
  | _, _ => false

/-- **The request that waits for its answer.** -/
def asking : List Line → Option Action
  | [] => none
  | .sent (.publish _) :: past => asking past
  | .sent action :: _ => some action
  | .heard event :: past => (asking past).filter fun action => !action.isAnswered event

/-- **What is published.** -/
def published : List Line → Option ConnectionId
  | [] => none
  | .sent (.publish connection) :: _ => connection
  | _ :: past => published past

/-- **A connection was opened with these arguments**: where it was asked for, it came. -/
def Opened (arguments : Arguments) (connection : ConnectionId) (past : List Line) : Prop :=
  ∃ later before, past = later ++ .sent (.register connection) :: .heard .opened :: before ∧
    asking before = some (.open arguments)

/-- **A connection is complete**: it was opened with these arguments, and then its callback was
registered. -/
def Completed (arguments : Arguments) (connection : ConnectionId) (past : List Line) : Prop :=
  ∃ later before, past = later ++ .heard .registered :: before ∧
    asking before = some (.register connection) ∧ Opened arguments connection before

section Lines

variable {arguments : Arguments} {past : List Line} {connection : ConnectionId}
variable {action : Action} {actions : List Action} {event : Event}

theorem Opened.append (h : Opened arguments connection past) (lines : List Line) :
    Opened arguments connection (lines ++ past) := by
  obtain ⟨later, before, rfl, hasking⟩ := h
  exact ⟨lines ++ later, before, by rw [List.append_assoc], hasking⟩

theorem Completed.append (h : Completed arguments connection past) (lines : List Line) :
    Completed arguments connection (lines ++ past) := by
  obtain ⟨later, before, rfl, hasking, hopened⟩ := h
  exact ⟨lines ++ later, before, by rw [List.append_assoc], hasking, hopened⟩

/-- An event that is no answer leaves the request waiting. -/
theorem asking_heard (h : ∀ action, asking past = some action → action.isAnswered event = false) :
    asking (.heard event :: past) = asking past := by
  rw [asking]
  cases hasking : asking past with
  | none => rfl
  | some action => simp [h action hasking]

/-- And an answer does not. -/
theorem asking_answered (h : asking past = some action) (hanswer : action.isAnswered event = true) :
    asking (.heard event :: past) = none := by
  simp [asking, h, hanswer]

/-- What is only heard publishes nothing. -/
theorem published_append {since : List Line} (h : ∀ line ∈ since, ∃ e, line = .heard e) :
    published (since ++ past) = published past := by
  induction since with
  | nil => rfl
  | cons line since ih =>
    obtain ⟨e, rfl⟩ := h line List.mem_cons_self
    exact ih fun line hline => h line (List.mem_cons_of_mem _ hline)

theorem mem_after : .sent action ∈ after event actions past ↔
    action ∈ actions ∨ .sent action ∈ past := by
  simp [after]

end Lines

/-! ## Moves -/

/-- The request whose answer the keeper waits for. -/
def State.asks (arguments : Arguments) (s : State) : Option Action :=
  match s.phase with
  | .connected | .resting | .closed => none
  | .dropping | .closing => some (.close s.current)
  | .opening => some (.open arguments)
  | .registering fresh => some (.register fresh)
  | .discarding fresh => some (.close fresh)

/-- A keeper that asks for a callback to be registered is registering. -/
theorem State.asks_register {arguments : Arguments} {s : State} {fresh : ConnectionId} :
    s.asks arguments = some (.register fresh) ↔ s.phase = .registering fresh := by
  unfold State.asks
  cases hphase : s.phase <;> simp

/-- **The moves of a keeper**: from a state, at an event, to a state, with what it does. -/
inductive Moves (arguments : Arguments) (s : State) : Event → State → List Action → Prop
  /-- Nothing waits for the event. -/
  | idle {e : Event} :
      (∀ action, s.asks arguments = some action → action.isAnswered e = false) →
      Moves arguments s e s []
  | stop :
      s.phase.isStopping = false →
      Moves arguments s .stop { s with phase := .closing, published := none }
        [.publish none, .close s.current]
  | failed :
      s.phase = .connected →
      Moves arguments s .failed { s with phase := .dropping, published := none }
        [.publish none, .close s.current]
  | reopen {e : Event} :
      (s.phase = .dropping ∧ e = .ended) ∨ (s.phase = .resting ∧ e = .rested) →
      Moves arguments s e { s with phase := .opening } [.open arguments]
  | opened :
      s.phase = .opening →
      Moves arguments s .opened { s with phase := .registering s.next, next := s.next + 1 }
        [.register s.next]
  /-- An attempt has failed, and there is nothing to close, or that is done. -/
  | rest {e : Event} :
      (s.phase = .opening ∧ e = .refused) ∨ (∃ fresh, s.phase = .discarding fresh ∧ e = .ended) →
      Moves arguments s e { s with phase := .resting } []
  | registered {fresh : ConnectionId} :
      s.phase = .registering fresh →
      Moves arguments s .registered
        { s with phase := .connected, current := fresh, published := some fresh }
        [.publish (some fresh)]
  | unregistered {fresh : ConnectionId} :
      s.phase = .registering fresh →
      Moves arguments s .unregistered { s with phase := .discarding fresh } [.close fresh]
  | closed :
      s.phase = .closing → Moves arguments s .ended { s with phase := .closed } []

/-- **Every event is a move.** -/
theorem step_moves (arguments : Arguments) (s : State) (e : Event) :
    Moves arguments s e (step arguments s e).1 (step arguments s e).2 := by
  obtain ⟨phase, current, published, next⟩ := s
  cases e with
  | failed =>
    cases phase with
    | connected => exact .failed rfl
    | _ => exact .idle fun action h => by cases h <;> rfl
  | opened =>
    cases phase with
    | opening => exact .opened rfl
    | _ => exact .idle fun action h => by cases h <;> rfl
  | refused =>
    cases phase with
    | opening => exact .rest (.inl ⟨rfl, rfl⟩)
    | _ => exact .idle fun action h => by cases h <;> rfl
  | registered =>
    cases phase with
    | registering fresh => exact .registered rfl
    | _ => exact .idle fun action h => by cases h <;> rfl
  | unregistered =>
    cases phase with
    | registering fresh => exact .unregistered rfl
    | _ => exact .idle fun action h => by cases h <;> rfl
  | ended =>
    cases phase with
    | dropping => exact .reopen (.inl ⟨rfl, rfl⟩)
    | discarding fresh => exact .rest (.inr ⟨fresh, rfl, rfl⟩)
    | closing => exact .closed rfl
    | _ => exact .idle fun action h => by cases h <;> rfl
  | rested =>
    cases phase with
    | resting => exact .reopen (.inr ⟨rfl, rfl⟩)
    | _ => exact .idle fun action h => by cases h <;> rfl
  | stop =>
    cases phase with
    | closing | closed => exact .idle fun action h => by cases h <;> rfl
    | _ => exact .stop rfl

/-! ## Standing -/

variable {arguments : Arguments} {past : List Line} {s s' : State} {e : Event}
variable {actions : List Action}

/-- **Where a keeper stands is what its lines say.** It shows its connection while it is connected
and nothing otherwise; what it shows is complete, and what it registers was opened. -/
structure Standing (arguments : Arguments) (past : List Line) (s : State) : Prop where
  asking : asking past = s.asks arguments
  published : published past = s.published
  shown : s.published = if s.phase = .connected then some s.current else none
  complete : s.phase = .connected → Completed arguments s.current past
  fresh : ∀ connection, s.phase = .registering connection → Opened arguments connection past

/-- A keeper that is not connected shows nothing. -/
theorem Standing.published_none (h : Standing arguments past s) (hphase : s.phase ≠ .connected) :
    s.published = none := by
  rw [h.shown, if_neg hphase]

/-- **What is shown** is the connection of a keeper that is connected. -/
theorem Standing.published_iff (h : Standing arguments past s) {connection : ConnectionId} :
    Link.published past = some connection ↔ s.phase = .connected ∧ s.current = connection := by
  rw [h.published, h.shown]
  by_cases hphase : s.phase = .connected
  · simp [hphase]
  · simp [hphase]

/-- **Every move keeps it so.** -/
theorem Standing.move (h : Standing arguments past s) (hmove : Moves arguments s e s' actions) :
    Standing arguments (after e actions past) s' := by
  cases hmove with
  | idle hidle =>
    refine ⟨?_, h.published, h.shown, fun hphase => (h.complete hphase).append [_],
      fun fresh hphase => (h.fresh fresh hphase).append [_]⟩
    exact (asking_heard (by rw [h.asking]; exact hidle)).trans h.asking
  | stop hphase => exact ⟨rfl, rfl, rfl, nofun, nofun⟩
  | failed hphase => exact ⟨rfl, rfl, rfl, nofun, nofun⟩
  | reopen hphase =>
    have hnone : s.published = none := by
      refine h.published_none ?_
      rcases hphase with ⟨hphase, -⟩ | ⟨hphase, -⟩ <;> rw [hphase] <;> nofun
    exact ⟨rfl, h.published, hnone, nofun, nofun⟩
  | opened hphase =>
    have hnone : s.published = none := h.published_none (by rw [hphase]; nofun)
    have hasking : Link.asking past = some (.open arguments) := by
      rw [h.asking, State.asks, hphase]
    refine ⟨rfl, h.published, hnone, nofun, ?_⟩
    rintro _ ⟨⟩
    exact ⟨[], past, rfl, hasking⟩
  | rest hphase =>
    have hnone : s.published = none := by
      refine h.published_none ?_
      rcases hphase with ⟨hphase, -⟩ | ⟨fresh, hphase, -⟩ <;> rw [hphase] <;> nofun
    refine ⟨?_, h.published, hnone, nofun, nofun⟩
    rcases hphase with ⟨hphase, rfl⟩ | ⟨fresh, hphase, rfl⟩
    · exact asking_answered (h.asking.trans (by rw [State.asks, hphase])) rfl
    · exact asking_answered (h.asking.trans (by rw [State.asks, hphase])) rfl
  | @registered fresh hphase =>
    have hasking : Link.asking past = some (.register fresh) := by
      rw [h.asking, State.asks, hphase]
    refine ⟨asking_answered hasking rfl, rfl, rfl, fun _ => ?_, nofun⟩
    exact ⟨[_], past, rfl, hasking, h.fresh fresh hphase⟩
  | unregistered hphase =>
    have hnone : s.published = none := h.published_none (by rw [hphase]; nofun)
    exact ⟨rfl, h.published, hnone, nofun, nofun⟩
  | closed hphase =>
    have hnone : s.published = none := h.published_none (by rw [hphase]; nofun)
    refine ⟨?_, h.published, hnone, nofun, nofun⟩
    exact asking_answered (h.asking.trans (by rw [State.asks, hphase])) rfl

/-! ## Numbers

A new connection is known by a number that no other has had. So one whose
callback could not be registered is not shown later either, by a keeper that
registers another one under its name.
-/

/-- **Only what was numbered is shown**, and what is being registered was not. -/
structure Numbered (past : List Line) (s : State) : Prop where
  shown : ∀ connection, .sent (.publish (some connection)) ∈ past → connection < s.next
  fresh : ∀ connection, s.phase = .registering connection →
    connection < s.next ∧ .sent (.publish (some connection)) ∉ past

/-- Every move keeps it so. -/
theorem Numbered.move (h : Numbered past s) (hmove : Moves arguments s e s' actions) :
    Numbered (after e actions past) s' := by
  cases hmove with
  | idle =>
    refine ⟨fun c hc => h.shown c (by simpa [mem_after] using hc), fun c hphase => ?_⟩
    obtain ⟨hlt, hnot⟩ := h.fresh c hphase
    exact ⟨hlt, by simpa [mem_after] using hnot⟩
  | opened hphase =>
    have hshown (c : ConnectionId)
        (hc : .sent (.publish (some c)) ∈ after .opened [.register s.next] past) : c < s.next :=
      h.shown c (by simpa [mem_after] using hc)
    refine ⟨fun c hc => Nat.lt_succ_of_lt (hshown c hc), ?_⟩
    rintro _ ⟨⟩
    exact ⟨Nat.lt_succ_self _, fun hc => absurd (hshown s.next hc) (Nat.lt_irrefl _)⟩
  | @registered fresh hphase =>
    refine ⟨fun c hc => ?_, nofun⟩
    have hc : c = fresh ∨ .sent (.publish (some c)) ∈ past := by simpa [mem_after] using hc
    rcases hc with rfl | hc
    · exact (h.fresh c hphase).1
    · exact h.shown c hc
  | stop | failed | reopen | rest | unregistered | closed =>
    exact ⟨fun c hc => h.shown c (by simpa [mem_after] using hc), nofun⟩

/-- **A connection that was never shown and is given up.** -/
structure GivenUp (connection : ConnectionId) (past : List Line) (s : State) : Prop where
  numbered : connection < s.next
  unregistered : s.phase ≠ .registering connection
  unshown : .sent (.publish (some connection)) ∉ past

/-- **It is never taken up again.** -/
theorem GivenUp.move {connection : ConnectionId} (h : GivenUp connection past s)
    (hmove : Moves arguments s e s' actions) : GivenUp connection (after e actions past) s' := by
  have hunshown := h.unshown
  cases hmove with
  | idle => exact ⟨h.numbered, h.unregistered, by simpa [mem_after] using hunshown⟩
  | opened hphase =>
    refine ⟨Nat.lt_succ_of_lt h.numbered, ?_, by simpa [mem_after] using hunshown⟩
    rintro ⟨⟩
    exact absurd h.numbered (Nat.lt_irrefl _)
  | @registered fresh hphase =>
    have hne : connection ≠ fresh := by
      rintro rfl
      exact h.unregistered hphase
    exact ⟨h.numbered, nofun, by simpa [mem_after, hne] using hunshown⟩
  | stop | failed | reopen | rest | unregistered | closed =>
    exact ⟨h.numbered, nofun, by simpa [mem_after] using hunshown⟩

/-! ## Stopping -/

/-- **A keeper that was told to stop** does nothing more, and stays so. -/
theorem Moves.of_stopping (h : Moves arguments s e s' actions)
    (hstopping : s.phase.isStopping = true) : actions = [] ∧ s'.phase.isStopping = true := by
  cases h with
  | idle => exact ⟨rfl, hstopping⟩
  | stop hphase => exact absurd (hstopping.symm.trans hphase) nofun
  | closed hphase => exact ⟨rfl, rfl⟩
  | failed hphase | opened hphase | registered hphase | unregistered hphase =>
    rw [hphase] at hstopping
    cases hstopping
  | reopen hphase =>
    rcases hphase with ⟨hphase, -⟩ | ⟨hphase, -⟩ <;> rw [hphase] at hstopping <;> cases hstopping
  | rest hphase =>
    rcases hphase with ⟨hphase, -⟩ | ⟨fresh, hphase, -⟩ <;> rw [hphase] at hstopping <;>
      cases hstopping

/-- **A keeper that was told to stop and has only heard since then.** -/
structure Silent (before past : List Line) (s : State) : Prop where
  stopping : s.phase.isStopping = true
  since : ∃ since, past = since ++ before ∧ ∀ line ∈ since, ∃ e, line = .heard e

/-- It only hears the next event, too. -/
theorem Silent.move {before : List Line} (h : Silent before past s)
    (hmove : Moves arguments s e s' actions) : Silent before (after e actions past) s' := by
  obtain ⟨rfl, hstopping⟩ := hmove.of_stopping h.stopping
  obtain ⟨since, rfl, hsince⟩ := h.since
  refine ⟨hstopping, .heard e :: since, rfl, fun line hline => ?_⟩
  rcases List.mem_cons.1 hline with rfl | hline
  · exact ⟨e, rfl⟩
  · exact hsince line hline

/-- Nothing but the signal makes it stop. -/
theorem Moves.not_stopping (h : Moves arguments s e s' actions) (he : e ≠ .stop)
    (hgoing : s.phase.isStopping = false) : s'.phase.isStopping = false := by
  cases h with
  | idle => exact hgoing
  | stop => exact absurd rfl he
  | failed | reopen | opened | rest | registered | unregistered => rfl
  | closed hphase =>
    rw [hphase] at hgoing
    cases hgoing

end Link

end Broker

end NotificationFeed
