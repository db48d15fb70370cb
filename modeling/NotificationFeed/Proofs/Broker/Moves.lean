import NotificationFeed.Broker.Subscriber
/-!
# The keeper of a subscription — its moves

All that one event can make of a keeper, said once. A move names what the
keeper was at, what it noticed there and what it sends, and every event is a
move (`step_moves`); an event that nothing waits for is the idle one. What is
kept from state to state is then shown by the moves and never by the
definition of a step, and a step sends at most one thing.
-/

namespace NotificationFeed

namespace Broker

namespace Subscriber

variable {subscription : Subscription} {s s' : State} {e : Event} {actions : List Action}

/-! ## The setup, one request further -/

namespace State

/-- What goes on with a setup changes what the keeper is at, and nothing else. -/
theorem request_fst (s : State) (rest : List Setup) :
    (s.request rest).1 = { s with phase := (s.request rest).1.phase } := by
  cases rest <;> rfl

/-- What goes on with a setup asks for it on its own channel. -/
theorem eq_of_mem_request {rest : List Setup} {action : Action} (h : action ∈ (s.request rest).2) :
    ∃ setup, action = .request s.channel setup := by
  cases rest with
  | nil => cases h
  | cons setup rest => exact ⟨setup, List.mem_singleton.1 h⟩

end State

/-! ## The moves -/

/-- **The moves of a keeper**: from a state, at an event, to a state, with what it sends. -/
inductive Moves (subscription : Subscription) (s : State) :
    Event → State → List Action → Prop
  /-- Nothing waits for the event. -/
  | idle {e : Event} :
      (∀ connection, e ≠ .published connection) →
      (∀ channel, e = .signalled channel → s.next ≤ channel.number) →
      (∀ awaited rest, s.phase = .subscribing awaited rest → e ≠ .accepted ∧ e ≠ .rejected) →
      Moves subscription s e s []
  | published (connection : Option ConnectionId) :
      Moves subscription s (.published connection)
        { s with published := connection, version := s.version + 1 } []
  /-- The signal of a channel that was opened is raised. -/
  | signalled {channel : Channel} :
      channel.number < s.next →
      Moves subscription s (.signalled channel) { s with raised := channel :: s.raised } []
  | stop :
      s.phase.isStopping = false →
      Moves subscription s .stop { s with phase := .cancelling }
        [.cancel s.channel subscription.consumerTag]
  /-- A version that was not seen is noticed where the keeper waits, or once it has left. -/
  | reread {e : Event} :
      (∀ connection, e ≠ .published connection) →
      s.isPending = true → s.phase.isWatching = true ∨ s.phase = .leaving →
      Moves subscription s e { s with phase := .reading, seen := s.version } []
  /-- The signal of its own channel is noticed. -/
  | restore :
      s.phase = .consuming → s.isPending = false → s.channel ∈ s.raised →
      Moves subscription s .restore
        { s with phase := .leaving, raised := s.raised.filter (· != s.channel) }
        [.closeChannel s.channel]
  | found :
      s.phase = .reading → s.published.isSome = true →
      Moves subscription s .resume
        { s with phase := .leaving, connection := s.published, seen := s.version }
        [.closeChannel s.channel]
  | missed :
      s.phase = .reading → s.published.isSome = false →
      Moves subscription s .resume
        { s with phase := .waiting, connection := s.published, seen := s.version } []
  | left {on : ConnectionId} :
      s.phase = .leaving → s.connection = some on → s.isPending = false →
      Moves subscription s .ended { s with phase := .opening on } [.openChannel on]
  | stranded :
      s.phase = .leaving → s.connection = none →
      Moves subscription s .ended { s with phase := .reading } []
  | opened {on : ConnectionId} :
      s.phase = .opening on → s.isPending = false →
      Moves subscription s .opened
        { s with phase := .registering ⟨s.next, on⟩, next := s.next + 1 }
        [.register ⟨s.next, on⟩]
  | refused {on : ConnectionId} :
      s.phase = .opening on → Moves subscription s .refused { s with phase := .resting on } []
  | registered {fresh : Channel} :
      s.phase = .registering fresh →
      Moves subscription s .registered { s with phase := .beginning, channel := fresh } []
  | unregistered {fresh : Channel} :
      s.phase = .registering fresh →
      Moves subscription s .unregistered { s with phase := .discarding fresh }
        [.closeChannel fresh]
  | discarded {fresh : Channel} :
      s.phase = .discarding fresh →
      Moves subscription s .ended { s with phase := .resting fresh.connection } []
  | retried {on : ConnectionId} :
      s.phase = .resting on →
      Moves subscription s .rested { s with phase := .opening on } [.openChannel on]
  /-- The first request of the setup. -/
  | begun :
      s.phase = .beginning →
      Moves subscription s .resume (s.request subscription.setup).1
        (s.request subscription.setup).2
  /-- A request of the setup was accepted, and the next one is sent, if there is one. -/
  | accepted {awaited : Setup} {rest : List Setup} :
      s.phase = .subscribing awaited rest →
      Moves subscription s .accepted (s.request rest).1 (s.request rest).2
  | rejected {awaited : Setup} {rest : List Setup} :
      s.phase = .subscribing awaited rest →
      Moves subscription s .rejected { s with phase := .pausing } []
  | paused :
      s.phase = .pausing →
      Moves subscription s .rested { s with phase := .leaving } [.closeChannel s.channel]
  | cancelled :
      s.phase = .cancelling →
      Moves subscription s .ended { s with phase := .closing } [.closeChannel s.channel]
  | closed :
      s.phase = .closing → Moves subscription s .ended { s with phase := .stopped } []

/-- **A keeper that is not interrupted moves**, whatever it is woken by. -/
theorem proceed_moves (hpublished : ∀ connection, e ≠ .published connection)
    (hsignalled : ∀ channel, e ≠ .signalled channel)
    (hcalm : (s.phase.isWatching && s.isPending) = false) :
    Moves subscription s e (proceed subscription s e).1 (proceed subscription s e).2 := by
  -- Where it watches for versions it has seen them all, or it would have been interrupted.
  have hseen : s.phase.isWatching = true → s.isPending = false := by
    intro hwatching
    rwa [hwatching, Bool.true_and] at hcalm
  unfold proceed
  split
  case h_1 hphase =>
    split
    case isTrue hraised => exact .restore hphase (hseen (by rw [hphase]; rfl)) hraised
    case isFalse =>
      exact .idle (fun _ => nofun) (fun _ => nofun) fun _ _ h => nomatch hphase.symm.trans h
  case h_2 hphase =>
    dsimp only
    split
    case isTrue hfound => exact .found hphase hfound
    case isFalse hmissed => exact .missed hphase (by simpa using hmissed)
  case h_3 hphase =>
    split
    case h_1 on hconnection =>
      unfold State.openOn
      split
      case isTrue hpending => exact .reread hpublished hpending (.inr hphase)
      case isFalse hpending => exact .left hphase hconnection (by simpa using hpending)
    case h_2 hconnection => exact .stranded hphase hconnection
  case h_4 hphase => exact .opened hphase (hseen (by rw [hphase]; rfl))
  case h_5 hphase => exact .refused hphase
  case h_6 hphase => exact .registered hphase
  case h_7 hphase => exact .unregistered hphase
  case h_8 hphase => exact .discarded hphase
  case h_9 hphase => exact .retried hphase
  case h_10 hphase => exact .begun hphase
  case h_11 hphase => exact .accepted hphase
  case h_12 hphase => exact .rejected hphase
  case h_13 hphase => exact .paused hphase
  case h_14 hphase => exact .cancelled hphase
  case h_15 hphase => exact .closed hphase
  case h_16 =>
    rename_i haccepted hrejected _ _ _
    exact .idle hpublished (fun channel h => absurd h (hsignalled channel)) fun awaited rest h =>
      ⟨haccepted awaited rest h, hrejected awaited rest h⟩

/-- **Every event is a move.** -/
theorem step_moves (subscription : Subscription) (s : State) (e : Event) :
    Moves subscription s e (step subscription s e).1 (step subscription s e).2 := by
  -- Every event but the first three below wakes the keeper where it waits.
  have calm (e : Event) (hpublished : ∀ connection, e ≠ .published connection)
      (hsignalled : ∀ channel, e ≠ .signalled channel) :
      let woken := if s.phase.isWatching && s.isPending then s.reread else proceed subscription s e
      Moves subscription s e woken.1 woken.2 := by
    dsimp only
    split
    case isTrue hnoticed =>
      rw [Bool.and_eq_true] at hnoticed
      exact .reread hpublished hnoticed.2 (.inl hnoticed.1)
    case isFalse hcalm => exact proceed_moves hpublished hsignalled (by simpa using hcalm)
  cases e with
  | published connection => exact .published connection
  | signalled channel =>
    unfold step
    dsimp only
    split
    case isTrue hknown => exact .signalled hknown
    case isFalse hunknown =>
      refine .idle nofun ?_ fun _ _ _ => ⟨nofun, nofun⟩
      rintro _ ⟨⟩
      exact Nat.le_of_not_lt hunknown
  | stop =>
    unfold step
    dsimp only
    split
    case isTrue => exact .idle nofun nofun fun _ _ _ => ⟨nofun, nofun⟩
    case isFalse hrunning => exact .stop (by simpa using hrunning)
  | _ => exact calm _ nofun nofun

/-! ## What a move does -/

/-- The channel an action is about. -/
def Action.channel? : Action → Option Channel
  | openChannel _ => none
  | register channel | request channel _ | cancel channel _ | closeChannel channel => some channel

namespace Moves

/-- **No number is given twice.** -/
theorem next_le (h : Moves subscription s e s' actions) : s.next ≤ s'.next := by
  cases h with
  | opened => exact Nat.le_succ _
  | begun | accepted => exact Nat.le_of_eq (by rw [State.request_fst])
  | _ => exact Nat.le_refl _

/-- A keeper changes its channel for a new one whose callback was registered, and for no other. -/
theorem channel_eq (h : Moves subscription s e s' actions) :
    s'.channel = s.channel ∨ s.phase = .registering s'.channel := by
  cases h with
  | registered hphase => exact .inr hphase
  | begun | accepted => exact .inl (by rw [State.request_fst])
  | _ => exact .inl rfl

/-- A signal is raised for a channel that was numbered, and for no other. -/
theorem raised_le (h : Moves subscription s e s' actions) :
    ∀ channel ∈ s'.raised, channel ∈ s.raised ∨ channel.number < s.next := by
  intro channel hraised
  cases h with
  | signalled hknown =>
    rcases List.mem_cons.1 hraised with rfl | hraised
    · exact .inr hknown
    · exact .inl hraised
  | restore => exact .inl (List.mem_filter.1 hraised).1
  | begun | accepted =>
    rw [State.request_fst] at hraised
    exact .inl hraised
  | _ => exact .inl hraised

/-- **What is sent is about its own channel**, about a new one that is not complete, or about one
that is numbered with this move. -/
theorem channel_of_mem (h : Moves subscription s e s' actions) {action : Action}
    {channel : Channel} (haction : action ∈ actions) (hchannel : action.channel? = some channel) :
    channel = s.channel ∨ s.phase = .registering channel ∨
      s.next ≤ channel.number ∧ channel.number < s'.next := by
  cases h with
  | stop | restore | found | paused | cancelled =>
    obtain rfl := List.mem_singleton.1 haction
    exact .inl (Option.some.inj hchannel).symm
  | left | retried =>
    obtain rfl := List.mem_singleton.1 haction
    cases hchannel
  | opened =>
    obtain rfl := List.mem_singleton.1 haction
    obtain rfl := Option.some.inj hchannel
    exact .inr (.inr ⟨Nat.le_refl _, Nat.lt_succ_self _⟩)
  | unregistered hphase =>
    obtain rfl := List.mem_singleton.1 haction
    obtain rfl := Option.some.inj hchannel
    exact .inr (.inl hphase)
  | begun | accepted =>
    obtain ⟨setup, rfl⟩ := State.eq_of_mem_request haction
    exact .inl (Option.some.inj hchannel).symm
  | _ => cases haction

/-- **A setup is asked for on the channel the keeper goes on with**, and on no other. -/
theorem channel_of_request (h : Moves subscription s e s' actions) {channel : Channel}
    {setup : Setup} (haction : .request channel setup ∈ actions) : channel = s'.channel := by
  cases h with
  | begun | accepted =>
    obtain ⟨_, heq⟩ := State.eq_of_mem_request haction
    cases heq
    rw [State.request_fst]
  | stop | restore | found | left | opened | unregistered | retried | paused | cancelled =>
    cases List.mem_singleton.1 haction
  | _ => cases haction

/-- **What is published changes with a publication** and with nothing else. -/
theorem published_eq (h : Moves subscription s e s' actions) :
    e = .published s'.published ∨
      (∀ connection, e ≠ .published connection) ∧ s'.published = s.published := by
  cases h with
  | published => exact .inl rfl
  | idle hpublished | reread hpublished => exact .inr ⟨hpublished, rfl⟩
  | begun | accepted => exact .inr ⟨nofun, by rw [State.request_fst]⟩
  | _ => exact .inr ⟨nofun, rfl⟩

/-- The version a keeper has seen was published. -/
theorem seen_le (h : Moves subscription s e s' actions) (hseen : s.seen ≤ s.version) :
    s'.seen ≤ s'.version := by
  cases h with
  | published => exact Nat.le_succ_of_le hseen
  | reread | found | missed => exact Nat.le_refl _
  | begun | accepted =>
    rw [State.request_fst]
    exact hseen
  | _ => exact hseen

/-- **A keeper that was told to stop** closes its channel when its cancellation has come to an end,
and that is all it sends. -/
theorem of_stopping (h : Moves subscription s e s' actions)
    (hstopping : s.phase.isStopping = true) :
    s'.channel = s.channel ∧
      (s'.phase = s.phase ∧ actions = [] ∨
        s.phase = .cancelling ∧ e = .ended ∧ s'.phase = .closing ∧
          actions = [.closeChannel s.channel] ∨
        s.phase = .closing ∧ s'.phase = .stopped ∧ actions = []) := by
  cases h with
  | idle | published | signalled => exact ⟨rfl, .inl ⟨rfl, rfl⟩⟩
  | cancelled hphase => exact ⟨rfl, .inr (.inl ⟨hphase, rfl, rfl, rfl⟩)⟩
  | closed hphase => exact ⟨rfl, .inr (.inr ⟨hphase, rfl, rfl⟩)⟩
  | stop hrunning => cases hstopping.symm.trans hrunning
  | reread _ _ hwatching =>
    cases hphase : s.phase <;> simp [hphase, Phase.isStopping, Phase.isWatching] at *
  | restore h | found h | missed h | left h | stranded h | opened h | refused h | registered h
  | unregistered h | discarded h | retried h | begun h | accepted h | rejected h | paused h =>
    rw [h] at hstopping
    cases hstopping

end Moves

end Subscriber

end Broker

end NotificationFeed
