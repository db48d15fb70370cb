import NotificationFeed.Proofs.Broker.Course
/-!
# When a keeper begins anew

A keeper that consumes has a channel that was opened on the connection it
read last, with the whole setup accepted on it, and that connection is the
published one unless another is about to be noticed. It begins anew for two
reasons only: another connection, or a signal for the very channel it is on.
Such a signal is never lost and never another channel's, because on its
channel a keeper has the signal raised if and only if one was heard for that
channel (`Held.permit`).
-/

namespace NotificationFeed

namespace Broker

open Past

namespace Subscriber

variable {subscription : Subscription} {past : List Line} {s s' : State} {e : Event}
variable {actions : List Action}

/-- Whether a keeper is on its channel: setting the subscription up there, or consuming. -/
def Phase.isOn : Phase → Bool
  | consuming | beginning | subscribing .. | pausing => true
  | reading | waiting | leaving | opening _ | registering _ | discarding _ | resting _
  | cancelling | closing | stopped => false

/-- **On its channel a keeper holds it.** -/
theorem Standing.held (h : Standing subscription past s) (hon : s.phase.isOn = true) :
    Held past s.next s.connection s.raised s.channel := by
  cases hphase : s.phase with
  | consuming | beginning | subscribing => exact (h.stands_at hphase).1
  | pausing => exact h.stands_at hphase
  | _ =>
    rw [hphase] at hon
    cases hon

namespace Moves

/-- **A raised signal stays raised** for as long as the keeper is on its channel, and it leaves
that only for another connection, for another channel or for good. -/
theorem raised_kept (h : Moves subscription s e s' actions) (hon : s.phase.isOn = true)
    (hraised : s.channel ∈ s.raised) :
    s'.channel = s.channel ∧
      (s'.phase.isOn = true ∧ s.channel ∈ s'.raised ∨ s'.phase = .reading ∨ s'.phase = .leaving ∨
        s'.phase = .cancelling) := by
  cases h with
  | idle | published => exact ⟨rfl, .inl ⟨hon, hraised⟩⟩
  | signalled => exact ⟨rfl, .inl ⟨hon, List.mem_cons_of_mem _ hraised⟩⟩
  | stop => exact ⟨rfl, .inr (.inr (.inr rfl))⟩
  | reread => exact ⟨rfl, .inr (.inl rfl)⟩
  | restore | paused => exact ⟨rfl, .inr (.inr (.inl rfl))⟩
  | begun => exact ⟨rfl, .inl ⟨rfl, hraised⟩⟩
  | @accepted _ rest =>
    cases rest with
    | nil => exact ⟨rfl, .inl ⟨rfl, hraised⟩⟩
    | cons setup rest => exact ⟨rfl, .inl ⟨rfl, hraised⟩⟩
  | rejected => exact ⟨rfl, .inl ⟨rfl, hraised⟩⟩
  | found h | missed h | left h | stranded h | opened h | refused h | registered h
  | unregistered h | discarded h | retried h | cancelled h | closed h =>
    rw [h] at hon
    cases hon

/-- **Consuming, a keeper begins anew** for another connection or on the signal of its own channel,
and for nothing else. -/
theorem of_consuming (h : Moves subscription s e s' actions) (hphase : s.phase = .consuming) :
    s'.phase = .consuming ∨ s'.phase = .reading ∧ s.isPending = true ∨
      s'.phase = .leaving ∧ e = .restore ∧ s.channel ∈ s.raised ∨
      s'.phase = .cancelling ∧ e = .stop := by
  cases h with
  | idle | published | signalled => exact .inl hphase
  | reread _ hpending => exact .inr (.inl ⟨rfl, hpending⟩)
  | restore _ _ hraised => exact .inr (.inr (.inl ⟨rfl, rfl, hraised⟩))
  | stop => exact .inr (.inr (.inr ⟨rfl, rfl⟩))
  | found h | missed h | left h | stranded h | opened h | refused h | registered h
  | unregistered h | discarded h | retried h | begun h | accepted h | rejected h | paused h
  | cancelled h | closed h => cases hphase.symm.trans h

end Moves

/-- **A raised signal is honoured**: the keeper leaves its channel, or sees to another connection
first. -/
theorem step_restore (hphase : s.phase = .consuming) (hraised : s.channel ∈ s.raised) :
    (step subscription s .restore).1.phase = if s.isPending then .reading else .leaving := by
  cases hpending : s.isPending with
  | true => simp [step, hphase, hpending, Phase.isWatching, State.reread]
  | false => simp [step, proceed, hphase, hpending, hraised, State.leave]

end Subscriber

namespace Course

/-- **Where a keeper is, whatever it was replied and whatever it met.** Consuming, the whole setup
was accepted on its channel, the channel was opened on the connection it has, and that is the
published one unless a change is still to be noticed. On its channel, the signal is raised if and
only if the broker signalled that channel; it stays raised until the keeper leaves the channel for
another connection, for another channel or for good. Consuming, it begins anew for a connection it
has not seen or on that signal, and the signal is honoured. -/
theorem keeper_restores (subscription : Subscription) (replies : Establish.Replies)
    (version : Nat) (events : List Subscriber.Event) (s : Subscriber.State)
    (h : (run subscription replies version events).keeper = some s) :
    (s.phase = .consuming →
      accepted s.channel (run subscription replies version events).past = subscription.setup ∧
      (∃ on, s.connection = some on ∧
        Opened s.channel on (run subscription replies version events).past) ∧
      (s.connection = published (run subscription replies version events).past ∨
        s.isPending = true)) ∧
    (s.phase.isOn = true → (s.channel ∈ s.raised ↔
      Raised s.channel (run subscription replies version events).past)) ∧
    (∀ e, s.phase.isOn = true → s.channel ∈ s.raised →
      (Subscriber.step subscription s e).1.channel = s.channel ∧
      ((Subscriber.step subscription s e).1.phase.isOn = true ∧
          s.channel ∈ (Subscriber.step subscription s e).1.raised ∨
        (Subscriber.step subscription s e).1.phase = .reading ∨
        (Subscriber.step subscription s e).1.phase = .leaving ∨
        (Subscriber.step subscription s e).1.phase = .cancelling)) ∧
    (∀ e, s.phase = .consuming →
      (Subscriber.step subscription s e).1.phase = .consuming ∨
      (Subscriber.step subscription s e).1.phase = .reading ∧ s.isPending = true ∨
      (Subscriber.step subscription s e).1.phase = .leaving ∧ e = .restore ∧
        Raised s.channel (run subscription replies version events).past ∨
      (Subscriber.step subscription s e).1.phase = .cancelling ∧ e = .stop) ∧
    (s.phase = .consuming → Raised s.channel (run subscription replies version events).past →
      (Subscriber.step subscription s .restore).1.phase =
        if s.isPending then .reading else .leaving) := by
  have hstanding := (proper_run subscription replies version events).standing s h
  have hmoves := Subscriber.step_moves subscription s
  have hpermit (hphase : s.phase = .consuming) : s.channel ∈ s.raised ↔
      Raised s.channel (run subscription replies version events).past :=
    (hstanding.stands_at hphase).1.permit
  refine ⟨fun hphase => ?_, fun hon => (hstanding.held hon).permit,
    fun e hon hraised => (hmoves e).raised_kept hon hraised, fun e hphase => ?_,
    fun hphase hraised => Subscriber.step_restore hphase ((hpermit hphase).2 hraised)⟩
  · obtain ⟨hheld, -, haccepted, -⟩ := hstanding.stands_at hphase
    refine ⟨haccepted, hheld.opened, ?_⟩
    rw [← hstanding.published]
    exact (hstanding.current_of (by rw [hphase]; nofun) (by rw [hphase]; rfl)).symm
  · rw [← hpermit hphase]
    exact (hmoves e).of_consuming hphase

/-- A broker that takes whatever is asked of it. -/
def obliging : Establish.Replies
  | _, .borrow => some 7
  | _, .openChannel on => .ok ⟨0, on⟩
  | _, .register _ => .ok ()
  | _, .request .. => .ok ()
  | _, .closeChannel _ => ()

/-- What a keeper meets when the broker closes its first channel and lets it set the subscription
up on a second one. -/
def renewal : List Subscriber.Event :=
  [.signalled ⟨0, 7⟩, .restore, .ended, .opened, .registered, .resume,
    .accepted, .accepted, .accepted, .accepted, .accepted]

/-- A keeper that consumes on its second channel. -/
def renewed : Subscriber.State where
  connection := some 7
  channel := ⟨1, 7⟩
  published := some 7
  version := 0
  seen := 0
  next := 2

/-- **After a renewal** the keeper consumes on the second channel, with the setup accepted there,
and no signal for that one was heard. -/
theorem keeper_restores_renewed :
    (run ⟨"events", "feed", "#", "feed_1", false, 8⟩ obliging 0 renewal).keeper = some renewed ∧
      accepted ⟨1, 7⟩ (run ⟨"events", "feed", "#", "feed_1", false, 8⟩ obliging 0 renewal).past =
        Subscription.setup ⟨"events", "feed", "#", "feed_1", false, 8⟩ ∧
      ¬ Raised ⟨1, 7⟩
        (run ⟨"events", "feed", "#", "feed_1", false, 8⟩ obliging 0 renewal).past := by
  have hkeeper : (run ⟨"events", "feed", "#", "feed_1", false, 8⟩ obliging 0 renewal).keeper =
      some renewed := by decide +kernel
  obtain ⟨hconsuming, hpermit, -⟩ := keeper_restores ⟨"events", "feed", "#", "feed_1", false, 8⟩
    obliging 0 renewal renewed hkeeper
  exact ⟨hkeeper, (hconsuming rfl).1, fun h => List.not_mem_nil ((hpermit rfl).2 h)⟩

end Course

end Broker

end NotificationFeed
