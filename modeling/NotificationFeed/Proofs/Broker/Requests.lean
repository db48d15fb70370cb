import NotificationFeed.Proofs.Broker.Course
/-!
# The requests of a consumer

What a broker gets to see of a consumer, over its whole course: on each
channel the requests of its setup, in order and each after the one before was
accepted; never two channels in use; and once the consumer was told to stop,
its cancellation and the close of its channel. The first two are what makes a
course lawful. The third is read off the phases that end a keeper, of which
each is left by one event only.
-/

namespace NotificationFeed

namespace Broker

open Past

variable {subscription : Subscription} {c : Course} {s : Subscriber.State}

namespace Course

theorem sent_after (e : Subscriber.Event) (actions : List Subscriber.Action) (past : List Line) :
    sent (after e actions past) = sent past ++ actions := by
  have hactions : (actions.map Line.sent).filterMap Line.sent? = actions := by
    rw [List.filterMap_map]
    exact List.filterMap_some
  rw [sent, after, List.reverse_append, List.reverse_reverse, List.filterMap_append, hactions]
  simp [sent, Line.sent?]

/-- **What a keeper sends as it meets an event** is what its step gives. -/
theorem meet_some (subscription : Subscription) (h : c.keeper = some s) (e : Subscriber.Event) :
    sent (c.meet subscription e).past = sent c.past ++ (Subscriber.step subscription s e).2 ∧
      (c.meet subscription e).keeper = some (Subscriber.step subscription s e).1 := by
  unfold meet
  rw [h]
  exact ⟨sent_after _ _ _, rfl⟩

/-! ## After the stop -/

/-- **A keeper that closes its last channel, or has, sends nothing.** -/
theorem sent_of_closing (h : c.keeper = some s)
    (hphase : s.phase = .closing ∨ s.phase = .stopped) (events : List Subscriber.Event) :
    sent (events.foldl (meet subscription) c).past = sent c.past := by
  induction events generalizing c s with
  | nil => rfl
  | cons e events ih =>
    obtain ⟨hsent, hkeeper⟩ := meet_some subscription h e
    have hstopping : s.phase.isStopping = true := by
      rcases hphase with hphase | hphase <;> rw [hphase] <;> rfl
    have hmove := (Subscriber.step_moves subscription s e).of_stopping hstopping
    obtain ⟨-, ⟨hphase', hactions⟩ | ⟨hphase', -⟩ | ⟨-, hphase', hactions⟩⟩ := hmove
    · rw [List.foldl_cons, ih hkeeper (hphase' ▸ hphase), hsent, hactions, List.append_nil]
    · rcases hphase with hphase | hphase <;> cases hphase.symm.trans hphase'
    · rw [List.foldl_cons, ih hkeeper (.inr hphase'), hsent, hactions, List.append_nil]

/-- **A keeper that cancels its consumer** closes its channel when that is done, and that is
all. -/
theorem sent_of_cancelling (h : c.keeper = some s) (hphase : s.phase = .cancelling)
    (events : List Subscriber.Event) :
    sent (events.foldl (meet subscription) c).past =
      sent c.past ++ [.closeChannel s.channel].take (events.count .ended) := by
  induction events generalizing c s with
  | nil => simp
  | cons e events ih =>
    obtain ⟨hsent, hkeeper⟩ := meet_some subscription h e
    rw [List.foldl_cons]
    by_cases he : e = .ended
    · subst he
      have hstep : Subscriber.step subscription s .ended =
          ({ s with phase := .closing }, [.closeChannel s.channel]) := by
        simp [Subscriber.step, Subscriber.proceed, hphase, Subscriber.Phase.isWatching]
      rw [hstep] at hsent hkeeper
      rw [sent_of_closing hkeeper (.inl rfl), hsent, List.count_cons_self, List.take_succ_cons,
        List.take_nil]
    · have hmove := (Subscriber.step_moves subscription s e).of_stopping (by rw [hphase]; rfl)
      obtain ⟨hchannel, ⟨hphase', hactions⟩ | ⟨-, hended, -⟩ | ⟨hphase', -⟩⟩ := hmove
      · rw [ih hkeeper (hphase'.trans hphase), hsent, hactions, hchannel, List.append_nil,
          List.count_cons_of_ne he]
      · exact absurd hended he
      · cases hphase.symm.trans hphase'

/-- **A keeper that is told to stop** cancels its consumer under its tag and then closes its
channel, as far as it gets. -/
theorem sent_of_stop (h : c.keeper = some s) (hrunning : s.phase.isStopping = false)
    (events : List Subscriber.Event) :
    sent ((.stop :: events).foldl (meet subscription) c).past =
      sent c.past ++ [.cancel s.channel subscription.consumerTag, .closeChannel s.channel].take
        (1 + events.count .ended) := by
  obtain ⟨hsent, hkeeper⟩ := meet_some subscription h .stop
  have hstep : Subscriber.step subscription s .stop =
      ({ s with phase := .cancelling }, [.cancel s.channel subscription.consumerTag]) := by
    simp [Subscriber.step, hrunning]
  rw [hstep] at hsent hkeeper
  rw [List.foldl_cons, sent_of_cancelling hkeeper rfl, hsent, Nat.add_comm, List.take_succ_cons,
    List.append_assoc, List.singleton_append]

/-! ## The whole course -/

/-- **The requests of a consumer**, whatever it is replied and whatever it meets. On each channel
the setup requests are a prefix of the five of its subscription, and all five on the channel it
consumes on. Whenever one is sent, all that were sent on its channel before were accepted, no
close of the channel was attempted, and a close was attempted of every other channel that was in
use; so two channels are never in use at once. And from the stop on there is the cancellation
under the subscription's tag and then the close, both on the channel the keeper has. -/
theorem requests_in_order (subscription : Subscription) (replies : Establish.Replies)
    (version : Nat) (events : List Subscriber.Event) :
    (∀ channel, asked channel (run subscription replies version events).past <+:
      [.declareExchange subscription.exchange "topic" true,
        .declareQueue subscription.queue true,
        .bindQueue subscription.queue subscription.exchange subscription.bindingKey,
        .limitDeliveries 0 subscription.prefetchCount false,
        .consume subscription.queue subscription.consumerTag subscription.autoAck]) ∧
    (∀ s, (run subscription replies version events).keeper = some s → s.phase = .consuming →
      asked s.channel (run subscription replies version events).past = subscription.setup) ∧
    (∀ later earlier channel setup,
      (run subscription replies version events).past =
        later ++ .sent (.request channel setup) :: earlier →
      accepted channel earlier = asked channel earlier ∧ ¬ Closed channel earlier ∧
        ∀ other, other ≠ channel → asked other earlier ≠ [] → Closed other earlier) ∧
    (∀ channel other, asked channel (run subscription replies version events).past ≠ [] →
      asked other (run subscription replies version events).past ≠ [] →
      ¬ Closed channel (run subscription replies version events).past →
      ¬ Closed other (run subscription replies version events).past → channel = other) ∧
    ∀ before after s, events = before ++ .stop :: after →
      (run subscription replies version before).keeper = some s → s.phase.isStopping = false →
      sent (run subscription replies version events).past =
        sent (run subscription replies version before).past ++
          [.cancel s.channel subscription.consumerTag, .closeChannel s.channel].take
            (1 + after.count .ended) := by
  have hproper := proper_run subscription replies version events
  have hlawful := hproper.lawful
  refine ⟨hlawful.asked_prefix, fun s hkeeper hphase => ?_, ?_,
    fun _ _ => hlawful.one_in_use, ?_⟩
  · exact ((hproper.standing s hkeeper).stands_at hphase).2.1
  · intro later earlier channel setup hpast
    rw [hpast] at hlawful
    exact hlawful.allowed.2
  · rintro before after s rfl hkeeper hrunning
    have hrun : run subscription replies version (before ++ .stop :: after) =
        (.stop :: after).foldl (meet subscription) (run subscription replies version before) :=
      List.foldl_append
    rw [hrun, sent_of_stop hkeeper hrunning]

end Course

end Broker

end NotificationFeed
