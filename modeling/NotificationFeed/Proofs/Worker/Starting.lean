import NotificationFeed.Proofs.Broker.Attempts
import NotificationFeed.Proofs.Broker.Course
import NotificationFeed.Proofs.Broker.Inert
/-!
# Starting a worker — all of it or nothing

A start is one attempt at a subscription, and then the worker either stands or
it has left nothing. That a failed start leaves nothing is more than that it
reports a failure: the client on which it was tried is one without a worker
(`Client.Inert`), whatever happens to it, and the handle that the worker was
given is gone, so the last handle of the owner closes the connection. What a
failed attempt has done to the broker does not matter for that, so it is said of
any state of the client and its broker.
-/

namespace NotificationFeed

namespace Broker

namespace Client

variable {c c₀ : Client}

/-! ## The start of a client -/

/-- **A client once a worker was started on it**, well or not. -/
def stand (c : Client) (f : Worker.Footing) : Client :=
  let world := f.entries.foldl (fun w e => w.record (.note e)) c.world
  let intake : Worker.Intake := { inbox := { capacity := c.subscription.capacity }, world }
  { c with
    keeper := f.keeper
    worker := f.worker
    intake := if f.worker.isRunning then some intake else none
    world }

/-- **What an attempt may change of a client**: the broker, which acknowledges
nothing by that, and the number of the next channel. -/
structure Tried (c₀ c : Client) : Prop where
  rest : c = { c₀ with host := c.host, nextChannel := c.nextChannel }
  acknowledged : c.host.acknowledged = c₀.host.acknowledged

/-- A channel is on the connection it was asked for. -/
def OnAsked (x : Exchange Establish.surroundings) : Prop :=
  ∀ on channel, x = ⟨.openChannel on, .ok channel⟩ → channel.connection = on

/-- A client answers every call of an attempt. -/
theorem answer_tried (call : Establish.Call) (c : Client) (h : Tried c₀ c) :
    ∃ reply c', answer call c = (.ok reply, c') ∧ Tried c₀ c' ∧ OnAsked ⟨call, reply⟩ := by
  have htried (host : Host) (nextChannel : Nat)
      (hhost : host.acknowledged = c.host.acknowledged) :
      Tried c₀ { c with host, nextChannel } := by
    refine ⟨?_, hhost.trans h.acknowledged⟩
    rw [h.rest]
  cases call with
  | borrow => exact ⟨_, c, rfl, h, nofun⟩
  | openChannel on =>
    have hhost := c.host.acknowledged_openChannel ⟨c.nextChannel, on⟩
    cases hopen : c.host.openChannel ⟨c.nextChannel, on⟩ with
    | mk outcome host =>
      rw [hopen] at hhost
      cases outcome with
      | accepted =>
        refine ⟨.ok ⟨c.nextChannel, on⟩, _, ?_, htried host (c.nextChannel + 1) hhost, ?_⟩
        · simp only [answer, hopen]
        · rintro _ _ ⟨⟩
          rfl
      | rejected | lost =>
        refine ⟨.error ⟨"channel closed"⟩, _, ?_, htried host c.nextChannel hhost, nofun⟩
        simp only [answer, hopen]
  | register channel => exact ⟨_, c, rfl, h, nofun⟩
  | request channel setup =>
    have hhost := c.host.acknowledged_receive channel (.setup setup) rfl
    cases hreceive : c.host.receive channel (.setup setup) with
    | mk outcome host =>
      rw [hreceive] at hhost
      cases outcome with
      | accepted =>
        refine ⟨.ok (), _, ?_, htried host c.nextChannel hhost, nofun⟩
        simp only [answer, hreceive]
      | rejected | lost =>
        refine ⟨.error ⟨"channel closed"⟩, _, ?_, htried host c.nextChannel hhost, nofun⟩
        simp only [answer, hreceive]
  | closeChannel channel =>
    have hhost := Host.acknowledged_receive (h := c.host) channel .closeChannel rfl
    exact ⟨_, _, rfl, htried _ c.nextChannel hhost, nofun⟩

/-- **What a client does at a start is an attempt**, and then the worker stands on what that came
to. -/
theorem startWorker_stand (c : Client) :
    ∃ xs result c', Establish.Attempt c.subscription xs result ∧ Tried c c' ∧
      c.startWorker =
        ((Worker.footing c.subscription (c.handles + 1) c.version result).worker.isRunning,
          c'.stand (Worker.footing c.subscription (c.handles + 1) c.version result)) := by
  obtain ⟨result, xs, c', hrun, hreaches, htried, hopened⟩ :=
    Program.reaches_run answer_tried (Establish.establish c.subscription).run
      (⟨rfl, rfl⟩ : Tried c c)
  have hattempt := Establish.establish_reaches_iff.1 hreaches
  refine ⟨xs, result, c', hattempt, htried, ?_⟩
  have hhandles : c'.handles = c.handles := by rw [htried.rest]
  have hversion : c'.version = c.version := by rw [htried.rest]
  have hsubscription : c'.subscription = c.subscription := by rw [htried.rest]
  rw [← hhandles, ← hversion, ← hsubscription, Client.startWorker]
  cases result with
  | error failure =>
    have hestablish : c.establish = (.error failure, c') := by
      simp only [Client.establish, hrun]
    rw [hestablish]
    rfl
  | ok established =>
    obtain ⟨on, channel⟩ := established
    have hon : channel.connection = on := hopened _ hattempt.opened on channel rfl
    have hestablish : c.establish = (.ok (Subscriber.start on channel c'.version), c') := by
      simp only [Client.establish, hrun]
    rw [hestablish]
    subst hon
    rfl

end Client

end Broker

/-! ## All or nothing -/

namespace Worker

open Broker

/-- **What a start that failed leaves: nothing.** `others` counts the handles
on the connection beside the one the worker was given. -/
structure LeavesNothing (failure : StartFailure) (others : Nat) (f : Footing) : Prop where
  keeper : f.keeper = none
  isRunning : f.worker.isRunning = false
  close : f.worker.close = ([], f.worker)
  handles : f.handles = others
  entries : f.entries = [failedEntry failure]
  /-- Whatever happens then, there is no loop and no keeper, and no message is handled or
  acknowledged. -/
  inert : ∀ (c : Client) (happenings : List Client.Happening),
    Client.Inert (c.stand f) (happenings.foldl Client.happen (c.stand f))
  /-- And a close of the worker does nothing but let pass what happens by itself. -/
  closeWorker : ∀ (c : Client) (happenings : List Client.Happening),
    let c' := happenings.foldl Client.happen (c.stand f)
    c'.closeWorker = (false, c'.settle.settle)
  /-- The last handle closes the connection, and the broker hears of it. -/
  closes : ∀ (c : Client) (happenings : List Client.Happening) (l : Link.State),
    let c' := happenings.foldl Client.happen (c.stand f)
    c'.link = some l → l.phase.isStopping = false → c'.handles = 1 →
      let closed := (c'.closeConnection false).settle
      closed.link = some { l with phase := .closed, published := none } ∧
        l.current ∉ closed.host.connections ∧
        (l.current ∈ c'.host.connections → closed.host.past = .closeConnection :: c'.host.past)

/-- **What a start that worked leaves**: one loop on an empty inbox, and one
keeper, which has the worker's handle on the connection. -/
structure Stands (subscription : Subscription) (others version : Nat) (on : ConnectionId)
    (channel : Channel) (f : Footing) : Prop where
  keeper : f.keeper = some (Subscriber.start on channel version)
  worker : f.worker = .running
  handles : f.handles = others + 1
  entries : f.entries = [startedEntry subscription]
  loop : ∀ c : Client, (c.stand f).intake =
    some { inbox := { capacity := c.subscription.capacity }, world := (c.stand f).world }
  keepsHandle : ∀ c : Client, (c.stand f).keepsHandle = true

theorem inert_footing (subscription : Subscription) (handles version : Nat)
    (failure : StartFailure) (c : Client) (happenings : List Client.Happening) :
    let f := footing subscription handles version (.error failure)
    Client.Inert (c.stand f) (happenings.foldl Client.happen (c.stand f)) :=
  Client.Inert.foldl_happen ⟨rfl, rfl, rfl, rfl, rfl⟩ happenings

theorem leavesNothing_footing (subscription : Subscription) (others version : Nat)
    (failure : StartFailure) :
    LeavesNothing failure others (footing subscription (others + 1) version (.error failure)) where
  keeper := rfl
  isRunning := rfl
  close := rfl
  handles := rfl
  entries := rfl
  inert := inert_footing subscription _ version failure
  closeWorker c happenings :=
    (inert_footing subscription _ version failure c happenings).closeWorker_eq
  closes c happenings l hlink hgoing hlast := by
    have hinert := inert_footing subscription (others + 1) version failure c happenings
    rw [hinert.closeConnection_settle hlink hgoing hlast]
    refine ⟨rfl, Host.not_mem_closeConnection l.current, fun hopen => ?_⟩
    simp only [Host.closeConnection, if_pos hopen]
    rfl

theorem stands_footing (subscription : Subscription) (others version : Nat) (on : ConnectionId)
    (channel : Channel) :
    Stands subscription others version on channel
      (footing subscription (others + 1) version (.ok (on, channel))) where
  keeper := rfl
  worker := rfl
  handles := rfl
  entries := rfl
  loop _ := rfl
  keepsHandle _ := rfl

/-- **A start is all or nothing**, whatever the broker replies. Every run is one
of the attempts, which end at the first refusal with the close of what was
opened, and every attempt is a run. One that failed leaves nothing, and one
without a refusal leaves one loop; so it is on every client. -/
theorem start_all_or_nothing (subscription : Subscription) (others version : Nat) :
    (∀ replies : Establish.Replies, ∃ xs result,
      (start subscription (others + 1) version).run (Program.replying replies) [] =
        (.ok (footing subscription (others + 1) version result), xs) ∧
      Establish.Attempt subscription xs result) ∧
    (∀ xs result, Establish.Attempt subscription xs result → ∃ replies : Establish.Replies,
      (start subscription (others + 1) version).run (Program.replying replies) [] =
        (.ok (footing subscription (others + 1) version result), xs)) ∧
    (∀ failure,
      LeavesNothing failure others (footing subscription (others + 1) version (.error failure))) ∧
    (∀ on channel, Stands subscription others version on channel
      (footing subscription (others + 1) version (.ok (on, channel)))) ∧
    ∀ c : Client, ∃ xs result c', Establish.Attempt c.subscription xs result ∧ Client.Tried c c' ∧
      c.startWorker =
        ((footing c.subscription (c.handles + 1) c.version result).worker.isRunning,
          c'.stand (footing c.subscription (c.handles + 1) c.version result)) := by
  have hstart (replies : Establish.Replies)
      {result : Except StartFailure (ConnectionId × Channel)}
      {xs : List (Exchange Establish.surroundings)}
      (hrun : (Establish.establish subscription).run.run (Program.replying replies) [] =
        (.ok result, xs)) :
      (start subscription (others + 1) version).run (Program.replying replies) [] =
        (.ok (footing subscription (others + 1) version result), xs) := by
    rw [start, Program.run_bind, hrun]
    rfl
  refine ⟨fun replies => ?_, fun xs result hattempt => ?_,
    leavesNothing_footing subscription others version,
    stands_footing subscription others version, Client.startWorker_stand⟩
  · obtain ⟨result, xs, hrun, hreaches⟩ :=
      Program.reaches_run_replying replies (Establish.establish subscription).run []
    exact ⟨xs, result, hstart replies hrun, Establish.establish_reaches_iff.1 hreaches⟩
  · obtain ⟨replies, hrun⟩ := (Establish.establish_reaches_iff.2 hattempt).exists_replies
    exact ⟨replies, hstart replies hrun⟩

end Worker

end NotificationFeed
