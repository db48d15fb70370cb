import NotificationFeed.Broker.Host
import NotificationFeed.Broker.Opening
import NotificationFeed.Worker.Start
import NotificationFeed.Worker.Intake
/-!
# A client and its broker

All that a process has of its broker, next to a broker that does as it is
told: the keeper of the connection, the keeper of a subscription, the worker
or the plain inbox behind it, and the handles that are alive. Whatever the
client sends is answered at once, and between two wishes of its owner the
client does all it can do by itself: `settle`.
-/

namespace NotificationFeed

namespace Broker

/-- A client and its broker. -/
structure Client where
  host : Host := {}
  arguments : Link.Arguments := ⟨"/"⟩
  subscription : Subscription
  link : Option Link.State := none
  /-- The version of the published connection. -/
  version : Nat := 0
  keeper : Option Subscriber.State := none
  /-- How many handles on the connection the owner of the client holds. -/
  handles : Nat := 0
  /-- The inbox of a consumer that is polled by hand. -/
  inbox : Option Inbox := none
  /-- The deliveries that were polled by hand, in order. -/
  taken : List Delivery := []
  worker : Worker.Handle := .idle
  intake : Option Worker.Intake := none
  nextConnection : ConnectionId := 0
  nextChannel : Nat := 0
  /-- The world a worker works in. -/
  world : World

namespace Client

/-- Whether the keeper of a subscription holds a handle on the connection. -/
def keepsHandle (c : Client) : Bool := c.keeper.any fun s => s.phase != .stopped

/-- Tells the keeper of the subscription. -/
def tell (c : Client) (event : Subscriber.Event) : Client :=
  { c with keeper := c.keeper.map fun s => (Subscriber.step c.subscription s event).1 }

/-- Publishes what the keeper of the connection says. -/
def publish (c : Client) (actions : List Link.Action) : Client :=
  actions.foldl (fun c action =>
    match action with
    | .publish connection => { c with version := c.version + 1 }.tell (.published connection)
    | .open _ | .register _ | .close _ => c) c

/-! ## What happens by itself -/

/-- What the keeper of the connection meets next. -/
def linkEvent (c : Client) (l : Link.State) : Option (Link.Event × Host) :=
  let h := c.host
  match l.phase with
  | .connected => if l.current ∈ h.connections then none else some (.failed, h)
  | .dropping | .closing => some (.ended, h.closeConnection l.current)
  | .opening =>
    let (taken, h) := h.connect c.arguments l.next
    some (if taken then .opened else .refused, h)
  | .registering fresh =>
    some (if fresh ∈ h.connections then .registered else .unregistered, h)
  | .discarding fresh => some (.ended, h.closeConnection fresh)
  | .resting => some (.rested, h)
  | .closed => none

/-- What the keeper of the subscription meets next. -/
def keeperEvent (c : Client) (s : Subscriber.State) : Option (List Subscriber.Event × Host) :=
  let h := c.host
  let answered (channel : Channel) (onAccepted onRefused : Subscriber.Event) :
      Host.Answer × Host → Option (List Subscriber.Event × Host)
    | (.accepted, h) => some ([onAccepted], h)
    | (.rejected, h) => some ([.signalled channel, onRefused], h)
    | (.lost, h) => some ([onRefused], h)
  match s.phase with
  | .consuming =>
    if s.isPending then some ([.noticed], h)
    else if s.channel ∈ s.raised then some ([.restore], h)
    else none
  | .waiting => if s.isPending then some ([.noticed], h) else none
  | .reading | .beginning => some ([.resume], h)
  | .opening on =>
    let channel : Channel := ⟨s.next, on⟩
    match h.openChannel channel with
    | (.accepted, h) => some ([.opened], h)
    | (_, h) => some ([.refused], h)
  | .registering fresh =>
    some (if fresh ∈ h.channels then [.registered] else [.unregistered], h)
  | .leaving | .closing => answered s.channel .ended .ended (h.receive s.channel .closeChannel)
  | .discarding fresh => answered fresh .ended .ended (h.receive fresh .closeChannel)
  | .subscribing setup _ =>
    answered s.channel .accepted .rejected (h.receive s.channel (.setup setup))
  | .cancelling =>
    answered s.channel .ended .ended
      (h.receive s.channel (.cancel c.subscription.consumerTag))
  | .resting _ | .pausing => some ([.rested], h)
  | .stopped => none

/-- The settings of the worker. -/
def config (c : Client) : Worker.Config where
  topic := c.subscription.exchange
  autoAck := c.subscription.autoAck
  pollTimeout := 0

/-- Whether the worker has something to do. -/
def hasWork (i : Worker.Intake) : Bool :=
  match i.phase with
  | .polling => i.stopping || !i.inbox.waiting.isEmpty || i.inbox.closed
  | .handling _ => true
  | .ended => false

/-- One turn of the worker. A commit fails with its connection. -/
def work (c : Client) (i : Worker.Intake) : Client :=
  let i' :=
    match i.phase with
    | .handling delivery =>
      let isUp := delivery.channel.connection ∈ c.host.connections
      i.step c.config (.finish { commitFailure := if isUp then none else some "connection closed" })
    | .polling | .ended => i.step c.config .turn
  let sent := i'.acknowledged.take (i'.acknowledged.length - i.acknowledged.length)
  let host := sent.foldr (fun acknowledgement h => (h.acknowledge acknowledgement).2) c.host
  let c := { c with host, intake := some i', world := i'.world }
  if i'.phase = .ended then c.tell .stop else c

/-- The next thing that happens by itself; the connection is seen to first, then the
subscription, then the worker. -/
def advance (c : Client) : Option Client :=
  match c.link.bind fun l => (c.linkEvent l).map fun e => (l, e) with
  | some (l, event, host) =>
    let (l, actions) := Link.step c.arguments l event
    some ({ c with host, link := some l, nextConnection := l.next }.publish actions)
  | none =>
    match c.keeper.bind c.keeperEvent with
    | some (events, host) =>
      let c := events.foldl tell { c with host }
      some { c with nextChannel := (c.keeper.map (·.next)).getD c.nextChannel }
    | none =>
      match c.intake.filter hasWork with
      | some i => some (c.work i)
      | none => none

/-- Lets happen what happens by itself, at most so many things. -/
def settleFor : Nat → Client → Client
  | 0, c => c
  | n + 1, c =>
    match c.advance with
    | some c => settleFor n c
    | none => c

/-- A bound on what can happen by itself: every attempt that fails uses up a refusal or a
rejection, and a delivery is handled once. -/
def patience (c : Client) : Nat :=
  let waiting := (c.intake.map fun i => i.inbox.waiting.length + i.inbox.outside.length).getD 0
  32 * (c.host.refusals + c.host.rejections.length + waiting + 4)

/-- Lets happen all that happens by itself. -/
def settle (c : Client) : Client := settleFor c.patience c

/-! ## What the owner wants -/

/-- Answers one call on the way to a connection. -/
def answerOpening : Program.Answerer Opening.surroundings Client := fun call c =>
  let gone : Refusal := ⟨"connection closed"⟩
  match call with
  | .open arguments =>
    match c.host.connect arguments c.nextConnection with
    | (true, host) =>
      (.ok (.ok c.nextConnection), { c with host, nextConnection := c.nextConnection + 1 })
    | (false, host) => (.ok (.error gone), { c with host })
  | .register connection =>
    (.ok (if connection ∈ c.host.connections then .ok () else .error gone), c)

/-- Opens a connection; tells whether there is one. -/
def connect (c : Client) (arguments : Link.Arguments) : Bool × Client :=
  match (Opening.begin arguments).run.run answerOpening { c with arguments } with
  | (.ok (.ok link), c) => (true, { c with link := some link, handles := c.handles + 1 })
  | (_, c) => (false, c)

/-- Answers one call on the way to a subscription. -/
def answer : Program.Answerer Establish.surroundings Client := fun call c =>
  let gone : Refusal := ⟨"channel closed"⟩
  match call with
  | .borrow => (.ok (c.link.bind (·.published)), c)
  | .openChannel on =>
    let channel : Channel := ⟨c.nextChannel, on⟩
    match c.host.openChannel channel with
    | (.accepted, host) => (.ok (.ok channel), { c with host, nextChannel := c.nextChannel + 1 })
    | (_, host) => (.ok (.error gone), { c with host })
  | .register channel =>
    (.ok (if channel ∈ c.host.channels then .ok () else .error gone), c)
  | .request channel setup =>
    match c.host.receive channel (.setup setup) with
    | (.accepted, host) => (.ok (.ok ()), { c with host })
    | (_, host) => (.ok (.error gone), { c with host })
  | .closeChannel channel =>
    (.ok (), { c with host := (c.host.receive channel .closeChannel).2 })

/-- Sets the subscription up. -/
def establish (c : Client) : Except StartFailure Subscriber.State × Client :=
  let (result, c) := (Establish.establish c.subscription).run.run answer c
  match result with
  | .ok (.ok (connection, channel)) => (.ok (Subscriber.start connection channel c.version), c)
  | .ok (.error failure) => (.error failure, c)
  | .error _ => (.error .restoring, c)

/-- Starts a consumer that is polled by hand. -/
def consume (c : Client) : Except StartFailure Unit × Client :=
  match c.establish with
  | (.ok keeper, c) =>
    (.ok (), { c with keeper := some keeper, inbox := some { capacity := c.subscription.capacity } })
  | (.error failure, c) => (.error failure, c)

/-- Polls the consumer until the time of the poll is over. -/
def poll (c : Client) : Polled × Client :=
  match c.inbox.map Inbox.poll with
  | some (.delivery d, inbox) =>
    (.delivery d, { c with inbox := some inbox, taken := c.taken ++ [d] })
  | some (polled, _) => (polled, c)
  | none => (.closed, c)

/-- Commits a delivery that was polled; tells whether that came through. -/
def commit (c : Client) (index : Nat) : Bool × Client :=
  match c.taken[index]?.bind (·.acknowledgement c.subscription.autoAck) with
  | some acknowledgement =>
    let (came, host) := c.host.acknowledge acknowledgement
    (came, { c with host })
  | none => (true, c)

/-- Tells the keeper of the subscription to stop, and waits for it. -/
def stopKeeper (c : Client) : Client := { (c.tell .stop).settle with keeper := none }

/-- Closes the consumer that is polled by hand. -/
def closeConsumer (c : Client) : Client :=
  { c with inbox := c.inbox.map Inbox.close }.stopKeeper

/-- Starts the worker; tells whether it runs. -/
def startWorker (c : Client) : Bool × Client :=
  let (result, c) := c.establish
  let started := Worker.footing c.subscription (c.handles + 1) c.version
    (result.map fun keeper => (keeper.channel.connection, keeper.channel))
  let world := started.entries.foldl (fun w e => w.record (.note e)) c.world
  let intake : Worker.Intake := { inbox := { capacity := c.subscription.capacity }, world }
  (started.worker.isRunning, { c with
    keeper := started.keeper
    worker := started.worker
    intake := if started.worker.isRunning then some intake else none
    world })

/-- Closes the worker; tells whether it runs after that. -/
def closeWorker (c : Client) : Bool × Client :=
  let (entries, worker) := c.worker.close
  let stopped := { c with intake := c.intake.map fun (i : Worker.Intake) => i.step c.config .stop }.settle
  let world := entries.foldl (fun w e => w.record (.note e)) stopped.world
  (worker.isRunning, { stopped.stopKeeper with worker, world, intake := none })

/-- The calls of the worker since the last time they were asked for. -/
def takeCalls (c : Client) : List Service.Call × Client :=
  let isOther : Service.Call → Bool
    | .commit _ | .poll _ | .closeQueue => false
    | _ => true
  let world := { c.world with past := [] }
  (c.world.calls.filter isOther,
    { c with world, intake := c.intake.map fun i => { i with world } })

/-- Closes the connection by one of the handles of the owner, or by a fresh one. -/
def closeConnection (c : Client) (fresh : Bool) : Client :=
  let alive := c.handles + (if fresh then 1 else 0) + (if c.keepsHandle then 1 else 0)
  match c.link with
  | some l =>
    let (_, _, l, actions) := Worker.closeConnection c.arguments alive l
    { c with link := some l, handles := if fresh then c.handles else c.handles - 1 }.publish actions
  | none => c

/-! ## What the broker does -/

/-- The broker delivers to the consumer. -/
def deliver (c : Client) (routingKey : String) (redelivered : Bool) (content : Bytes) : Client :=
  match c.host.deliver routingKey redelivered content with
  | (some d, host) =>
    { c with
      host
      inbox := c.inbox.map (·.forward d)
      intake := c.intake.map fun (i : Worker.Intake) => i.step c.config (.forward d) }
  | (none, host) => { c with host }

/-- The broker cancels the consumer. -/
def cancelConsumer (c : Client) : Client :=
  match c.host.consumer with
  | some channel => { c with host := { c.host with consumer := none } }.tell (.signalled channel)
  | none => c

/-- The broker closes the channel of the consumer. -/
def closeChannel (c : Client) : Client :=
  match c.host.consumer with
  | some channel => { c with host := c.host.dropChannel channel }.tell (.signalled channel)
  | none => c

/-- The broker, or the network, ends all connections. -/
def dropConnections (c : Client) : Client :=
  { c with host := c.host.connections.foldl Host.dropConnection c.host }

/-- The broker asks the consumer's channel to halt or go on, and is told that it does. -/
def flow (c : Client) (active : Bool) : Client :=
  if c.host.consumer.isSome then { c with host := c.host.record (.confirmFlow active) } else c

end Client

end Broker

end NotificationFeed
