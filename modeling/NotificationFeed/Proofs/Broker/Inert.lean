import NotificationFeed.Broker.Client
/-!
# A client without a worker

Where no loop runs and nothing keeps a subscription, there is nobody to handle
a message and nobody to acknowledge one, and there is no handle on the
connection but those of the owner. That a client is like this (`Client.Inert`)
is kept by everything that may happen to it while nobody starts anything, its
broker included. From there the last handle of the owner closes the connection
(`Client.Inert.closeConnection_settle`).

The connection goes on being kept all the while, so each lemma is about what
that may change: the broker, the keeper of the connection and what it
publishes (`Client.Inert.moved`).
-/

namespace NotificationFeed

namespace Broker

/-! ## The broker acknowledges nothing by itself -/

/-- Whether a request acknowledges a delivery. -/
def Request.isAcknowledgement : Request → Bool
  | acknowledge .. => true
  | _ => false

namespace Host

variable {h h' : Host}

/-- The acknowledgements among the requests a broker received. -/
def acknowledged (h : Host) : List Request := h.past.filter Request.isAcknowledgement

theorem acknowledged_of_past {request : Request} (hpast : h'.past = request :: h.past)
    (hrequest : request.isAcknowledgement = false) : h'.acknowledged = h.acknowledged := by
  rw [acknowledged, hpast, List.filter_cons_of_neg (by simp [hrequest])]
  rfl

theorem acknowledged_connect (arguments : Link.Arguments) (connection : ConnectionId) :
    (h.connect arguments connection).2.acknowledged = h.acknowledged := by
  unfold connect
  split <;> rfl

theorem acknowledged_closeConnection (connection : ConnectionId) :
    (h.closeConnection connection).acknowledged = h.acknowledged := by
  unfold closeConnection
  split <;> rfl

/-- A connection that was closed is gone. -/
theorem not_mem_closeConnection (connection : ConnectionId) :
    connection ∉ (h.closeConnection connection).connections := by
  unfold closeConnection
  split
  · simp [dropConnection]
  · assumption

theorem acknowledged_dropConnections (connections : List ConnectionId) :
    (connections.foldl dropConnection h).acknowledged = h.acknowledged := by
  induction connections generalizing h with
  | nil => rfl
  | cons connection rest ih => exact ih (h := h.dropConnection connection)

theorem acknowledged_deliver (routingKey : String) (redelivered : Bool) (content : Bytes) :
    (h.deliver routingKey redelivered content).2.acknowledged = h.acknowledged := by
  unfold deliver
  split <;> rfl

/-- A request is written down, whatever becomes of it. -/
theorem past_judge (channel : Channel) (request : Request) :
    (h.judge channel request).2.past = request :: h.past := by
  unfold judge
  simp only
  split
  · split <;> rfl
  · rfl

theorem acknowledged_openChannel (channel : Channel) :
    (h.openChannel channel).2.acknowledged = h.acknowledged := by
  have hpast := past_judge (h := h) channel .openChannel
  unfold openChannel
  split
  · refine @acknowledged_of_past h _ .openChannel ?_ rfl
    split
    · rename_i hjudge
      rwa [hjudge] at hpast
    · exact hpast
  · rfl

theorem acknowledged_receive (channel : Channel) (request : Request)
    (hrequest : request.isAcknowledgement = false) :
    (h.receive channel request).2.acknowledged = h.acknowledged := by
  have hpast := past_judge (h := h) channel request
  unfold receive
  split
  · refine acknowledged_of_past ?_ hrequest
    split
    · rename_i hjudge
      rw [hjudge] at hpast
      split <;> exact hpast
    · exact hpast
  · rfl

end Host

/-! ## What happens to a client -/

namespace Client

variable {c c₀ : Client} {l : Link.State}

/-- What may happen to a client while nobody starts anything on it. -/
inductive Happening where
  /-- All happens that happens by itself. -/
  | settle
  | deliver (routingKey : String) (redelivered : Bool) (content : Bytes)
  | cancelConsumer
  | closeChannel
  | dropConnections
  | flow (active : Bool)
  | closeWorker
  | closeConnection (fresh : Bool)

/-- What becomes of a client. -/
def happen (c : Client) : Happening → Client
  | .settle => c.settle
  | .deliver routingKey redelivered content => c.deliver routingKey redelivered content
  | .cancelConsumer => c.cancelConsumer
  | .closeChannel => c.closeChannel
  | .dropConnections => c.dropConnections
  | .flow active => c.flow active
  | .closeWorker => c.closeWorker.2
  | .closeConnection fresh => c.closeConnection fresh

/-- **A client without a worker**: nothing keeps a subscription, no loop runs,
and since it was `c₀` it has handled nothing and acknowledged nothing. -/
structure Inert (c₀ c : Client) : Prop where
  keeper : c.keeper = none
  intake : c.intake = none
  worker : c.worker = .idle
  world : c.world = c₀.world
  acknowledged : c.host.acknowledged = c₀.host.acknowledged

/-- Without a keeper there is nobody to tell. -/
theorem tell_of_keeper (h : c.keeper = none) (event : Subscriber.Event) : c.tell event = c := by
  cases c
  cases h
  rfl

/-- What the keeper of the connection meets is no acknowledgement. -/
theorem acknowledged_linkEvent {event : Link.Event} {host : Host}
    (h : c.linkEvent l = some (event, host)) : host.acknowledged = c.host.acknowledged := by
  unfold linkEvent at h
  split at h
  · simp only at h
    split at h
    · cases h
    · cases h
      rfl
  · cases h
    exact Host.acknowledged_closeConnection _
  · cases h
    exact Host.acknowledged_closeConnection _
  · cases h
    exact Host.acknowledged_connect _ _
  · cases h
    rfl
  · cases h
    exact Host.acknowledged_closeConnection _
  · cases h
    rfl
  · cases h

namespace Inert

/-- Only the broker and the keeper of the connection change. -/
theorem moved (h : Inert c₀ c) (host : Host) (hhost : host.acknowledged = c.host.acknowledged)
    (link : Option Link.State) (version nextConnection handles : Nat) :
    Inert c₀ { c with host, link, version, nextConnection, handles } where
  keeper := h.keeper
  intake := h.intake
  worker := h.worker
  world := h.world
  acknowledged := hhost.trans h.acknowledged

theorem tell (h : Inert c₀ c) (event : Subscriber.Event) : Inert c₀ (c.tell event) := by
  rwa [tell_of_keeper h.keeper]

theorem publish (h : Inert c₀ c) (actions : List Link.Action) : Inert c₀ (c.publish actions) := by
  unfold Client.publish
  induction actions generalizing c with
  | nil => exact h
  | cons action rest ih =>
    refine ih ?_
    cases action with
    | publish connection => exact (h.moved c.host rfl c.link (c.version + 1) _ _).tell _
    | «open» | register | close => exact h

/-- **All that happens by itself happens to the connection.** -/
theorem advance {c' : Client} (h : Inert c₀ c) (hadvance : c.advance = some c') : Inert c₀ c' := by
  unfold Client.advance at hadvance
  split at hadvance
  · rename_i l event host hlink
    obtain rfl := Option.some.inj hadvance
    obtain ⟨l', -, hevent⟩ := Option.bind_eq_some_iff.1 hlink
    obtain ⟨_, hevent, ⟨⟩⟩ := Option.map_eq_some_iff.1 hevent
    exact (h.moved _ (acknowledged_linkEvent hevent) _ c.version _ c.handles).publish _
  · split at hadvance
    · rename_i hkeeper
      rw [h.keeper] at hkeeper
      cases hkeeper
    · rw [h.intake] at hadvance
      cases hadvance

theorem settleFor (h : Inert c₀ c) (n : Nat) : Inert c₀ (c.settleFor n) := by
  induction n generalizing c with
  | zero => exact h
  | succ n ih =>
    unfold Client.settleFor
    split
    · rename_i c' hadvance
      exact ih (h.advance hadvance)
    · exact h

theorem settle (h : Inert c₀ c) : Inert c₀ c.settle := h.settleFor _

theorem deliver (h : Inert c₀ c) (routingKey : String) (redelivered : Bool) (content : Bytes) :
    Inert c₀ (c.deliver routingKey redelivered content) := by
  have hhost := c.host.acknowledged_deliver routingKey redelivered content
  unfold Client.deliver
  split
  · rename_i hdeliver
    rw [hdeliver] at hhost
    exact {
      keeper := h.keeper
      intake := by rw [h.intake]; rfl
      worker := h.worker
      world := h.world
      acknowledged := hhost.trans h.acknowledged }
  · rename_i hdeliver
    rw [hdeliver] at hhost
    exact h.moved _ hhost c.link c.version c.nextConnection c.handles

/-- Such a client is one since now, too. -/
theorem since (h : Inert c₀ c) : Inert c c where
  keeper := h.keeper
  intake := h.intake
  worker := h.worker
  world := rfl
  acknowledged := rfl

/-- What a client without a worker lacks can be taken from it. -/
theorem eq_without (h : Inert c₀ c) :
    { c with keeper := none, worker := .idle, intake := none, world := c₀.world } = c := by
  obtain ⟨hkeeper, hintake, hworker, hworld, -⟩ := h
  cases c
  cases hkeeper
  cases hintake
  cases hworker
  cases hworld
  rfl

/-- **To close a worker that does not run does nothing** but let pass what happens by itself. -/
theorem closeWorker_eq (h : Inert c₀ c) : c.closeWorker = (false, c.settle.settle) := by
  have hsettled := h.since.settle
  have hstopped : { c with
      intake := c.intake.map fun (i : Worker.Intake) => i.step c.config .stop } = c := by
    rw [h.intake, Option.map_none, ← h.intake]
  have htell := tell_of_keeper hsettled.keeper .stop
  unfold Client.closeWorker
  rw [hstopped, h.worker]
  simp only [Worker.Handle.close, List.foldl_nil, Client.stopKeeper, htell]
  exact congrArg (Prod.mk false) hsettled.since.settle.eq_without

theorem closeConnection (h : Inert c₀ c) (fresh : Bool) : Inert c₀ (c.closeConnection fresh) := by
  unfold Client.closeConnection
  simp only
  split
  · exact (h.moved c.host rfl _ c.version c.nextConnection _).publish _
  · exact h

theorem cancelConsumer (h : Inert c₀ c) : Inert c₀ c.cancelConsumer := by
  unfold Client.cancelConsumer
  split
  · exact (h.moved { c.host with consumer := none } rfl c.link c.version c.nextConnection
      c.handles).tell _
  · exact h

theorem closeChannel (h : Inert c₀ c) : Inert c₀ c.closeChannel := by
  unfold Client.closeChannel
  split
  · rename_i channel _
    exact (h.moved (c.host.dropChannel channel) rfl c.link c.version c.nextConnection
      c.handles).tell _
  · exact h

theorem flow (h : Inert c₀ c) (active : Bool) : Inert c₀ (c.flow active) := by
  unfold Client.flow
  split
  · exact h.moved (c.host.record (.confirmFlow active)) rfl c.link c.version c.nextConnection
      c.handles
  · exact h

/-- **Whatever happens** to a client without a worker leaves it so. -/
theorem happen (h : Inert c₀ c) (happening : Happening) : Inert c₀ (c.happen happening) := by
  cases happening with
  | settle => exact h.settle
  | deliver routingKey redelivered content => exact h.deliver routingKey redelivered content
  | cancelConsumer => exact h.cancelConsumer
  | closeChannel => exact h.closeChannel
  | dropConnections =>
    exact h.moved _ (Host.acknowledged_dropConnections _) c.link c.version c.nextConnection
      c.handles
  | flow active => exact h.flow active
  | closeWorker =>
    rw [Client.happen, h.closeWorker_eq]
    exact h.settle.settle
  | closeConnection fresh => exact h.closeConnection fresh

theorem foldl_happen (h : Inert c₀ c) (happenings : List Happening) :
    Inert c₀ (happenings.foldl Client.happen c) := by
  induction happenings generalizing c with
  | nil => exact h
  | cons happening rest ih => exact ih (h.happen happening)

/-- **The last handle closes the connection.** The keeper is told to stop, the close reaches the
broker if there is something to close, and then nothing is left to happen. -/
theorem closeConnection_settle (h : Inert c₀ c) (hlink : c.link = some l)
    (hgoing : l.phase.isStopping = false) (hlast : c.handles = 1) :
    (c.closeConnection false).settle =
      { c with
        host := c.host.closeConnection l.current
        link := some { l with phase := .closed, published := none }
        version := c.version + 1
        handles := 0
        nextConnection := l.next } := by
  let closing : Client := { c with
    link := some { l with phase := .closing, published := none }
    version := c.version + 1
    handles := 0 }
  let closed : Client := { closing with
    host := c.host.closeConnection l.current
    link := some { l with phase := .closed, published := none }
    nextConnection := l.next }
  have hclose : c.closeConnection false = closing := by
    have hstop : Link.step c.arguments l .stop =
        ({ l with phase := .closing, published := none }, [.publish none, .close l.current]) := by
      simp [Link.step, hgoing]
    have hkeeps : c.keepsHandle = false := by
      rw [Client.keepsHandle, h.keeper]
      rfl
    unfold Client.closeConnection
    simp only [hlink, hkeeps, hlast, Bool.false_eq_true, if_false, Nat.add_zero,
      Worker.closeConnection, if_true, hstop]
    exact tell_of_keeper (c := closing) h.keeper _
  have hclosing : closing.advance = some closed := rfl
  have hclosed : closed.advance = none := by
    have hnobody : closed.keeper.bind closed.keeperEvent = none := by
      rw [show closed.keeper = none from h.keeper]
      rfl
    have hidle : closed.intake.filter Client.hasWork = none := by
      rw [show closed.intake = none from h.intake]
      rfl
    unfold Client.advance
    simp only [hnobody, hidle]
    rfl
  have hpatience : ∃ n, closing.patience = n + 2 :=
    ⟨closing.patience - 2, by simp only [Client.patience]; omega⟩
  obtain ⟨n, hn⟩ := hpatience
  rw [hclose, Client.settle, hn]
  simp only [Client.settleFor, hclosing, hclosed]
  rfl

end Inert

end Client

end Broker

end NotificationFeed
