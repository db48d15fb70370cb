import NotificationFeed.Broker.Inbox
import NotificationFeed.Worker.Message
/-!
# A worker fed by a broker

The loop of the worker takes deliveries out of its inbox while the broker
goes on delivering. It looks for the signal to stop whenever it comes round
and finishes what it has in hand before that; when it ends, it closes the
inbox. A commit of the worker acknowledges the delivery in hand, on the
channel that one arrived on.
-/

namespace NotificationFeed

namespace Worker

/-- What the loop is at. -/
inductive Intake.Phase where
  /-- It has come round. -/
  | polling
  | handling (delivery : Broker.Delivery)
  | ended
  deriving DecidableEq, Repr, Inhabited

/-- A worker and its inbox. -/
structure Intake where
  phase : Intake.Phase := .polling
  inbox : Broker.Inbox
  /-- Whether the signal to stop was given. -/
  stopping : Bool := false
  /-- The deliveries that came before the inbox was closed, newest first. -/
  forwarded : List Broker.Delivery := []
  /-- The deliveries whose handling has ended, newest first. -/
  handled : List Broker.Delivery := []
  /-- The acknowledgements that were sent, newest first. -/
  acknowledged : List Broker.Acknowledgement := []
  world : World

namespace Intake

/-- What happens to a worker and its inbox. -/
inductive Event where
  /-- The broker delivers. -/
  | forward (delivery : Broker.Delivery)
  /-- The loop comes round. -/
  | turn
  /-- The delivery in hand is handled to its end, whatever the world does to it. -/
  | finish (disturbance : Disturbance)
  | stop
  deriving Repr

/-- Ends the loop. -/
def finishLoop (i : Intake) : Intake := { i with phase := .ended, inbox := i.inbox.close }

/-- The acknowledgements a list of calls makes for a delivery. -/
def acknowledgements (config : Config) (delivery : Broker.Delivery) (calls : List Service.Call) :
    List Broker.Acknowledgement :=
  calls.filterMap fun
    | .commit _ => delivery.acknowledgement config.autoAck
    | _ => none

/-- Handles a delivery to its end. -/
def handleDelivery (config : Config) (delivery : Broker.Delivery) (disturbance : Disturbance)
    (i : Intake) : Intake :=
  let message : Message := ⟨delivery.tag, delivery.content, disturbance⟩
  let w := handle config message { i.world with past := [] }
  { i with
    phase := .polling
    handled := delivery :: i.handled
    acknowledged := acknowledgements config delivery w.past ++ i.acknowledged
    world := { w with past := w.past ++ i.world.past } }

/-- One event. What the worker is not ready for changes nothing. -/
def step (config : Config) (i : Intake) : Event → Intake
  | .forward delivery =>
    { i with
      inbox := i.inbox.forward delivery
      forwarded := if i.inbox.closed then i.forwarded else delivery :: i.forwarded }
  | .stop => { i with stopping := true }
  | .turn =>
    match i.phase with
    | .polling =>
      if i.stopping then i.finishLoop
      else
        match i.inbox.poll with
        | (.delivery delivery, inbox) => { i with phase := .handling delivery, inbox }
        | (.timeout, _) => i
        | (.closed, _) => i.finishLoop
    | .handling _ | .ended => i
  | .finish disturbance =>
    match i.phase with
    | .handling delivery => i.handleDelivery config delivery disturbance
    | .polling | .ended => i

/-- One event after another. -/
def feed (config : Config) (i : Intake) (events : List Event) : Intake :=
  events.foldl (step config) i

end Intake

end Worker

end NotificationFeed
