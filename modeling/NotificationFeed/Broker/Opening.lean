import NotificationFeed.Broker.Establish
import NotificationFeed.Broker.Link
/-!
# Opening a connection

The first connection of a keeper is opened and its callback is registered.
Neither is tried twice: where one of them fails there is no keeper. A keeper
that there is publishes its connection at once.
-/

namespace NotificationFeed

namespace Broker

namespace Opening

/-- One atomic call on the way to a connection. -/
inductive Call where
  | open (arguments : Link.Arguments)
  | register (connection : ConnectionId)
  deriving DecidableEq, Repr

/-- What each call is answered with. -/
abbrev Call.Reply : Call → Type
  | .open _ => Except Refusal ConnectionId
  | .register _ => Except Refusal Unit

/-- What may be asked on the way to a connection. -/
abbrev surroundings : Interface := ⟨Call, Call.Reply⟩

/-- Asks for one thing. -/
def ask (call : Call) : Program surroundings (Call.Reply call) := .call (I := surroundings) call

/-- Opens a connection; gives its keeper. -/
def begin (arguments : Link.Arguments) : ExceptT Refusal (Program surroundings) Link.State := do
  let connection ← ExceptT.mk (ask (.open arguments))
  ExceptT.mk (ask (.register connection))
  return Link.start connection

end Opening

end Broker

end NotificationFeed
