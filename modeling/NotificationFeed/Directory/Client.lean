import NotificationFeed.Locator
import NotificationFeed.Program.Refine
import NotificationFeed.Service.Surroundings
/-!
# Asking the user service

The directory of users is another service. A lookup ends in a user, in a
status with any number, in a refused connection, or in no answer within the
time allowed. Only the status that says so means that there is no such user;
everything else is an outage and is written into the journal.

The client asks the user service once for each user it is asked for. A service
that has it for its directory makes the calls of the client in the place of
its own.
-/

namespace NotificationFeed

namespace Directory

/-- How a call of the user service ends. -/
inductive Lookup where
  | user (user : User)
  | status (number : Int) (message : String)
  /-- Nothing listens. -/
  | refused
  /-- No answer came within the time allowed. -/
  | silent
  deriving DecidableEq, Repr, Inhabited

namespace Lookup

/-- The failure of a call that ended with a status. -/
def statusFailure (code : Code) : Failure :=
  if code = .notFound then .userNotFound
  else .externalService ("user service returned " ++ code.name)

/-- The journal entry of a call that ended with a status. Its message is the one the status came
with. -/
def statusEntries (id : Int) (code : Code) (message : String) : List Entry :=
  if code = .notFound then []
  else [⟨.error, some message, [("id", toString id), ("code", code.name)]⟩]

/-- What the directory answers. -/
def answer : Lookup → Except Failure User
  | user u => .ok u
  | status number _ => .error (statusFailure (.ofNumber number))
  | refused => .error (statusFailure .unavailable)
  | silent => .error (.externalService "user service timed out")

/-- What a lookup of `id` that may take `timeout` leaves in the journal. -/
def entries (id : Int) (timeout : Span) : Lookup → List Entry
  | user _ => []
  | status number message => statusEntries id (.ofNumber number) message
  | refused => statusEntries id .unavailable "tcp connect error"
  | silent =>
    [.error "user service call timed out" [("id", toString id), ("timeout", timeout.text)]]

/-- Whether the user service saw the request. -/
def isDelivered : Lookup → Bool
  | user _ | status .. => true
  | refused | silent => false

end Lookup

/-- One atomic call of the client of the user service. -/
inductive Call where
  /-- Asks the user service for a user, once, and waits as long as is allowed. -/
  | getUser (id : Int)
  | note (entry : Entry)
  deriving DecidableEq, Repr

/-- What each call is answered with. -/
abbrev Call.Reply : Call → Type
  | .getUser _ => Lookup
  | .note _ => Unit

/-- What the client may ask of its surroundings. -/
abbrev surroundings : Interface := ⟨Call, Call.Reply⟩

/-- Asks for one thing. -/
def ask (call : Call) : Program surroundings call.Reply := .call (I := surroundings) call

/-- Looks a user up. A call that its own channel cuts off when the time is over ends in a status
like any other. -/
def fetch (timeout : Span) (id : Int) : Program surroundings (Except Failure User) := do
  let lookup ← ask (.getUser id)
  (lookup.entries id timeout).forM fun entry => ask (.note entry)
  return lookup.answer

/-- What a service may ask whose directory is the user service. -/
abbrev joined : Interface := Service.surroundings.sum surroundings

/-- Puts the client in the place of the directory; every other call is made as it is. -/
def join (timeout : Span) : (call : Service.Call) → Program joined call.Reply
  | .findUser id => (fetch timeout id).refine fun call => .call (I := joined) (.inr call)
  | call => .call (I := joined) (.inl call)

/-- Why a locator of the user service was refused. -/
def invalidLocator : String := "invalid URI"

/-- Whether a text names a path of the local file system. Nothing but its scheme is looked at. -/
def isLocal (text : String) : Bool := "unix:".toList.isPrefixOf text.toList

/-- Takes the locator of the user service, without connecting to it. -/
def locate (text : String) : Except String Unit :=
  if isLocal text || Locator.isValid text then .ok () else .error invalidLocator

end Directory

end NotificationFeed
