import NotificationFeed.Program
import NotificationFeed.Journal
import NotificationFeed.Store.Request
import NotificationFeed.Metrics.Observation
/-!
# The surroundings of the service

Everything the service asks for or tells: the user directory, the keeper of
notifications, the queue of events, the two clocks, the metrics and the
journal. Each call is atomic.
-/

namespace NotificationFeed

namespace Service

/-- One atomic call of the service. -/
inductive Call where
  | findUser (id : Int)
  /-- Reads the calendar clock. -/
  | readClock
  /-- Reads the clock that only measures. -/
  | readStopwatch
  | store (request : Store.Request)
  /-- Waits for the next event for at most this long. -/
  | poll (timeout : Span)
  /-- Tells the queue that the message with this tag was handled. -/
  | commit (tag : Nat)
  | closeQueue
  | observe (observation : Metrics.Observation)
  | note (entry : Entry)
  deriving DecidableEq, Repr

/-- What each call is answered with. -/
abbrev Call.Reply : Call → Type
  | .findUser _ => Except Failure User
  | .readClock => Instant
  | .readStopwatch => Span
  | .store request => request.Reply
  | .commit _ => Except String Unit
  | .poll _ | .closeQueue | .observe _ | .note _ => Unit

/-- What the service may ask of its surroundings. -/
abbrev surroundings : Interface := ⟨Call, Call.Reply⟩

/-- A step of the service that cannot fail. -/
abbrev Task (α : Type) : Type := Program surroundings α

/-- An operation of the service that may end in a failure. -/
abbrev Operation (α : Type) : Type := ExceptT Failure (Program surroundings) α

/-- Whether a call is one to a collaborator: the clocks are read and the journal is kept beside
the work. -/
def Call.isCollaborator : Call → Bool
  | readClock | readStopwatch | note _ => false
  | _ => true

/-- Writes an entry into the journal. -/
def note (entry : Entry) : Task Unit := .call (I := surroundings) (.note entry)

/-- Reports an observation. -/
def observe (observation : Metrics.Observation) : Task Unit :=
  .call (I := surroundings) (.observe observation)

/-- The present moment. -/
def readClock : Task Instant := .call (I := surroundings) .readClock

/-- What the stopwatch shows. -/
def readStopwatch : Task Span := .call (I := surroundings) .readStopwatch

/-- Tells the queue that a message was handled. -/
def commit (tag : Nat) : Task (Except String Unit) := .call (I := surroundings) (.commit tag)

/-- Looks a user up in the directory. -/
def findUser (id : Int) : Operation User := ExceptT.mk (.call (I := surroundings) (.findUser id))

/-- Asks the keeper of notifications; what it refuses fails the operation. -/
def ask (request : Store.Request) : Operation request.Answer :=
  ExceptT.mk do
    let reply ← Program.call (I := surroundings) (.store request)
    return reply.mapError StoreFailure.toFailure

end Service

end NotificationFeed
