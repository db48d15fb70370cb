import NotificationFeed.Program
import NotificationFeed.Journal
import NotificationFeed.Metrics.Observation
import NotificationFeed.Database.Statement
import NotificationFeed.Database.Reply
/-!
# The surroundings of the keeper in a database

The database itself, the two clocks, the metrics and the journal. Each call
is atomic: a statement is sent and answered in one.
-/

namespace NotificationFeed

namespace Database

/-- One atomic call of the keeper. -/
inductive Call where
  | execute (statement : Statement)
  /-- Reads the calendar clock. -/
  | readClock
  /-- Reads the clock that only measures. -/
  | readStopwatch
  | observe (observation : Metrics.Observation)
  | note (entry : Entry)
  deriving DecidableEq, Repr

/-- What each call is answered with. -/
abbrev Call.Reply : Call → Type
  | .execute _ => Database.Reply
  | .readClock => Instant
  | .readStopwatch => Span
  | .observe _ | .note _ => Unit

/-- What the keeper may ask of its surroundings. -/
abbrev surroundings : Interface := ⟨Call, Call.Reply⟩

/-- A step of the keeper. -/
abbrev Task (α : Type) : Type := Program surroundings α

/-- Sends a statement and waits for the answer. -/
def execute (statement : Statement) : Task Reply := .call (I := surroundings) (.execute statement)

/-- The present moment. -/
def readClock : Task Instant := .call (I := surroundings) .readClock

/-- What the stopwatch shows. -/
def readStopwatch : Task Span := .call (I := surroundings) .readStopwatch

/-- Reports an observation. -/
def observe (observation : Metrics.Observation) : Task Unit :=
  .call (I := surroundings) (.observe observation)

/-- Writes an entry into the journal. -/
def note (entry : Entry) : Task Unit := .call (I := surroundings) (.note entry)

end Database

end NotificationFeed
