import NotificationFeed.Journal
/-!
# The handle of a worker

Whoever started a worker holds a handle: it tells whether the loop still runs
and closes it. Closing waits for the loop to end; closing again does nothing,
and neither does closing a worker that never ran.
-/

namespace NotificationFeed

namespace Worker

/-- The handle of a worker: its loop, as long as nobody has asked to close it. -/
inductive Handle where
  /-- The loop was never started, or it was closed. -/
  | idle
  | running
  /-- The loop has ended by itself. -/
  | finished
  deriving DecidableEq, Repr, Inhabited

namespace Handle

/-- Whether the loop is there and has not ended. -/
def isRunning : Handle → Bool
  | running => true
  | idle | finished => false

/-- The entry for a worker that was closed. -/
def closedEntry : Entry := .info "consumer closed" []

/-- Closes a worker: the loop ends, if it has not, and that is written down. An idle worker stays
as it is. -/
def close : Handle → List Entry × Handle
  | idle => ([], idle)
  | running | finished => ([closedEntry], idle)

end Handle

end Worker

end NotificationFeed
