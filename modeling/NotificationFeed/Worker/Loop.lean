import NotificationFeed.Worker.Message
/-!
# The loop of the worker

The worker polls its queue and handles what it gets, one message at a time,
until it is told to stop or the queue closes; then it closes the queue. What
the loop meets when it comes round is a turn. The signal to stop is looked at
first, and it also ends a poll that is still waiting; a message that is being
handled is finished before the signal is looked at again.
-/

namespace NotificationFeed

namespace Worker

/-- What the loop meets when it comes round. -/
inductive Turn where
  /-- The signal to stop is there. -/
  | stop
  /-- The signal to stop comes while the poll waits. -/
  | interrupted
  /-- The poll waits in vain. -/
  | timeout
  | message (message : Message)
  /-- The queue gives no more messages. -/
  | closed
  deriving DecidableEq, Repr, Inhabited

/-- How the loop ends. -/
inductive Ending where
  | stopped
  | queueClosed
  deriving DecidableEq, Repr, Inhabited

/-- The entry for a queue that gives no more messages. -/
def closedEntry : Entry := .warn "queue closed" []

/-- Takes one turn; gives the ending if the loop ends with it. -/
def step (config : Config) (w : World) : Turn → World × Option Ending
  | .stop => (w, some .stopped)
  | .interrupted => (w.record (.poll config.pollTimeout), some .stopped)
  | .timeout => (w.record (.poll config.pollTimeout), none)
  | .message m => (handle config m (w.record (.poll config.pollTimeout)), none)
  | .closed =>
    ((w.record (.poll config.pollTimeout)).record (.note closedEntry), some .queueClosed)

/-- Takes turns until the loop ends, and then closes the queue. Without an ending the loop still
runs. -/
def run (config : Config) : World → List Turn → World × Option Ending
  | w, [] => (w, none)
  | w, t :: ts =>
    match step config w t with
    | (w, none) => run config w ts
    | (w, some ending) => (w.record .closeQueue, some ending)

end Worker

end NotificationFeed
