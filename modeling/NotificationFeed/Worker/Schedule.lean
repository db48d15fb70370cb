import NotificationFeed.Worker.Loop
import NotificationFeed.Worker.Handle
/-!
# The worker in time

How long a poll lasts and what it gives lies with the queue: a message may be
there at once or come later, and the queue may also let a poll end without
one, at its timeout or, where the timeout is zero, at once. So a queue is the
row of its polls. Together with the moment at which the worker is told to stop
it decides the turns of the loop: the signal to stop ends a poll that is not
over yet, and it goes before what a poll gives at the same moment. Time passes
while a poll waits and while a message is handled.
-/

namespace NotificationFeed

namespace Worker

/-- What a poll gives. -/
inductive PollResult where
  | message (message : Message)
  /-- Nothing came within the timeout. -/
  | timeout
  /-- The queue gives no more messages. -/
  | closed
  deriving DecidableEq, Repr, Inhabited

/-- The turn that the loop takes with it. -/
def PollResult.turn : PollResult → Turn
  | message m => .message m
  | timeout => .timeout
  | closed => .closed

/-- One poll of the queue, if no signal ends it: how long it lasts, and what it gives then. -/
structure Poll where
  lasts : Span
  result : PollResult
  deriving DecidableEq, Repr, Inhabited

/-- The world when the stop signal ends a poll. -/
def interrupt (config : Config) (stopAt : Span) (w : World) : World :=
  (step config (w.elapse (stopAt - w.stopwatch)) .interrupted).1.record .closeQueue

/-- Runs the loop on the polls of a queue until it is told to stop at `stopAt`. Behind the last of
the polls there is one that is still waiting when the signal comes. -/
def runUntil (config : Config) (stopAt : Span) : List Poll → World → World × Ending
  | polls, w =>
    if stopAt ≤ w.stopwatch then (w.record .closeQueue, .stopped)
    else
      match polls with
      | [] => (interrupt config stopAt w, .stopped)
      | poll :: polls =>
        if stopAt ≤ w.stopwatch + poll.lasts then (interrupt config stopAt w, .stopped)
        else
          match step config (w.elapse poll.lasts) poll.result.turn with
          | (w, none) => runUntil config stopAt polls w
          | (w, some ending) => (w.record .closeQueue, ending)

/-- How a worker that is closed at a moment fares. -/
structure Report where
  world : World
  /-- Whether the loop was running when it was told to stop. -/
  runningBefore : Bool
  runningAfter : Bool

/-- Starts a worker on a queue, closes it at `stopAt` and closes it again. -/
def serve (config : Config) (stopAt : Span) (polls : List Poll) (w : World) : Report :=
  let (w, ending) := runUntil config stopAt polls w
  let handle : Handle := if ending = .stopped then .running else .finished
  let (first, closed) := handle.close
  let (second, closedTwice) := closed.close
  { world := (first ++ second).foldl (fun w e => w.record (.note e)) w
    runningBefore := handle.isRunning
    runningAfter := closedTwice.isRunning }

end Worker

end NotificationFeed
