import NotificationFeed.Program
/-!
# Programs on their way

A program that shares its state with others is taken call by call: between
two of its calls may lie any calls of the others. A program that has ended,
well or not, makes no call any more.
-/

namespace NotificationFeed

/-- A program on its way, or what ended it. -/
abbrev Thread (I : Interface) (α : Type) : Type := Except Panic (Program I α)

namespace Thread

variable {I : Interface} {α σ : Type}

/-- Makes the next call, if there is one. -/
def step (answer : Program.Answerer I σ) : Thread I α → σ → Thread I α × σ
  | .ok (.ask call resume), s =>
    match answer call s with
    | (.ok reply, s) => (.ok (resume reply), s)
    | (.error panic, s) => (.error panic, s)
  | .ok (.done result), s => (.ok (.done result), s)
  | .error panic, s => (.error panic, s)

/-- What a thread has come to, if it has ended. -/
def result? : Thread I α → Option (Except Panic α)
  | .ok (.done result) => some (.ok result)
  | .ok (.ask ..) => none
  | .error panic => some (.error panic)

end Thread

end NotificationFeed
