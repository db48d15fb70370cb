import NotificationFeed.Program
/-!
# Programs in finer steps

What is one atomic call for a program may be a program of its own for the one
who answers it. Put in its place, the two are one program, and what else
happens may happen between the finer steps.
-/

namespace NotificationFeed

/-- Two interfaces beside each other. -/
abbrev Interface.sum (I J : Interface) : Interface where
  Call := I.Call ⊕ J.Call
  Reply := Sum.elim I.Reply J.Reply

namespace Program

variable {I J : Interface} {α : Type}

/-- Puts a program in the place of each call. -/
def refine (answer : (c : I.Call) → Program J (I.Reply c)) : Program I α → Program J α
  | done a => done a
  | ask c k => answer c >>= fun r => (k r).refine answer

end Program

end NotificationFeed
