import NotificationFeed.Time.Span
/-!
# The timer

A sleep that is begun at a moment ends at another one, and which one that is
lies with the runtime. What it promises of its timer is `Timer.Keeps`: no
sleep ends before its time, each ends on a tick of a millisecond and less
than one tick after its time, and a sleep for longer than the longest one is
cut to that. Moments are counted from the start of the timer.
-/

namespace NotificationFeed

/-- When a sleep ends that is begun at `now` and is to last `span`. -/
structure Timer where
  wake (now span : Span) : Span

namespace Timer

/-- The tick of a timer: one millisecond. -/
def tick : Span := Span.ofMillis 1

/-- **What a timer promises**, the length of its longest sleep given. -/
structure Keeps (timer : Timer) (longest : Span) : Prop where
  /-- No sleep ends before its time. -/
  elapsed (now span : Span) : now + min span longest ≤ timer.wake now span
  /-- It ends less than a tick after it. -/
  prompt (now span : Span) : timer.wake now span < now + min span longest + tick
  /-- It ends on a tick. -/
  onTick (now span : Span) : timer.wake now span % tick = 0
  /-- The longest sleep lasts whole ticks. -/
  longest_whole : longest % tick = 0

/-- The timer that ends every sleep on the first tick at which its time is over. -/
def ticking (longest : Span) : Timer where
  wake now span := (now + min span longest + (tick - 1)) / tick * tick

theorem keeps_ticking {longest : Span} (h : longest % tick = 0) :
    (ticking longest).Keeps longest where
  elapsed now span := by
    simp only [ticking, tick, Span.ofMillis, Span]
    omega
  prompt now span := by
    simp only [ticking, tick, Span.ofMillis, Span]
    omega
  onTick _ _ := Nat.mul_mod_left _ _
  longest_whole := h

/-- **In whole ticks a sleep is exact.** -/
theorem Keeps.wake_eq {timer : Timer} {longest now span : Span} (h : timer.Keeps longest)
    (hnow : now % tick = 0) (hspan : span % tick = 0) :
    timer.wake now span = now + min span longest := by
  have helapsed := h.elapsed now span
  have hprompt := h.prompt now span
  have honTick := h.onTick now span
  have hlongest := h.longest_whole
  simp only [tick, Span.ofMillis, Span] at *
  omega

end Timer

end NotificationFeed
