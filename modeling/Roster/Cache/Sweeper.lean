import Roster.Text.Braced
import Roster.Time.Duration

/-!
# The sweeper

A sweeper is due once in every interval of a timer that never goes back.

* `Sweeper.start` — the first deadline is one interval ahead; an interval of more than thirty years is cut off.
  Without a timer nothing is ever due.
* `Sweeper.poll` — whether a sweep is due, and the next deadline: whole intervals after the old one, or one
  interval after the poll when that comes more than five milliseconds late.  The first poll ends a sweeper
  without an interval.
* `Sweeper.lt_nextDeadline` — the next deadline lies ahead.
* `Sweeper.stop` — no sweep is due any more.
-/

set_option autoImplicit false

namespace Roster

/-- When the next sweep is due on the timer. -/
structure Sweeper where
  interval : Duration
  deadline : Duration
  /-- Whether a timer wakes the sweeper. -/
  alive : Bool
  stopped : Bool
deriving DecidableEq, Repr

namespace Sweeper

/-- A poll that is at most this late counts as being in time. -/
def tolerance : Duration := .ofMillis 5

/-- The longest interval: thirty years. -/
def longest : Duration := .ofSeconds (30 * 365 * 86400)

def start (hasTimer : Bool) (interval timer : Duration) : Sweeper :=
  let interval : Duration := ⟨min interval.nanos longest.nanos⟩
  ⟨interval, ⟨timer.nanos + interval.nanos⟩, hasTimer, false⟩

/-- Whether sweeps still happen. -/
def isRunning (s : Sweeper) : Bool := s.alive && !s.stopped

def stop (s : Sweeper) : Sweeper := { s with stopped := true }

/-- Whether a sweep is due. -/
def isDue (s : Sweeper) (timer : Duration) : Bool :=
  s.isRunning && s.deadline.nanos ≤ timer.nanos

/-- The deadline after a sweep: in step with the old one after a sweep in time, else counted from now on. -/
def nextDeadline (s : Sweeper) (timer : Duration) : Duration :=
  let late := timer.nanos - s.deadline.nanos
  if late ≤ tolerance.nanos then
    ⟨s.deadline.nanos + (late / s.interval.nanos + 1) * s.interval.nanos⟩
  else ⟨timer.nanos + s.interval.nanos⟩

theorem lt_nextDeadline {s : Sweeper} (h : 0 < s.interval.nanos) (timer : Duration) :
    timer.nanos < (s.nextDeadline timer).nanos := by
  unfold nextDeadline
  simp only
  split
  · have hd := Nat.div_add_mod (timer.nanos - s.deadline.nanos) s.interval.nanos
    have hm := Nat.mod_lt (timer.nanos - s.deadline.nanos) h
    dsimp only
    rw [Nat.add_mul, Nat.one_mul, Nat.mul_comm _ s.interval.nanos]
    omega
  · exact Nat.lt_add_of_pos_right h

/-- Whether a sweep is due, and the sweeper after it. -/
def poll (s : Sweeper) (timer : Duration) : Bool × Sweeper :=
  if s.interval.nanos = 0 then (false, { s with alive := false })
  else if s.isDue timer then (true, { s with deadline := s.nextDeadline timer })
  else (false, s)

/-- Whether it was stopped, on one line. -/
def describe (s : Sweeper) : String := Text.braced "Sweeper" [("stopped", toString s.stopped)]

end Sweeper

end Roster
