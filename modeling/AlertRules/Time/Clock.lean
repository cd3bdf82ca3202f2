import AlertRules.Fault
import AlertRules.Time.Moment

/-!
The clock of a run.

A run sees two clocks that advance together: one that counts seconds
from the start of the run, for measuring ages, and the calendar, for
stamping what is written. `Clock.start` is the moment at which a run
starts. A run that goes on beyond the calendar cannot tell the date any
more; it can still measure ages.
-/

namespace AlertRules

/-- The seconds that have passed since the start of the run. -/
structure Clock where
  elapsed : Double := .zero
  deriving DecidableEq

namespace Clock

/-- The start of a run, in microseconds since the start of 1970. -/
def start : Int := 1767225600000000

/-- A finite number of seconds in microseconds, a half going to the even
neighbour. The whole seconds are exact; their fraction is scaled as a
floating-point number. -/
def microsOf (seconds : Double) : Int :=
  let whole := seconds.truncate
  let fraction := seconds.add (.ofInt (-whole))
  let units := whole * 1000000 * Double.unitsOfOne + (fraction.mul (.ofInt 1000000)).units
  let n := Double.roundDiv units.natAbs Double.unitsOfOne
  if units < 0 then -(n : Int) else n

def elapsedMicros (c : Clock) : Except Fault Int :=
  match c.elapsed with
  | .nan _ => .error .undefinedTime
  | .inf _ => .error .unsupported
  | seconds => .ok (microsOf seconds)

def now (c : Clock) : Except Fault Moment := do
  match Moment.ofMicros? (start + (← c.elapsedMicros)) with
  | some m => if m.year = 0 then throw .unsupported else pure m
  | none => throw .unsupported

/-- The moment that the calendar shows, in whole seconds since the start
of 1970. -/
def seconds (c : Clock) : Except Fault Int := do
  let _ ← c.now
  pure ((start + (← c.elapsedMicros)).tdiv 1000000)

def advance (c : Clock) (seconds : Double) : Clock := ⟨c.elapsed.add seconds⟩

end Clock

end AlertRules
