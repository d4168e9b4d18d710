import BrowserScenario.Number.Shortest

/-!
# Durations

A duration in milliseconds is written as a whole number or as a floating point number, and is
handed on as it was written. Zero in either spelling, and an absent duration, are the whole
number zero.
-/

namespace BrowserScenario.Time

open BrowserScenario.Number

/-- A number of milliseconds in one of two spellings. -/
inductive Duration
  | whole (count : Int)
  | floating (count : Binary64)
deriving DecidableEq, Repr

/-- Whether a duration is zero. -/
def Duration.isZero : Duration → Bool
  | .whole count => count == 0
  | .floating count => count.isZero

/-- A duration that may be absent, with all that is zero in one spelling. -/
def Duration.orZero : Option Duration → Duration
  | some duration => if duration.isZero then .whole 0 else duration
  | none => .whole 0

end BrowserScenario.Time
