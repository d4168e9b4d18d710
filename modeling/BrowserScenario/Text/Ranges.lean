/-!
# Sets of code points as sorted ranges

A property of characters is stored as an increasing array of closed ranges of code points, and
membership is decided by bisection.
-/

namespace BrowserScenario.Text

/-- Bisection for a code point between two positions of a sorted array of ranges. -/
def inRangesBetween (ranges : Array (Nat × Nat)) (code low high : Nat) : Bool :=
  if _h : low < high then
    let middle := (low + high) / 2
    match ranges[middle]? with
    | none => false
    | some (first, last) =>
      if code < first then inRangesBetween ranges code low middle
      else if last < code then inRangesBetween ranges code (middle + 1) high
      else true
  else false
termination_by high - low

/-- Membership of a code point in a sorted array of closed ranges. -/
def inRanges (ranges : Array (Nat × Nat)) (code : Nat) : Bool :=
  inRangesBetween ranges code 0 ranges.size

end BrowserScenario.Text
