import BrowserScenario.Data.Basic

/-!
# Markers of scenario tests

Every test of a scenario carries markers: a deadline in seconds, and the number of reruns where a
failed test is run again.
-/

namespace BrowserScenario.Suite

open BrowserScenario.Number

/-- A marker with its arguments and named options. -/
structure Marker where
  name : String
  arguments : List Data
  options : List (String × Data)

/-- A deadline that is beyond all floating point numbers. -/
structure FarDeadline where
  milliseconds : Int
deriving DecidableEq, Repr

/-- The wording of a refusal. -/
def FarDeadline.message (_ : FarDeadline) : String :=
  "integer division result too large for a float"

/-- Milliseconds as seconds, rounded to the nearest number. -/
def seconds (milliseconds : Int) : Except FarDeadline Binary64 :=
  match Binary64.ofQuotient (milliseconds < 0) milliseconds.natAbs 1000 with
  | .infinite _ => .error ⟨milliseconds⟩
  | x => .ok x

/-- The marker for a deadline. -/
def deadlineMarker (limit : Binary64) : Marker :=
  ⟨"timeout", [.float limit], []⟩

/-- The markers for reruns: none where there are no reruns. -/
def rerunMarkers (retries : Int) : List Marker :=
  if 0 < retries then [⟨"flaky", [], [("reruns", .int retries)]⟩] else []

/-- The markers of every scenario test. -/
def scenarioMarkers (deadline retries : Int) : Except FarDeadline (List Marker) :=
  match seconds deadline with
  | .ok limit => .ok (deadlineMarker limit :: rerunMarkers retries)
  | .error refusal => .error refusal

/-- The fixture that a test of scenarios asks for. -/
def scenarioFixture : String := "scenario"

/-- The markers that a test with the given fixtures gets. -/
def markersFor (deadline retries : Int) (fixtures : List String) :
    Except FarDeadline (List Marker) :=
  match scenarioMarkers deadline retries with
  | .ok markers => .ok (if fixtures.contains scenarioFixture then markers else [])
  | .error refusal => .error refusal

end BrowserScenario.Suite
