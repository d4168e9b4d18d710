import BrowserScenario.Log.Entry
import BrowserScenario.Scenario.Basic

/-!
# Events of runs

What a run tells while it goes on: that a scenario starts, that a click is suppressed, that the
scenario passed or failed, and whether a screenshot of the failure was taken.
-/

namespace BrowserScenario

open BrowserScenario.Log

/-- Something a run tells. -/
inductive Event
  | started (summary : Summary) (url : String)
  | skipped (selector skipClass : String)
  | passed (summary : Summary)
  | failed (summary : Summary) (message kind : String)
  | captured (id : String) (path : List Char)
  | notCaptured (id : String)
deriving DecidableEq, Repr

/-- The fields that identify a scenario. -/
def Summary.fields (summary : Summary) : List (String × Data) := [
  ("scenario_id", .text summary.id), ("steps", .int summary.steps),
  ("expectations", .int summary.expectations)]

/-- The log entry of an event. -/
def Event.entry : Event → Entry
  | .started summary url =>
    ⟨.info, "scenario.start", summary.fields ++ [("url", .text url)]⟩
  | .skipped selector skipClass =>
    ⟨.debug, "step.skipped",
      [("action", .text "click"), ("selector", .text selector), ("has_class", .text skipClass)]⟩
  | .passed summary => ⟨.info, "scenario.passed", summary.fields⟩
  | .failed summary message kind =>
    ⟨.error, "scenario.failed",
      summary.fields ++ [("error", .text message), ("error_type", .text kind)]⟩
  | .captured id path =>
    ⟨.info, "failure.screenshot",
      [("scenario_id", .text id), ("path", .text (String.ofList path))]⟩
  | .notCaptured id =>
    ⟨.warning, "failure.screenshot_skipped",
      [("scenario_id", .text id), ("reason", .text "page closed")]⟩

end BrowserScenario
