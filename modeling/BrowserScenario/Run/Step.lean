import BrowserScenario.Run.Browser
import BrowserScenario.Scenario.Basic

/-!
# Performed steps

A step is performed by one interaction with the page. A selector is needed except for waiting, and
a value that is absent is empty. A click with a suppressing class first asks for the classes of
the element and is not made when the class is among them. A step of any action may also be given
as a record with the fields of all actions; an action that is none of the known ones is rejected.
-/

namespace BrowserScenario

open BrowserScenario.Number BrowserScenario.Time

variable {σ : Type}

/-- The milliseconds of a pause that does not tell them. -/
def defaultPause : Int := 1000

/-- The integer that an optional text starts with, or a default. -/
def integerField (default : Int) (field : Option String) : Except Rejection Int :=
  (leadingInteger default (field.getD "").toList).mapError .tooManyDigits

/-- The selector of a step, which must not be empty. -/
def neededSelector (action : String) (selector : Option String) : Run σ String :=
  match filled? selector with
  | some selector => pure selector
  | none => Run.reject (.missingSelector action)

/-- Clicks on an element, unless it has the suppressing class. -/
def performClick (browser : Browser σ) (selector : String) (skipClass : Option String) :
    Run σ Unit :=
  match filled? skipClass with
  | none => Run.interact browser (.click selector)
  | some skipClass => do
    let classes ← Run.classList browser selector
    if classes.contains skipClass then Run.tell (.skipped selector skipClass)
    else Run.interact browser (.click selector)

/-- Performs a step. -/
def Step.perform (browser : Browser σ) (step : Step) : Run σ Unit :=
  match step with
  | .fill selector value => do
    let selector ← neededSelector step.action selector
    Run.interact browser (.fill selector (value.getD ""))
  | .click selector skipClass => do
    let selector ← neededSelector step.action selector
    performClick browser selector skipClass
  | .type selector value delay => do
    let selector ← neededSelector step.action selector
    Run.interact browser (.typeText selector (value.getD "") (Duration.orZero delay))
  | .select selector value => do
    let selector ← neededSelector step.action selector
    Run.interact browser (.selectOption selector (value.getD ""))
  | .check selector => do
    let selector ← neededSelector step.action selector
    Run.interact browser (.check selector)
  | .uncheck selector => do
    let selector ← neededSelector step.action selector
    Run.interact browser (.uncheck selector)
  | .hover selector => do
    let selector ← neededSelector step.action selector
    Run.interact browser (.hover selector)
  | .wait value => do
    let pause ← Run.ofExcept (integerField defaultPause value)
    Run.interact browser (.wait (max 0 pause))

/-- A step of any action with the fields of all actions. -/
structure StepRecord where
  action : String
  selector : Option String
  value : Option String
  skipClass : Option String
  delay : Option Duration
deriving DecidableEq, Repr

/-- The step that a record is, if its action is known. -/
def StepRecord.step? (record : StepRecord) : Option Step :=
  match record.action with
  | "fill" => some (.fill record.selector record.value)
  | "click" => some (.click record.selector record.skipClass)
  | "type" => some (.type record.selector record.value record.delay)
  | "select" => some (.select record.selector record.value)
  | "check" => some (.check record.selector)
  | "uncheck" => some (.uncheck record.selector)
  | "hover" => some (.hover record.selector)
  | "wait" => some (.wait record.value)
  | _ => none

/-- Performs the step that a record is. -/
def StepRecord.perform (browser : Browser σ) (record : StepRecord) : Run σ Unit :=
  match record.step? with
  | some step => step.perform browser
  | none => Run.reject (.unknownAction record.action)

/-- Performs steps given as records, in order and up to the first failure. -/
def performRecords (browser : Browser σ) (records : List StepRecord) : Run σ Unit :=
  records.forM (StepRecord.perform browser)

end BrowserScenario
