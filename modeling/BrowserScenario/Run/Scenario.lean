import BrowserScenario.Run.Diagnosis
import BrowserScenario.Run.Expectation
import BrowserScenario.Scenario.Resolve

/-!
# Runs of scenarios

A scenario is run by resolving its placeholders, leading the browser to its address, performing
its steps and checking its expectations, in this order and up to the first failure. A failure
after the start is told, a screenshot is taken, and the failure stands unless taking the
screenshot fails in turn. An interrupt stops the run at once.
-/

namespace BrowserScenario

variable {σ : Type}

/-- Visits the address of a resolved scenario, performs its steps and checks its expectations. -/
def Scenario.perform (browser : Browser σ) (scenario : Scenario) : Run σ Unit := do
  Run.interact browser (.navigate scenario.url)
  scenario.steps.forM (Step.perform browser)
  scenario.expectations.forM (Expectation.perform browser)

/-- Tells a failure and takes a screenshot, and then fails; an interrupt is only handed on. -/
def Scenario.diagnose (browser : Browser σ) (setting : Setting) (scenario : Scenario)
    (failure : Failure) : Run σ Unit := do
  if failure.isInterrupt then throw failure
  else
    Run.tell (.failed scenario.summary failure.message failure.kind)
    let _ ← captureFailure browser setting scenario.id
    throw failure

/-- Runs a resolved scenario. -/
def Scenario.runResolved (browser : Browser σ) (setting : Setting) (scenario : Scenario) :
    Run σ Unit := do
  Run.tell (.started scenario.summary scenario.url)
  tryCatch (scenario.perform browser) (scenario.diagnose browser setting)
  Run.tell (.passed scenario.summary)

/-- Runs a scenario with variables for its placeholders. -/
def Scenario.run (browser : Browser σ) (setting : Setting) (values : Variables)
    (scenario : Scenario) : Run σ Unit :=
  match scenario.resolve values with
  | .ok resolved => resolved.runResolved browser setting
  | .error name => throw (.missingVariable name)

end BrowserScenario
