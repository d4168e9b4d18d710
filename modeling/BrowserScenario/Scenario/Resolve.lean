import BrowserScenario.Scenario.Basic
import BrowserScenario.Template

/-!
# Resolved scenarios

A scenario is resolved by replacing the placeholders of its address, of the selectors, values and
suppressing classes of its steps, and of the selectors and values of its expectations, in this
order. All else is kept. Without any variables a scenario stays as it is.
-/

namespace BrowserScenario

/-- A field with its placeholders replaced; an absent field stays absent. -/
def resolveField (values : Variables) : Option String → Except String (Option String)
  | none => .ok none
  | some text => some <$> Template.fill values text

/-- A step with its placeholders replaced. -/
def Step.resolve (values : Variables) : Step → Except String Step
  | .fill selector value =>
    return .fill (← resolveField values selector) (← resolveField values value)
  | .click selector skipClass =>
    return .click (← resolveField values selector) (← resolveField values skipClass)
  | .type selector value delay =>
    return .type (← resolveField values selector) (← resolveField values value) delay
  | .select selector value =>
    return .select (← resolveField values selector) (← resolveField values value)
  | .check selector => return .check (← resolveField values selector)
  | .uncheck selector => return .uncheck (← resolveField values selector)
  | .hover selector => return .hover (← resolveField values selector)
  | .wait value => return .wait (← resolveField values value)

/-- An expectation with its placeholders replaced. -/
def Expectation.resolve (values : Variables) : Expectation → Except String Expectation
  | .url value => return .url (← resolveField values value)
  | .text selector value =>
    return .text (← resolveField values selector) (← resolveField values value)
  | .notText selector value =>
    return .notText (← resolveField values selector) (← resolveField values value)
  | .visible selector => return .visible (← resolveField values selector)
  | .hidden selector => return .hidden (← resolveField values selector)
  | .hasAttribute selector name value =>
    return .hasAttribute (← resolveField values selector) name (← resolveField values value)
  | .count selector value =>
    return .count (← resolveField values selector) (← resolveField values value)

/-- A scenario with its placeholders replaced, or the first name that has no value. -/
def Scenario.resolve (values : Variables) (scenario : Scenario) : Except String Scenario :=
  if values.isEmpty then .ok scenario
  else do
    let url ← Template.fill values scenario.url
    let steps ← scenario.steps.mapM (Step.resolve values)
    let expectations ← scenario.expectations.mapM (Expectation.resolve values)
    return { scenario with url, steps, expectations }

end BrowserScenario
