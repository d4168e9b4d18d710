import BrowserScenario.Pattern.Matcher
import BrowserScenario.Scenario.Basic

/-!
# Selected scenarios

Scenarios are selected by identity, by tag and by a pattern for the name, one after the other. An
empty filter keeps everything. Of several scenarios with one identity the first is meant. A
pattern that cannot be read is an error even when nothing is left for it to match.
-/

namespace BrowserScenario

open BrowserScenario.Text

/-- What scenarios are selected by; an empty text asks for nothing. -/
structure Selection where
  id : String
  tag : String
  name : String
deriving DecidableEq, Repr

/-- The first scenario with an identity. -/
def scenarioWithId? (id : String) (scenarios : List Scenario) : Option Scenario :=
  scenarios.find? (·.id == id)

/-- The scenarios that carry a tag. -/
def scenariosWithTag (tag : String) (scenarios : List Scenario) : List Scenario :=
  scenarios.filter (·.tags.contains tag)

/-- The scenarios whose name a pattern matches somewhere, whatever the case of letters. -/
def scenariosWithName [CharacterNames] (pattern : String) (scenarios : List Scenario) :
    Except Pattern.Error (List Scenario) :=
  match Pattern.compile pattern with
  | .ok compiled => .ok (scenarios.filter fun scenario => compiled.search scenario.name)
  | .error error => .error error

/-- The scenarios that a selection keeps, in order. -/
def Selection.select [CharacterNames] (selection : Selection) (scenarios : List Scenario) :
    Except Pattern.Error (List Scenario) :=
  let identified :=
    if selection.id.isEmpty then scenarios else (scenarioWithId? selection.id scenarios).toList
  let tagged :=
    if selection.tag.isEmpty then identified else scenariosWithTag selection.tag identified
  if selection.name.isEmpty then .ok tagged else scenariosWithName selection.name tagged

end BrowserScenario
