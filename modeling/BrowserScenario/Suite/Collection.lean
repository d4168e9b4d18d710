import BrowserScenario.Scenario.Load
import BrowserScenario.Scenario.Select
import BrowserScenario.Settings.Basic
import BrowserScenario.Suite.Marker

/-!
# Collected tests

A test that asks for scenarios is made once for each scenario of the document that the settings
select, and, if it also asks for engines, once for each engine. Without a document there are no
scenarios. A test of a scenario is labelled with its identity and name.
-/

namespace BrowserScenario.Suite

open BrowserScenario.Files BrowserScenario.Text

/-- What a test is made for, once for each item. -/
inductive Parameters
  | scenarios (selected : List Scenario)
  | engines (names : List String)
deriving DecidableEq, Repr

/-- Why tests cannot be collected. -/
inductive CollectionError
  | load (error : LoadError)
  | badName (text : String) (error : Pattern.Error)
deriving DecidableEq, Repr

/-- The wording of an error. -/
def CollectionError.message : CollectionError → String
  | .load error => error.message
  | .badName text error => error.message text.toList

/-- The name of the kind of an error. -/
def CollectionError.kind : CollectionError → String
  | .load error => error.kind
  | .badName _ error => error.kind

/-- The fixture that a test of engines asks for. -/
def engineFixture : String := "browser_name"

/-- The label of the test of a scenario. -/
def testLabel (scenario : Scenario) : String :=
  "[" ++ scenario.id ++ "] " ++ scenario.name

/-- The selection that settings make. -/
def selectionOf (settings : Settings) : Selection :=
  ⟨settings.testId, settings.testTag, settings.testName⟩

/-- The scenarios of a document that the settings select. -/
def selectedScenarios [CharacterNames] (settings : Settings) (tree : Tree) (directory : Location)
    (document : Option String) : Except CollectionError (List Scenario) :=
  match document with
  | none => .ok []
  | some path =>
    if path.isEmpty then .ok []
    else
      match loadScenarios tree directory path with
      | .error error => .error (.load error)
      | .ok scenarios =>
        match (selectionOf settings).select scenarios with
        | .error error => .error (.badName settings.testName error)
        | .ok selected => .ok selected

/-- What a test with the given fixtures is made for. -/
def collect [CharacterNames] (settings : Settings) (tree : Tree) (directory : Location)
    (document : Option String) (fixtures : List String) :
    Except CollectionError (List Parameters) :=
  if !fixtures.contains scenarioFixture then .ok []
  else
    match selectedScenarios settings tree directory document with
    | .error error => .error error
    | .ok selected =>
      .ok (.scenarios selected
        :: (if fixtures.contains engineFixture then [.engines settings.browsers] else []))

/-- The phases of a test, in order. -/
def phases : List String := ["setup", "call", "teardown"]

/-- The names under which the reports of the phases up to one are kept, in increasing order. -/
def reportNames (done : Nat) : List String :=
  tagSet ((phases.take done).map ("rep_" ++ ·))

/-- The options that the suite adds to the test runner; neither has a value by default. -/
def runnerOptions : List String := ["--scenarios", "--env-file"]

end BrowserScenario.Suite
