import BrowserScenario.Settings.Field
import BrowserScenario.Variables.Basic

/-!
# Settings

The settings of a suite are fields with defaults. A field is given by an argument, by a variable of
the environment or by an assignment file, in this order of preference; the names of variables and
assignments are matched in letters of either case. Main statement: every field that is not valid
is reported, in the order of the fields.
-/

namespace BrowserScenario

open BrowserScenario.Settings

/-- The settings of a suite. -/
structure Settings where
  /-- Milliseconds for actions, navigation and assertions. -/
  selectorTimeout : Int
  /-- Milliseconds for a whole scenario. -/
  scriptTimeout : Int
  /-- How often a failed scenario is run again. -/
  retry : Int
  headless : Bool
  /-- Milliseconds between the operations of the browser. -/
  slowMotion : Int
  /-- An engine, or all of them. -/
  browser : String
  appUrl : String
  video : Bool
  trace : Bool
  resultsDirectory : String
  scenarioFile : String
  variablesFile : String
  testId : String
  testTag : String
  testName : String
deriving DecidableEq, Repr

/-- Where the values of settings come from: arguments by exact name, the environment, and the
assignments of a file. -/
structure SettingSources where
  arguments : List (String × Data)
  environment : Variables
  assigned : List (List Char × Option (List Char))

/-- A name in lower-case letters. -/
def foldedName (name : List Char) : List Char :=
  name.map Char.toLower

/-- The value of the last entry whose name is the given one but for the case of letters. -/
def lastFolded? {α : Type} (name : String) (entries : List (List Char × α)) : Option α :=
  (entries.reverse.find? fun entry => foldedName entry.1 == foldedName name.toList).map (·.2)

/-- The value that a variable of the environment gives. -/
def SettingSources.fromEnvironment? (sources : SettingSources) (name : String) : Option Data :=
  (lastFolded? name (sources.environment.entries.map fun entry => (entry.1.toList, entry.2))).map
    Data.text

/-- The value that an assignment gives. -/
def SettingSources.fromFile? (sources : SettingSources) (name : String) : Option Data :=
  (lastFolded? name sources.assigned).join.map fun value => Data.text (String.ofList value)

/-- The value of a field in the source that is preferred. -/
def SettingSources.value? (sources : SettingSources) (name : String) : Option Data :=
  (sources.arguments.lookup name) <|> sources.fromEnvironment? name <|> sources.fromFile? name

/-- A field with its default. -/
def SettingSources.field {α : Type} (sources : SettingSources) (name : String) (default : α)
    (check : Data → Checked α) : Checked α :=
  match sources.value? name with
  | some data => Checked.within (.field name) (check data)
  | none => .valid default

namespace Settings

/-- The settings that sources give. -/
def ofSources (sources : SettingSources) : Checked Settings :=
  Settings.mk <$> sources.field "SELECTOR_TIMEOUT" 30000 integer
    <*> sources.field "SCRIPT_TIMEOUT" 30000 count
    <*> sources.field "RETRY" 0 count
    <*> sources.field "HEADLESS" false truth
    <*> sources.field "SLOWMO" 0 integer
    <*> sources.field "BROWSER" allEngines engineChoice
    <*> sources.field "DEMO_APP_URL" "https://example.com" Checked.plainText
    <*> sources.field "VIDEO" true truth
    <*> sources.field "TRACE" false truth
    <*> sources.field "RESULTS_DIR" "test-results" Checked.plainText
    <*> sources.field "SCENARIO_FILE" "data/testScenarios.json" Checked.plainText
    <*> sources.field "ENV_FILE" ".env" Checked.plainText
    <*> sources.field "TEST_ID" "" trimmedText
    <*> sources.field "TEST_TAG" "" trimmedText
    <*> sources.field "TEST_NAME" "" trimmedText

/-- The fields that are not valid are all reported, in the order of the fields. -/
theorem mismatches_ofSources (sources : SettingSources) :
    (ofSources sources).mismatches
      = (sources.field "SELECTOR_TIMEOUT" 30000 integer).mismatches
        ++ (sources.field "SCRIPT_TIMEOUT" 30000 count).mismatches
        ++ (sources.field "RETRY" 0 count).mismatches
        ++ (sources.field "HEADLESS" false truth).mismatches
        ++ (sources.field "SLOWMO" 0 integer).mismatches
        ++ (sources.field "BROWSER" allEngines engineChoice).mismatches
        ++ (sources.field "DEMO_APP_URL" "https://example.com" Checked.plainText).mismatches
        ++ (sources.field "VIDEO" true truth).mismatches
        ++ (sources.field "TRACE" false truth).mismatches
        ++ (sources.field "RESULTS_DIR" "test-results" Checked.plainText).mismatches
        ++ (sources.field "SCENARIO_FILE" "data/testScenarios.json" Checked.plainText).mismatches
        ++ (sources.field "ENV_FILE" ".env" Checked.plainText).mismatches
        ++ (sources.field "TEST_ID" "" trimmedText).mismatches
        ++ (sources.field "TEST_TAG" "" trimmedText).mismatches
        ++ (sources.field "TEST_NAME" "" trimmedText).mismatches := by
  simp only [ofSources, Checked.mismatches_seq, Checked.mismatches_map]

/-- The names of the fields, in order. -/
def names : List String := [
  "SELECTOR_TIMEOUT", "SCRIPT_TIMEOUT", "RETRY", "HEADLESS", "SLOWMO", "BROWSER", "DEMO_APP_URL",
  "VIDEO", "TRACE", "RESULTS_DIR", "SCENARIO_FILE", "ENV_FILE", "TEST_ID", "TEST_TAG",
  "TEST_NAME"]

/-- The engines to run each scenario on. -/
def browsers (settings : Settings) : List String :=
  if settings.browser = allEngines then engines else [settings.browser]

end Settings

end BrowserScenario
