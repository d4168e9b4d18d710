import BrowserScenario.Command.Options
import BrowserScenario.Log.Entry
import BrowserScenario.Settings.Load
import BrowserScenario.Suite.Arguments

/-!
# Launching a suite

The command reads its options, sets the variables of the environment that the options stand for,
reads the settings, and starts the test runner in that environment. Two log entries tell the start
and the end of the suite.
-/

namespace BrowserScenario.Command

open BrowserScenario.Files BrowserScenario.Log BrowserScenario.Suite

/-- Why a command fails. -/
inductive CommandError
  | stopped (stop : Stop)
  | level (refusal : UnknownLevel)
  | nullCharacter
  | settings (error : SettingsError)
deriving DecidableEq, Repr

/-- Where a command is given: its environment, the files, the working directory and the root of
the project. -/
structure Surroundings where
  environment : Variables
  tree : Tree
  directory : List Char
  project : List Char

/-- What the test runner is started with. -/
structure Started where
  arguments : List String
  environment : Variables

/-- The settings that options stand for, by name, in the order in which they are made. -/
def Options.exported (options : Options) : List (String × Option String) := [
  ("TEST_ID", options.testId), ("TEST_TAG", options.testTag), ("TEST_NAME", options.testName),
  ("BROWSER", options.engine), ("HEADLESS", if options.headless then some "true" else .none)]

/-- An environment with a variable set, if there is a value for it. -/
def exportOne (environment : Variables) : String × Option String → Variables
  | (_, .none) => environment
  | (name, some value) => environment.set name value

/-- The environment in which the test runner is started. -/
def Options.environment (options : Options) (environment : Variables) : Variables :=
  options.exported.foldl exportOne environment

/-- Whether a text has a null character. -/
def hasNull (s : String) : Bool :=
  s.toList.contains '\x00'

/-- Whether a value for the environment has a null character. -/
def Options.hasNullValue (options : Options) : Bool :=
  options.exported.any fun setting => setting.2.any hasNull

/-- A text that is not empty, or else a default. -/
def orDefault (given : Option String) (default : String) : String :=
  match given with
  | some text => if text.isEmpty then default else text
  | .none => default

/-- The test runner's start that options and settings ask for. -/
def launchOf (options : Options) (settings : Settings) : Launch where
  scenarios := (orDefault options.scenarios settings.scenarioFile).toList
  variablesFile := some (orDefault options.variablesFile settings.variablesFile).toList
  report := (options.report.filter (!·.isEmpty)).map String.toList
  extra := options.forwarded

/-- A text as a value, or null for an empty one. -/
def textOrNull (s : String) : Data :=
  if s.isEmpty then .null else .text s

/-- The entry that tells the start of a suite. -/
def startEntry (settings : Settings) (launch : Launch) : Log.Entry :=
  ⟨.info, "suite.start", [
    ("scenarios", .text (String.ofList (tidy launch.scenarios))),
    ("test_id", textOrNull settings.testId), ("test_tag", textOrNull settings.testTag),
    ("test_name", textOrNull settings.testName),
    ("browsers", .list (settings.browsers.map Data.text))]⟩

/-- The entry that tells the end of a suite. -/
def endEntry (status : Int) : Log.Entry :=
  ⟨.info, "suite.finished", [("exit_code", .int status)]⟩

/-- What a command did: its status or why it failed, what it told, and how it started the test
runner if it came to that. -/
structure Performed where
  result : Except CommandError Int
  entries : List Log.Entry
  started : Option Started

/-- A command that failed before it told anything. -/
def Performed.failed (error : CommandError) : Performed :=
  ⟨.error error, [], .none⟩

/-- Launches the suite that options and settings ask for, with a test runner that gives a status. -/
def launch (runner : Started → Int) (surroundings : Surroundings) (options : Options)
    (environment : Variables) (settings : Settings) : Performed :=
  let launch := launchOf options settings
  match launch.arguments surroundings.project surroundings.directory with
  | .error _ => ⟨.error .nullCharacter, [startEntry settings launch], .none⟩
  | .ok arguments =>
    let started : Started := ⟨arguments, environment⟩
    let status := runner started
    ⟨.ok status, [startEntry settings launch, endEntry status], some started⟩

/-- Performs a command line with a test runner that gives a status. -/
def perform (runner : Started → Int) (surroundings : Surroundings) (line : List String) :
    Performed :=
  match readOptions line with
  | .error stop => .failed (.stopped stop)
  | .ok options =>
    match threshold options.logLevel with
    | .error refusal => .failed (.level refusal)
    | .ok _ =>
      if options.hasNullValue then .failed .nullCharacter
      else
        let environment := options.environment surroundings.environment
        match loadSettings surroundings.tree (namesOf surroundings.directory) [] environment with
        | .error error => .failed (.settings error)
        | .ok settings => launch runner surroundings options environment settings

/-- The wording of an error. -/
def CommandError.message : CommandError → String
  | .stopped stop => Data.intText stop.status
  | .level refusal => refusal.message
  | .nullCharacter => "embedded null byte"
  | .settings error => error.message

/-- The name of the kind of an error. -/
def CommandError.kind : CommandError → String
  | .stopped _ => "SystemExit"
  | .level _ => "ValueError"
  | .nullCharacter => "ValueError"
  | .settings error => error.kind

/-- The name of the program in its messages. -/
def programName : String := "uiscenario"

/-- The status with which a failed command ends. -/
def CommandError.status : CommandError → UInt32
  | .stopped stop => UInt32.ofNat stop.status.toNat
  | _ => 1

/-- The threshold of the log that a command line asks for; without a usable one nothing is told. -/
def shownFrom (line : List String) : Nat :=
  match readOptions line with
  | .ok options =>
    match threshold options.logLevel with
    | .ok rank => rank
    | .error _ => 0
  | .error _ => 0

/-- How the command is used. -/
def usage : String :=
  "usage: " ++ programName ++ String.join (spellings.map fun spelling => " [" ++ spelling.1 ++ "]")
    ++ " ..."

/-- What is said to someone whose command line cannot be used. -/
def CommandError.complaint : CommandError → Option String
  | .stopped (.usage error) => some (programName ++ ": error: " ++ error.message)
  | _ => .none

end BrowserScenario.Command
