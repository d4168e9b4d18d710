import BrowserScenario.Command.Usage

/-!
# Options of a command line

Options are read from left to right up to the first word that is neither an option nor the value
of one. That word and all that follow are handed on to the test runner, without the separators
among them. Of an option that is given several times the last value counts. Unknown options are
reported together, after all others were read. Asking for help stops the reading.
-/

namespace BrowserScenario.Command

/-- What a command line asks for. -/
structure Options where
  scenarios : Option String
  variablesFile : Option String
  testId : Option String
  testTag : Option String
  testName : Option String
  engine : Option String
  headless : Bool
  report : Option String
  logLevel : String
  rest : List String
deriving DecidableEq, Repr

/-- What an empty command line asks for. -/
def Options.none : Options :=
  { scenarios := .none, variablesFile := .none, testId := .none, testTag := .none, testName := .none,
    engine := .none, headless := false, report := .none, logLevel := "INFO", rest := [] }

/-- Why no options are read: help is asked for, or the command line cannot be used. -/
inductive Stop
  | help
  | usage (error : UsageError)
deriving DecidableEq, Repr

/-- The status with which a command ends that reads no options. -/
def Stop.status : Stop → Int
  | .help => 0
  | .usage _ => 2

/-- The options with a value given. -/
def Options.set (options : Options) (parameter : Parameter) (value : String) :
    Except Stop Options :=
  match parameter with
  | .scenarios => .ok { options with scenarios := some value }
  | .variablesFile => .ok { options with variablesFile := some value }
  | .testId => .ok { options with testId := some value }
  | .testTag => .ok { options with testTag := some value }
  | .testName => .ok { options with testName := some value }
  | .engine =>
    if engineChoices.contains value then .ok { options with engine := some value }
    else .error (.usage (.invalidEngine value))
  | .report => .ok { options with report := some value }
  | .logLevel => .ok { options with logLevel := value }

/-- Whether the letters joined to a short option for help are in order: they may ask for help once
more, and what else they say is ignored unless it starts with a dash or is a value. -/
def helpWith : List Char → Except UsageError Unit
  | [] => .ok ()
  | 'h' :: '=' :: value => .error (.ignoredValue .help (String.ofList value))
  | 'h' :: rest => helpWith rest
  | '-' :: rest => .error (.ignoredValue .help (String.ofList ('-' :: rest)))
  | _ => .ok ()

/-- What happens at an option for help. -/
def atHelp : Option Attached → Stop
  | .none => .help
  | some (.equals value) => .usage (.ignoredValue .help value)
  | some (.joined value) =>
    match helpWith value.toList with
    | .ok () => .help
    | .error error => .usage error

/-- The options of words, with the unknown ones so far. -/
def readWords (options : Options) (unknown : List String) :
    List (String × Word) → Except Stop (Options × List String)
  | [] => .ok (options, unknown)
  | (word, .argument) :: more => .ok ({ options with rest := word :: more.map (·.1) }, unknown)
  | (word, .separator) :: more => .ok ({ options with rest := word :: more.map (·.1) }, unknown)
  | (word, .unknown) :: more => readWords options (unknown ++ [word]) more
  | (_, .option .help attached) :: _ => .error (atHelp attached)
  | (_, .option .headless .none) :: more => readWords { options with headless := true } unknown more
  | (_, .option .headless (some (.equals value))) :: _ =>
    .error (.usage (.ignoredValue .headless value))
  | (_, .option .headless (some (.joined value))) :: _ =>
    .error (.usage (.ignoredValue .headless value))
  | (_, .option (.valued parameter) (some (.equals value))) :: more => do
    readWords (← options.set parameter value) unknown more
  | (_, .option (.valued parameter) (some (.joined value))) :: more => do
    readWords (← options.set parameter value) unknown more
  | (_, .option (.valued parameter) .none) :: (value, .argument) :: more => do
    readWords (← options.set parameter value) unknown more
  | (_, .option (.valued parameter) .none) :: _ =>
    .error (.usage (.missingValue (.valued parameter)))

/-- The options of a command line. -/
def readOptions (line : List String) : Except Stop Options :=
  match wordsOf line with
  | .error error => .error (.usage error)
  | .ok words =>
    match readWords .none [] words with
    | .error stop => .error stop
    | .ok (options, []) => .ok options
    | .ok (_, unknown) => .error (.usage (.unrecognized unknown))

/-- The arguments for the test runner: the rest of the command line without separators. -/
def Options.forwarded (options : Options) : List String :=
  options.rest.filter (· != "--")

end BrowserScenario.Command
