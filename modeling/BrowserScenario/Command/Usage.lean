import BrowserScenario.Data.Display
import BrowserScenario.Settings.Field
import BrowserScenario.Text.Decimal
import BrowserScenario.Text.Quoted

/-!
# Words of a command line

A word of a command line is an option, the separator of further arguments, or a plain argument. An
option may be shortened as long as one option is meant, and may have a value attached with an
equals sign. What looks like a negative number or has a space in it is no option. Other words that
start with a dash are unknown options.
-/

namespace BrowserScenario.Command

open BrowserScenario.Text

/-- An option that has a value. -/
inductive Parameter
  | scenarios
  | variablesFile
  | testId
  | testTag
  | testName
  | engine
  | report
  | logLevel
deriving DecidableEq, Repr

/-- An option. -/
inductive Flag
  | help
  | headless
  | valued (parameter : Parameter)
deriving DecidableEq, Repr

/-- The spellings of options, in the order in which they are listed. -/
def spellings : List (String × Flag) := [
  ("-h", .help), ("--help", .help), ("--scenarios", .valued .scenarios),
  ("--env-file", .valued .variablesFile), ("--id", .valued .testId), ("--tag", .valued .testTag),
  ("--name", .valued .testName), ("--browser", .valued .engine), ("--headless", .headless),
  ("--alluredir", .valued .report), ("--log-level", .valued .logLevel)]

/-- The spellings of an option in messages. -/
def Flag.label (flag : Flag) : String :=
  "/".intercalate ((spellings.filter (·.2 == flag)).map (·.1))

/-- A value attached to an option: after an equals sign, or directly after a single letter. -/
inductive Attached
  | equals (value : String)
  | joined (value : String)
deriving DecidableEq, Repr

/-- What a word of a command line is. -/
inductive Word
  | option (flag : Flag) (attached : Option Attached)
  | unknown
  | argument
  | separator
deriving DecidableEq, Repr

/-- Why a command line cannot be used. -/
inductive UsageError
  | ambiguous (word : String) (candidates : List String)
  | missingValue (flag : Flag)
  | ignoredValue (flag : Flag) (value : String)
  | invalidEngine (value : String)
  | unrecognized (words : List String)
deriving DecidableEq, Repr

/-- The engines that may be named on a command line. -/
def engineChoices : List String := Settings.allEngines :: Settings.engines

/-- The wording of an error at an option. -/
def atFlag (flag : Flag) (detail : String) : String :=
  "argument " ++ flag.label ++ ": " ++ detail

/-- The wording of an error. -/
def UsageError.message : UsageError → String
  | .ambiguous word candidates =>
    "ambiguous option: " ++ word ++ " could match " ++ Data.commaJoined candidates
  | .missingValue flag => atFlag flag "expected one argument"
  | .ignoredValue flag value => atFlag flag ("ignored explicit argument " ++ quoted value)
  | .invalidEngine value =>
    atFlag (.valued .engine)
      ("invalid choice: " ++ quoted value ++ " (choose from "
        ++ Data.commaJoined (engineChoices.map quoted) ++ ")")
  | .unrecognized words => "unrecognized arguments: " ++ " ".intercalate words

/-- A word at its first equals sign: what is before it, and what is after it if there is one. -/
def splitAttached (word : List Char) : List Char × Option (List Char) :=
  match word.dropWhile (· != '=') with
  | _ :: value => (word.takeWhile (· != '='), some value)
  | [] => (word, none)

/-- Whether a text, but for a line feed at its end, is made of digits. -/
def isDigitRun (s : List Char) : Bool :=
  let digits := if s.getLast? == some '\n' then s.dropLast else s
  !digits.isEmpty && digits.all fun c => (digitValue? c).isSome

/-- Whether a word looks like a negative number. -/
def isNegativeNumber : List Char → Bool
  | '-' :: rest =>
    isDigitRun rest
      || match rest.dropWhile fun c => (digitValue? c).isSome with
        | '.' :: fraction => isDigitRun fraction
        | _ => false
  | _ => false

/-- The options that a long word may be short for. -/
def candidates (stem : String) : List (String × Flag) :=
  spellings.filter fun spelling => stem.toList.isPrefixOf spelling.1.toList

/-- What a word is that starts with a dash and spells out no option. -/
def unknownWord (word : List Char) : Word :=
  if isNegativeNumber word || word.contains ' ' then .argument else .unknown

/-- What a word is that starts with a dash and spells out no option, even without its attached
value. -/
def abbreviated (word : String) : Except UsageError Word :=
  match word.toList with
  | '-' :: '-' :: _ =>
    let (stem, attached) := splitAttached word.toList
    match candidates (String.ofList stem) with
    | [] => .ok (unknownWord word.toList)
    | [(_, flag)] => .ok (.option flag (attached.map fun value => .equals (String.ofList value)))
    | several => .error (.ambiguous word (several.map (·.1)))
  | '-' :: letter :: value =>
    match spellings.lookup (String.ofList ['-', letter]) with
    | some flag => .ok (.option flag (some (.joined (String.ofList value))))
    | none => .ok (unknownWord word.toList)
  | _ => .ok .argument

/-- What a word is, in front of a separator. -/
def wordOf (word : String) : Except UsageError Word :=
  match word.toList with
  | '-' :: _ :: _ =>
    match spellings.lookup word with
    | some flag => .ok (.option flag none)
    | none =>
      match splitAttached word.toList with
      | (stem, some value) =>
        match spellings.lookup (String.ofList stem) with
        | some flag => .ok (.option flag (some (.equals (String.ofList value))))
        | none => abbreviated word
      | (_, none) => abbreviated word
  | _ => .ok .argument

/-- What the words of a command line are; after a separator all are arguments. -/
def wordsOf : List String → Except UsageError (List (String × Word))
  | [] => .ok []
  | word :: rest =>
    if word = "--" then .ok ((word, .separator) :: rest.map fun argument => (argument, .argument))
    else
      match wordOf word with
      | .error error => .error error
      | .ok kind =>
        match wordsOf rest with
        | .error error => .error error
        | .ok kinds => .ok ((word, kind) :: kinds)

end BrowserScenario.Command
