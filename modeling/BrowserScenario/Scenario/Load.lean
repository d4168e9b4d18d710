import BrowserScenario.Files.Tree
import BrowserScenario.Json.Reader
import BrowserScenario.Scenario.Schema
import BrowserScenario.Text.Casing
import BrowserScenario.Text.Lines
import BrowserScenario.Yaml.Value

/-!
# Loading scenarios

The scenarios of a file are read in three stages: the bytes of the file as text, the text as a
decoded value, and the value as a scenario document. The ending of the file name tells whether the
text is YAML; otherwise it is JSON. A file that cannot be read, a text that cannot be parsed and a
value that does not fit the schema are problems of the document, which are listed. Failures of their
own are a file name with a null character, bytes that are not text, some values of YAML scalars, a
text whose value is nested too deep, and a whole number that stands for a text and has too many
digits to be written.
-/

namespace BrowserScenario

open BrowserScenario.Files BrowserScenario.Text

/-- A problem of a scenario document. -/
inductive DocumentProblem
  | unreadable (path : String) (error : FileError)
  | notJson (path : String) (detail : String)
  | notYaml (path : String)
  | badScalar (path : String) (detail : String)
  | mismatch (located : Located)
deriving DecidableEq, Repr

/-- The wording of a problem. -/
def DocumentProblem.message : DocumentProblem → String
  | .unreadable path error => "cannot read " ++ path ++ ": " ++ error.message
  | .notJson path detail => "cannot parse " ++ path ++ ": " ++ detail
  | .notYaml path => "cannot parse " ++ path
  | .badScalar path detail => "cannot parse " ++ path ++ ": " ++ detail
  | .mismatch located => located.message

/-- Why scenarios cannot be loaded. -/
inductive LoadError
  | invalid (first : DocumentProblem) (more : List DocumentProblem)
  | nullCharacter
  | notUtf8 (failure : Utf8Failure)
  | tooDeep
  | scalar (kind : String) (detail : String)
  | longNumber
deriving DecidableEq, Repr

/-- The problems that an error lists. -/
def LoadError.problems : LoadError → List DocumentProblem
  | .invalid first more => first :: more
  | _ => []

/-- The wording of a list of problems. -/
def problemsMessage (problems : List String) : String :=
  "Invalid scenario data:\n" ++ "\n".intercalate (problems.map ("  - " ++ ·))

/-- The wording of an error. -/
def LoadError.message : LoadError → String
  | .invalid first more => problemsMessage ((first :: more).map DocumentProblem.message)
  | .nullCharacter => "embedded null byte"
  | .notUtf8 failure => failure.message
  | .tooDeep => "maximum recursion depth exceeded"
  | .scalar _ detail => detail
  | .longNumber => Mismatch.longNumber.message

/-- The name of the kind of an error. -/
def LoadError.kind : LoadError → String
  | .invalid _ _ => "ScenarioValidationError"
  | .nullCharacter => "ValueError"
  | .notUtf8 _ => "UnicodeDecodeError"
  | .tooDeep => "RecursionError"
  | .scalar kind _ => kind
  | .longNumber => "ValueError"

/-- Whether a file name is that of a YAML document. -/
def isYamlName (path : String) : Bool :=
  let ending := (extension path.toList).map lowerChar
  ending == ".yaml".toList || ending == ".yml".toList

/-- The error that a fault of a YAML text is. -/
def yamlError (path : String) (fault : Yaml.Fault) : LoadError :=
  match fault.faultClass with
  | .malformed => .invalid (.notYaml path) []
  | .value => .invalid (.badScalar path fault.message) []
  | .other kind => .scalar kind fault.message

/-- How deep the stack of a process is: which texts are read to their end on it, as YAML or as JSON,
rather than until it is used up by the collections inside one another. -/
structure Stack where
  carries : (yaml : Bool) → (text : List Char) → Bool

/-- A stack that is not used up by any text. -/
def Stack.ample : Stack := ⟨fun _ _ => true⟩

/-- The value that a text holds. -/
def parseDocument (stack : Stack) (path : String) (text : List Char) : Except LoadError Data :=
  if !stack.carries (isYamlName path) text then .error .tooDeep
  else if isYamlName path then
    match Yaml.read text with
    | .ok data => .ok data
    | .error fault => .error (yamlError path fault)
  else
    match Json.read text with
    | .ok data => .ok data
    | .error error => .error (.invalid (.notJson path (error.message text)) [])

/-- The scenarios of a decoded document. A number of too many digits is not listed with the other
problems; it breaks off the check. -/
def Scenario.ofDocument (data : Data) : Except LoadError (List Scenario) :=
  match Schema.document data with
  | .valid scenarios => .ok scenarios
  | .invalid first more =>
    if (first :: more).any (·.mismatch == .longNumber) then .error .longNumber
    else .error (.invalid (.mismatch first) (more.map .mismatch))

/-- The scenarios of the content of a file. -/
def Scenario.ofContent (stack : Stack) (path : String) (content : List UInt8) :
    Except LoadError (List Scenario) := do
  match decodeUtf8 content with
  | .error failure => .error (.notUtf8 failure)
  | .ok text => Scenario.ofDocument (← parseDocument stack path (unifyNewlines text))

/-- The scenarios of the file at a path, read on a stack. -/
def Stack.loadScenarios (stack : Stack) (tree : Tree) (directory : Location) (path : String) :
    Except LoadError (List Scenario) :=
  match tree.read directory path.toList with
  | .ok content => Scenario.ofContent stack path content
  | .error error =>
    if error.fault = .nullCharacter then .error .nullCharacter
    else .error (.invalid (.unreadable path error) [])

/-- The scenarios of the file at a path, read on a stack that is deep enough. -/
def loadScenarios (tree : Tree) (directory : Location) (path : String) :
    Except LoadError (List Scenario) :=
  Stack.ample.loadScenarios tree directory path

end BrowserScenario
