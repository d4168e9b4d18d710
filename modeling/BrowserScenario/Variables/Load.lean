import BrowserScenario.Files.Tree
import BrowserScenario.Variables.EnvFile

/-!
# Loading placeholder values

The file of placeholder values has to be there. Its path is made clean before it is looked for,
and an error names the clean path.
-/

namespace BrowserScenario

open BrowserScenario.Files BrowserScenario.Text

/-- Why placeholder values cannot be loaded. -/
inductive VariablesError
  | missing (path : String)
  | notUtf8 (failure : Utf8Failure)
deriving DecidableEq, Repr

/-- The wording of an error. -/
def VariablesError.message : VariablesError → String
  | .missing path =>
    ".env file not found at " ++ path ++ ". Please create it using .env.example as a template."
  | .notUtf8 failure => failure.message

/-- The name of the kind of an error. -/
def VariablesError.kind : VariablesError → String
  | .missing _ => "EnvFileNotFoundError"
  | .notUtf8 _ => "UnicodeDecodeError"

/-- The variables of the file at a path that is meant from a directory. -/
def loadVariables (tree : Tree) (directory : List Char) (path : String) :
    Except VariablesError Variables :=
  let found := clean directory path.toList
  match tree.isFile found, tree.read [] found with
  | true, .ok content =>
    match Variables.ofBytes content with
    | .ok values => .ok values
    | .error failure => .error (.notUtf8 failure)
  | _, _ => .error (.missing (String.ofList found))

end BrowserScenario
