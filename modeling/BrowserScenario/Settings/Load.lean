import BrowserScenario.Files.Tree
import BrowserScenario.Settings.Assignment
import BrowserScenario.Settings.Basic
import BrowserScenario.Text.Lines
import BrowserScenario.Text.Utf8

/-!
# Loading settings

The assignments come from the file `.env` of the working directory, if there is such a file. An
argument may name other files instead, or none. The bytes of a file have to be text.
-/

namespace BrowserScenario

open BrowserScenario.Files BrowserScenario.Text

/-- Why there are no settings. -/
inductive SettingsError
  | notUtf8 (failure : Utf8Failure)
  | invalid (first : Located) (more : List Located)
deriving DecidableEq, Repr

/-- The fields that are not valid, with what is wrong. -/
def SettingsError.mismatches : SettingsError → List Located
  | .notUtf8 _ => []
  | .invalid first more => first :: more

/-- The wording of an error. -/
def SettingsError.message : SettingsError → String
  | .notUtf8 failure => failure.message
  | .invalid first more => "\n".intercalate ((first :: more).map Located.message)

/-- The name of the kind of an error. -/
def SettingsError.kind : SettingsError → String
  | .notUtf8 _ => "UnicodeDecodeError"
  | .invalid .. => "ValidationError"

/-- The name of the assignment file. -/
def assignmentFile : List Char := ".env".toList

/-- The assignments of the file at a path, none where there is no file. -/
def assignmentsAt (tree : Tree) (directory : Location) (environment : Variables)
    (path : List Char) : Except Utf8Failure Settings.Assigned :=
  match tree.read directory path with
  | .error _ => .ok []
  | .ok content =>
    match decodeUtf8 content with
    | .error failure => .error failure
    | .ok text => .ok (Settings.assignedBy environment (unifyNewlines text))

/-- The assignments of the working directory. -/
def loadAssignments (tree : Tree) (directory : Location) (environment : Variables) :
    Except Utf8Failure Settings.Assigned :=
  assignmentsAt tree directory environment assignmentFile

/-- The name of the argument that tells where the assignments are. -/
def fileSwitch : String := "_env_file"

/-- The assignments of the files at paths, those of later files after those of earlier ones. -/
def assignmentsOf (tree : Tree) (directory : Location) (environment : Variables) :
    List (List Char) → Except Utf8Failure Settings.Assigned
  | [] => .ok []
  | path :: rest =>
    match assignmentsAt tree directory environment path with
    | .error failure => .error failure
    | .ok assigned =>
      match assignmentsOf tree directory environment rest with
      | .error failure => .error failure
      | .ok others => .ok (assigned ++ others)

/-- The path that a value is. -/
def namedPath? : Data → Option (List Char)
  | .text path => some (tidy path.toList)
  | _ => none

/-- The paths of the files that a value names: one, several or none. -/
def namedPaths : Data → List (List Char)
  | .list items => items.filterMap namedPath?
  | data => (namedPath? data).toList

/-- The assignments that count beside arguments: those of the working directory, unless an argument
tells where else they are. -/
def assignmentsBeside (tree : Tree) (directory : Location) (arguments : List (String × Data))
    (environment : Variables) : Except Utf8Failure Settings.Assigned :=
  match arguments.lookup fileSwitch with
  | none => loadAssignments tree directory environment
  | some data => assignmentsOf tree directory environment (namedPaths data)

/-- The settings that arguments, the environment and the working directory give. -/
def loadSettings (tree : Tree) (directory : Location) (arguments : List (String × Data))
    (environment : Variables) : Except SettingsError Settings :=
  match assignmentsBeside tree directory arguments environment with
  | .error failure => .error (.notUtf8 failure)
  | .ok assigned =>
    match Settings.ofSources ⟨arguments, environment, assigned⟩ with
    | .valid settings => .ok settings
    | .invalid first more => .error (.invalid first more)

end BrowserScenario
