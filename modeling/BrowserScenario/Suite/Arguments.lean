import BrowserScenario.Files.Tree

/-!
# Arguments of the test runner

The test runner is started on the module of scenario tests with the document, the root of the
project, and, where they are given, the file of variables and the directory of the report. Further
arguments follow unchanged. Paths are written in clean form; one with a null character is an error.
-/

namespace BrowserScenario.Suite

open BrowserScenario.Files

/-- What the test runner is started with. -/
structure Launch where
  scenarios : List Char
  variablesFile : Option (List Char)
  report : Option (List Char)
  extra : List String
deriving DecidableEq, Repr

/-- The module of scenario tests, below the root of the project. -/
def testModule : List Char := "tests/e2e/test_datadriven.py".toList

/-- An option with the clean form of a path. -/
def pathOption (name : String) (directory path : List Char) : String :=
  name ++ "=" ++ String.ofList (cleanFromRoot directory path)

/-- The argument for the document of scenarios. -/
def scenariosArgument (directory path : List Char) : String :=
  pathOption "--scenarios" directory path

/-- The paths that the test runner is started with. -/
def Launch.paths (launch : Launch) : List (List Char) :=
  launch.scenarios :: launch.variablesFile.toList ++ launch.report.toList

/-- The arguments of the test runner for a project and a working directory. -/
def Launch.arguments (launch : Launch) (project directory : List Char) :
    Except FileError (List String) :=
  match launch.paths.find? (·.contains '\x00') with
  | some path => .error ⟨.nullCharacter, path⟩
  | none =>
    .ok ([String.ofList (joinName project testModule), scenariosArgument directory launch.scenarios,
        "--rootdir=" ++ String.ofList project]
      ++ (launch.variablesFile.map (pathOption "--env-file" directory)).toList
      ++ (launch.report.map (pathOption "--alluredir" directory)).toList ++ launch.extra)

end BrowserScenario.Suite
