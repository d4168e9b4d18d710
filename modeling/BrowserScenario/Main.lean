import BrowserScenario.Command.Launch

/-!
# The command line

The command takes its words from the process, the variables that it knows from the environment and
the assignments from the working directory. It prints its log entries to standard error and the
arguments for the test runner to standard output, one on a line.
-/

namespace BrowserScenario.Command

open BrowserScenario.Files

/-- The variables of the process that settings are read from. -/
def processVariables : IO Variables := do
  let mut values := Variables.empty
  for name in Settings.names do
    match ← IO.getEnv name with
    | some value => values := values.set name value
    | none => pure ()
  return values

/-- The files of a directory that settings are read from. -/
def settingsTree (directory : List Char) : IO Tree := do
  let location := namesOf directory
  let tree := Tree.empty.put location .directory
  try
    let content ← IO.FS.readBinFile (String.ofList assignmentFile)
    return tree.put (location ++ [assignmentFile]) (.file content.toList)
  catch _ => return tree

/-- A log entry on one line. -/
def entryLine (entry : Log.Entry) : String :=
  "[" ++ entry.level.name ++ "] " ++ entry.event
    ++ String.join (entry.fields.map fun field => " " ++ field.1 ++ "=" ++ field.2.shown)

/-- Performs a command line in the surroundings of the process. -/
def performHere (line : List String) : IO UInt32 := do
  let directory := (← IO.currentDir).toString.toList
  let tree ← settingsTree directory
  let performed := perform (fun _ => 0) ⟨← processVariables, tree, directory, directory⟩ line
  for entry in performed.entries do
    if entry.level.passes (shownFrom line) then IO.eprintln (entryLine entry)
  match performed.started with
  | some started => started.arguments.forM IO.println
  | .none => pure ()
  match performed.result with
  | .ok status => return UInt32.ofNat status.toNat
  | .error (.stopped .help) =>
    IO.println usage
    return 0
  | .error error =>
    IO.eprintln (error.complaint.getD (error.kind ++ ": " ++ error.message))
    return error.status

end BrowserScenario.Command

/-- Runs the command. -/
def main (line : List String) : IO UInt32 :=
  BrowserScenario.Command.performHere line
