import BrowserScenario.Files.Path
import BrowserScenario.Time.Moment

/-!
# Where artifacts go

All artifacts of a session are below one directory of results. A file is named for a scenario, in
characters that are safe in file names; a screenshot also for the time at which it was taken.
-/

namespace BrowserScenario.Files

open BrowserScenario.Time

/-- A character that may stand in the name of an artifact. -/
def isSafe (c : Char) : Bool :=
  c.isAlphanum || c == '_' || c == '-'

/-- A character of a name, or the underscore for one that is not safe. -/
def safeChar (c : Char) : Char :=
  if isSafe c then c else '_'

/-- The identity of a scenario as part of a file name. -/
def safeName (id : List Char) : List Char :=
  id.map safeChar

/-- The directory of results where none is asked for. -/
def defaultResults : List Char := "test-results".toList

/-- The directory of results: the one that is asked for, or the default. -/
def resultsRoot (directory : List Char) (results : Option (List Char)) : List Char :=
  match results with
  | some (c :: rest) => clean directory (c :: rest)
  | _ => clean directory (joinName directory defaultResults)

/-- The directory of screenshots. -/
def screenshotDirectory (directory : List Char) (results : Option (List Char)) : List Char :=
  joinName (resultsRoot directory results) "screenshots".toList

/-- The directory of traces. -/
def traceDirectory (directory : List Char) (results : Option (List Char)) : List Char :=
  joinName (resultsRoot directory results) "traces".toList

/-- The file name of a screenshot with a time stamp. -/
def screenshotName (id stamp : List Char) : List Char :=
  safeName id ++ '-' :: stamp ++ ".png".toList

/-- The path of a screenshot that is taken at an instant. -/
def screenshotPath (directory id : List Char) (results : Option (List Char))
    (instant : Instant) : List Char :=
  joinName (screenshotDirectory directory results) (screenshotName id instant.stamp)

/-- The path of a trace. -/
def tracePath (directory id : List Char) (results : Option (List Char)) :
    List Char :=
  joinName (traceDirectory directory results) (safeName id ++ ".zip".toList)

end BrowserScenario.Files
