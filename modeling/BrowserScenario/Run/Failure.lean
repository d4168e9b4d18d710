import BrowserScenario.Files.Tree
import BrowserScenario.Number.Reading

/-!
# Failures of runs

A run fails before it starts, when a placeholder has no value; at a record that cannot be carried
out; or because a browser, a report or the file system reports an incident. An interrupt stops a
run without being a failure of the scenario.
-/

namespace BrowserScenario

open BrowserScenario.Files BrowserScenario.Number

/-- What a browser or a report raises. -/
inductive Incident
  | error (kind message : String)
  | missingSelector (action : String)
  | interrupt (message : String)
deriving DecidableEq, Repr

/-- A part of an expectation without which it cannot be checked. -/
inductive NeededPart
  | selector
  | value
deriving DecidableEq, Repr

/-- Why a step or an expectation cannot be carried out. -/
inductive Rejection
  | missingSelector (action : String)
  | unknownAction (action : String)
  | unknownExpectation (kind : String)
  | incomplete (part : NeededPart) (kind : String)
  | tooManyDigits (refusal : TooManyDigits)
deriving DecidableEq, Repr

/-- Why a run fails. -/
inductive Failure
  | missingVariable (name : String)
  | rejected (rejection : Rejection)
  | raised (incident : Incident)
  | files (error : FileError)
deriving DecidableEq, Repr

/-- The incident that a file error is. -/
def Incident.ofFile (error : FileError) : Incident :=
  .error error.kind error.message

/-- The wording for a step without a selector. -/
def missingSelectorMessage (action : String) : String :=
  "Missing selector for " ++ action ++ " action"

/-- The wording of an incident. -/
def Incident.message : Incident → String
  | .error _ message => message
  | .missingSelector action => missingSelectorMessage action
  | .interrupt message => message

/-- The name of the kind of an incident. -/
def Incident.kind : Incident → String
  | .error kind _ => kind
  | .missingSelector _ => "MissingSelector"
  | .interrupt _ => "KeyboardInterrupt"

/-- The word for a part of an expectation. -/
def NeededPart.word : NeededPart → String
  | .selector => "selector"
  | .value => "value"

/-- The wording of a rejection. -/
def Rejection.message : Rejection → String
  | .missingSelector action => missingSelectorMessage action
  | .unknownAction action => "Unknown action: " ++ action
  | .unknownExpectation kind => "Unknown expectation type: " ++ kind
  | .incomplete part kind => "Missing " ++ part.word ++ " for " ++ kind ++ " expectation"
  | .tooManyDigits refusal => refusal.message

/-- The name of the kind of a rejection. -/
def Rejection.kind : Rejection → String
  | .missingSelector _ => "MissingSelector"
  | .unknownAction _ => "UnknownAction"
  | .unknownExpectation _ => "UnknownExpectation"
  | .incomplete .. => "ValueError"
  | .tooManyDigits _ => "ValueError"

/-- The wording of a failure. -/
def Failure.message : Failure → String
  | .missingVariable name => "Environment variable \"" ++ name ++ "\" not found"
  | .rejected rejection => rejection.message
  | .raised incident => incident.message
  | .files error => error.message

/-- The name of the kind of a failure. -/
def Failure.kind : Failure → String
  | .missingVariable _ => "MissingVariable"
  | .rejected rejection => rejection.kind
  | .raised incident => incident.kind
  | .files error => error.kind

/-- Whether a failure is an interrupt. -/
def Failure.isInterrupt : Failure → Bool
  | .raised (.interrupt _) => true
  | _ => false

end BrowserScenario
