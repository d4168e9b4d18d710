import BrowserScenario.Data.Basic

/-!
# Log entries

An entry has a level, the name of an event and named values. A logger has a threshold and lets an
entry pass when the level of the entry reaches it. The threshold is given by the name of a level,
in letters of either case; some levels have two names.
-/

namespace BrowserScenario.Log

/-- How grave an entry is. -/
inductive Level
  | debug
  | info
  | warning
  | error
  | critical
deriving DecidableEq, Repr

/-- All levels from the least grave on. -/
def Level.all : List Level := [.debug, .info, .warning, .error, .critical]

/-- The word for a level. -/
def Level.name : Level → String
  | .debug => "debug"
  | .info => "info"
  | .warning => "warning"
  | .error => "error"
  | .critical => "critical"

/-- The rank of a level among thresholds. -/
def Level.rank : Level → Nat
  | .debug => 10
  | .info => 20
  | .warning => 30
  | .error => 40
  | .critical => 50

/-- What a log tells at one point. -/
structure Entry where
  level : Level
  event : String
  fields : List (String × Data)

/-- A text that names no threshold. -/
structure UnknownLevel where
  text : String
deriving DecidableEq, Repr

/-- The wording of a refusal. -/
def UnknownLevel.message (refusal : UnknownLevel) : String :=
  "Unknown log level: " ++ refusal.text

/-- The capital form of a letter, as far as it is an ASCII letter: the dotless i and the long s have
one as well. -/
def capital (c : Char) : Char :=
  if c.toNat = 0x131 then 'I' else if c.toNat = 0x17F then 'S' else c.toUpper

/-- The thresholds by their names in capital letters. -/
def thresholds : List (String × Nat) := [
  ("CRITICAL", 50), ("FATAL", 50), ("ERROR", 40), ("WARN", 30), ("WARNING", 30), ("INFO", 20),
  ("DEBUG", 10), ("NOTSET", 0)]

/-- The threshold that a text names. -/
def threshold (text : String) : Except UnknownLevel Nat :=
  match thresholds.lookup (String.ofList (text.toList.map capital)) with
  | some rank => .ok rank
  | none => .error ⟨text⟩

/-- Whether entries of a level pass a threshold. -/
def Level.passes (level : Level) (threshold : Nat) : Bool :=
  threshold ≤ level.rank

end BrowserScenario.Log
