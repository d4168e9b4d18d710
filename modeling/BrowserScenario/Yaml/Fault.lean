import BrowserScenario.Data.Display
import BrowserScenario.Number.Reading

/-!
# Faults of YAML documents

Why a document has no value. Most faults are told apart only as a malformed document; a scalar
whose notation is fine and whose value does not exist says more.
-/

namespace BrowserScenario.Yaml

open BrowserScenario.Number BrowserScenario.Text

/-- What is wrong with the fields of a date or a time. -/
inductive DateFault
  | year (number : Nat)
  | month
  | day
  | hour
  | minute
  | second
  | offset (seconds : Int)
deriving DecidableEq, Repr

/-- Why a document has no value. -/
inductive Fault
  | malformed
  | characterCode
  | characterCodeTooLarge
  | tooManyDigits (refusal : TooManyDigits)
  | notWhole (base : Nat) (text : String)
  | notNumber (text : String)
  | date (fault : DateFault)
  | unknownTruth (text : String)
  | emptyNumber
  | notTimestamp
  | timestampCollection
  | numberTooLarge
deriving DecidableEq, Repr

/-- The wording of a date fault. -/
def DateFault.message : DateFault → String
  | .year number => "year " ++ toString number ++ " is out of range"
  | .month => "month must be in 1..12"
  | .day => "day is out of range for month"
  | .hour => "hour must be in 0..23"
  | .minute => "minute must be in 0..59"
  | .second => "second must be in 0..59"
  | .offset seconds =>
    "offset must be a timedelta strictly between -timedelta(hours=24) and timedelta(hours=24), not "
      ++ Data.spanText seconds ++ "."

/-- The beginning of a quoted text, as much of it as a message shows. -/
def quotedStart (text : String) : String :=
  String.ofList ((quoted text).toList.take 200)

/-- The wording of a fault. -/
def Fault.message : Fault → String
  | .malformed => ""
  | .characterCode => "chr() arg not in range(0x110000)"
  | .characterCodeTooLarge => "Python int too large to convert to C int"
  | .tooManyDigits refusal => refusal.message
  | .notWhole base text =>
    "invalid literal for int() with base " ++ toString base ++ ": " ++ quotedStart text
  | .notNumber text => "could not convert string to float: " ++ quoted text
  | .date fault => fault.message
  | .unknownTruth text => quoted text
  | .emptyNumber => "string index out of range"
  | .notTimestamp => "'NoneType' object has no attribute 'groupdict'"
  | .timestampCollection => "expected string or bytes-like object, got 'list'"
  | .numberTooLarge => "int too large to convert to float"

/-- What kind of failure a fault is to the reader of a document: the notation is wrong, a value
does not exist, or the reading breaks off with a failure of another kind. -/
inductive FaultClass
  | malformed
  | value
  | other (kind : String)
deriving DecidableEq, Repr

/-- The kind of failure that a fault is. -/
def Fault.faultClass : Fault → FaultClass
  | .malformed => .malformed
  | .characterCodeTooLarge => .other "OverflowError"
  | .numberTooLarge => .other "OverflowError"
  | .unknownTruth _ => .other "KeyError"
  | .emptyNumber => .other "IndexError"
  | .notTimestamp => .other "AttributeError"
  | .timestampCollection => .other "TypeError"
  | .characterCode => .value
  | .tooManyDigits _ => .value
  | .notWhole _ _ => .value
  | .notNumber _ => .value
  | .date _ => .value

end BrowserScenario.Yaml
