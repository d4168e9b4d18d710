import BrowserScenario.Number.Reading
import BrowserScenario.Text.Lines

/-!
# Faults of JSON texts

What is wrong with a text that is not JSON, and where. The place is the number of characters
before it; messages name it also by line and column.
-/

namespace BrowserScenario.Json

open BrowserScenario.Number BrowserScenario.Text

/-- What is wrong at a place. -/
inductive Fault
  | expectingValue
  | expectingName
  | expectingColon
  | expectingComma
  | extraData
  | controlCharacter
  | unterminatedString
  | invalidEscape
  | invalidCodeEscape
  | byteOrderMark
deriving DecidableEq, Repr

/-- The wording of a fault. -/
def Fault.message : Fault → String
  | .expectingValue => "Expecting value"
  | .expectingName => "Expecting property name enclosed in double quotes"
  | .expectingColon => "Expecting ':' delimiter"
  | .expectingComma => "Expecting ',' delimiter"
  | .extraData => "Extra data"
  | .controlCharacter => "Invalid control character at"
  | .unterminatedString => "Unterminated string starting at"
  | .invalidEscape => "Invalid \\escape"
  | .invalidCodeEscape => "Invalid \\uXXXX escape"
  | .byteOrderMark => "Unexpected UTF-8 BOM (decode using utf-8-sig)"

/-- Why a text cannot be read: a fault at a place, or a whole number with too many digits. -/
inductive Error
  | at (fault : Fault) (position : Nat)
  | number (refusal : TooManyDigits)
deriving DecidableEq, Repr

/-- The wording of an error in a text. -/
def Error.message (text : List Char) : Error → String
  | .at fault position =>
    fault.message ++ ": line " ++ toString (lineOf text position) ++ " column "
      ++ toString (columnOf text position) ++ " (char " ++ toString position ++ ")"
  | .number refusal => refusal.message

end BrowserScenario.Json
