import BrowserScenario.Text.Blank
import BrowserScenario.Text.Lines
import BrowserScenario.Text.Utf8
import BrowserScenario.Variables.Basic

/-!
# Files of placeholder values

A file of placeholder values has one `KEY=VALUE` setting on a line. The first equals sign ends the
key; key and value are trimmed and otherwise taken as they are. Blank lines, lines that start with
a number sign and lines without a key say nothing. Of several settings of one key the last holds.
-/

namespace BrowserScenario.Variables

open BrowserScenario.Text

/-- The characters before the first equals sign and those after it. -/
def splitSetting (line : List Char) : List Char × List Char :=
  (line.takeWhile (· != '='), (line.dropWhile (· != '=')).drop 1)

/-- The setting that a line makes, if it makes one. -/
def settingOfLine? (line : List Char) : Option (String × String) :=
  match trimBy isBlank line with
  | [] => none
  | '#' :: _ => none
  | trimmed =>
    let (before, after) := splitSetting trimmed
    match trimBy isBlank before with
    | [] => none
    | key => some (String.ofList key, String.ofList (trimBy isBlank after))

/-- The variables set by a list of lines. -/
def ofLines (lines : List (List Char)) : Variables :=
  ofList (lines.filterMap settingOfLine?)

/-- The variables set by the text of a file, whatever its line endings. -/
def ofText (text : List Char) : Variables :=
  ofLines (splitLines (unifyNewlines text))

/-- The variables set by the bytes of a file. -/
def ofBytes (content : List UInt8) : Except Utf8Failure Variables :=
  match decodeUtf8Blocks [] content with
  | .ok text => .ok (ofText text)
  | .error failure => .error failure

end BrowserScenario.Variables
