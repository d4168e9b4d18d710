import BrowserScenario.Number.Reading
import BrowserScenario.Pattern.Basic
import BrowserScenario.Text.Lines
import BrowserScenario.Text.Quoted

/-!
# Faults of patterns

Why a text is not a pattern. Most faults have a place in the text, which the message names; in a
text of several lines it is also named by line and column.
-/

namespace BrowserScenario.Pattern

open BrowserScenario.Number BrowserScenario.Text

/-- What is wrong at a place of a pattern. -/
inductive Fault
  | escapeAtEnd
  | badEscape (escape : String)
  | incompleteEscape (escape : String)
  | octalRange (escape : String)
  | missingBrace
  | missingName (what : String)
  | unterminatedName (terminator : Char)
  | undefinedCharacter (name : String)
  | openGroup
  | lookBehindGroup
  | invalidGroup (number : Nat)
  | badGroupNumber
  | badGroupName (name : String)
  | unknownGroup (name : String)
  | redefinedGroup (name : String) (number earlier : Nat)
  | unterminatedSet
  | badRange (first last : String)
  | crossedBounds
  | nothingToRepeat
  | multipleRepeat
  | unexpectedEnd
  | unknownExtension (text : String)
  | unterminatedComment
  | unterminatedGroup
  | manyBranches
  | lateSwitches
  | localeSwitch
  | alphabetClash
  | missingSwitchEnd
  | missingSwitch
  | missingColon
  | unknownSwitch
  | globalOn
  | globalOff
  | alphabetOff
  | onAndOff
  | unbalanced
deriving DecidableEq, Repr

/-- The wording of a fault. -/
def Fault.message : Fault → String
  | .escapeAtEnd => "bad escape (end of pattern)"
  | .badEscape escape => "bad escape " ++ escape
  | .incompleteEscape escape => "incomplete escape " ++ escape
  | .octalRange escape => "octal escape value " ++ escape ++ " outside of range 0-0o377"
  | .missingBrace => "missing \x7b"
  | .missingName what => "missing " ++ what
  | .unterminatedName terminator => "missing " ++ terminator.toString ++ ", unterminated name"
  | .undefinedCharacter name => "undefined character name " ++ quoted name
  | .openGroup => "cannot refer to an open group"
  | .lookBehindGroup => "cannot refer to group defined in the same lookbehind subpattern"
  | .invalidGroup number => "invalid group reference " ++ toString number
  | .badGroupNumber => "bad group number"
  | .badGroupName name => "bad character in group name " ++ quoted name
  | .unknownGroup name => "unknown group name " ++ quoted name
  | .redefinedGroup name number earlier =>
    "redefinition of group name " ++ quoted name ++ " as group " ++ toString number
      ++ "; was group " ++ toString earlier
  | .unterminatedSet => "unterminated character set"
  | .badRange first last => "bad character range " ++ first ++ "-" ++ last
  | .crossedBounds => "min repeat greater than max repeat"
  | .nothingToRepeat => "nothing to repeat"
  | .multipleRepeat => "multiple repeat"
  | .unexpectedEnd => "unexpected end of pattern"
  | .unknownExtension text => "unknown extension " ++ text
  | .unterminatedComment => "missing ), unterminated comment"
  | .unterminatedGroup => "missing ), unterminated subpattern"
  | .manyBranches => "conditional backref with more than two branches"
  | .lateSwitches => "global flags not at the start of the expression"
  | .localeSwitch => "bad inline flags: cannot use 'L' flag with a str pattern"
  | .alphabetClash => "bad inline flags: flags 'a', 'u' and 'L' are incompatible"
  | .missingSwitchEnd => "missing -, : or )"
  | .missingSwitch => "missing flag"
  | .missingColon => "missing :"
  | .unknownSwitch => "unknown flag"
  | .globalOn => "bad inline flags: cannot turn on global flag"
  | .globalOff => "bad inline flags: cannot turn off global flag"
  | .alphabetOff => "bad inline flags: cannot turn off flags 'a', 'u' and 'L'"
  | .onAndOff => "bad inline flags: flag turned on and off"
  | .unbalanced => "unbalanced parenthesis"

/-- Why a text is not a pattern. -/
inductive Error
  | at (fault : Fault) (position : Nat)
  | variableLookBehind
  | farLookBehind
  | templateRepeat (greed : Greed)
  | largeRepeat
  | largeCode
  | bothAlphabets
  | tooManyDigits (refusal : TooManyDigits)
deriving DecidableEq, Repr

/-- The name of a repetition in messages. -/
def Greed.label : Greed → String
  | .greedy => "MAX_REPEAT"
  | .lazy => "MIN_REPEAT"
  | .possessive => "POSSESSIVE_REPEAT"

/-- The wording of an error of a text. -/
def Error.message (text : List Char) : Error → String
  | .at fault position =>
    fault.message ++ " at position " ++ toString position
      ++ (if text.contains '\n' then
          " (line " ++ toString (lineOf text position) ++ ", column "
            ++ toString (columnOf text position) ++ ")"
        else "")
  | .variableLookBehind => "look-behind requires fixed-width pattern"
  | .farLookBehind => "looks too much behind"
  | .templateRepeat greed => "internal: unsupported template operator " ++ greed.label
  | .largeRepeat => "the repetition number is too large"
  | .largeCode => "Python int too large to convert to C int"
  | .bothAlphabets => "ASCII and UNICODE flags are incompatible"
  | .tooManyDigits refusal => refusal.message

/-- The name of the kind of an error. -/
def Error.kind : Error → String
  | .largeRepeat => "OverflowError"
  | .largeCode => "OverflowError"
  | .bothAlphabets => "ValueError"
  | .tooManyDigits _ => "ValueError"
  | _ => "re.error"

end BrowserScenario.Pattern
