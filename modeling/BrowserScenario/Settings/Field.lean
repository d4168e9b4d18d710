import BrowserScenario.Data.Checked
import BrowserScenario.Number.Reading
import BrowserScenario.Text.Blank
import BrowserScenario.Text.Casing

/-!
# Fields of settings

A setting is a whole number, a truth value or a text. A whole number or a truth value may be written
as text: the number in decimal, with blanks around it, a sign, single underscores between its digits
and an empty fraction; the truth value as one of a few words in either case. A text may be given as
its bytes.
-/

namespace BrowserScenario.Settings

open BrowserScenario.Number BrowserScenario.Text

/-- A text without a point followed by zeros at its end. -/
def withoutEmptyFraction (s : List Char) : List Char :=
  match s.dropWhile (· != '.') with
  | '.' :: '0' :: rest => if rest.all (· == '0') then s.takeWhile (· != '.') else s
  | _ => s

/-- The digits of a whole number without a sign; an underscore must not follow leading zeros. -/
def wholeDigits? (signed : Bool) (s : List Char) : Option (List Char) :=
  let body := withoutEmptyFraction s
  let afterZeros := body.dropWhile (· == '0')
  if !signed && body.head? == some '0' && afterZeros.head? == some '_' then none
  else
    let digits := (withoutUnderscores? body).getD body
    if digits.isEmpty || !digits.all Char.isDigit then none else some digits

/-- The whole number that a text is. -/
def integerOfText (s : List Char) : Checked Int :=
  let (negative, rest) := splitSign (trimBy isWhiteSpace s)
  match wholeDigits? negative rest with
  | none => .fail .unreadableInteger
  | some digits =>
    if digitLimit < (digits.dropWhile (· == '0')).length then .fail .largeInteger
    else .valid (withSign negative (digitsValue 10 digits))

/-- Whether a whole number is in the range of 64 bits with a sign. -/
def isWord (n : Int) : Bool :=
  -(Nat.pow 2 63 : Int) ≤ n && n < Nat.pow 2 63

/-- A whole number. -/
def integer : Data → Checked Int
  | .bool b => .valid (if b then 1 else 0)
  | .int n => .valid n
  | .text s => integerOfText s.toList
  | .bytes content => .ofBytes (fun s => integerOfText s.toList) .unreadableInteger content
  | .float x =>
    if !x.isFinite then .fail .notFinite
    else
      match x.toInt? with
      | none => .fail .fractionalInteger
      | some n => if isWord n then .valid n else .fail .largeInteger
  | _ => .fail .notInteger

/-- The words for the truth values. -/
def truthWords : List (String × Bool) := [
  ("0", false), ("off", false), ("f", false), ("false", false), ("n", false), ("no", false),
  ("1", true), ("on", true), ("t", true), ("true", true), ("y", true), ("yes", true)]

/-- The truth value that zero or one stands for. -/
def truthOfInt (n : Int) : Checked Bool :=
  if n = 0 then .valid false
  else if n = 1 then .valid true
  else if isWord n then .fail .unreadableTruth
  else .fail .notTruth

/-- The truth value that a word stands for. -/
def truthOfText (s : String) : Checked Bool :=
  match truthWords.lookup (String.ofList (s.toList.map Char.toLower)) with
  | some b => .valid b
  | none => .fail .unreadableTruth

/-- A truth value. -/
def truth : Data → Checked Bool
  | .bool b => .valid b
  | .int n => truthOfInt n
  | .text s => truthOfText s
  | .bytes content => .ofBytes truthOfText .unreadableTruth content
  | .float x =>
    match x.toInt? with
    | some n => truthOfInt n
    | none => .fail .notTruth
  | _ => .fail .notTruth

/-- A check followed by another one of its value. -/
def andThen {α β : Type} (checked : Checked α) (next : α → Checked β) : Checked β :=
  match checked with
  | .valid value => next value
  | .invalid first more => .invalid first more

/-- A whole number that is not below zero. -/
def count (data : Data) : Checked Int :=
  andThen (integer data) fun n => if n < 0 then .fail (.refused "must be >= 0") else .valid n

/-- A text without blanks at either end. -/
def trimmedText (data : Data) : Checked String :=
  trim <$> Checked.plainText data

/-- The engines that scenarios can be run on. -/
def engines : List String := ["chromium", "firefox", "webkit"]

/-- The word for all engines. -/
def allEngines : String := "all"

/-- A text without blanks at either end and in lower case. -/
def folded (s : String) : String :=
  String.ofList ((trim s).toList.flatMap lowerChars)

/-- The choice of an engine, or of all. -/
def engineChoice (data : Data) : Checked String :=
  andThen (Checked.plainText data) fun s =>
    let choice := folded s
    if choice = allEngines || engines.contains choice then .valid choice
    else .fail (.refused ("BROWSER must be one of: all, " ++ Data.commaJoined engines))

end BrowserScenario.Settings
