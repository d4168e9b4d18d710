import BrowserScenario.Text.Casing
import BrowserScenario.Text.Split
import BrowserScenario.Yaml.Timestamp

/-!
# The values of scalars

A scalar without a tag is taken for a truth value, a number, a timestamp or null when its text
has the notation of one, and for text otherwise. A tag may ask for a value of a kind whatever the
text is; then the text may turn out to have no such value.
-/

namespace BrowserScenario.Yaml

open BrowserScenario.Number BrowserScenario.Text

/-- The kind of value that a node is tagged as. -/
inductive Tag
  | null
  | bool
  | int
  | float
  | binary
  | timestamp
  | text
  | sequence
  | mapping
  | orderedPairs
  | pairs
  | set
  | merge
  | value
  | unknown
deriving DecidableEq, Repr

/-- What the tags of the common kinds of values start with. -/
def commonTagStart : String := "tag:yaml.org,2002:"

/-- The common kinds of values by the ends of their tags. -/
def commonTags : List (String × Tag) := [
  ("null", .null), ("bool", .bool), ("int", .int), ("float", .float), ("binary", .binary),
  ("timestamp", .timestamp), ("str", .text), ("seq", .sequence), ("map", .mapping),
  ("omap", .orderedPairs), ("pairs", .pairs), ("set", .set), ("merge", .merge),
  ("value", .value)]

/-- The kind of value that a tag names. -/
def Tag.ofText (text : List Char) : Tag :=
  match commonTags.find? fun entry => text == (commonTagStart ++ entry.1).toList with
  | some entry => entry.2
  | none => .unknown

/-- The words for truth values. -/
def truthWords : List (String × Bool) := [
  ("yes", true), ("no", false), ("true", true), ("false", false), ("on", true), ("off", false)]

/-- A word in lower case, with a capital at the start, and in capitals. -/
def spellings (word : String) : List (List Char) :=
  let chars := word.toList
  [chars, (chars.take 1).map Char.toUpper ++ chars.drop 1, chars.map Char.toUpper]

/-- A text that is a truth value. -/
def isTruthWord (s : List Char) : Bool :=
  truthWords.any fun entry => (spellings entry.1).contains s

/-- A text that is null. -/
def isNullWord (s : List Char) : Bool :=
  s == ['~'] || (spellings "null").contains s

/-- A digit or an underscore. -/
def isDigitOrUnderscore (c : Char) : Bool :=
  c.isDigit || c == '_'

/-- A text of digits and underscores that starts with a digit. -/
def startsDigit (s : List Char) : Bool :=
  (s.headD ' ').isDigit && s.all isDigitOrUnderscore

/-- The same, where the first digit is not zero. -/
def startsNonzero (s : List Char) : Bool :=
  startsDigit s && s.headD ' ' != '0'

/-- A part of a number in base sixty: one digit, or two of which the first is at most five. -/
def isSixtieth (s : List Char) : Bool :=
  match s with
  | [d] => d.isDigit
  | [t, d] => t.isDigit && t.toNat ≤ '5'.toNat && d.isDigit
  | _ => false

/-- A text without the sign in front of it. -/
def unsigned (s : List Char) : List Char :=
  (splitSign s).2

/-- At least one character, all of a class. -/
def isSome (member : Char → Bool) (s : List Char) : Bool :=
  !s.isEmpty && s.all member

/-- A text that is a whole number: in base two, eight, ten, sixteen or sixty. -/
def isWhole (s : List Char) : Bool :=
  let body := unsigned s
  match body with
  | '0' :: 'b' :: digits => isSome (fun c => c == '0' || c == '1' || c == '_') digits
  | '0' :: 'x' :: digits => isSome (fun c => isHexDigitOrUnderscore c) digits
  | ['0'] => true
  | '0' :: digits => isSome (fun c => ('0' ≤ c && c ≤ '7') || c == '_') digits
  | _ =>
    match splitAtChar ':' body with
    | [only] => startsNonzero only
    | first :: more => startsNonzero first && more.all isSixtieth
    | [] => false
where
  /-- A hexadecimal digit or an underscore. -/
  isHexDigitOrUnderscore (c : Char) : Bool :=
    c.isDigit || ('a' ≤ c && c ≤ 'f') || ('A' ≤ c && c ≤ 'F') || c == '_'

/-- The exponent of a number: nothing, or a letter, a sign and digits. -/
def isExponent (s : List Char) : Bool :=
  match s with
  | [] => true
  | letter :: sign :: digits =>
    (letter == 'e' || letter == 'E') && (sign == '+' || sign == '-') && isSome Char.isDigit digits
  | _ => false

/-- The fraction of a number after its point, perhaps with an exponent. -/
def isFraction (s : List Char) : Bool :=
  isExponent (s.dropWhile isDigitOrUnderscore)

/-- A whole part in base sixty with at least two parts. -/
def isSixties (s : List Char) : Bool :=
  match splitAtChar ':' s with
  | first :: next :: more => startsDigit first && (next :: more).all isSixtieth
  | _ => false

/-- A text that is a floating point number: with a point, and in base ten or sixty; an infinity; or
the one that is not a number. -/
def isFloating (s : List Char) : Bool :=
  let body := unsigned s
  let whole := body.takeWhile (· != '.')
  match body.dropWhile (· != '.') with
  | '.' :: fraction =>
    (startsDigit whole && isFraction fraction)
      || (whole.isEmpty && body == s && startsDigit (fraction.takeWhile isDigitOrUnderscore)
        && isFraction fraction)
      || (isSixties whole && fraction.all isDigitOrUnderscore)
      || (whole.isEmpty && [['i', 'n', 'f'], ['I', 'n', 'f'], ['I', 'N', 'F']].contains fraction)
      || (whole.isEmpty && body == s
        && [['n', 'a', 'n'], ['N', 'a', 'N'], ['N', 'A', 'N']].contains fraction)
  | _ => false

/-- A text without a line feed at its end. -/
def withoutLastLineFeed (s : List Char) : List Char :=
  if s.getLast? == some '\n' then s.dropLast else s

/-- The kind of value that a text without a tag is taken for. -/
def Tag.implicit (text : List Char) : Tag :=
  let s := withoutLastLineFeed text
  if text.isEmpty || isNullWord s then .null
  else if isTruthWord s then .bool
  else if isFloating s then .float
  else if isWhole s then .int
  else if s == ['<', '<'] then .merge
  else if isTimestamp s then .timestamp
  else if s == ['='] then .value
  else if s == ['!'] || s == ['&'] || s == ['*'] then .unknown
  else .text

/-- A text in lower case. -/
def lowered (s : List Char) : List Char :=
  s.map lowerChar

/-- The truth value of a text. -/
def truthValue (text : List Char) : Except Fault Data :=
  let word := String.ofList (lowered text)
  match truthWords.lookup word with
  | some b => .ok (.bool b)
  | none => .error (.unknownTruth word)

/-- The whole number that a text is in a base. -/
def wholeInBase (base : Nat) (digits : List Char) : Except Fault Int :=
  match wholeNumber base digits with
  | .ok n => .ok n
  | .error (.tooManyDigits refusal) => .error (.tooManyDigits refusal)
  | .error .malformed => .error (.notWhole base (String.ofList digits))

/-- The value of the parts of a whole number in base sixty. -/
def wholeInSixties (parts : List (List Char)) : Except Fault Int :=
  parts.foldlM (fun total part => (total * 60 + ·) <$> wholeInBase 10 part) 0

/-- The whole number of a text without sign and underscores. -/
def wholeBody (body : List Char) : Except Fault Int :=
  match body with
  | [] => .error .emptyNumber
  | ['0'] => .ok 0
  | '0' :: 'b' :: digits => wholeInBase 2 digits
  | '0' :: 'x' :: digits => wholeInBase 16 digits
  | '0' :: _ => wholeInBase 8 body
  | _ =>
    if body.contains ':' then wholeInSixties (splitAtChar ':' body)
    else wholeInBase 10 body

/-- The whole number that a text is. -/
def wholeValue (text : List Char) : Except Fault Data :=
  let body := text.filter (· != '_')
  if body.isEmpty then .error .emptyNumber
  else
    let (negative, digits) := splitSign body
    match wholeBody digits with
    | .ok n => .ok (.int (if negative then -n else n))
    | .error fault => .error fault

/-- The floating point number that a text is. -/
def floatingPart (text : List Char) : Except Fault Binary64 :=
  match floatingNumber? text with
  | some x => .ok x
  | none => .error (.notNumber (String.ofList text))

/-- The sum of floating point numbers in base sixty, the least significant first. -/
def addSixties : Nat → Binary64 → List Binary64 → Except Fault Binary64
  | _, total, [] => .ok total
  | base, total, x :: more =>
    match Binary64.ofInt? base with
    | some factor => addSixties (base * 60) (total.add (x.mul factor)) more
    | none => .error .numberTooLarge

/-- The floating point number of a text without sign and underscores. -/
def floatingBody (body : List Char) : Except Fault Binary64 :=
  if body == ['.', 'i', 'n', 'f'] then .ok (.infinite false)
  else if body.contains ':' then
    match (splitAtChar ':' body).mapM floatingPart with
    | .ok parts => addSixties 1 (.zero false) parts.reverse
    | .error fault => .error fault
  else floatingPart body

/-- The floating point number that a text is. -/
def floatingValue (text : List Char) : Except Fault Data :=
  let body := lowered (text.filter (· != '_'))
  if body.isEmpty then .error .emptyNumber
  else
    let (negative, digits) := splitSign body
    if digits == ['.', 'n', 'a', 'n'] then .ok (.float .nan)
    else
      match floatingBody digits with
      | .ok x => .ok (.float (if negative then x.negate else x))
      | .error fault => .error fault

/-- The value of a character of base sixty-four. -/
def base64Digit? (c : Char) : Option Nat :=
  if 'A' ≤ c && c ≤ 'Z' then some (c.toNat - 'A'.toNat)
  else if 'a' ≤ c && c ≤ 'z' then some (c.toNat - 'a'.toNat + 26)
  else if c.isDigit then some (c.toNat - '0'.toNat + 52)
  else if c = '+' then some 62
  else if c = '/' then some 63
  else none

/-- The bytes of characters of base sixty-four, after some characters of a group of four with
what is left of the last of them, and some padding. Characters outside the base are ignored; a
group may end early only at its padding. -/
def base64Bytes : Nat → Nat → Nat → List Char → Option (List UInt8)
  | position, _, _, [] => if position = 0 then some [] else none
  | position, kept, pads, '=' :: rest =>
    if 2 ≤ position then
      if 4 ≤ position + pads + 1 then some [] else base64Bytes position kept (pads + 1) rest
    else base64Bytes position kept pads rest
  | position, kept, pads, c :: rest =>
    match base64Digit? c with
    | none => base64Bytes position kept pads rest
    | some digit =>
      match position with
      | 0 => base64Bytes 1 digit 0 rest
      | 1 => (UInt8.ofNat (kept * 4 + digit / 16) :: ·) <$> base64Bytes 2 (digit % 16) 0 rest
      | 2 => (UInt8.ofNat (kept * 16 + digit / 4) :: ·) <$> base64Bytes 3 (digit % 4) 0 rest
      | _ => (UInt8.ofNat (kept * 64 + digit) :: ·) <$> base64Bytes 0 0 0 rest

/-- The bytes that a text stands for in base sixty-four. -/
def binaryValue (text : List Char) : Except Fault Data :=
  if text.any fun c => 128 ≤ c.toNat then .error .malformed
  else
    match base64Bytes 0 0 0 text with
    | some bytes => .ok (.bytes bytes)
    | none => .error .malformed

/-- The date or moment that a text is. -/
def timestampValue (text : List Char) : Except Fault Data :=
  match timestampDigits? (withoutLastLineFeed text) with
  | none => .error .notTimestamp
  | some digits =>
    match digits.value with
    | .ok data => .ok data
    | .error fault => .error (.date fault)

/-- The value of a text that is tagged as a kind. -/
def scalarValue (tag : Tag) (text : List Char) : Except Fault Data :=
  match tag with
  | .null => .ok .null
  | .bool => truthValue text
  | .int => wholeValue text
  | .float => floatingValue text
  | .binary => binaryValue text
  | .timestamp => timestampValue text
  | .text => .ok (.text (String.ofList text))
  | _ => .error .malformed

end BrowserScenario.Yaml
