import BrowserScenario.Number.Binary64
import BrowserScenario.Text.Blank
import BrowserScenario.Text.Decimal

/-!
# Numbers read from text

There are two ways to read a whole number. The lenient one takes the digits that a text starts
with and ignores what follows; the strict one wants the text to be a number and nothing else,
apart from blanks around it. Digits of any script count. Both refuse more digits than a fixed
limit, and a whole number of more digits is not written in decimal either. A floating point number
is read strictly.
-/

namespace BrowserScenario.Number

open BrowserScenario.Text

/-- The greatest number of decimal digits that are converted. -/
def digitLimit : Nat := 4300

/-- The wording of a refusal of too many digits, with some detail. -/
def digitLimitMessage (detail : String) : String :=
  "Exceeds the limit (" ++ toString digitLimit ++ " digits) for integer string conversion"
    ++ detail ++ "; use sys.set_int_max_str_digits() to increase the limit"

/-- Whether a whole number is written in decimal. -/
def isWritable (n : Int) : Bool :=
  (Nat.toDigits 10 n.natAbs).length ≤ digitLimit

/-- A run of digits above the limit, and how many they are. -/
structure TooManyDigits where
  count : Nat
deriving DecidableEq, Repr

/-- The wording of a refusal to read too many digits. -/
def TooManyDigits.message (refusal : TooManyDigits) : String :=
  digitLimitMessage (": value has " ++ toString refusal.count ++ " digits")

/-- The value of digits of any script in a base up to ten, most significant first. -/
def digitsValue (base : Nat) (digits : List Char) : Nat :=
  digits.foldl (fun value c => value * base + (digitValue? c).getD 0) 0

/-- A sign in front of the rest, if there is one: whether it is a minus, and the rest. -/
def splitSign : List Char → Bool × List Char
  | '+' :: rest => (false, rest)
  | '-' :: rest => (true, rest)
  | s => (false, s)

/-- A size with a sign. -/
def withSign (negative : Bool) (size : Nat) : Int :=
  if negative then -(size : Int) else size

/-- The signed value of a run of digits that is within the limit. -/
def limitedValue (negative : Bool) (digits : List Char) : Except TooManyDigits Int :=
  if digitLimit < digits.length then .error ⟨digits.length⟩
  else .ok (withSign negative (digitsValue 10 digits))

/-- The whole number a text starts with, after blanks and with at most one sign; without digits
there, the default. -/
def leadingInteger (default : Int) (s : List Char) : Except TooManyDigits Int :=
  let (negative, rest) := splitSign (s.dropWhile isBlank)
  match rest.takeWhile isDecimal with
  | [] => .ok default
  | first :: more => limitedValue negative (first :: more)

/-- Why a text is not a whole number. -/
inductive IntegerFault
  | tooManyDigits (refusal : TooManyDigits)
  | malformed
deriving DecidableEq, Repr

/-- The value of a digit in a base of at most sixteen. -/
def baseDigit? (base : Nat) (c : Char) : Option Nat :=
  let value? :=
    match digitValue? c with
    | some value => some value
    | none =>
      if 'a' ≤ c && c ≤ 'f' then some (c.toNat - 'a'.toNat + 10)
      else if 'A' ≤ c && c ≤ 'F' then some (c.toNat - 'A'.toNat + 10)
      else none
  value?.filter (· < base)

/-- The letter that follows a zero to announce a base. -/
def baseLetter? : Nat → Option Char
  | 2 => some 'b'
  | 8 => some 'o'
  | 16 => some 'x'
  | _ => none

/-- The digits after a zero and a letter that announce the base, if they are there. -/
def dropBaseMark (base : Nat) : List Char → List Char
  | '0' :: letter :: rest =>
    if baseLetter? base = some letter.toLower then rest else '0' :: letter :: rest
  | s => s

/-- The whole number that a text is, in a base. -/
def wholeNumber (base : Nat) (s : List Char) : Except IntegerFault Int :=
  let (negative, rest) := splitSign (trimBy isWhiteSpace s)
  let digits := dropBaseMark base rest
  let leading := digits.takeWhile fun c => (baseDigit? base c).isSome
  if base == 10 && digitLimit < leading.length then .error (.tooManyDigits ⟨leading.length⟩)
  else if digits.isEmpty || leading.length < digits.length then .error .malformed
  else
    .ok (withSign negative
      (digits.foldl (fun value c => value * base + (baseDigit? base c).getD 0) 0))

/-- Digits in front of a text, and what follows them. -/
def splitDigits (s : List Char) : List Char × List Char :=
  (s.takeWhile Char.isDigit, s.dropWhile Char.isDigit)

/-- The exponent that ends a decimal: nothing, or a letter, a sign and digits. -/
def decimalExponent? : List Char → Option Int
  | [] => some 0
  | letter :: rest =>
    if letter = 'e' || letter = 'E' then
      let (negative, rest) := splitSign rest
      match splitDigits rest with
      | ([], _) => none
      | (digits, []) => some (withSign negative (digitsValue 10 digits))
      | _ => none
    else none

/-- The point and the digits after it, if there is a point. -/
def splitFraction : List Char → List Char × List Char
  | '.' :: rest => splitDigits rest
  | s => ([], s)

/-- The number a decimal without a sign stands for: digits, perhaps a point among or around them,
perhaps an exponent; or the name of an infinity or of what is not a number. -/
def unsignedDecimal? (negative : Bool) (s : List Char) : Option Binary64 :=
  let name := String.ofList (s.map Char.toLower)
  if name = "inf" || name = "infinity" then some (.infinite negative)
  else if name = "nan" then some .nan
  else
    let (whole, rest) := splitDigits s
    let (fraction, rest) := splitFraction rest
    if whole.isEmpty && fraction.isEmpty then none
    else
      match decimalExponent? rest with
      | none => none
      | some exponent =>
        some (Binary64.ofDecimal negative (digitsValue 10 (whole ++ fraction))
          (exponent - fraction.length))

/-- The number a decimal with or without a sign stands for. -/
def decimal? (s : List Char) : Option Binary64 :=
  let (negative, rest) := splitSign s
  unsignedDecimal? negative rest

/-- A character with a digit of another script replaced by the ASCII digit of its value. -/
def asciiDigit (c : Char) : Char :=
  match digitValue? c with
  | some value => Char.ofNat (48 + value)
  | none => c

/-- The floating point number that a text is, digits of any script included. -/
def floatingNumber? (s : List Char) : Option Binary64 :=
  decimal? ((trimBy isWhiteSpace s).map asciiDigit)

/-- Whether two underscores follow each other. -/
def hasDoubleUnderscore : List Char → Bool
  | '_' :: '_' :: _ => true
  | _ :: rest => hasDoubleUnderscore rest
  | [] => false

/-- A text without its underscores, if it has some and each stands alone between two other
characters. -/
def withoutUnderscores? (s : List Char) : Option (List Char) :=
  if s.head? == some '_' || s.getLast? == some '_' || hasDoubleUnderscore s || !s.contains '_' then
    none
  else some (s.filter (· != '_'))

/-- The floating point number that a field given as text stands for: a decimal with blanks around
it, or one with underscores between its characters and no blanks. -/
def fieldNumber? (s : List Char) : Option Binary64 :=
  match decimal? (trimBy isWhiteSpace s) with
  | some x => some x
  | none => (withoutUnderscores? s).bind decimal?

end BrowserScenario.Number
