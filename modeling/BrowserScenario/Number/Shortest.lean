import BrowserScenario.Number.Binary64

/-!
# The shortest decimal of a number

A finite number is written with the fewest decimal digits, at most seventeen, that read back as
the same number; of several such decimals with that many digits the nearest is taken, and of two
equally near ones the even one. The notation is positional as long as the first digit stands for
a power of ten from `10 ^ -4` up to `10 ^ 15`, and with an exponent of two digits or more
otherwise.
-/

namespace BrowserScenario.Number

/-- A decimal `digits * 10 ^ exponent`. -/
structure ScaledDecimal where
  digits : Nat
  exponent : Int
deriving DecidableEq, Repr

/-- A positive quotient divided by a power of ten, as a quotient. -/
def divideByTenPower (num den : Nat) (power : Int) : Nat × Nat :=
  if 0 ≤ power then (num, den * Nat.pow 10 power.toNat)
  else (num * Nat.pow 10 (-power).toNat, den)

/-- The value of a positive mantissa and exponent as a quotient. -/
def quotientOf (mantissa : Nat) (exponent : Int) : Nat × Nat :=
  if 0 ≤ exponent then (mantissa * Nat.pow 2 exponent.toNat, 1)
  else (mantissa, Nat.pow 2 (-exponent).toNat)

/-- The number of digits before the decimal point of a positive quotient; zero or negative for a
quotient below one. The search starts at a lower bound and goes up. -/
def wholeDigits (num den : Nat) : Nat → Int → Int
  | 0, guess => guess
  | steps + 1, guess =>
    let (n, d) := divideByTenPower num den guess
    if n < d then guess else wholeDigits num den steps (guess + 1)

/-- A lower bound for the number of digits before the decimal point, from the powers of two. -/
def wholeDigitsBound (num den : Nat) : Int :=
  let binary : Int := (Nat.log2 num : Int) - (Nat.log2 den : Int) - 1
  (binary * 30103).fdiv 100000

/-- The decimal nearest to a positive number among those with a given last place that read back
as the number. -/
def readingBack? (mantissa : Nat) (exponent place : Int) : Option ScaledDecimal :=
  let (num, den) := quotientOf mantissa exponent
  let (n, d) := divideByTenPower num den place
  let below := n / d
  let reads (digits : Nat) : Bool :=
    Binary64.ofDecimal false digits place == .finite false mantissa exponent
  let nearest := roundQuotient n d
  let other := if nearest = below then below + 1 else below
  if reads nearest then some ⟨nearest, place⟩
  else if reads other then some ⟨other, place⟩
  else none

/-- The first decimal that reads back, from a last place downwards. -/
def shortestFrom (mantissa : Nat) (exponent : Int) : Nat → Int → ScaledDecimal
  | 0, place => ⟨0, place⟩
  | steps + 1, place =>
    match readingBack? mantissa exponent place with
    | some found => found
    | none => shortestFrom mantissa exponent steps (place - 1)

/-- The shortest decimal of a positive finite number. -/
def shortestDecimal (mantissa : Nat) (exponent : Int) : ScaledDecimal :=
  let (num, den) := quotientOf mantissa exponent
  let whole := wholeDigits num den 6 (wholeDigitsBound num den)
  shortestFrom mantissa exponent 17 (whole - 1)

/-- The decimal digits of a number without the zeros at the end. -/
def significantDigits (n : Nat) : List Char :=
  ((Nat.toDigits 10 n).reverse.dropWhile (· == '0')).reverse

/-- An exponent with its sign and at least two digits. -/
def exponentText (exponent : Int) : List Char :=
  let digits := Nat.toDigits 10 exponent.natAbs
  (if exponent < 0 then '-' else '+') :: (if digits.length < 2 then '0' :: digits else digits)

/-- Significant digits written with a decimal point or with an exponent, given the power of ten
that the first digit stands for. -/
def placePoint (digits : List Char) (power : Int) : List Char :=
  if power < -4 || 16 ≤ power then
    match digits with
    | [] => []
    | [only] => only :: 'e' :: exponentText power
    | first :: more => first :: '.' :: more ++ 'e' :: exponentText power
  else if power < 0 then
    '0' :: '.' :: List.replicate (-power - 1).toNat '0' ++ digits
  else
    let whole := power.toNat + 1
    let before := digits.take whole ++ List.replicate (whole - digits.length) '0'
    let after := digits.drop whole
    before ++ '.' :: (if after.isEmpty then ['0'] else after)

/-- The text of a number. -/
def Binary64.text : Binary64 → String
  | .nan => "nan"
  | .infinite negative => if negative then "-inf" else "inf"
  | .finite negative mantissa exponent =>
    let body :=
      if mantissa = 0 then ['0', '.', '0']
      else
        let found := shortestDecimal mantissa exponent
        let size : Int := (Nat.toDigits 10 found.digits).length
        placePoint (significantDigits found.digits) (found.exponent + size - 1)
    String.ofList (if negative then '-' :: body else body)

end BrowserScenario.Number
