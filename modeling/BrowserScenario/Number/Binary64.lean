/-!
# Floating point numbers of sixty-four bits

A number is a sign, a whole mantissa below `2 ^ 53` and a power of two, or an infinity, or not a
number. Mantissa and exponent are canonical: the exponent is at least `-1074`, and above that
least exponent the mantissa is at least `2 ^ 52`. So two numbers are equal as data exactly when
they are the same floating point value with the same sign of zero. Every operation is exact
integer arithmetic followed by one rounding to nearest, ties to even.
-/

namespace BrowserScenario.Number

/-- A floating point number with a canonical mantissa and exponent. -/
inductive Binary64
  | nan
  | infinite (negative : Bool)
  | finite (negative : Bool) (mantissa : Nat) (exponent : Int)
deriving DecidableEq, Repr

/-- The whole number nearest to a quotient; of two, the even one. -/
def roundQuotient (num den : Nat) : Nat :=
  let whole := num / den
  let doubled := 2 * (num % den)
  if doubled < den then whole
  else if den < doubled then whole + 1
  else whole + whole % 2

namespace Binary64

/-- The least exponent. -/
def leastExponent : Int := -1074

/-- The greatest exponent. -/
def greatestExponent : Int := 971

/-- Zero with a sign. -/
def zero (negative : Bool) : Binary64 :=
  .finite negative 0 leastExponent

/-- A quotient divided by a power of two and rounded. -/
def scaledQuotient (num den : Nat) (exponent : Int) : Nat :=
  if 0 ≤ exponent then roundQuotient num (den * Nat.pow 2 exponent.toNat)
  else roundQuotient (num * Nat.pow 2 (-exponent).toNat) den

/-- Whether a quotient is below a power of two times `2 ^ 52`. -/
def belowFullMantissa (num den : Nat) (exponent : Int) : Bool :=
  if 0 ≤ exponent then num < den * Nat.pow 2 exponent.toNat * Nat.pow 2 52
  else num * Nat.pow 2 (-exponent).toNat < den * Nat.pow 2 52

/-- The exponent at which a quotient is rounded. -/
def quotientExponent (num den : Nat) : Int :=
  let guess : Int := (Nat.log2 num : Int) - (Nat.log2 den : Int) - 52
  let fitted := if belowFullMantissa num den guess then guess - 1 else guess
  max fitted leastExponent

/-- The number nearest to a quotient of whole numbers, with a sign. -/
def ofQuotient (negative : Bool) (num den : Nat) : Binary64 :=
  if num = 0 then zero negative
  else
    let exponent := quotientExponent num den
    let rounded := scaledQuotient num den exponent
    let full := rounded = Nat.pow 2 53
    let mantissa := if full then Nat.pow 2 52 else rounded
    let exponent := if full then exponent + 1 else exponent
    if mantissa = 0 then zero negative
    else if greatestExponent < exponent then .infinite negative
    else .finite negative mantissa exponent

/-- The number nearest to a whole number. -/
def ofInt (n : Int) : Binary64 :=
  ofQuotient (n < 0) n.natAbs 1

/-- The number nearest to a whole number, if it is in range. -/
def ofInt? (n : Int) : Option Binary64 :=
  match ofInt n with
  | .infinite _ => none
  | x => some x

/-- The number nearest to `digits` times a power of ten. Far outside the range of exponents
the power need not be computed. -/
def ofDecimal (negative : Bool) (digits : Nat) (exponent : Int) : Binary64 :=
  if digits = 0 then zero negative
  else
    let size : Int := (Nat.toDigits 10 digits).length
    if 310 < size + exponent then .infinite negative
    else if size + exponent < -330 then zero negative
    else if 0 ≤ exponent then ofQuotient negative (digits * Nat.pow 10 exponent.toNat) 1
    else ofQuotient negative digits (Nat.pow 10 (-exponent).toNat)

/-- The number with the sign turned around. -/
def negate : Binary64 → Binary64
  | .nan => .nan
  | .infinite negative => .infinite !negative
  | .finite negative mantissa exponent => .finite (!negative) mantissa exponent

/-- Either zero. -/
def isZero : Binary64 → Bool
  | .finite _ 0 _ => true
  | _ => false

/-- A number that is zero or above; not the one that is not a number. -/
def isNonnegative : Binary64 → Bool
  | .nan => false
  | .infinite negative => !negative
  | .finite negative mantissa _ => !negative || mantissa = 0

/-- A whole number times a power of two, rounded; a zero keeps the given sign. -/
def ofScaled (zeroSign : Bool) (n : Int) (exponent : Int) : Binary64 :=
  if n = 0 then zero zeroSign
  else if 0 ≤ exponent then ofQuotient (n < 0) (n.natAbs * Nat.pow 2 exponent.toNat) 1
  else ofQuotient (n < 0) n.natAbs (Nat.pow 2 (-exponent).toNat)

/-- A mantissa with its sign. -/
def signed (negative : Bool) (mantissa : Nat) : Int :=
  if negative then -(mantissa : Int) else mantissa

/-- The sum of two numbers, rounded. -/
def add : Binary64 → Binary64 → Binary64
  | .nan, _ => .nan
  | _, .nan => .nan
  | .infinite a, .infinite b => if a = b then .infinite a else .nan
  | .infinite a, .finite _ _ _ => .infinite a
  | .finite _ _ _, .infinite b => .infinite b
  | .finite a m e, .finite b n f =>
    let low := min e f
    let left := signed a m * Nat.pow 2 (e - low).toNat
    let right := signed b n * Nat.pow 2 (f - low).toNat
    ofScaled (a && b) (left + right) low

/-- The product of two numbers, rounded. -/
def mul : Binary64 → Binary64 → Binary64
  | .nan, _ => .nan
  | _, .nan => .nan
  | .infinite a, .infinite b => .infinite (a != b)
  | .infinite a, .finite b n _ => if n = 0 then .nan else .infinite (a != b)
  | .finite a m _, .infinite b => if m = 0 then .nan else .infinite (a != b)
  | .finite a m e, .finite b n f => ofScaled (a != b) (signed a m * signed b n) (e + f)

/-- The whole number that a number is, if it is one. -/
def toInt? : Binary64 → Option Int
  | .finite negative mantissa exponent =>
    if 0 ≤ exponent then some (signed negative (mantissa * Nat.pow 2 exponent.toNat))
    else
      let den := Nat.pow 2 (-exponent).toNat
      if mantissa % den = 0 then some (signed negative (mantissa / den)) else none
  | _ => none

/-- Not the one that is not a number, and not an infinity. -/
def isFinite : Binary64 → Bool
  | .finite _ _ _ => true
  | _ => false

end Binary64

end BrowserScenario.Number
