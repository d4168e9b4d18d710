/-!
# Decimal digits

Every script's decimal digits come in runs of ten consecutive code points from zero to nine, so
the zeros of Unicode 14 determine the value of each digit. Main statement: an ASCII digit has
its usual value.
-/

namespace BrowserScenario.Text

/-- The code points of the digit zero in each script above ASCII, in increasing order. -/
def decimalZeros : List Nat := [
   1632, 1776, 1984, 2406, 2534, 2662, 2790, 2918, 3046, 3174, 3302, 3430, 3558, 3664, 3792,
   3872, 4160, 4240, 6112, 6160, 6470, 6608, 6784, 6800, 6992, 7088, 7232, 7248, 42528, 43216,
   43264, 43472, 43504, 43600, 44016, 65296, 66720, 68912, 69734, 69872, 69942, 70096, 70384,
   70736, 70864, 71248, 71360, 71472, 71904, 72016, 72784, 73040, 73120, 92768, 92864, 93008,
   120782, 120792, 120802, 120812, 120822, 123200, 123632, 125264, 130032]

/-- The value of a decimal digit of any script. -/
def digitValue? (c : Char) : Option Nat :=
  if c.val < 128 then
    if c.isDigit then some (c.toNat - 48) else none
  else
    (decimalZeros.find? fun start => start ≤ c.toNat && c.toNat < start + 10).map (c.toNat - ·)

/-- A decimal digit of any script. -/
def isDecimal (c : Char) : Bool :=
  (digitValue? c).isSome

/-- Among the ASCII characters the decimal digits are the ten digits. -/
theorem isDecimal_of_ascii {c : Char} (hascii : c.val < 128) : isDecimal c = c.isDigit := by
  unfold isDecimal digitValue?
  by_cases h : c.isDigit = true <;> simp [hascii, h]

end BrowserScenario.Text
