import BrowserScenario.Data.Display
import BrowserScenario.Number.Reading
import Mathlib.Data.List.Basic
import Mathlib.Data.List.Induction
import Mathlib.Data.Nat.Digits.Defs

/-!
# Whole numbers in decimal

The lenient reading of whole numbers looks at the digits that follow blanks and a sign, and at
nothing after them. Main statements: the decimal of a whole number is read as this number, whatever
its sign, with any blanks in front of it and anything after it that does not start with a digit, if
it has no more digits than are converted; and a number that was read from digits can be written.
-/

namespace BrowserScenario.Number

open BrowserScenario.Text

/-- What stands in front of the digits of a whole number, and whether it is a minus. -/
inductive SignOf : List Char → Bool → Prop
  | absent : SignOf [] false
  | plus : SignOf ['+'] false
  | minus : SignOf ['-'] true

/-- No decimal digit of any script is a blank. -/
theorem not_isBlank_of_isDecimal {c : Char} (h : isDecimal c = true) : isBlank c = false := by
  unfold isBlank
  by_cases hascii : c.val < 128
  · rw [isDecimal_of_ascii hascii] at h
    have hrange : 48 ≤ c.toNat ∧ c.toNat ≤ 57 := by
      simpa [Char.isDigit, UInt32.le_iff_toNat_le] using h
    simp
    omega
  · -- The blanks above ASCII lie between the runs of digits.
    have hzeros : ∀ start ∈ decimalZeros, 160 < start ∧ (start + 9 < 5760 ∨
        (5760 < start ∧ start + 9 < 8192) ∨ (8287 < start ∧ start + 9 < 12288) ∨
          12288 < start) := by
      decide
    have hrun : ∃ start ∈ decimalZeros, start ≤ c.toNat ∧ c.toNat < start + 10 := by
      simpa [isDecimal, digitValue?, hascii] using h
    obtain ⟨start, hstart, hlower, hupper⟩ := hrun
    have hstart := hzeros start hstart
    simp
    omega

/-- A sign is told from the digits after it. -/
theorem splitSign_append {sign digits : List Char} {negative : Bool} (hsign : SignOf sign negative)
    (hdigits : ∀ c ∈ digits.head?, isDecimal c = true) :
    splitSign (sign ++ digits) = (negative, digits) := by
  cases hsign with
  | absent =>
    cases digits with
    | nil => rfl
    | cons c rest =>
      have hc : isDecimal c = true := hdigits c rfl
      have hplus : c ≠ '+' := by
        rintro rfl
        exact absurd hc (by decide)
      have hminus : c ≠ '-' := by
        rintro rfl
        exact absurd hc (by decide)
      simp [splitSign, hplus, hminus]
  | plus => rfl
  | minus => rfl

/-- Neither a sign nor a decimal digit is taken for a blank. -/
theorem dropWhile_isBlank_append {blanks sign digits : List Char} {negative : Bool}
    (hblanks : ∀ c ∈ blanks, isBlank c = true) (hsign : SignOf sign negative)
    (hdigits : ∀ c ∈ digits.head?, isDecimal c = true) :
    (blanks ++ (sign ++ digits)).dropWhile isBlank = sign ++ digits := by
  rw [List.dropWhile_append_of_pos hblanks]
  cases hsign with
  | absent =>
    cases digits with
    | nil => rfl
    | cons c rest =>
      have hc : isBlank c = false := not_isBlank_of_isDecimal (hdigits c rfl)
      exact List.dropWhile_cons_of_neg (by simp [hc])
  | plus => rfl
  | minus => rfl

/-- A text with digits after blanks and a sign is read as the signed value of these digits. -/
theorem leadingInteger_of_digits (default : Int) {blanks sign digits rest : List Char}
    {negative : Bool} (hblanks : ∀ c ∈ blanks, isBlank c = true) (hsign : SignOf sign negative)
    (hne : digits ≠ []) (hdigits : ∀ c ∈ digits, isDecimal c = true)
    (hrest : ∀ c ∈ rest.head?, isDecimal c = false) :
    leadingInteger default (blanks ++ (sign ++ (digits ++ rest))) =
      limitedValue negative digits := by
  obtain ⟨first, more, rfl⟩ := List.exists_cons_of_ne_nil hne
  have hhead : ∀ c ∈ (first :: more ++ rest).head?, isDecimal c = true := by
    intro c hc
    obtain rfl : first = c := Option.some.inj hc
    exact hdigits first List.mem_cons_self
  have htake : (first :: more ++ rest).takeWhile isDecimal = first :: more := by
    rw [List.takeWhile_append_of_pos hdigits]
    cases rest with
    | nil => simp
    | cons c rest => simp [hrest c rfl]
  unfold leadingInteger
  rw [dropWhile_isBlank_append hblanks hsign hhead, splitSign_append hsign hhead]
  simp only [htake]

/-- The value of an ASCII digit. -/
theorem digitValue?_of_isDigit {c : Char} (h : c.isDigit = true) :
    digitValue? c = some (c.toNat - '0'.toNat) := by
  have hrange : 48 ≤ c.val ∧ c.val ≤ 57 := by simpa [Char.isDigit] using h
  have hascii : c.val < 128 := UInt32.lt_of_le_of_lt hrange.2 (by decide)
  unfold digitValue?
  rw [if_pos hascii, if_pos h]
  rfl

/-- The digits of a number are decimal digits. -/
theorem isDecimal_of_mem_toDigits {n : Nat} {c : Char} (h : c ∈ Nat.toDigits 10 n) :
    isDecimal c = true := by
  have hdigit : c.isDigit = true := Nat.isDigit_of_mem_toDigits (by decide) (by decide) h
  rw [isDecimal, digitValue?_of_isDigit hdigit]
  rfl

/-- The digits of a number have the value of the number. -/
theorem digitsValue_toDigits (n : Nat) : digitsValue 10 (Nat.toDigits 10 n) = n := by
  calc digitsValue 10 (Nat.toDigits 10 n)
      = Nat.ofDigitChars 10 (Nat.toDigits 10 n) 0 := by
        unfold digitsValue Nat.ofDigitChars
        refine List.foldl_ext _ _ 0 fun value c hc => ?_
        have hdigit : c.isDigit = true := Nat.isDigit_of_mem_toDigits (by decide) (by decide) hc
        rw [digitValue?_of_isDigit hdigit, Nat.mul_comm]
        rfl
    _ = n := Nat.ofDigitChars_toDigits (by decide) (by decide)

/-- Another digit at the end makes a value ten times as large, and adds its own. -/
theorem digitsValue_concat (digits : List Char) (last : Char) :
    digitsValue 10 (digits ++ [last]) = digitsValue 10 digits * 10 + (digitValue? last).getD 0 :=
  List.foldl_concat _ _ _ _

/-- The value of a digit of any script is less than ten. -/
theorem digitValue?_lt (c : Char) : (digitValue? c).getD 0 < 10 := by
  unfold digitValue?
  split
  · split
    · rename_i hdigit
      have hrange : 48 ≤ c.toNat ∧ c.toNat ≤ 57 := by
        simpa [Char.isDigit, UInt32.le_iff_toNat_le] using hdigit
      change c.toNat - 48 < 10
      omega
    · exact Nat.succ_pos 9
  · cases hfound : decimalZeros.find? fun start => start ≤ c.toNat && c.toNat < start + 10 with
    | none => exact Nat.succ_pos 9
    | some start =>
      have hrun := List.find?_some hfound
      simp only [Bool.and_eq_true, decide_eq_true_eq] at hrun
      change c.toNat - start < 10
      omega

/-- Digits have a value below the power of ten that has one digit more. -/
theorem digitsValue_lt (digits : List Char) : digitsValue 10 digits < 10 ^ digits.length := by
  induction digits using List.reverseRecOn with
  | nil => exact Nat.one_pos
  | append_singleton digits last ih =>
    have hlast := digitValue?_lt last
    rw [digitsValue_concat, List.length_append, List.length_singleton, pow_succ]
    omega

/-- A number that was read from no more digits than are converted is written in decimal. -/
theorem isWritable_of_limitedValue {digits : List Char} {negative : Bool} {n : Int}
    (h : limitedValue negative digits = .ok n) : isWritable n = true := by
  unfold limitedValue at h
  split at h
  · exact nomatch h
  · rename_i hfew
    obtain rfl := Except.ok.inj h
    have hsize : (withSign negative (digitsValue 10 digits)).natAbs = digitsValue 10 digits := by
      unfold withSign
      split <;> simp
    have hbound : digitsValue 10 digits < 10 ^ digitLimit :=
      (digitsValue_lt digits).trans_le (Nat.pow_le_pow_right (by decide) (Nat.not_lt.1 hfew))
    unfold isWritable
    rw [hsize, decide_eq_true_iff]
    exact Nat.toDigits_length 10 _ digitLimit (by decide) hbound

/-- The decimal of a whole number is a sign and the digits of its size. -/
theorem exists_sign_intText (n : Int) :
    ∃ sign, SignOf sign (decide (n < 0)) ∧
      (Data.intText n).toList = sign ++ Nat.toDigits 10 n.natAbs := by
  unfold Data.intText
  by_cases h : n < 0
  · refine ⟨['-'], by simpa [h] using SignOf.minus, ?_⟩
    rw [if_pos h, Nat.toString_eq_ofList_toDigits]
    simp
  · refine ⟨[], by simpa [h] using SignOf.absent, ?_⟩
    rw [if_neg h, Nat.toString_eq_ofList_toDigits]
    simp

/-- A sign and the digits of the size of a whole number have the value of the number. -/
theorem withSign_natAbs (n : Int) : withSign (decide (n < 0)) n.natAbs = n := by
  unfold withSign
  by_cases h : n < 0
  · rw [decide_eq_true h, if_pos rfl]
    omega
  · rw [decide_eq_false h, if_neg Bool.false_ne_true]
    omega

/-- The decimal of a whole number is read as the number, with any blanks in front of it and with
anything after it that does not start with a digit. -/
theorem leadingInteger_intText (default n : Int) {blanks rest : List Char}
    (hlimit : (Nat.toDigits 10 n.natAbs).length ≤ digitLimit)
    (hblanks : ∀ c ∈ blanks, isBlank c = true) (hrest : ∀ c ∈ rest.head?, isDecimal c = false) :
    leadingInteger default (blanks ++ ((Data.intText n).toList ++ rest)) = .ok n := by
  obtain ⟨sign, hsign, htext⟩ := exists_sign_intText n
  rw [htext, List.append_assoc, leadingInteger_of_digits default hblanks hsign Nat.toDigits_ne_nil
    (fun c => isDecimal_of_mem_toDigits) hrest]
  unfold limitedValue
  rw [if_neg (Nat.not_lt.2 hlimit), digitsValue_toDigits, withSign_natAbs]

/-- The decimal of a whole number has no dollar sign. -/
theorem dollar_not_mem_intText (n : Int) : '$' ∉ (Data.intText n).toList := by
  obtain ⟨sign, hsign, htext⟩ := exists_sign_intText n
  rw [htext, List.mem_append, not_or]
  refine ⟨?_, fun h => absurd (isDecimal_of_mem_toDigits h) (by decide)⟩
  generalize decide (n < 0) = negative at hsign
  cases hsign <;> decide

end BrowserScenario.Number
