import BrowserScenario.Time.Calendar
import Mathlib.Order.Monotone.Basic

/-!
# The order of the calendar

A date lies in its year and in its month, so that dates come in the order of their fields, the year
first. Main statements: of two dates of the calendar the one with the smaller number comes first in
the order of their fields; and every number of a day in the calendar is the number of a date that the
calendar has, the one that is computed from it.
-/

namespace BrowserScenario.Time

/-- The number of days of a year. -/
def yearLength (year : Nat) : Nat :=
  if isLeap year then 366 else 365

/-- The fields of a date, in the order in which dates are compared. -/
def Date.fields (date : Date) : List Nat :=
  [date.year, date.month, date.day]

variable {year month day : Nat} {date other : Date}

/-- A leap year is every fourth one but not every hundredth, unless it is a four-hundredth. -/
theorem isLeap_iff :
    isLeap year = true ↔ 4 ∣ year ∧ (¬ 100 ∣ year ∨ 400 ∣ year) := by
  simp [isLeap, Nat.dvd_iff_mod_eq_zero]

/-- A year begins as many days after the one before it as that one has. -/
theorem daysBeforeYear_succ (h : 1 ≤ year) :
    daysBeforeYear (year + 1) = daysBeforeYear year + yearLength year := by
  obtain ⟨before, rfl⟩ := Nat.exists_eq_add_of_le' h
  have hcenturies : before / 100 ≤ before := Nat.div_le_self before 100
  unfold daysBeforeYear yearLength
  -- Each quotient goes up by one in the years that its divisor divides.
  rw [Nat.add_sub_cancel, Nat.add_sub_cancel, Nat.succ_div, Nat.succ_div, Nat.succ_div]
  simp only [isLeap_iff]
  generalize before / 100 = centuries at *
  generalize before / 4 = fourths at *
  generalize before / 400 = cycles at *
  split_ifs <;> omega

/-- Years begin in order. -/
theorem daysBeforeYear_mono : Monotone daysBeforeYear := by
  refine monotone_nat_of_le_succ fun year => ?_
  cases year with
  | zero => exact Nat.le_refl _
  | succ before =>
    rw [daysBeforeYear_succ (Nat.le_add_left 1 before)]
    exact Nat.le_add_right _ _

/-- A month begins as many days after the one before it as that one has. -/
theorem daysBeforeMonth_succ (h : 1 ≤ month) :
    daysBeforeMonth year (month + 1) = daysBeforeMonth year month + monthLength year month := by
  obtain ⟨before, rfl⟩ := Nat.exists_eq_add_of_le' h
  rfl

/-- Months begin in order. -/
theorem daysBeforeMonth_mono (year : Nat) : Monotone (daysBeforeMonth year) := by
  refine monotone_nat_of_le_succ fun month => ?_
  cases month with
  | zero => exact Nat.le_refl _
  | succ before => exact Nat.le_add_right _ _

/-- The twelve months make up the year. -/
theorem daysBeforeMonth_thirteen (year : Nat) : daysBeforeMonth year 13 = yearLength year := by
  by_cases hleap : isLeap year = true
  · simp [daysBeforeMonth, monthLength, yearLength, hleap]
  · simp [daysBeforeMonth, monthLength, yearLength, hleap]

/-- What the calendar asks of a date. -/
theorem Date.isValid_iff : date.isValid = true ↔
    (1 ≤ date.year ∧ date.year ≤ 9999) ∧ (1 ≤ date.month ∧ date.month ≤ 12) ∧
      1 ≤ date.day ∧ date.day ≤ monthLength date.year date.month := by
  simp [isValid, and_assoc]

/-- A date lies in its month. -/
theorem Date.day_le (h : date.isValid = true) :
    daysBeforeMonth date.year date.month + date.day ≤
      daysBeforeMonth date.year (date.month + 1) := by
  obtain ⟨-, hmonth, hday⟩ := isValid_iff.1 h
  rw [daysBeforeMonth_succ hmonth.1]
  omega

/-- A date lies in its year. -/
theorem Date.number_le (h : date.isValid = true) :
    daysBeforeYear date.year < date.number ∧ date.number ≤ daysBeforeYear (date.year + 1) := by
  obtain ⟨hyear, hmonth, hday⟩ := isValid_iff.1 h
  have hin := day_le h
  have hmonths : daysBeforeMonth date.year (date.month + 1) ≤ yearLength date.year :=
    daysBeforeMonth_thirteen date.year ▸ daysBeforeMonth_mono date.year (by omega)
  rw [daysBeforeYear_succ hyear.1, number]
  omega

/-- Dates of the calendar come in the order of their numbers. -/
theorem Date.fields_lt_of_number_lt (hdate : date.isValid = true) (hother : other.isValid = true)
    (h : date.number < other.number) : date.fields < other.fields := by
  simp only [fields, List.cons_lt_cons_iff, List.lt_irrefl, and_false, or_false]
  rcases Nat.lt_trichotomy date.year other.year with hyear | hyear | hyear
  · exact .inl hyear
  · refine .inr ⟨hyear, ?_⟩
    rcases Nat.lt_trichotomy date.month other.month with hmonth | hmonth | hmonth
    · exact .inl hmonth
    · refine .inr ⟨hmonth, ?_⟩
      rw [number, number, hyear, hmonth] at h
      omega
    · -- A date of a later month of the year has a greater number.
      have hstart := daysBeforeMonth_mono date.year (show other.month + 1 ≤ date.month from hmonth)
      have hin := day_le hother
      rw [number, number, ← hyear] at h
      rw [← hyear] at hin
      obtain ⟨-, -, hday⟩ := isValid_iff.1 hdate
      omega
  · -- A date of a later year has a greater number.
    have hstart := daysBeforeYear_mono (show other.year + 1 ≤ date.year from hyear)
    have hin := (number_le hother).2
    have hafter := (number_le hdate).1
    omega

/-- The year of a number begins before it, and the next one does not. -/
theorem yearOfNumber_spec {number : Nat} (h : 1 ≤ number) :
    1 ≤ yearOfNumber number ∧ daysBeforeYear (yearOfNumber number) < number ∧
      number ≤ daysBeforeYear (yearOfNumber number + 1) := by
  unfold yearOfNumber daysBeforeYear
  simp only
  split
  · omega
  · split
    · omega
    · omega

/-- The month of a day of a year begins before it, and the next one does not. -/
theorem monthOfDay_spec {last : Nat} (hlast : 1 ≤ last) (hday : 1 ≤ day)
    (hin : day ≤ daysBeforeMonth year (last + 1)) :
    (1 ≤ monthOfDay year day last ∧ monthOfDay year day last ≤ last) ∧
      daysBeforeMonth year (monthOfDay year day last) < day ∧
        day ≤ daysBeforeMonth year (monthOfDay year day last + 1) := by
  induction last with
  | zero => omega
  | succ before ih =>
    cases before with
    | zero => exact ⟨⟨Nat.le_refl _, Nat.le_refl _⟩, hday, hin⟩
    | succ before =>
      rw [monthOfDay]
      split
      · rename_i hmonth
        exact ⟨⟨by omega, Nat.le_refl _⟩, hmonth, hin⟩
      · rename_i hmonth
        have hspec := ih (by omega) (by omega)
        exact ⟨⟨hspec.1.1, by omega⟩, hspec.2⟩
      · omega

/-- The date of a number of the calendar is a date that the calendar has, and has the number. -/
theorem Date.ofNumber_spec {number : Nat} (h : 1 ≤ number) (hcalendar : number ≤ calendarDays) :
    (ofNumber number).isValid = true ∧ (ofNumber number).number = number := by
  obtain ⟨hyear, hstart, hin⟩ := yearOfNumber_spec h
  have hlast : yearOfNumber number ≤ 9999 := by
    by_contra hlate
    have hmono := daysBeforeYear_mono (show 10000 ≤ yearOfNumber number by omega)
    unfold calendarDays at hcalendar
    omega
  rw [daysBeforeYear_succ hyear, ← daysBeforeMonth_thirteen] at hin
  have hday : number - daysBeforeYear (yearOfNumber number)
      ≤ daysBeforeMonth (yearOfNumber number) 13 := by omega
  obtain ⟨hmonth, hmonthStart, hmonthIn⟩ :=
    monthOfDay_spec (show 1 ≤ 12 by decide) (by omega) hday
  rw [daysBeforeMonth_succ hmonth.1] at hmonthIn
  simp only [isValid_iff, Date.number, ofNumber]
  omega

end BrowserScenario.Time
