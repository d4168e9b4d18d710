/-!
# The calendar

Dates of the years 1 to 9999 in the Gregorian calendar, extended to all of them. A date of the
calendar has a day that exists in its month. A date has a number, which counts the days from the
first day of year 1, and the date of a number is found from the mean length of a year.
-/

namespace BrowserScenario.Time

/-- A day of a month of a year, all counted from one. -/
structure Date where
  year : Nat
  month : Nat
  day : Nat
deriving DecidableEq, Repr

/-- A year with a twenty-ninth of February. -/
def isLeap (year : Nat) : Bool :=
  year % 4 == 0 && (year % 100 != 0 || year % 400 == 0)

/-- The number of days of a month. -/
def monthLength (year month : Nat) : Nat :=
  if month = 2 then (if isLeap year then 29 else 28)
  else if month = 4 || month = 6 || month = 9 || month = 11 then 30
  else 31

/-- The number of days before the first day of a year. -/
def daysBeforeYear (year : Nat) : Nat :=
  (year - 1) * 365 + (year - 1) / 4 - (year - 1) / 100 + (year - 1) / 400

/-- The number of days of a year before the first day of one of its months. -/
def daysBeforeMonth (year : Nat) : Nat → Nat
  | 0 => 0
  | 1 => 0
  | month + 1 => daysBeforeMonth year month + monthLength year month

namespace Date

/-- A date that the calendar has. -/
def isValid (date : Date) : Bool :=
  1 ≤ date.year && date.year ≤ 9999 && 1 ≤ date.month && date.month ≤ 12
    && 1 ≤ date.day && date.day ≤ monthLength date.year date.month

/-- The number of a date: the first day of year 1 has number one. -/
def number (date : Date) : Nat :=
  daysBeforeYear date.year + daysBeforeMonth date.year date.month + date.day

end Date

/-- The year of the day with a number: the estimate from the mean length of a year is at most one
too high or too low. -/
def yearOfNumber (number : Nat) : Nat :=
  let guess := (number - 1) * 400 / 146097 + 1
  if number ≤ daysBeforeYear guess then guess - 1
  else if daysBeforeYear (guess + 1) < number then guess + 1
  else guess

/-- The month that a day of a year falls in, searched downwards from a month. -/
def monthOfDay (year day : Nat) : Nat → Nat
  | 0 => 1
  | 1 => 1
  | month + 1 =>
    if daysBeforeMonth year (month + 1) < day then month + 1 else monthOfDay year day month

/-- The date of a day number. -/
def Date.ofNumber (number : Nat) : Date :=
  let year := yearOfNumber number
  let day := number - daysBeforeYear year
  let month := monthOfDay year day 12
  ⟨year, month, day - daysBeforeMonth year month⟩

/-- The number of days of the years 1 to 9999. -/
def calendarDays : Nat := daysBeforeYear 10000

/-- The decimal digits of a number, with zeros in front up to a width. -/
def padded (width n : Nat) : List Char :=
  let digits := Nat.toDigits 10 n
  List.replicate (width - digits.length) '0' ++ digits

/-- A date with its fields of fixed width, joined by hyphens. -/
def Date.chars (date : Date) : List Char :=
  padded 4 date.year ++ '-' :: padded 2 date.month ++ '-' :: padded 2 date.day

end BrowserScenario.Time
