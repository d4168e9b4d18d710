import BrowserScenario.Time.Calendar

/-!
# Moments and instants

An instant is a microsecond of the years 1 to 9999 of universal time. Its stamp is that time to
the millisecond, in characters that may stand in a file name. A moment is a date and a time of
day, with the offset of its clock from universal time, to the microsecond, or without one. Main
statement: a moment is an instant when its universal time is inside the calendar.
-/

namespace BrowserScenario.Time

/-- The microseconds that a clock is ahead of universal time. -/
structure Offset where
  microseconds : Int
deriving DecidableEq, Repr

/-- The offset of whole seconds. -/
def Offset.ofSeconds (seconds : Int) : Offset :=
  ⟨seconds * 1000000⟩

/-- An offset is mostly written in whole seconds, or not at all. -/
instance : Coe (Option Int) (Option Offset) :=
  ⟨Option.map Offset.ofSeconds⟩

/-- A date and a time of day on a clock with an offset from universal time or without one. -/
structure Moment where
  date : Date
  hour : Nat
  minute : Nat
  second : Nat
  microsecond : Nat
  offset : Option Offset
deriving DecidableEq, Repr

/-- The number of microseconds of a day. -/
def dayMicroseconds : Nat := 86400 * 1000000

/-- The microseconds since the start of the day. -/
def Moment.ofDay (moment : Moment) : Nat :=
  ((moment.hour * 60 + moment.minute) * 60 + moment.second) * 1000000 + moment.microsecond

/-- The microseconds of universal time since the start of year 1; a clock without a stated offset
shows universal time. -/
def Moment.microseconds (moment : Moment) : Int :=
  ((moment.date.number - 1 : Nat) * dayMicroseconds + moment.ofDay : Nat)
    - (moment.offset.getD ⟨0⟩).microseconds

/-- The number of microseconds of the calendar. -/
def calendarMicroseconds : Nat := calendarDays * dayMicroseconds

/-- A microsecond of universal time inside the calendar, counted from the start of year 1. -/
structure Instant where
  count : Nat
  inside : count < calendarMicroseconds
deriving DecidableEq, Repr

/-- The universal time of an instant, to the microsecond. -/
def Instant.moment (instant : Instant) : Moment :=
  let seconds := instant.count % dayMicroseconds / 1000000
  { date := Date.ofNumber (instant.count / dayMicroseconds + 1)
    hour := seconds / 3600
    minute := seconds / 60 % 60
    second := seconds % 60
    microsecond := instant.count % 1000000
    offset := some ⟨0⟩ }

/-- The date and time of a moment as they are on its clock, cut to the millisecond. -/
def Moment.stampChars (moment : Moment) : List Char :=
  moment.date.chars ++ 'T' :: padded 2 moment.hour ++ '-' :: padded 2 moment.minute
    ++ '-' :: padded 2 moment.second ++ '-' :: padded 3 (moment.microsecond / 1000) ++ ['Z']

/-- The stamp of an instant. -/
def Instant.stamp (instant : Instant) : List Char :=
  instant.moment.stampChars

/-- Why a moment is no instant: its universal time is outside the calendar, or its clock has no
offset and the day before it is outside the calendar. -/
inductive CalendarFault
  | outside
  | noDayBefore
deriving DecidableEq, Repr

/-- The wording of a fault. -/
def CalendarFault.message : CalendarFault → String
  | .outside => "date value out of range"
  | .noDayBefore => "year 0 is out of range"

/-- The name of the kind of a fault. -/
def CalendarFault.kind : CalendarFault → String
  | .outside => "OverflowError"
  | .noDayBefore => "ValueError"

/-- The instant of a moment. -/
def Moment.instant (moment : Moment) : Except CalendarFault Instant :=
  if moment.offset = none && moment.date.number = 1 then .error .noDayBefore
  else if h : 0 ≤ moment.microseconds ∧ moment.microseconds < calendarMicroseconds then
    .ok ⟨moment.microseconds.toNat, by omega⟩
  else .error .outside

/-- A moment with an offset is an instant exactly when its universal time is inside the calendar. -/
theorem instant_isOk_iff (moment : Moment) (hoffset : moment.offset.isSome) :
    (∃ instant, moment.instant = .ok instant)
      ↔ 0 ≤ moment.microseconds ∧ moment.microseconds < calendarMicroseconds := by
  have hsome : ¬ moment.offset = none := fun h => by simp [h] at hoffset
  unfold Moment.instant
  rw [if_neg (by simp [hsome])]
  by_cases h : 0 ≤ moment.microseconds ∧ moment.microseconds < calendarMicroseconds
  · simp [h]
  · simp [h]

/-- The instant of a moment is its universal time. -/
theorem count_of_instant {moment : Moment} {instant : Instant}
    (h : moment.instant = .ok instant) : (instant.count : Int) = moment.microseconds := by
  unfold Moment.instant at h
  split at h
  · exact nomatch h
  · split at h
    · rename_i hinside
      cases h
      exact Int.toNat_of_nonneg hinside.1
    · exact nomatch h

end BrowserScenario.Time
