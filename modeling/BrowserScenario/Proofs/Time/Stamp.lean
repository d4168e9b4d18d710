import BrowserScenario.Proofs.Time.Calendar
import BrowserScenario.Proofs.Time.FixedWidth
import BrowserScenario.Time.Moment

/-!
# The order of stamps

The stamp of an instant is a function of the millisecond that it lies in: a record of fixed width of
the fields of a date and of a time of day. The fields of universal time come in the order of time,
and records in the order of their fields. Main statements: the stamps of two instants compare as
their milliseconds do; and so do the stamps of two moments, by their universal time, whatever the
offsets of their clocks.
-/

namespace BrowserScenario.Time

/-- The fields of a stamp. -/
def stampLayout : List Field :=
  [⟨4, '-'⟩, ⟨2, '-'⟩, ⟨2, 'T'⟩, ⟨2, '-'⟩, ⟨2, '-'⟩, ⟨2, '-'⟩, ⟨3, 'Z'⟩]

/-- The number of milliseconds of a day. -/
def dayMilliseconds : Nat := 86400000

/-- The numbers that a stamp shows, from the year down to the millisecond, when the milliseconds are
counted from the start of year 1. -/
def stampFields (millisecond : Nat) : List Nat :=
  (Date.ofNumber (millisecond / dayMilliseconds + 1)).fields ++
    [millisecond % dayMilliseconds / 3600000, millisecond / 60000 % 60, millisecond / 1000 % 60,
      millisecond % 1000]

/-- The millisecond that an instant lies in, counted from the start of year 1. -/
def Instant.millisecond (instant : Instant) : Nat :=
  instant.count / 1000

/-- The milliseconds of the calendar. -/
def calendarMilliseconds : Set Nat :=
  Set.Iio (calendarDays * dayMilliseconds)

variable {millisecond : Nat} {first second : Instant}

/-- An instant lies in a millisecond of the calendar. -/
theorem Instant.millisecond_mem (instant : Instant) :
    instant.millisecond ∈ calendarMilliseconds := by
  have hinside := instant.inside
  unfold calendarMicroseconds dayMicroseconds at hinside
  change instant.count / 1000 < calendarDays * 86400000
  omega

/-- A stamp is the record of the numbers of its millisecond. -/
theorem Instant.stamp_eq (instant : Instant) :
    instant.stamp = record stampLayout (stampFields instant.millisecond) := by
  have hday : instant.count / dayMicroseconds = instant.millisecond / dayMilliseconds :=
    (Nat.div_div_eq_div_mul instant.count 1000 dayMilliseconds).symm
  have hhour : instant.count % dayMicroseconds / 1000000 / 3600
      = instant.millisecond % dayMilliseconds / 3600000 := by
    unfold dayMicroseconds dayMilliseconds millisecond
    omega
  have hminute : instant.count % dayMicroseconds / 1000000 / 60 % 60
      = instant.millisecond / 60000 % 60 := by
    unfold dayMicroseconds millisecond
    omega
  have hsecond : instant.count % dayMicroseconds / 1000000 % 60
      = instant.millisecond / 1000 % 60 := by
    unfold dayMicroseconds millisecond
    omega
  have hlast : instant.count % 1000000 / 1000 = instant.millisecond % 1000 := by
    unfold millisecond
    omega
  simp only [stamp, Moment.stampChars, Date.chars, moment, hday, hhour, hminute, hsecond, hlast,
    stampLayout, stampFields, Date.fields, record, List.cons_append, List.nil_append,
    List.append_assoc]

/-- The day of a millisecond of the calendar is one that the calendar has. -/
theorem date_spec (h : millisecond ∈ calendarMilliseconds) :
    (Date.ofNumber (millisecond / dayMilliseconds + 1)).isValid = true ∧
      (Date.ofNumber (millisecond / dayMilliseconds + 1)).number
        = millisecond / dayMilliseconds + 1 :=
  Date.ofNumber_spec (Nat.le_add_left 1 _)
    (Nat.div_lt_of_lt_mul (Nat.mul_comm calendarDays dayMilliseconds ▸ h))

/-- No month is longer than 31 days. -/
theorem monthLength_le (year month : Nat) : monthLength year month ≤ 31 := by
  unfold monthLength
  split_ifs <;> decide

/-- The numbers of a stamp fit its fields. -/
theorem stampFields_fit (h : millisecond ∈ calendarMilliseconds) :
    List.Forall₂ Field.Fits stampLayout (stampFields millisecond) := by
  obtain ⟨hyear, hmonth, hday⟩ := Date.isValid_iff.1 (date_spec h).1
  have hlength := Nat.le_trans hday.2 (monthLength_le _ _)
  simp only [stampLayout, stampFields, Date.fields, List.cons_append, List.nil_append,
    List.forall₂_cons, List.Forall₂.nil, Field.Fits, and_true]
  unfold dayMilliseconds at *
  omega

/-- The numbers of a later millisecond come later. -/
theorem stampFields_strictMono : StrictMonoOn stampFields calendarMilliseconds := by
  intro first hfirst second hsecond h
  rcases Nat.lt_or_ge (first / dayMilliseconds) (second / dayMilliseconds) with hday | hday
  · refine append_lt_append_of_lt _ _ rfl ?_
    refine Date.fields_lt_of_number_lt (date_spec hfirst).1 (date_spec hsecond).1 ?_
    rw [(date_spec hfirst).2, (date_spec hsecond).2]
    exact Nat.succ_lt_succ hday
  · have hsame : first / dayMilliseconds = second / dayMilliseconds :=
      Nat.le_antisymm (Nat.div_le_div_right (Nat.le_of_lt h)) hday
    rw [stampFields, stampFields, hsame]
    refine List.append_left_lt ?_
    simp only [List.cons_lt_cons_iff, List.lt_irrefl, and_false, or_false]
    unfold dayMilliseconds at hsame ⊢
    omega

/-- The stamps of milliseconds of the calendar come in the order of time. -/
theorem stamp_strictMono :
    StrictMonoOn (fun millisecond => record stampLayout (stampFields millisecond))
      calendarMilliseconds :=
  (record_strictMono stampLayout).comp stampFields_strictMono fun _ => stampFields_fit

/-- The stamp of an instant comes first when its millisecond does. -/
theorem stamp_lt_iff : first.stamp < second.stamp ↔ first.millisecond < second.millisecond := by
  rw [first.stamp_eq, second.stamp_eq]
  exact stamp_strictMono.lt_iff_lt first.millisecond_mem second.millisecond_mem

/-- Two instants have one stamp when they lie in one millisecond. -/
theorem stamp_eq_iff : first.stamp = second.stamp ↔ first.millisecond = second.millisecond := by
  rw [first.stamp_eq, second.stamp_eq]
  exact stamp_strictMono.eq_iff_eq first.millisecond_mem second.millisecond_mem

/-- All stamps are of one length. -/
theorem Instant.length_stamp (instant : Instant) : instant.stamp.length = 24 := by
  rw [instant.stamp_eq, length_record (stampFields_fit instant.millisecond_mem)]
  rfl

/-- The instant of a moment lies in the millisecond of its universal time. -/
theorem millisecond_of_instant {moment : Moment} {instant : Instant}
    (h : moment.instant = .ok instant) :
    (instant.millisecond : Int) = moment.microseconds / 1000 := by
  rw [← count_of_instant h]
  exact Int.natCast_ediv instant.count 1000

/-- Moments of the calendar have stamps, and these compare as their universal time does when it is
cut to the millisecond: the offsets of their clocks make no difference. -/
theorem stamp_chronological {first second : Moment}
    (hfirst : first.offset.isSome) (hsecond : second.offset.isSome)
    (hfirstInside : 0 ≤ first.microseconds ∧ first.microseconds < calendarMicroseconds)
    (hsecondInside : 0 ≤ second.microseconds ∧ second.microseconds < calendarMicroseconds) :
    ∃ firstInstant secondInstant,
      first.instant = .ok firstInstant ∧ second.instant = .ok secondInstant ∧
      (firstInstant.stamp < secondInstant.stamp
        ↔ first.microseconds / 1000 < second.microseconds / 1000) ∧
      (firstInstant.stamp = secondInstant.stamp
        ↔ first.microseconds / 1000 = second.microseconds / 1000) := by
  obtain ⟨firstInstant, hfirstOk⟩ := (instant_isOk_iff first hfirst).2 hfirstInside
  obtain ⟨secondInstant, hsecondOk⟩ := (instant_isOk_iff second hsecond).2 hsecondInside
  refine ⟨firstInstant, secondInstant, hfirstOk, hsecondOk, ?_, ?_⟩
  · rw [stamp_lt_iff, ← millisecond_of_instant hfirstOk, ← millisecond_of_instant hsecondOk]
    exact Int.ofNat_lt.symm
  · rw [stamp_eq_iff, ← millisecond_of_instant hfirstOk, ← millisecond_of_instant hsecondOk]
    exact Int.natCast_inj.symm

/-- The last half hour of a leap year, on a clock that is an hour behind. -/
def lateEvening : Moment :=
  ⟨⟨2024, 12, 31⟩, 23, 30, 0, 123456, some ⟨-3600000000⟩⟩

/-- The same millisecond on a clock that is ahead by two hours and a microsecond. -/
def earlyMorning : Moment :=
  ⟨⟨2025, 1, 1⟩, 2, 30, 0, 123999, some ⟨7200000001⟩⟩

/-- Two hours before, on a clock that already shows the next year. -/
def afterMidnight : Moment :=
  ⟨⟨2025, 1, 1⟩, 0, 30, 0, 0, some ⟨7200000000⟩⟩

/-- The same millisecond has one stamp on both clocks, and of two moments the earlier has the lesser
stamp, though its clock shows a later date. -/
theorem stamp_chronological_newYear :
    (∃ evening morning, lateEvening.instant = .ok evening ∧ earlyMorning.instant = .ok morning ∧
      evening.stamp = morning.stamp) ∧
    ∃ midnight evening, afterMidnight.instant = .ok midnight ∧ lateEvening.instant = .ok evening ∧
      midnight.stamp < evening.stamp := by
  obtain ⟨evening, morning, hevening, hmorning, -, hequal⟩ :=
    stamp_chronological (show lateEvening.offset.isSome from rfl)
      (show earlyMorning.offset.isSome from rfl) (by decide) (by decide)
  obtain ⟨midnight, later, hmidnight, hlater, horder, -⟩ :=
    stamp_chronological (show afterMidnight.offset.isSome from rfl)
      (show lateEvening.offset.isSome from rfl) (by decide) (by decide)
  exact ⟨⟨evening, morning, hevening, hmorning, hequal.2 (by decide)⟩,
    midnight, later, hmidnight, hlater, horder.2 (by decide)⟩

end BrowserScenario.Time
