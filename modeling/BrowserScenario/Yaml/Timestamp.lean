import BrowserScenario.Yaml.Fault

/-!
# Timestamps

A timestamp is a date of four, two and two digits, or a date with a time of day behind it. The
time may have a fraction of a second and an offset from universal time; month, day and hours may
then have one digit.
-/

namespace BrowserScenario.Yaml

open BrowserScenario.Number BrowserScenario.Time

/-- The digits of an offset from universal time: none for universal time itself. -/
inductive ZoneDigits
  | universal
  | ahead (negative : Bool) (hour minute : List Char)
deriving DecidableEq, Repr

/-- The digits of a time of day. -/
structure ClockDigits where
  hour : List Char
  minute : List Char
  second : List Char
  fraction : List Char
  zone : Option ZoneDigits
deriving DecidableEq, Repr

/-- The digits of a timestamp. -/
structure TimestampDigits where
  year : List Char
  month : List Char
  day : List Char
  clock : Option ClockDigits
deriving DecidableEq, Repr

/-- Between `least` and `most` digits in front of a text, as many as there are. -/
def digitsUpTo? (least most : Nat) (s : List Char) : Option (List Char × List Char) :=
  let digits := (s.takeWhile Char.isDigit).take most
  if digits.length < least then none else some (digits, s.drop digits.length)

/-- What follows a character in front of a text. -/
def after? (c : Char) : List Char → Option (List Char)
  | [] => none
  | d :: rest => if d = c then some rest else none

/-- A space or a tab. -/
def isSpaceOrTab (c : Char) : Bool :=
  c == ' ' || c == '\t'

/-- The offset at the end of a timestamp, none if there is no text left. -/
def zoneDigits? (s : List Char) : Option (Option ZoneDigits) :=
  match s, s.dropWhile isSpaceOrTab with
  | [], _ => some none
  | _, ['Z'] => some (some .universal)
  | _, sign :: rest =>
    if sign = '+' || sign = '-' then do
      let (hour, rest) ← digitsUpTo? 1 2 rest
      match rest with
      | [] => some (some (.ahead (sign = '-') hour []))
      | _ =>
        let (minute, rest) ← digitsUpTo? 2 2 (← after? ':' rest)
        if rest.isEmpty then some (some (.ahead (sign = '-') hour minute)) else none
    else none
  | _, [] => none

/-- What follows the mark or the blanks between the date and the time of day. -/
def afterDateMark? : List Char → Option (List Char)
  | [] => none
  | c :: rest =>
    if c = 'T' || c = 't' then some rest
    else if isSpaceOrTab c then some (rest.dropWhile isSpaceOrTab)
    else none

/-- The time of day that a text is. -/
def clockDigits? (s : List Char) : Option ClockDigits := do
  let (hour, s) ← digitsUpTo? 1 2 s
  let (minute, s) ← digitsUpTo? 2 2 (← after? ':' s)
  let (second, s) ← digitsUpTo? 2 2 (← after? ':' s)
  let (fraction, s) := match s with
    | '.' :: rest => (rest.takeWhile Char.isDigit, rest.dropWhile Char.isDigit)
    | s => ([], s)
  let zone ← zoneDigits? s
  return ⟨hour, minute, second, fraction, zone⟩

/-- The timestamp that a text is. -/
def timestampDigits? (s : List Char) : Option TimestampDigits := do
  let (year, s) ← digitsUpTo? 4 4 s
  let (month, s) ← digitsUpTo? 1 2 (← after? '-' s)
  let (day, s) ← digitsUpTo? 1 2 (← after? '-' s)
  if s.isEmpty then return ⟨year, month, day, none⟩
  else
    let clock ← clockDigits? (← afterDateMark? s)
    return ⟨year, month, day, some clock⟩

/-- Whether a text without a tag is taken for a timestamp. -/
def isTimestamp (s : List Char) : Bool :=
  match timestampDigits? s with
  | none => false
  | some found => found.clock.isSome || (found.month.length == 2 && found.day.length == 2)

/-- The value of digits. -/
def fieldValue (digits : List Char) : Nat :=
  digitsValue 10 digits

/-- The microseconds of the digits of a fraction, of which six count. -/
def microseconds (fraction : List Char) : Nat :=
  let digits := fraction.take 6
  fieldValue (digits ++ List.replicate (6 - digits.length) '0')

/-- The seconds of an offset, which has to be less than a day. -/
def zoneSeconds : ZoneDigits → Except DateFault Int
  | .universal => .ok 0
  | .ahead negative hour minute =>
    let size : Int := (fieldValue hour * 60 + fieldValue minute) * 60
    let seconds := if negative then -size else size
    if size < 86400 then .ok seconds else .error (.offset seconds)

/-- A date that the calendar has. -/
def checkedDate (year month day : Nat) : Except DateFault Date :=
  if year < 1 then .error (.year year)
  else if month < 1 || 12 < month then .error .month
  else if day < 1 || monthLength year month < day then .error .day
  else .ok ⟨year, month, day⟩

/-- The seconds of an optional offset. -/
def optionalZone : Option ZoneDigits → Except DateFault (Option Int)
  | none => .ok none
  | some zone => some <$> zoneSeconds zone

/-- The date or the moment of the digits of a timestamp. -/
def TimestampDigits.value (digits : TimestampDigits) : Except DateFault Data :=
  let date := checkedDate (fieldValue digits.year) (fieldValue digits.month) (fieldValue digits.day)
  match digits.clock with
  | none => Data.date <$> date
  | some clock => do
    let offset ← optionalZone clock.zone
    let date ← date
    let hour := fieldValue clock.hour
    let minute := fieldValue clock.minute
    let second := fieldValue clock.second
    if 23 < hour then .error .hour
    else if 59 < minute then .error .minute
    else if 59 < second then .error .second
    else return .moment ⟨date, hour, minute, second, microseconds clock.fraction, offset⟩

end BrowserScenario.Yaml
