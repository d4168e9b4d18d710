import BrowserScenario.Data.Basic
import BrowserScenario.Number.Reading
import BrowserScenario.Number.Shortest
import BrowserScenario.Text.Quoted

/-!
# Decoded values in messages

A message that cites a value shows it as text: a text as it is, anything else in a fixed notation.
Inside a collection a text is quoted, and dates name their kind. A value with a whole number in it
that is not written in decimal is cited by its kind alone.
-/

namespace BrowserScenario.Data

open BrowserScenario.Text BrowserScenario.Time

/-- Texts joined by a comma and a blank. -/
def commaJoined (items : List String) : String :=
  ", ".intercalate items

/-- A whole number in decimal. -/
def intText (n : Int) : String :=
  if n < 0 then "-" ++ toString n.natAbs else toString n.natAbs

/-- The distance from universal time as sign, hours and minutes, with seconds and their fraction
where they are not zero. -/
def offsetText (offset : Offset) : String :=
  let size := offset.microseconds.natAbs
  let seconds := size / 1000000
  let fraction := if size % 1000000 = 0 then [] else '.' :: padded 6 (size % 1000000)
  let fine := if size % 60000000 = 0 then [] else ':' :: padded 2 (seconds % 60) ++ fraction
  (if offset.microseconds < 0 then "-" else "+")
    ++ String.ofList
      (padded 2 (seconds / 3600) ++ ':' :: padded 2 (seconds / 60 % 60) ++ fine)

/-- A moment as date, time and offset. -/
def momentText (moment : Moment) : String :=
  let clock :=
    padded 2 moment.hour ++ ':' :: padded 2 moment.minute ++ ':' :: padded 2 moment.second
  let fraction :=
    if moment.microsecond = 0 then [] else '.' :: padded 6 moment.microsecond
  String.ofList (moment.date.chars ++ ' ' :: clock ++ fraction)
    ++ (moment.offset.map offsetText).getD ""

/-- A span of microseconds as whole days and the seconds and microseconds above them. -/
def spanText (microseconds : Int) : String :=
  let days := microseconds.fdiv dayMicroseconds
  let rest := microseconds - days * dayMicroseconds
  let parts :=
    (if days = 0 then [] else ["days=" ++ intText days])
      ++ (if rest / 1000000 = 0 then [] else ["seconds=" ++ intText (rest / 1000000)])
      ++ (if rest % 1000000 = 0 then [] else ["microseconds=" ++ intText (rest % 1000000)])
  "datetime.timedelta(" ++ (if parts.isEmpty then "0" else commaJoined parts) ++ ")"

/-- The offset of a moment inside a collection. -/
def zoneText (offset : Offset) : String :=
  if offset.microseconds = 0 then "datetime.timezone.utc"
  else "datetime.timezone(" ++ spanText offset.microseconds ++ ")"

/-- The fields of a date, from the year to the day. -/
def dateFields (date : Date) : List String :=
  [toString date.year, toString date.month, toString date.day]

/-- A moment inside a collection. Seconds and microseconds are left out from the end while they
are zero. -/
def momentParts (moment : Moment) : String :=
  let fine :=
    if moment.microsecond ≠ 0 then [toString moment.second, toString moment.microsecond]
    else if moment.second ≠ 0 then [toString moment.second]
    else []
  let zone := (moment.offset.map fun offset => ["tzinfo=" ++ zoneText offset]).getD []
  "datetime.datetime("
    ++ commaJoined
      (dateFields moment.date ++ [toString moment.hour, toString moment.minute] ++ fine ++ zone)
    ++ ")"

mutual

/-- A value as it is written inside a collection. -/
def written : Data → String
  | .null => "None"
  | .bool b => if b then "True" else "False"
  | .int n => intText n
  | .float x => x.text
  | .text s => quoted s
  | .bytes content => quotedBytes content
  | .date d => "datetime.date(" ++ commaJoined (dateFields d) ++ ")"
  | .moment m => momentParts m
  | .list items => "[" ++ commaJoined (writtenItems items) ++ "]"
  | .pair key value => "(" ++ written key ++ ", " ++ written value ++ ")"
  | .set items =>
    if items.isEmpty then "set()" else "\x7b" ++ commaJoined (writtenItems items) ++ "\x7d"
  | .map entries => "\x7b" ++ commaJoined (writtenEntries entries) ++ "\x7d"
  | .elided keyed => if keyed then "\x7b...\x7d" else "[...]"

/-- The members of a list, each as it is written. -/
def writtenItems : List Data → List String
  | [] => []
  | item :: rest => written item :: writtenItems rest

/-- The entries of a mapping, each as it is written. -/
def writtenEntries : List (Data × Data) → List String
  | [] => []
  | (key, value) :: rest => (written key ++ ": " ++ written value) :: writtenEntries rest

end

mutual

/-- Whether all whole numbers in a value are written in decimal. -/
def isWritable : Data → Bool
  | .int n => Number.isWritable n
  | .list items => areWritable items
  | .pair key value => key.isWritable && value.isWritable
  | .set items => areWritable items
  | .map entries => haveWritable entries
  | _ => true

/-- Whether this is so of all items. -/
def areWritable : List Data → Bool
  | [] => true
  | item :: rest => item.isWritable && areWritable rest

/-- Whether this is so of all entries. -/
def haveWritable : List (Data × Data) → Bool
  | [] => true
  | (key, value) :: rest => key.isWritable && value.isWritable && haveWritable rest

end

/-- The name of the kind of a value. -/
def kindName : Data → String
  | .null => "NoneType"
  | .bool _ => "bool"
  | .int _ => "int"
  | .float _ => "float"
  | .text _ => "str"
  | .bytes _ => "bytes"
  | .date _ => "date"
  | .moment _ => "datetime"
  | .list _ => "list"
  | .pair _ _ => "tuple"
  | .set _ => "set"
  | .map _ => "dict"
  | .elided keyed => if keyed then "dict" else "list"

/-- A value as a message cites it. -/
def shown (data : Data) : String :=
  match data with
  | .text s => s
  | .date d => String.ofList d.chars
  | .moment m => momentText m
  | other =>
    if other.isWritable then other.written else "<unprintable " ++ other.kindName ++ " object>"

end BrowserScenario.Data
