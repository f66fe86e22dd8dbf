import Continuity.Decimal.Text
import Continuity.Text.Blank

/-! # Dates and moments

Dates of the Gregorian calendar from year 1 to year 9999, moments with microseconds and an optional
distance from universal time, their written forms, and the moment of a number of seconds since the
start of 1970.
-/

namespace Continuity

open Decimal (padded)

/-- A day of the calendar. -/
structure Date where
  year : Nat
  month : Nat
  day : Nat
  deriving Repr, DecidableEq, Inhabited

/-- A moment; `offset` is its distance from universal time in seconds, where that is known. -/
structure Moment where
  date : Date
  hour : Nat
  minute : Nat
  second : Nat
  microsecond : Nat
  offset : Option Int
  deriving Repr, DecidableEq, Inhabited

/-- Why numbers name no date or moment. -/
inductive CalendarFault where
  | year (year : Int)
  | month
  | day
  | hour
  | minute
  | second
  /-- A distance of a day or more from universal time, in seconds. -/
  | offset (seconds : Int)
  /-- A number of seconds for which the calendar has no year. -/
  | clock
  /-- A number of seconds beyond any clock. -/
  | clockRange
  deriving Repr, DecidableEq

namespace CalendarFault

/-- A length of time in days and seconds. -/
def duration (seconds : Int) : String :=
  let days := seconds.fdiv 86400
  let rest := seconds.fmod 86400
  let parts := (if days = 0 then [] else ["days=" ++ toString days]) ++
    (if rest = 0 then [] else ["seconds=" ++ toString rest])
  "datetime.timedelta(" ++ (if parts.isEmpty then "0" else String.intercalate ", " parts) ++ ")"

/-- The sort of failure that a fault is. -/
def sort : CalendarFault → String
  | .clock => "OSError"
  | .clockRange => "OverflowError"
  | _ => "ValueError"

/-- The wording of a fault. -/
def message : CalendarFault → String
  | .year y => "year " ++ toString y ++ " is out of range"
  | .month => "month must be in 1..12"
  | .day => "day is out of range for month"
  | .hour => "hour must be in 0..23"
  | .minute => "minute must be in 0..59"
  | .second => "second must be in 0..59"
  | .offset seconds =>
    "offset must be a timedelta strictly between -timedelta(hours=24) and timedelta(hours=24), not "
      ++ duration seconds ++ "."
  | .clock => "[Errno 75] Value too large for defined data type"
  | .clockRange => "timestamp out of range for platform time_t"

end CalendarFault

/-- Leap years. -/
def isLeapYear (year : Nat) : Bool :=
  year % 4 == 0 && (year % 100 != 0 || year % 400 == 0)

/-- The number of days of a month. -/
def daysInMonth (year month : Nat) : Nat :=
  if month == 2 then if isLeapYear year then 29 else 28
  else if month == 4 || month == 6 || month == 9 || month == 11 then 30
  else 31

namespace Date

/-- The date with the given numbers; the year is checked first and the day last. -/
def make (year month day : Nat) : Except CalendarFault Date :=
  if year < 1 ∨ 9999 < year then .error (.year year)
  else if month < 1 ∨ 12 < month then .error .month
  else if day < 1 ∨ daysInMonth year month < day then .error .day
  else .ok ⟨year, month, day⟩

/-- Year, month and day with hyphens. -/
def iso (d : Date) : String :=
  padded 4 d.year ++ "-" ++ padded 2 d.month ++ "-" ++ padded 2 d.day

/-- The date as a term of a message. -/
def literal (d : Date) : String :=
  "datetime.date(" ++ String.intercalate ", " [toString d.year, toString d.month, toString d.day]
    ++ ")"

end Date

namespace Moment

/-- The moment with the given numbers. -/
def make (date : Date) (hour minute second microsecond : Nat) (offset : Option Int) :
    Except CalendarFault Moment :=
  if 23 < hour then .error .hour
  else if 59 < minute then .error .minute
  else if 59 < second then .error .second
  else .ok ⟨date, hour, minute, second, microsecond, offset⟩

/-- A distance from universal time in hours and minutes, and seconds if there are any. -/
def offsetText (offset : Int) : String :=
  let n := offset.natAbs
  (if offset < 0 then "-" else "+") ++ padded 2 (n / 3600) ++ ":" ++ padded 2 (n / 60 % 60) ++
    (if n % 60 = 0 then "" else ":" ++ padded 2 (n % 60))

/-- Date and time around a separator. -/
def isoWith (separator : String) (m : Moment) : String :=
  m.date.iso ++ separator ++ padded 2 m.hour ++ ":" ++ padded 2 m.minute ++ ":" ++
    padded 2 m.second ++
    (if m.microsecond = 0 then "" else "." ++ padded 6 m.microsecond) ++
    (match m.offset with | none => "" | some o => offsetText o)

/-- The standard written form. -/
def iso (m : Moment) : String := m.isoWith "T"

/-- The standard written form, with `Z` for universal time. -/
def isoZulu (m : Moment) : String :=
  m.date.iso ++ "T" ++ padded 2 m.hour ++ ":" ++ padded 2 m.minute ++ ":" ++ padded 2 m.second ++
    (if m.microsecond = 0 then "" else "." ++ padded 6 m.microsecond) ++
    (match m.offset with | none => "" | some 0 => "Z" | some o => offsetText o)

/-- The moment as a term of a message. -/
def literal (m : Moment) : String :=
  let seconds :=
    if m.microsecond ≠ 0 then [toString m.second, toString m.microsecond]
    else if m.second ≠ 0 then [toString m.second]
    else []
  let zone := match m.offset with
    | none => []
    | some 0 => ["tzinfo=datetime.timezone.utc"]
    | some o => ["tzinfo=datetime.timezone(" ++ CalendarFault.duration o ++ ")"]
  "datetime.datetime(" ++ String.intercalate ", "
    ([toString m.date.year, toString m.date.month, toString m.date.day, toString m.hour,
      toString m.minute] ++ seconds ++ zone) ++ ")"

/-- Year, month and day of a day counted from the first of March of year zero, in eras of four
hundred years. -/
def civil (days : Nat) : Nat × Nat × Nat :=
  let era := days / 146097
  let dayOfEra := days % 146097
  let yearOfEra := (dayOfEra - dayOfEra / 1460 + dayOfEra / 36524 - dayOfEra / 146096) / 365
  let dayOfYear := dayOfEra - (365 * yearOfEra + yearOfEra / 4 - yearOfEra / 100)
  let shifted := (5 * dayOfYear + 2) / 153
  let month := if shifted < 10 then shifted + 3 else shifted - 9
  (yearOfEra + era * 400 + (if month ≤ 2 then 1 else 0), month,
    dayOfYear - (153 * shifted + 2) / 5 + 1)

/-- The last number of seconds whose year a clock can hold. -/
def lastClockSecond : Nat := 67768036191676799

/-- The moment, in universal time, that lies `seconds` after the start of 1970. -/
def ofEpoch (seconds : Nat) : Except CalendarFault Moment :=
  if Nat.pow 2 63 ≤ seconds then .error .clockRange
  else if lastClockSecond < seconds then .error .clock
  else
    let (year, month, day) := civil (seconds / 86400 + 719468)
    if 9999 < year then .error (.year ((year : Int).bmod (Nat.pow 2 32)))
    else .ok ⟨⟨year, month, day⟩, seconds % 86400 / 3600, seconds % 3600 / 60, seconds % 60, 0,
      some 0⟩

end Moment

end Continuity
