import AdapterReport.Text.Digits

/-!
# Dates and times of day

A `Moment` counts seconds since the beginning of 1970 in Coordinated Universal Time and knows the
distance of the local zone. `Moment.local` gives the date of the Gregorian calendar, extended to
all years, and the time of day there. `Moment.headerText` and `Moment.stamp` write them for the
head of a report and for the name of its file.
-/

namespace AdapterReport

/-- A point in time, and the local zone in which it is shown. -/
structure Moment where
  /-- Seconds since the beginning of 1970. -/
  seconds : Int
  /-- The part of the second in nanoseconds; from a whole second on it is a leap second. -/
  nanos : Nat
  /-- Seconds by which the local zone is ahead. -/
  offset : Int

/-- A day of the Gregorian calendar. -/
structure Date where
  year : Int
  month : Nat
  day : Nat
  deriving DecidableEq

/-- A time of day; a leap second is the second 60. -/
structure TimeOfDay where
  hour : Nat
  minute : Nat
  second : Nat
  deriving DecidableEq

/-- The number of days in 400 years. -/
def daysPerEra : Nat := 146097

/-- The date of a day counted from the first of January 1970. Years are taken from March to
February, so that a leap day is the last of its year, and in groups of 400. -/
def Date.ofDays (days : Int) : Date :=
  let shifted := days + 719468
  let era := shifted / daysPerEra
  let dayOfEra := (shifted % daysPerEra).toNat
  let yearOfEra :=
    (dayOfEra - dayOfEra / 1460 + dayOfEra / 36524 - dayOfEra / 146096) / 365
  let dayOfYear := dayOfEra - (365 * yearOfEra + yearOfEra / 4 - yearOfEra / 100)
  let shiftedMonth := (5 * dayOfYear + 2) / 153
  let day := dayOfYear - (153 * shiftedMonth + 2) / 5 + 1
  let month := if shiftedMonth < 10 then shiftedMonth + 3 else shiftedMonth - 9
  let year := yearOfEra + era * 400 + if month ≤ 2 then 1 else 0
  ⟨year, month, day⟩

/-- The day of the week of a day counted from the first of January 1970, from Sunday as 0. -/
def weekday (days : Int) : Nat :=
  ((days + 4) % 7).toNat

/-- The names of the days of the week. -/
def weekdayNames : List String :=
  ["Sun", "Mon", "Tue", "Wed", "Thu", "Fri", "Sat"]

/-- The names of the months. -/
def monthNames : List String :=
  ["Jan", "Feb", "Mar", "Apr", "May", "Jun", "Jul", "Aug", "Sep", "Oct", "Nov", "Dec"]

namespace Moment

/-- Seconds since the beginning of 1970 by the local clock. -/
def localSeconds (m : Moment) : Int :=
  m.seconds + m.offset

/-- Days since the first of January 1970 by the local clock. -/
def localDays (m : Moment) : Int :=
  m.localSeconds / 86400

/-- The local date. -/
def date (m : Moment) : Date :=
  Date.ofDays m.localDays

/-- The local time of day. -/
def timeOfDay (m : Moment) : TimeOfDay :=
  let second := (m.localSeconds % 86400).toNat
  ⟨second / 3600, second / 60 % 60, second % 60 + m.nanos / 1000000000⟩

/-- A year with at least four digits; a sign stands before a negative year and before one of more
digits. -/
def yearText (year : Int) : String :=
  (if year < 0 then "-" else if 9999 < year then "+" else "")
    ++ Text.decimalPadded 4 year.natAbs

/-- A number with at least two characters, filled with a space. -/
def spacePadded (n : Nat) : String :=
  if n < 10 then " " ++ Text.decimalPadded 1 n else Text.decimalPadded 1 n

/-- The local date and time in the style of a letter head: `Tue Mar  5 07:08:09 2024`. -/
def headerText (m : Moment) : String :=
  let date := m.date
  let time := m.timeOfDay
  weekdayNames.getD (weekday m.localDays) "" ++ " " ++ monthNames.getD (date.month - 1) "" ++ " "
    ++ spacePadded date.day ++ " " ++ Text.decimalPadded 2 time.hour ++ ":"
    ++ Text.decimalPadded 2 time.minute ++ ":" ++ Text.decimalPadded 2 time.second ++ " "
    ++ yearText date.year

/-- The local date and time as a part of a file name: `2024-03-05-07-08-09`. -/
def stamp (m : Moment) : String :=
  let date := m.date
  let time := m.timeOfDay
  "-".intercalate
    [yearText date.year, Text.decimalPadded 2 date.month, Text.decimalPadded 2 date.day,
      Text.decimalPadded 2 time.hour, Text.decimalPadded 2 time.minute,
      Text.decimalPadded 2 time.second]

end Moment

end AdapterReport
