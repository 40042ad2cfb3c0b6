import Formwork.Text.Decimal

/-! # Dates and times of day

Dates of the proleptic Gregorian calendar between the years -262143 and 262142,
and times of day whose last minute may hold a leap second. Days are counted from
1 January 1970; a date outside the range of years does not exist.
-/

namespace Formwork

namespace Calendar

/-- The first year of the calendar. -/
def firstYear : Int := -262143

/-- The last year of the calendar. -/
def lastYear : Int := 262142

/-- A leap year. -/
def isLeap (year : Int) : Bool := year % 4 = 0 && (year % 100 ≠ 0 || year % 400 = 0)

/-- The number of days of a month. -/
def daysInMonth (year : Int) (month : Nat) : Nat :=
  if month = 2 then (if isLeap year then 29 else 28)
  else if month = 4 ∨ month = 6 ∨ month = 9 ∨ month = 11 then 30
  else 31

/-- The parts name a day of the calendar. -/
def IsDate (year : Int) (month day : Nat) : Prop :=
  firstYear ≤ year ∧ year ≤ lastYear ∧ 1 ≤ month ∧ month ≤ 12 ∧ 1 ≤ day ∧
    day ≤ daysInMonth year month

instance (year : Int) (month day : Nat) : Decidable (IsDate year month day) :=
  inferInstanceAs (Decidable (_ ∧ _))

end Calendar

/-- A day of the calendar. -/
structure Date where
  year : Int
  month : Nat
  day : Nat
  isDate : Calendar.IsDate year month day
deriving DecidableEq

namespace Date

open Calendar

/-- The day with these parts, if there is one. -/
def ofParts? (year : Int) (month day : Nat) : Option Date :=
  if h : IsDate year month day then some ⟨year, month, day, h⟩ else none

/-- Days from 1 January 1970 to the day. Years are counted from March, so that
the leap day is the last of its year. -/
def toDays (d : Date) : Int :=
  let year := if d.month ≤ 2 then d.year - 1 else d.year
  let era := year / 400
  let yearOfEra := year - era * 400
  let monthFromMarch : Int := if d.month > 2 then d.month - 3 else d.month + 9
  let dayOfYear := (153 * monthFromMarch + 2) / 5 + d.day - 1
  era * 146097 + (yearOfEra * 365 + yearOfEra / 4 - yearOfEra / 100 + dayOfYear) - 719468

/-- The day that lies `days` after 1 January 1970, if the calendar has it. -/
def ofDays? (days : Int) : Option Date :=
  let shifted := days + 719468
  let era := shifted / 146097
  let dayOfEra := shifted - era * 146097
  let yearOfEra :=
    (dayOfEra - dayOfEra / 1460 + dayOfEra / 36524 - dayOfEra / 146096) / 365
  let dayOfYear := dayOfEra - (365 * yearOfEra + yearOfEra / 4 - yearOfEra / 100)
  let monthFromMarch := (5 * dayOfYear + 2) / 153
  let day := dayOfYear - (153 * monthFromMarch + 2) / 5 + 1
  let month := if monthFromMarch < 10 then monthFromMarch + 3 else monthFromMarch - 9
  let year := yearOfEra + era * 400
  ofParts? (if month ≤ 2 then year + 1 else year) month.toNat day.toNat

/-- The day of the week, Sunday being zero. -/
def weekday (d : Date) : Nat := ((d.toDays + 4) % 7).toNat

end Date

/-- A time of day. A sixtieth second is a leap second. -/
structure TimeOfDay where
  hour : Nat := 0
  minute : Nat := 0
  second : Nat := 0
  nanosecond : Nat := 0
deriving DecidableEq

/-- A date with a time of day. -/
structure DateTime where
  date : Date
  time : TimeOfDay
deriving DecidableEq

namespace DateTime

/-- The moment that lies `seconds` after the start of 1970, if the calendar has
it. -/
def ofUnix? (seconds : Int) : Option DateTime :=
  (Date.ofDays? (seconds / 86400)).map fun date =>
    let rest := (seconds % 86400).toNat
    ⟨date, ⟨rest / 3600, rest / 60 % 60, rest % 60, 0⟩⟩

/-- Seconds from the start of 1970; a leap second counts as the one before it. -/
def toUnix (d : DateTime) : Int :=
  d.date.toDays * 86400 + (d.time.hour * 3600 + d.time.minute * 60 + min d.time.second 59 : Nat)

end DateTime

namespace Calendar

/-- A year: four digits from 0 to 9999, at least four digits with a sign
elsewhere. -/
def yearChars (year : Int) : List Char :=
  if 0 ≤ year ∧ year ≤ 9999 then Decimal.padded 4 year.toNat
  else (if year < 0 then '-' else '+') :: Decimal.padded 4 year.natAbs

/-- Two digits. -/
def twoDigits (n : Nat) : List Char := Decimal.padded 2 n

/-- A fraction of a second, in as few groups of three digits as it takes. -/
def fractionChars (nanosecond : Nat) : List Char :=
  if nanosecond = 0 then []
  else if nanosecond % 1000000 = 0 then '.' :: Decimal.padded 3 (nanosecond / 1000000)
  else if nanosecond % 1000 = 0 then '.' :: Decimal.padded 6 (nanosecond / 1000)
  else '.' :: Decimal.padded 9 nanosecond

/-- A date and time as in `2024-02-29T13:00:00`. -/
def isoText (d : DateTime) : String :=
  String.ofList (yearChars d.date.year ++ '-' :: twoDigits d.date.month ++ '-' ::
    twoDigits d.date.day ++ 'T' :: twoDigits d.time.hour ++ ':' :: twoDigits d.time.minute ++
    ':' :: twoDigits d.time.second ++ fractionChars d.time.nanosecond)

/-- The short names of the days of the week, from Sunday. -/
def weekdayNames : List String := ["Sun", "Mon", "Tue", "Wed", "Thu", "Fri", "Sat"]

/-- The short names of the months. -/
def monthNames : List String :=
  ["Jan", "Feb", "Mar", "Apr", "May", "Jun", "Jul", "Aug", "Sep", "Oct", "Nov", "Dec"]

/-- A moment as in `Thu, 01 Jan 1970 00:00:01 GMT`. -/
def gmtText (d : DateTime) : String :=
  weekdayNames.getD d.date.weekday "" ++ ", " ++ String.ofList (twoDigits d.date.day) ++ " " ++
    monthNames.getD (d.date.month - 1) "" ++ " " ++ String.ofList (yearChars d.date.year) ++ " " ++
    String.ofList (twoDigits d.time.hour ++ ':' :: twoDigits d.time.minute ++ ':' ::
      twoDigits d.time.second) ++ " GMT"

end Calendar

end Formwork
