/-!
# Dates

Days of the Gregorian calendar, extended to all years from -262143 to 262142.  Days are counted
from the first of January of the year one, which is day 1.
-/

namespace ChartQuery

/-! ### Years and months -/

namespace Calendar

/-- The years of the calendar. -/
def minYear : Int := -262143

/-- The last year of the calendar. -/
def maxYear : Int := 262142

/-- Whether a year has a 29th of February. -/
def isLeap (year : Int) : Bool :=
  year % 4 == 0 && (year % 100 != 0 || year % 400 == 0)

/-- The number of days of a month, zero for what is no month. -/
def daysInMonth (year : Int) : Nat → Nat
  | 1 => 31
  | 2 => if isLeap year then 29 else 28
  | 3 => 31
  | 4 => 30
  | 5 => 31
  | 6 => 30
  | 7 => 31
  | 8 => 31
  | 9 => 30
  | 10 => 31
  | 11 => 30
  | 12 => 31
  | _ => 0

/-- The number of days of a year before a month. -/
def daysBeforeMonth (year : Int) : Nat → Nat
  | 0 => 0
  | month + 1 => daysBeforeMonth year month + daysInMonth year month

/-- The number of days from the year one to before a year. -/
def daysBeforeYear (year : Int) : Int :=
  let y := year - 1
  365 * y + y / 4 - y / 100 + y / 400

/-- The year of a day and the number of days of the year before it. -/
def yearOfDay (day : Int) : Int × Nat :=
  let d := day - 1
  let cycle := d / 146097
  let d := (d % 146097).toNat
  let century := min (d / 36524) 3
  let d := d - 36524 * century
  let four := d / 1461
  let d := d % 1461
  let one := min (d / 365) 3
  (400 * cycle + 100 * century + 4 * four + one + 1, d - 365 * one)

/-- The month that holds a day of a year, looked for from a month on, and the days of the month
before that day. -/
def monthOfDay (year : Int) : Nat → Nat → Nat → Nat × Nat
  | 0, month, day => (month, day)
  | n + 1, month, day =>
    if day < daysInMonth year month then (month, day)
    else monthOfDay year n (month + 1) (day - daysInMonth year month)

/-- Whether a year, a month and a day make a date. -/
def isDate (year : Int) (month day : Nat) : Bool :=
  minYear ≤ year && year ≤ maxYear && 1 ≤ day && day ≤ daysInMonth year month

end Calendar

/-! ### Dates -/

open Calendar

/-- A date of the calendar. -/
structure Date where
  year : Int
  month : Nat
  day : Nat
  isDate : Calendar.isDate year month day = true
  deriving DecidableEq, Repr

namespace Date

/-- The date with the given year, month and day, if there is one. -/
def ofYmd? (year : Int) (month day : Nat) : Option Date :=
  if h : Calendar.isDate year month day = true then some ⟨year, month, day, h⟩ else none

/-- The first of January of the year one. -/
def first : Date := ⟨1, 1, 1, by decide⟩

/-- The first of January 1970, from which instants are counted. -/
def epoch : Date := ⟨1970, 1, 1, by decide⟩

instance : Inhabited Date := ⟨epoch⟩

/-- The number of the day in its year, from one. -/
def ordinal (d : Date) : Nat := daysBeforeMonth d.year d.month + d.day

/-- The number of the day. -/
def number (d : Date) : Int := daysBeforeYear d.year + d.ordinal

/-- The date of the day with a number, if its year belongs to the calendar. -/
def ofNumber? (n : Int) : Option Date :=
  let (year, day) := yearOfDay n
  let (month, day) := monthOfDay year 11 1 day
  ofYmd? year month (day + 1)

/-- The day of the week, from zero for Sunday. -/
def weekday (d : Date) : Nat := (d.number % 7).toNat

/-- The day of the week, from one for Monday to seven. -/
def isoWeekday (d : Date) : Nat := if d.weekday = 0 then 7 else d.weekday

/-- The number of weeks of a year whose weeks belong to the year of their Thursday: 53 if the year
begins or ends with a Thursday. -/
def isoWeeks (year : Int) : Nat :=
  if (daysBeforeYear year + 1) % 7 = 4 ∨ daysBeforeYear (year + 1) % 7 = 4 then 53 else 52

/-- The year and the number of the week of a date; a week belongs to the year of its Thursday. -/
def isoWeek (d : Date) : Int × Nat :=
  let week := (d.ordinal + 10 - d.isoWeekday) / 7
  if week = 0 then (d.year - 1, isoWeeks (d.year - 1))
  else if isoWeeks d.year < week then (d.year + 1, 1)
  else (d.year, week)

/-- The day before, unless the calendar begins. -/
def pred? (d : Date) : Option Date := ofNumber? (d.number - 1)

/-- The day after, unless the calendar ends. -/
def succ? (d : Date) : Option Date := ofNumber? (d.number + 1)

end Date

end ChartQuery
