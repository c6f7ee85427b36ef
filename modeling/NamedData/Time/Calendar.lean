/-
The Gregorian calendar, extended to all years, and the count of days that goes with it.

Days are counted from 1 January 1970. Years are taken to begin in March, so that the day that a
leap year adds is the last of its year, and come in cycles of 400 years or 146097 days.

* `daysOfDate` — the number of a date;
* `dateOfDays` — the date with a number.
-/

namespace NamedData.Calendar

/-- A date. -/
structure Date where
  /-- The year; the year before 1 is 0. -/
  year : Int
  /-- The month, from 1. -/
  month : Nat
  /-- The day of the month, from 1. -/
  day : Nat
deriving DecidableEq, Repr

/-- The number of days in a cycle of 400 years. -/
def cycleDays : Int := 146097

/-- The number of 1 March of the year 0, as days before 1 January 1970. -/
def daysBeforeEpoch : Int := 719468

/-- The number of a date, which need not be one of the calendar. -/
def daysOfDate (d : Date) : Int :=
  let year := if d.month ≤ 2 then d.year - 1 else d.year
  let yearOfCycle := year % 400
  let month : Int := (d.month + 9) % 12
  let dayOfYear := (153 * month + 2) / 5 + d.day - 1
  let dayOfCycle := yearOfCycle * 365 + yearOfCycle / 4 - yearOfCycle / 100 + dayOfYear
  year / 400 * cycleDays + dayOfCycle - daysBeforeEpoch

/-- The date with a number. -/
def dateOfDays (days : Int) : Date :=
  let shifted := days + daysBeforeEpoch
  let dayOfCycle := shifted % cycleDays
  let yearOfCycle :=
    (dayOfCycle - dayOfCycle / 1460 + dayOfCycle / 36524 - dayOfCycle / 146096) / 365
  let dayOfYear := dayOfCycle - (365 * yearOfCycle + yearOfCycle / 4 - yearOfCycle / 100)
  let month := (5 * dayOfYear + 2) / 153
  let day := dayOfYear - (153 * month + 2) / 5 + 1
  let calendarMonth := if month < 10 then month + 3 else month - 9
  let year := shifted / cycleDays * 400 + yearOfCycle
  ⟨if calendarMonth ≤ 2 then year + 1 else year, calendarMonth.toNat, day.toNat⟩

/-- Whether a year has a day more. -/
def isLeapYear (year : Int) : Bool :=
  year % 4 == 0 && (year % 100 != 0 || year % 400 == 0)

/-- The number of days in a month. -/
def daysInMonth (year : Int) (month : Nat) : Nat :=
  if month = 2 then (if isLeapYear year then 29 else 28)
  else if month ∈ [4, 6, 9, 11] then 30
  else 31

/-- Whether a date is one of the calendar. -/
def isValid (d : Date) : Bool :=
  1 ≤ d.month && d.month ≤ 12 && 1 ≤ d.day && d.day ≤ daysInMonth d.year d.month

end NamedData.Calendar
