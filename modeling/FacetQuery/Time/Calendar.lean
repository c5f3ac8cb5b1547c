/-
**The calendar.**

Days are counted from the first of January 1970 in the Gregorian calendar, extended both ways. Years
are taken to begin in March, so that the leap day is the last of its year; four centuries from such
a year on always have the same number of days, and the months of the year follow one formula.
-/

namespace FacetQuery

/-- A day by year, month and day of the month. -/
structure CalendarDate where
  year : Int
  month : Nat
  day : Nat
deriving DecidableEq, Repr

namespace CalendarDate

/-- Whether a year has a leap day. -/
def isLeap (year : Int) : Bool := decide (year % 4 = 0 ∧ (year % 100 ≠ 0 ∨ year % 400 = 0))

/-- The number of days of a month. -/
def monthLength (year : Int) (month : Nat) : Nat :=
  if month = 2 then (if isLeap year then 29 else 28)
  else if month = 4 ∨ month = 6 ∨ month = 9 ∨ month = 11 then 30
  else 31

/-- Whether a date is in the calendar. -/
def isValid (date : CalendarDate) : Bool :=
  decide (1 ≤ date.month ∧ date.month ≤ 12 ∧ 1 ≤ date.day ∧
    date.day ≤ monthLength date.year date.month)

/-- The days of four centuries. -/
def cycle : Int := 146097

/-- From the first of March of the year zero to the first of January 1970. -/
def epoch : Int := 719468

/-- The number of days from 1970 to a date. -/
def toDays (date : CalendarDate) : Int :=
  let year := if date.month ≤ 2 then date.year - 1 else date.year
  let month : Int := (date.month + 9) % 12
  let yearOfCycle := year % 400
  let dayOfYear := (153 * month + 2) / 5 + date.day - 1
  let dayOfCycle := yearOfCycle * 365 + yearOfCycle / 4 - yearOfCycle / 100 + dayOfYear
  year / 400 * cycle + dayOfCycle - epoch

/-- The date of a number of days from 1970. -/
def ofDays (days : Int) : CalendarDate :=
  let shifted := days + epoch
  let dayOfCycle := shifted % cycle
  let yearOfCycle :=
    (dayOfCycle - dayOfCycle / 1460 + dayOfCycle / 36524 - dayOfCycle / 146096) / 365
  let dayOfYear := dayOfCycle - (365 * yearOfCycle + yearOfCycle / 4 - yearOfCycle / 100)
  let month := (5 * dayOfYear + 2) / 153
  let day := dayOfYear - (153 * month + 2) / 5 + 1
  let year := shifted / cycle * 400 + yearOfCycle
  if month < 10 then ⟨year, (month + 3).toNat, day.toNat⟩
  else ⟨year + 1, (month - 9).toNat, day.toNat⟩

end CalendarDate

end FacetQuery
