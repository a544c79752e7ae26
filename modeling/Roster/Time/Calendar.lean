/-!
# The calendar

Dates of the Gregorian calendar, counted in days since 1970-01-01.  A year is taken to begin in March,
so that a leap day is the last day of its year; 400 such years have 146097 days.

* `Date` — year, month and day of the month.
* `Date.ofDays`, `Date.toDays` — from a count of days to the date and back.
* `Date.isValid` — whether the month has such a day.
-/

set_option autoImplicit false

namespace Roster

/-- A calendar date. -/
structure Date where
  year : Int
  month : Nat
  day : Nat
deriving DecidableEq, Repr

namespace Date

/-- A year with a leap day. -/
def isLeap (year : Int) : Bool := year % 4 = 0 && (year % 100 ≠ 0 || year % 400 = 0)

/-- Days of a month. -/
def monthLength (year : Int) (month : Nat) : Nat :=
  if month = 2 then if isLeap year then 29 else 28
  else if month = 4 ∨ month = 6 ∨ month = 9 ∨ month = 11 then 30
  else 31

/-- A month of the year and a day of that month. -/
def isValid (d : Date) : Bool :=
  1 ≤ d.month && d.month ≤ 12 && 1 ≤ d.day && d.day ≤ monthLength d.year d.month

/-- Days from 0000-03-01 to 1970-01-01. -/
abbrev epochShift : Int := 719468

/-- The date so many days after 1970-01-01. -/
def ofDays (days : Int) : Date :=
  let z := days + epochShift
  let era := z / 146097
  let dayOfEra := (z % 146097).toNat
  let century := min (dayOfEra / 36524) 3
  let dayOfCentury := dayOfEra - century * 36524
  let quad := dayOfCentury / 1461
  let dayOfQuad := dayOfCentury % 1461
  let yearOfQuad := min (dayOfQuad / 365) 3
  let dayOfYear := dayOfQuad - yearOfQuad * 365
  let marchMonth := (5 * dayOfYear + 2) / 153
  let day := dayOfYear - (153 * marchMonth + 2) / 5 + 1
  let month := if marchMonth < 10 then marchMonth + 3 else marchMonth - 9
  let marchYear := era * 400 + (century * 100 + quad * 4 + yearOfQuad : Nat)
  ⟨if month ≤ 2 then marchYear + 1 else marchYear, month, day⟩

/-- Days from 1970-01-01 to a date. -/
def toDays (d : Date) : Int :=
  let marchYear := if d.month ≤ 2 then d.year - 1 else d.year
  let era := marchYear / 400
  let yearOfEra := (marchYear % 400).toNat
  let marchMonth := if d.month ≤ 2 then d.month + 9 else d.month - 3
  let dayOfYear := (153 * marchMonth + 2) / 5 + d.day - 1
  let dayOfEra := yearOfEra * 365 + yearOfEra / 4 - yearOfEra / 100 + dayOfYear
  era * 146097 + dayOfEra - epochShift

end Date

end Roster
