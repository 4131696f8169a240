/-!
# The proleptic Gregorian calendar

Days are numbered from 1 January 1970. A year is taken to begin in March, so that the leap day is
the last day of its year, and 400 years always have 146097 days.

## Main definitions

* `Calendar.Date` — year, month and day
* `Calendar.daysInMonth`, `Calendar.Date.Valid` — which dates exist
* `Calendar.Date.toDay`, `Calendar.Date.ofDay` — dates and day numbers
-/

namespace JobNotice.Calendar

/-- A date of the calendar; month and day count from one. -/
structure Date where
  year : Int
  month : Nat
  day : Nat
  deriving DecidableEq, Inhabited

/-- Every fourth year, but of the full centuries only every fourth. -/
def isLeapYear (year : Int) : Bool :=
  year % 4 == 0 && (year % 100 != 0 || year % 400 == 0)

def daysInMonth (year : Int) (month : Nat) : Nat :=
  if month = 2 then if isLeapYear year then 29 else 28
  else if month = 4 ∨ month = 6 ∨ month = 9 ∨ month = 11 then 30
  else 31

namespace Date

/-- A date that exists. -/
def Valid (d : Date) : Prop :=
  1 ≤ d.month ∧ d.month ≤ 12 ∧ 1 ≤ d.day ∧ d.day ≤ daysInMonth d.year d.month

instance (d : Date) : Decidable d.Valid := by unfold Valid; infer_instance

/-- Days of the 400-year cycle before the 1st of March of its year `y`. -/
def daysBeforeYear (y : Int) : Int := 365 * y + y / 4 - y / 100

/-- Days of a March year before the month that comes `m` after March. -/
def daysBeforeMonth (m : Int) : Int := (153 * m + 2) / 5

/-- The number of a date's day. -/
def toDay (d : Date) : Int :=
  let y := if d.month ≤ 2 then d.year - 1 else d.year
  let m : Int := if d.month ≤ 2 then (d.month : Int) + 9 else (d.month : Int) - 3
  y / 400 * 146097 + daysBeforeYear (y % 400) + daysBeforeMonth m + ((d.day : Int) - 1) - 719468

/-- The date of a day number. -/
def ofDay (n : Int) : Date :=
  let z := n + 719468
  let cycle := z / 146097
  let inCycle := z % 146097
  let y := (inCycle - inCycle / 1460 + inCycle / 36524 - inCycle / 146096) / 365
  let inYear := inCycle - daysBeforeYear y
  let m := (5 * inYear + 2) / 153
  let day := inYear - daysBeforeMonth m + 1
  let month := if m < 10 then m + 3 else m - 9
  { year := y + cycle * 400 + (if month ≤ 2 then 1 else 0), month := month.toNat, day := day.toNat }

end Date

end JobNotice.Calendar
