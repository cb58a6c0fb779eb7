import SiteAnalytics.Calendar.Year

/-!
# Dates

A day is its number, and a `Date` is the view of a day as year, month and day of the month.
Months within a year are found by counting those that have begun, so that a month is the interval
between two of its first days, like a year.

The calendar is bounded: it runs from 1 January of the year -262143 to 31 December of 262142.
Arithmetic that would leave it has no result.
-/

namespace SiteAnalytics.Calendar

/-! ### Months -/

/-- The number of days of a month, counted from 1. -/
def monthLength (leap : Bool) : Nat → Nat
  | 2 => if leap then 29 else 28
  | 4 | 6 | 9 | 11 => 30
  | _ => 31

/-- The number of days of a year before one of its months. -/
def daysBeforeMonth (leap : Bool) : Nat → Nat
  | 0 | 1 => 0
  | month + 1 => daysBeforeMonth leap month + monthLength leap month

/-- The month that contains the day `ordinal` of a year, both ends counted from the first: month
from 1, ordinal from 0. It is the number of months that have begun by then. -/
def monthOfOrdinal (leap : Bool) (ordinal : Int) : Nat :=
  ((List.range 12).filter fun m => (daysBeforeMonth leap (m + 1) : Int) ≤ ordinal).length

/-! ### Dates -/

/-- A day as year, month and day of the month, both counted from 1. -/
structure Date where
  year : Int
  month : Nat
  day : Nat
  deriving DecidableEq, Repr

/-- The date of a day. -/
def Date.ofDay (n : Int) : Date :=
  let year := yearOf n
  let leap := isLeapYear year
  let ordinal := n - yearStart year
  let month := monthOfOrdinal leap ordinal
  ⟨year, month, (ordinal - daysBeforeMonth leap month).toNat + 1⟩

/-- The day of a date. -/
def Date.toDay (d : Date) : Int :=
  yearStart d.year + daysBeforeMonth (isLeapYear d.year) d.month + (d.day : Int) - 1

/-- The first day of the month of a day. -/
def monthStart (n : Int) : Int := Date.toDay { Date.ofDay n with day := 1 }

/-! ### The bounds of the calendar -/

/-- The first year of the calendar. -/
def firstYear : Int := -262143

/-- The last year of the calendar. -/
def lastYear : Int := 262142

/-- The day is one of the calendar. -/
def inCalendar (n : Int) : Bool := yearStart firstYear ≤ n && n < yearStart (lastYear + 1)

/-- The day with the given year, month and day of the month, if there is one. -/
def dayOfYmd? (year : Int) (month day : Nat) : Option Int :=
  if firstYear ≤ year && year ≤ lastYear && 1 ≤ month && month ≤ 12 && 1 ≤ day &&
      day ≤ monthLength (isLeapYear year) month then
    some (Date.toDay ⟨year, month, day⟩)
  else none

/-- The day `n` days later. -/
def addDays? (day n : Int) : Option Int := if inCalendar (day + n) then some (day + n) else none

/-- The same day of the month `n` months later, or the last day of that month if it is shorter. -/
def addMonths? (day n : Int) : Option Int :=
  let date := Date.ofDay day
  let index := 12 * date.year + ((date.month : Int) - 1) + n
  let year := index / 12
  let month := (index % 12).toNat + 1
  if firstYear ≤ year && year ≤ lastYear then
    some (Date.toDay ⟨year, month, min date.day (monthLength (isLeapYear year) month)⟩)
  else none

end SiteAnalytics.Calendar
