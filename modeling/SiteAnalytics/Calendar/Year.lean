/-!
# Years of the Gregorian calendar

Days are numbered through: 1970-01-01 is day 0, and the Gregorian rules hold for all years before
and after. `yearStart` counts the days before a year in closed form and `yearOf` is its inverse: a
division by the mean length of a year gives a candidate that is off by at most one.

`yearStart_yearOf_le` and `lt_yearStart_yearOf_succ` say that the year of a day contains it.
-/

namespace SiteAnalytics.Calendar

/-! ### Leap years -/

/-- Every fourth year is a leap year, except for the centuries that 400 does not divide. -/
def isLeapYear (y : Int) : Bool := y % 4 == 0 && (y % 100 != 0 || y % 400 == 0)

/-- The number of days of a year. -/
def yearLength (y : Int) : Int := if isLeapYear y then 366 else 365

/-- The day number of 1 January. -/
def yearStart (y : Int) : Int :=
  365 * (y - 1970) + ((y - 1) / 4 - (y - 1) / 100 + (y - 1) / 400) - 477

/-- A year ends where the next one begins. -/
theorem yearStart_succ (y : Int) : yearStart (y + 1) = yearStart y + yearLength y := by
  unfold yearStart yearLength isLeapYear
  simp only [Bool.and_eq_true, beq_iff_eq, Bool.or_eq_true, bne_iff_ne, ne_eq]
  split <;> omega

/-- Years begin one after the other. -/
theorem yearStart_lt_succ (y : Int) : yearStart y < yearStart (y + 1) := by
  rw [yearStart_succ]
  unfold yearLength
  split <;> omega

/-! ### The year of a day -/

/-- The year that contains a day, or a neighbour of it. -/
def yearGuess (day : Int) : Int := 400 * day / 146097 + 1970

/-- The year that contains a day. -/
def yearOf (day : Int) : Int :=
  let guess := yearGuess day
  if day < yearStart guess then guess - 1
  else if yearStart (guess + 1) ≤ day then guess + 1
  else guess

theorem yearStart_yearGuess_pred_le (day : Int) : yearStart (yearGuess day - 1) ≤ day := by
  unfold yearStart yearGuess
  omega

theorem lt_yearStart_yearGuess_add_two (day : Int) : day < yearStart (yearGuess day + 2) := by
  unfold yearStart yearGuess
  omega

/-- The year of a day has begun. -/
theorem yearStart_yearOf_le (day : Int) : yearStart (yearOf day) ≤ day := by
  have h := yearStart_yearGuess_pred_le day
  unfold yearOf
  dsimp only
  split
  · exact h
  · split <;> omega

/-- The year of a day has not ended. -/
theorem lt_yearStart_yearOf_succ (day : Int) : day < yearStart (yearOf day + 1) := by
  have h := lt_yearStart_yearGuess_add_two day
  unfold yearOf
  dsimp only
  split
  · rwa [Int.sub_add_cancel]
  · split
    · rwa [Int.add_assoc]
    · omega

end SiteAnalytics.Calendar
