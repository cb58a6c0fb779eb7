import Mathlib.Algebra.Order.Group.Int
import Mathlib.Tactic.SplitIfs
import SiteAnalytics.Calendar.DateTime
import SiteAnalytics.Proofs.Calendar.Month

/-!
# Arithmetic of whole seconds

A date-time without a fraction is its number of seconds, `DateTime.ofSecond`, and on those the
operations of `DateTime` are those of the integers: order (`ofSecond_le_iff`,
`lt_ofSecond_iff`), differences (`diff_ofSecond`), sums (`add?_ofSecond`) and whole days
(`wholeDays_diff_ofSecond`).  A date-time with a fraction differs from its second only within the
order.
-/

namespace SiteAnalytics.DateTime

/-! ### Order -/

theorem le_iff {a b : DateTime} :
    a ≤ b ↔ a.second < b.second ∨ (a.second = b.second ∧ a.nano ≤ b.nano) := Iff.rfl

theorem lt_iff {a b : DateTime} :
    a < b ↔ a.second < b.second ∨ (a.second = b.second ∧ a.nano < b.nano) := Iff.rfl

/-- A date-time without a fraction is its second. -/
theorem eq_ofSecond {t : DateTime} (h : t.nano = 0) : t = ofSecond t.second := by
  cases t
  subst h
  rfl

@[simp] theorem ofSecond_second (s : Int) : (ofSecond s).second = s := rfl

@[simp] theorem ofSecond_nano (s : Int) : (ofSecond s).nano = 0 := rfl

/-- A second has begun at a date-time exactly if it is no later than the second of the date-time. -/
@[simp] theorem ofSecond_le_iff {s : Int} {t : DateTime} : ofSecond s ≤ t ↔ s ≤ t.second := by
  rw [le_iff, ofSecond_second, ofSecond_nano]
  omega

@[simp] theorem lt_ofSecond_iff {s : Int} {t : DateTime} : t < ofSecond s ↔ t.second < s := by
  rw [lt_iff, ofSecond_second, ofSecond_nano]
  omega

/-- The order of date-times refines that of their seconds. -/
theorem second_le_of_le {a b : DateTime} (h : a ≤ b) : a.second ≤ b.second := by
  rw [le_iff] at h
  omega

theorem earlier_eq_left {a b : DateTime} (h : a ≤ b) : a.earlier b = a := by
  rw [earlier, if_neg]
  rw [lt_iff]
  rw [le_iff] at h
  omega

theorem earlier_le (a b : DateTime) : a.earlier b ≤ b := by
  rw [earlier]
  split_ifs with h
  · -- the second one comes strictly earlier and is taken
    exact .inr ⟨rfl, le_rfl⟩
  · rw [lt_iff] at h
    rw [le_iff]
    omega

theorem earlier_cases (a b : DateTime) : a.earlier b = a ∨ a.earlier b = b := by
  rw [earlier]
  split_ifs
  · exact .inr rfl
  · exact .inl rfl

/-! ### The calendar -/

/-- The first second of the calendar. -/
def calendarStart : Int := Calendar.yearStart Calendar.firstYear * secondsPerDay

/-- The second after the last one of the calendar. -/
def calendarStop : Int := Calendar.yearStart (Calendar.lastYear + 1) * secondsPerDay

/-- The calendar is an interval of seconds. -/
theorem inCalendar_iff {t : DateTime} :
    t.inCalendar = true ↔ calendarStart ≤ t.second ∧ t.second < calendarStop := by
  unfold inCalendar Calendar.inCalendar day calendarStart calendarStop secondsPerDay
  simp only [Bool.and_eq_true, decide_eq_true_eq]
  omega

/-- The date-time lies neither in the first year of the calendar nor in the last one. -/
def AwayFromEnds (t : DateTime) : Prop :=
  Calendar.firstYear < t.date.year ∧ t.date.year < Calendar.lastYear

theorem AwayFromEnds.inCalendar {t : DateTime} (h : t.AwayFromEnds) : t.inCalendar = true := by
  have hyear : t.date.year = Calendar.yearOf t.day := rfl
  -- the first day of its year comes no later, the first day beyond the calendar comes later
  have h₁ := (Calendar.yearStart_le_iff Calendar.firstYear t.day).mpr (hyear ▸ h.1.le)
  have h₂ := mt (Calendar.yearStart_le_iff (Calendar.lastYear + 1) t.day).mp (by
    have := h.2
    omega)
  rw [DateTime.inCalendar, Calendar.inCalendar, Bool.and_eq_true, decide_eq_true_eq,
    decide_eq_true_eq]
  omega

/-- Away from the ends of the calendar there is a day before. -/
theorem AwayFromEnds.inCalendar_sub_day {s : Int} (h : (ofSecond s).AwayFromEnds) :
    (ofSecond (s - secondsPerDay)).inCalendar = true := by
  have hyear : (ofSecond s).date.year = Calendar.yearOf (ofSecond s).day := rfl
  -- a whole year of the calendar lies before, and a year has at least one day
  have h₁ := (Calendar.yearStart_le_iff (Calendar.firstYear + 1) (ofSecond s).day).mpr (by
    have := h.1
    omega)
  have h₂ := Calendar.yearStart_lt_succ Calendar.firstYear
  have h₃ := inCalendar_iff.mp h.inCalendar
  rw [inCalendar_iff]
  unfold calendarStart DateTime.day secondsPerDay at *
  simp only [ofSecond_second] at *
  omega

theorem checked_eq_some {t : DateTime} (h : t.inCalendar = true) : t.checked = some t := by
  rw [checked, if_pos h]

/-- The check of a date-time does not change it. -/
theorem eq_of_checked {t u : DateTime} (h : t.checked = some u) : t = u := by
  rw [checked] at h
  split_ifs at h
  exact Option.some.inj h

theorem inCalendar_of_checked {t u : DateTime} (h : t.checked = some u) :
    u.inCalendar = true := by
  rw [checked] at h
  split_ifs at h with hcal
  rwa [← Option.some.inj h]

theorem hour_lt (t : DateTime) : t.hour < 24 := by
  unfold hour secondOfDay secondsPerDay
  omega

theorem minute_lt (t : DateTime) : t.minute < 60 := by
  unfold minute
  omega

/-! ### Differences and sums -/

theorem inLeapSecond_ofSecond (s : Int) : (ofSecond s).inLeapSecond = false := rfl

/-- Without fractions a difference is one of seconds. -/
theorem diff_ofSecond (a b : Int) :
    (ofSecond a).diff (ofSecond b) = (a - b) * nanosPerSecond := by
  unfold diff
  simp [inLeapSecond_ofSecond]

/-- A shift by whole seconds is a sum of seconds. -/
theorem shift_ofSecond (s n : Int) :
    (ofSecond s).shift (n * nanosPerSecond) = ofSecond (s + n) := by
  unfold shift
  simp only [inLeapSecond_ofSecond, Bool.false_eq_true, if_false, carried, ofSecond_nano,
    ofSecond_second]
  unfold ofSecond nanosPerSecond
  congr 1 <;> omega

/-- A sum of whole seconds is refused only where it leaves the calendar. -/
theorem add?_ofSecond (s n : Int) :
    (ofSecond s).add? (n * nanosPerSecond) = (ofSecond (s + n)).checked := by
  rw [add?, shift_ofSecond]

theorem addSeconds?_ofSecond (s n : Int) :
    (ofSecond s).addSeconds? n = (ofSecond (s + n)).checked :=
  add?_ofSecond s n

/-- Whether a sum exists is a matter of the bounds of the calendar alone. -/
theorem isSome_addSeconds?_ofSecond_iff {s n : Int} :
    ((ofSecond s).addSeconds? n).isSome ↔ calendarStart ≤ s + n ∧ s + n < calendarStop := by
  rw [addSeconds?_ofSecond, checked]
  split_ifs with h
  · exact iff_of_true rfl (inCalendar_iff.mp h)
  · exact iff_of_false Bool.false_ne_true fun hbounds => h (inCalendar_iff.mpr hbounds)

/-! ### Whole units -/

/-- The fraction of a second that both date-times lack cancels from the count of units. -/
theorem wholeUnits_diff_ofSecond (a b : Int) (unit : Nat) :
    wholeUnits ((ofSecond a).diff (ofSecond b)) unit = (a - b).tdiv unit := by
  rw [wholeUnits, diff_ofSecond]
  exact Int.mul_tdiv_mul_of_pos_left _ _ (by decide)

/-- Between date-times in order the whole days are those of the seconds, rounded down. -/
theorem wholeDays_diff_ofSecond {a b : Int} (h : b ≤ a) :
    wholeDays ((ofSecond a).diff (ofSecond b)) = (a - b) / secondsPerDay := by
  rw [wholeDays, wholeUnits_diff_ofSecond, Int.tdiv_eq_ediv_of_nonneg (by omega)]

end SiteAnalytics.DateTime
