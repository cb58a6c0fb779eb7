import SiteAnalytics.Period
import SiteAnalytics.Proofs.Bucket.Snapped

/-!
# How far a period reaches back

Hours are steps of seconds, days and weeks are steps of days, and months and years are steps of
months.  Each kind is one lemma: where the step leads, and when it leaves the calendar.  The whole
days from there are the days stepped over; a leap second can make them one fewer, for hours only.

`before?_ofBucket` is the counterpart of `Bucket.next?_firstSecond`: so many units of a bucket
before a date-time lies the bucket whose number is smaller by as many.
-/

namespace SiteAnalytics

open Calendar DateTime

namespace DateTime

/-! ### Steps of seconds -/

theorem addSeconds?_neg {t : DateTime} (ht : t.IsWhole) {n : Nat} (hn : 0 < n) :
    t.addSeconds? (-(n : Int)) =
      (ofSecond (t.second + t.nano / nanosPerSecond - n)).checked := by
  rw [addSeconds?, add?, shift_neg ht hn]

/-! ### Steps of days -/

theorem day_onDay (t : DateTime) (d : Int) : (t.onDay d).day = d := by
  unfold onDay DateTime.day secondsPerDay
  dsimp only
  omega

theorem inCalendar_onDay (t : DateTime) (d : Int) :
    (t.onDay d).inCalendar = Calendar.inCalendar d := by
  rw [DateTime.inCalendar, day_onDay]

theorem addDays?_neg (t : DateTime) (n : Nat) : t.addDays? (-(n : Int)) =
    if Calendar.inCalendar (t.day - n) then some (t.onDay (t.day - n)) else none := by
  rw [DateTime.addDays?, Calendar.addDays?, ← Int.sub_eq_add_neg]
  split_ifs <;> rfl

/-- Days back lead to the same time of day. -/
theorem of_addDays?_neg {t u : DateTime} {n : Nat} (h : t.addDays? (-(n : Int)) = some u) :
    u = t.onDay (t.day - n) ∧ u.inCalendar = true := by
  rw [addDays?_neg] at h
  split_ifs at h with hcal
  obtain rfl := Option.some.inj h
  exact ⟨rfl, by rw [inCalendar_onDay, hcal]⟩

/-! ### Steps of months -/

/-- Months back lead into the month whose number is smaller by as many, to no later day of it. -/
theorem of_addMonths?_neg {t u : DateTime} {n : Nat} (h : t.addMonths? (-(n : Int)) = some u) :
    ∃ d, u = t.onDay d ∧ monthIndex d = monthIndex t.day - n ∧
      d - monthFirst (monthIndex t.day - n) ≤ t.day - monthFirst (monthIndex t.day) ∧
      Calendar.inCalendar d = true := by
  obtain ⟨d, hd, rfl⟩ := Option.map_eq_some_iff.mp h
  have hindex := monthIndex_addMonths? hd
  have hday := ofDay_day t.day
  rw [← monthFirst_monthIndex] at hday
  rw [addMonths?_eq] at hd
  split_ifs at hd with hyear
  rw [← Int.sub_eq_add_neg] at hindex hyear hd
  refine ⟨d, rfl, hindex, ?_, ?_⟩
  · have hle := min_le_left (Date.ofDay t.day).day (monthDays (monthIndex t.day - n))
    have hd' := Option.some.inj hd
    omega
  · rw [inCalendar_iff_year, ← monthIndex_div, hindex]
    exact hyear

/-- What so many months back from `t` is like: at least so many first days of months lie between. -/
theorem apart_of_addMonths?_neg {t u : DateTime} {n : Nat}
    (h : t.addMonths? (-(n : Int)) = some u) : ∃ d, u = t.onDay d ∧
      monthIndex d = monthIndex t.day - n ∧ 28 * (n : Int) ≤ t.day - d ∧
      monthFirst (monthIndex t.day) - monthFirst (monthIndex t.day - n) ≤ t.day - d ∧
      t.day - d ≤ 31 * n + 30 := by
  obtain ⟨d, rfl, hindex, hday, -⟩ := of_addMonths?_neg h
  have hspan := monthFirst_add_bounds (monthIndex t.day - n) n
  have hd := monthIndex_bracket d
  have hnear := monthIndex_near t.day
  rw [sub_add_cancel] at hspan
  rw [hindex] at hd
  exact ⟨d, rfl, hindex, by omega, by omega, by omega⟩

/-- Months back leave the calendar only if they lead before its first year. -/
theorem of_addMonths?_neg_eq_none {t : DateTime} (ht : t.inCalendar = true) {n : Nat}
    (h : t.addMonths? (-(n : Int)) = none) : monthIndex t.day - n < 12 * firstYear := by
  have hyear := (inCalendar_iff_year t.day).mp ht
  have hdiv := monthIndex_div t.day
  rw [DateTime.addMonths?, Option.map_eq_none_iff, addMonths?_eq] at h
  split_ifs at h with hbounds
  rw [not_and_or] at hbounds
  omega

/-- Months back from a date-time of the calendar to a month of the calendar. -/
theorem addMonths?_neg {t : DateTime} {n : Nat}
    (h : (ofSecond (monthFirst (monthIndex t.day - n) * secondsPerDay)).inCalendar = true) :
    ∃ u, t.addMonths? (-(n : Int)) = some u ∧ monthIndex u.day = monthIndex t.day - n := by
  have hyear := (Bucket.year_of_month_bounds_iff _).mpr h
  rw [Int.sub_eq_add_neg] at hyear
  obtain ⟨d, hd⟩ : ∃ d, Calendar.addMonths? t.day (-(n : Int)) = some d := by
    rw [addMonths?_eq, if_pos hyear]
    exact ⟨_, rfl⟩
  refine ⟨t.onDay d, ?_, ?_⟩
  · rw [DateTime.addMonths?, hd, Option.map_some]
  · rw [day_onDay, monthIndex_addMonths? hd, Int.sub_eq_add_neg]

end DateTime

namespace PeriodUnit

/-- A unit that is counted in days, with the days that it has. -/
def days? : PeriodUnit → Option Nat
  | day => some 1
  | week => some 7
  | _ => none

/-- A unit that is counted in months, with the months that it has. -/
def months? : PeriodUnit → Option Nat
  | month => some 1
  | year => some 12
  | _ => none

theorem before?_of_days? {unit : PeriodUnit} {k : Nat} (h : unit.days? = some k) (t : DateTime)
    (n : Nat) : unit.before? t n = t.addDays? (-((k * n : Nat) : Int)) := by
  cases unit <;> simp [days?] at h <;> subst h <;> simp [before?]

theorem before?_of_months? {unit : PeriodUnit} {k : Nat} (h : unit.months? = some k) (t : DateTime)
    (n : Nat) : unit.before? t n = t.addMonths? (-((k * n : Nat) : Int)) := by
  cases unit <;> simp [months?] at h <;> subst h <;> simp [before?]

theorem inCalendar_of_before? {unit : PeriodUnit} {t u : DateTime} {n : Nat}
    (h : unit.before? t n = some u) : u.inCalendar = true := by
  have hdays {m : Nat} (h : t.addDays? (-(m : Int)) = some u) : u.inCalendar = true :=
    (of_addDays?_neg h).2
  have hmonths {m : Nat} (h : t.addMonths? (-(m : Int)) = some u) : u.inCalendar = true := by
    obtain ⟨d, rfl, -, -, hcal⟩ := of_addMonths?_neg h
    rw [inCalendar_onDay, hcal]
  cases unit with
  | hour => exact inCalendar_of_checked h
  | day => exact hdays h
  | week => exact hdays h
  | month => exact hmonths h
  | year => exact hmonths h

/-- So many units of a bucket before a time lies the bucket whose number is smaller by as many, if
that has begun in the calendar.  Minutes have no unit of their own. -/
theorem before?_ofBucket {b : Bucket} (hb : b ≠ .minute) {s : Int} {n : Nat}
    (hs : (ofSecond s).inCalendar = true)
    (h : (ofSecond (b.firstSecond (b.index (ofSecond s) - n))).inCalendar = true) :
    ∃ u, (PeriodUnit.ofBucket b).before? (ofSecond s) n = some u ∧
      b.index u = b.index (ofSecond s) - n := by
  cases b with
  | minute => exact absurd rfl hb
  | hour =>
    simp only [PeriodUnit.ofBucket, PeriodUnit.before?]
    rw [addSeconds?_ofSecond]
    refine ⟨ofSecond (s + -((3600 * n : Nat) : Int)), checked_eq_some ?_, ?_⟩
    · rw [inCalendar_iff] at hs h ⊢
      simp only [Bucket.firstSecond, Bucket.index, ofSecond_second] at hs h ⊢
      omega
    · simp only [Bucket.index, ofSecond_second]
      omega
  | day =>
    simp only [PeriodUnit.ofBucket, PeriodUnit.before?]
    have hday : Calendar.inCalendar ((ofSecond s).day + -(n : Int)) = true := by
      rw [DateTime.inCalendar] at h
      simp only [Bucket.firstSecond, Bucket.index] at h
      rwa [Bucket.day_ofSecond_mul, Int.sub_eq_add_neg] at h
    refine ⟨(ofSecond s).onDay ((ofSecond s).day + -(n : Int)), ?_, ?_⟩
    · rw [DateTime.addDays?, Calendar.addDays?, if_pos hday, Option.map_some]
    · exact day_onDay _ _
  | month => exact DateTime.addMonths?_neg h
  | year =>
    -- a year back is twelve months back
    simp only [PeriodUnit.ofBucket, PeriodUnit.before?]
    have hmonth : (ofSecond (monthFirst (monthIndex (ofSecond s).day - (12 * n : Nat)) *
        secondsPerDay)).inCalendar = true := by
      rw [← Bucket.year_of_month_bounds_iff]
      rw [show Bucket.year.firstSecond (Bucket.year.index (ofSecond s) - n) =
        monthFirst (12 * (yearOf (ofSecond s).day - n)) * secondsPerDay by
          rw [monthFirst_twelve_mul]; rfl, ← Bucket.year_of_month_bounds_iff] at h
      have := monthIndex_div (ofSecond s).day
      omega
    obtain ⟨u, hu, hindex⟩ := DateTime.addMonths?_neg hmonth
    refine ⟨u, hu, ?_⟩
    have h₁ := monthIndex_div u.day
    have h₂ := monthIndex_div (ofSecond s).day
    show yearOf u.day = yearOf (ofSecond s).day - n
    omega

end PeriodUnit

/-! ### Whole days -/

namespace Bucket

theorem dayDiff_of_diff_eq {t u : DateTime} {m : Int} (hm : 0 ≤ m)
    (h : u.diff t = m * nanosPerSecond) : dayDiff t u = m / secondsPerDay := by
  rw [dayDiff, wholeDays, wholeUnits, h, Int.mul_tdiv_mul_of_pos_left _ _ (by decide),
    Int.tdiv_eq_ediv_of_nonneg hm]

theorem dayDiff_shift_neg {t : DateTime} (ht : t.IsWhole) {n : Nat} (hn : 0 < n) :
    ∃ m : Int, (n : Int) - 1 ≤ m ∧ m ≤ n ∧
      dayDiff (ofSecond (t.second + t.nano / nanosPerSecond - n)) t = m / secondsPerDay := by
  obtain ⟨m, h₁, h₂, hdiff⟩ := diff_shift_neg ht n
  exact ⟨m, h₁, h₂, dayDiff_of_diff_eq (by omega) hdiff⟩

theorem dayDiff_onDay (t : DateTime) (d : Int) : dayDiff (t.onDay d) t = t.day - d := by
  rw [dayDiff, wholeDays, wholeUnits, diff_onDay]
  exact Int.mul_tdiv_cancel _ (by decide)

end Bucket

end SiteAnalytics
