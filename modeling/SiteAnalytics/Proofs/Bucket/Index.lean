import SiteAnalytics.Bucket.Basic
import SiteAnalytics.Proofs.Calendar.Instant
import SiteAnalytics.Proofs.Calendar.Month

/-!
# Buckets as numbered intervals

The buckets of one size are numbered through, and everything a `Bucket` does is arithmetic on those
numbers: `index` is the number of the bucket that holds a date-time, and `firstSecond` the second at
which a numbered bucket begins.

* `firstSecond_le_iff`: the two are adjoint, so buckets are consecutive intervals.
* `startOf_eq`, `next?_firstSecond`, `endOf?_eq`: snapping goes to the first second of the bucket,
  a step to that of the following one.
* `countBetween_eq`: counting is subtraction of numbers.

Minutes, hours and days have a fixed length.  Months and years get their laws from
`Calendar.monthFirst` and `Calendar.yearStart`.
-/

namespace SiteAnalytics.Bucket

open Calendar DateTime

/-! ### Numbers and first seconds -/

/-- The number of the bucket that holds a date-time. -/
def index (b : Bucket) (t : DateTime) : Int :=
  match b with
  | minute => t.second / 60
  | hour => t.second / 3600
  | day => t.day
  | month => monthIndex t.day
  | year => yearOf t.day

/-- The second at which the bucket with a number begins. -/
def firstSecond (b : Bucket) (i : Int) : Int :=
  match b with
  | minute => i * 60
  | hour => i * 3600
  | day => i * secondsPerDay
  | month => monthFirst i * secondsPerDay
  | year => yearStart i * secondsPerDay

/-- Every bucket lasts a minute at least. -/
theorem firstSecond_add_sixty_le (b : Bucket) (i : Int) :
    b.firstSecond i + 60 ≤ b.firstSecond (i + 1) := by
  cases b with
  | minute => simp only [firstSecond]; omega
  | hour => simp only [firstSecond]; omega
  | day => simp only [firstSecond, secondsPerDay]; omega
  | month =>
    have := monthFirst_strictMono (lt_add_one i)
    simp only [firstSecond, secondsPerDay]
    omega
  | year =>
    have := yearStart_strictMono (lt_add_one i)
    simp only [firstSecond, secondsPerDay]
    omega

theorem firstSecond_strictMono (b : Bucket) : StrictMono b.firstSecond := by
  apply strictMono_int_of_lt_succ
  intro i
  have := b.firstSecond_add_sixty_le i
  omega

/-- So many buckets last as many minutes at least. -/
theorem firstSecond_add_le (b : Bucket) (i : Int) (n : Nat) :
    b.firstSecond i + 60 * n ≤ b.firstSecond (i + n) := by
  induction n with
  | zero => simp
  | succ n ih =>
    have h := b.firstSecond_add_sixty_le (i + n)
    rw [add_assoc] at h
    push_cast
    omega

/-- The bucket of a date-time has begun, and the following one has not. -/
theorem index_bracket (b : Bucket) (t : DateTime) :
    b.firstSecond (b.index t) ≤ t.second ∧ t.second < b.firstSecond (b.index t + 1) := by
  cases b with
  | minute => simp only [firstSecond, index]; omega
  | hour => simp only [firstSecond, index]; omega
  | day =>
    simp only [firstSecond, index, DateTime.day, secondsPerDay]
    omega
  -- the month of the day has begun, and whole days have whole seconds
  | month =>
    have h := monthIndex_bracket t.day
    simp only [firstSecond, index]
    simp only [DateTime.day, secondsPerDay] at *
    omega
  | year =>
    have h₁ := yearStart_yearOf_le t.day
    have h₂ := lt_yearStart_yearOf_succ t.day
    simp only [firstSecond, index]
    simp only [DateTime.day, secondsPerDay] at *
    omega

/-- A bucket has begun by a date-time iff its number is at most that of the date-time's bucket. -/
theorem firstSecond_le_iff (b : Bucket) (i : Int) (t : DateTime) :
    b.firstSecond i ≤ t.second ↔ i ≤ b.index t :=
  le_iff_of_bracket b.firstSecond_strictMono (b.index_bracket t).1 (b.index_bracket t).2 i

/-- A date-time between the beginnings of two buckets in a row lies in the first of them. -/
theorem index_eq_of_bracket {b : Bucket} {i : Int} {t : DateTime}
    (h₁ : b.firstSecond i ≤ t.second) (h₂ : t.second < b.firstSecond (i + 1)) :
    b.index t = i := by
  have h₃ := (b.firstSecond_le_iff i t).mp h₁
  have h₄ := mt (b.firstSecond_le_iff (i + 1) t).mpr (not_le.mpr h₂)
  omega

/-- The first second of a bucket lies in it. -/
@[simp] theorem index_firstSecond (b : Bucket) (i : Int) :
    b.index (ofSecond (b.firstSecond i)) = i :=
  index_eq_of_bracket le_rfl (b.firstSecond_strictMono (lt_add_one i))

theorem index_mono (b : Bucket) {t u : DateTime} (h : t.second ≤ u.second) :
    b.index t ≤ b.index u :=
  (b.firstSecond_le_iff _ _).mp (le_trans (b.index_bracket t).1 h)

/-- Times of the same second lie in the same bucket. -/
theorem index_eq_of_second_eq (b : Bucket) {t u : DateTime} (h : t.second = u.second) :
    b.index t = b.index u :=
  le_antisymm (b.index_mono h.le) (b.index_mono h.ge)

/-! ### Snapping and steps -/

theorem day_ofSecond_mul (n : Int) : (ofSecond (n * secondsPerDay)).day = n := by
  unfold DateTime.day secondsPerDay
  rw [ofSecond_second]
  omega

theorem onDay_ofSecond_mul (n m : Int) :
    (ofSecond (n * secondsPerDay)).onDay m = ofSecond (m * secondsPerDay) := by
  unfold onDay secondsPerDay
  simp [ofSecond]

/-- Snapping goes to the first second of the bucket. -/
theorem startOf_eq (b : Bucket) (t : DateTime) :
    b.startOf t = ofSecond (b.firstSecond (b.index t)) := by
  cases b with
  | minute => simp only [startOf, firstSecond, index]; congr 1; omega
  | hour => simp only [startOf, firstSecond, index]; congr 1; omega
  | day => rfl
  | month =>
    simp only [startOf, firstSecond, index]
    rw [monthFirst_monthIndex]
    rfl
  | year => rfl

/-- Snapping stays within the bucket. -/
@[simp] theorem index_startOf (b : Bucket) (t : DateTime) : b.index (b.startOf t) = b.index t := by
  rw [startOf_eq, index_firstSecond]

theorem startOf_nano (b : Bucket) (t : DateTime) : (b.startOf t).nano = 0 := by
  rw [startOf_eq, ofSecond_nano]

/-- Snapping twice is snapping once. -/
theorem startOf_startOf (b : Bucket) (t : DateTime) : b.startOf (b.startOf t) = b.startOf t := by
  rw [startOf_eq, index_startOf, startOf_eq]

theorem endOf?_startOf (b : Bucket) (t : DateTime) : b.endOf? (b.startOf t) = b.endOf? t := by
  rw [endOf?, startOf_startOf, endOf?]

/-- Snapped date-times are in the order of their buckets. -/
theorem startOf_le_startOf_iff {b : Bucket} {t u : DateTime} :
    b.startOf t ≤ b.startOf u ↔ b.index t ≤ b.index u := by
  rw [startOf_eq, startOf_eq, ofSecond_le_iff, ofSecond_second]
  exact b.firstSecond_strictMono.le_iff_le

/-- Snapped date-times are strictly in the order of their buckets. -/
theorem startOf_lt_startOf_iff {b : Bucket} {t u : DateTime} :
    b.startOf t < b.startOf u ↔ b.index t < b.index u := by
  rw [startOf_eq, startOf_eq, lt_ofSecond_iff, ofSecond_second]
  exact b.firstSecond_strictMono.lt_iff_lt

/-- A month is one of a year of the calendar iff its first day is one of the calendar. -/
theorem year_of_month_bounds_iff (i : Int) :
    (firstYear ≤ i / 12 ∧ i / 12 ≤ lastYear) ↔
      (ofSecond (monthFirst i * secondsPerDay)).inCalendar = true := by
  have h₁ : yearStart firstYear ≤ monthFirst i ↔ 12 * firstYear ≤ i := by
    rw [← monthFirst_twelve_mul, monthFirst_strictMono.le_iff_le]
  have h₂ : monthFirst i < yearStart (lastYear + 1) ↔ i < 12 * (lastYear + 1) := by
    rw [← monthFirst_twelve_mul, monthFirst_strictMono.lt_iff_lt]
  unfold DateTime.inCalendar Calendar.inCalendar
  rw [day_ofSecond_mul, Bool.and_eq_true, decide_eq_true_eq, decide_eq_true_eq, h₁, h₂]
  omega

/-- A step of months leads from one first day to another. -/
theorem addMonths?_ofSecond (i n : Int) :
    (ofSecond (monthFirst i * secondsPerDay)).addMonths? n =
      (ofSecond (monthFirst (i + n) * secondsPerDay)).checked := by
  rw [DateTime.addMonths?, day_ofSecond_mul, addMonths?_monthFirst, checked]
  -- a month of the calendar is one of a year of the calendar
  by_cases h : firstYear ≤ (i + n) / 12 ∧ (i + n) / 12 ≤ lastYear
  · rw [if_pos h, if_pos ((year_of_month_bounds_iff _).mp h), Option.map_some, onDay_ofSecond_mul]
  · rw [if_neg h, if_neg (mt (year_of_month_bounds_iff _).mpr h), Option.map_none]

/-- A step leads from the first second of a bucket to that of the following one. -/
theorem next?_firstSecond (b : Bucket) (i : Int) :
    b.next? (ofSecond (b.firstSecond i)) = (ofSecond (b.firstSecond (i + 1))).checked := by
  cases b with
  | minute =>
    simp only [next?, firstSecond]
    rw [addSeconds?_ofSecond, add_mul, one_mul]
  | hour =>
    simp only [next?, firstSecond]
    rw [addSeconds?_ofSecond, add_mul, one_mul]
  | day =>
    simp only [next?, firstSecond]
    rw [DateTime.addDays?, day_ofSecond_mul, Calendar.addDays?, checked, DateTime.inCalendar,
      day_ofSecond_mul]
    split_ifs
    · rw [Option.map_some, onDay_ofSecond_mul]
    · rfl
  | month => exact addMonths?_ofSecond i 1
  | year =>
    -- a year is a step of twelve months
    simp only [next?, firstSecond]
    rw [← monthFirst_twelve_mul, ← monthFirst_twelve_mul, addMonths?_ofSecond]
    congr 4
    ring

/-- The last second of a bucket comes before the first one of the following bucket, if that is in
the calendar. -/
theorem endOf?_eq (b : Bucket) (t : DateTime) :
    b.endOf? t =
      if (ofSecond (b.firstSecond (b.index t + 1))).inCalendar then
        some (ofSecond (b.firstSecond (b.index t + 1) - 1))
      else none := by
  rw [endOf?, startOf_eq, next?_firstSecond, checked]
  split_ifs
  · rw [Option.map_some, ofSecond_second]
  · rfl

/-- The last second of a bucket exists iff the following bucket begins in the calendar. -/
theorem endOf?_eq_some_iff {b : Bucket} {t stop : DateTime} : b.endOf? t = some stop ↔
    stop = ofSecond (b.firstSecond (b.index t + 1) - 1) ∧
      (ofSecond (b.firstSecond (b.index t + 1))).inCalendar = true := by
  rw [endOf?_eq]
  split_ifs with hnext
  · rw [Option.some.injEq, eq_comm, and_iff_left hnext]
  · exact iff_of_false id fun h => hnext h.2

/-- The last second of a bucket lies in it. -/
theorem index_of_endOf? {b : Bucket} {t stop : DateTime} (h : b.endOf? t = some stop) :
    b.index stop = b.index t := by
  obtain ⟨rfl, -⟩ := endOf?_eq_some_iff.mp h
  have hlength := b.firstSecond_add_sixty_le (b.index t)
  -- a bucket is not empty, so the second before its end is one of its own
  apply index_eq_of_bracket <;> rw [ofSecond_second] <;> omega

/-! ### Years and the calendar -/

/-- Every bucket lies within one year. -/
theorem firstSecond_year_bracket (b : Bucket) (t : DateTime) :
    year.firstSecond (year.index t) ≤ b.firstSecond (b.index t) ∧
      b.firstSecond (b.index t + 1) ≤ year.firstSecond (year.index t + 1) := by
  have h := year.index_bracket t
  cases b with
  | minute => simp only [firstSecond, index, secondsPerDay] at *; omega
  | hour => simp only [firstSecond, index, secondsPerDay] at *; omega
  | day => simp only [firstSecond, index, DateTime.day, secondsPerDay] at *; omega
  | month =>
    -- the months of a year are those from its first one to the first one of the next year
    have hdiv := monthIndex_div t.day
    have h₁ := monthFirst_strictMono.monotone
      (show 12 * yearOf t.day ≤ monthIndex t.day by omega)
    have h₂ := monthFirst_strictMono.monotone
      (show monthIndex t.day + 1 ≤ 12 * (yearOf t.day + 1) by omega)
    rw [monthFirst_twelve_mul] at h₁ h₂
    simp only [firstSecond, index, secondsPerDay]
    omega
  | year => exact ⟨le_rfl, le_rfl⟩

/-- Where a bucket holds a date-time of the calendar it begins in the calendar. -/
theorem inCalendar_firstSecond {b : Bucket} {t : DateTime} (h : t.inCalendar = true) :
    (ofSecond (b.firstSecond (b.index t))).inCalendar = true := by
  rw [inCalendar_iff] at h ⊢
  -- its year begins no earlier than the first one
  have hyear := (year.firstSecond_le_iff firstYear t).mp h.1
  have h₁ := year.firstSecond_strictMono.monotone hyear
  have h₂ := (b.firstSecond_year_bracket t).1
  have h₃ := (b.index_bracket t).1
  change calendarStart ≤ _ at h₁
  rw [ofSecond_second]
  omega

/-- Before the last year of the calendar every bucket has a following one. -/
theorem inCalendar_firstSecond_succ {b : Bucket} {t : DateTime} (h : t.inCalendar = true)
    (hyear : t.date.year < lastYear) :
    (ofSecond (b.firstSecond (b.index t + 1))).inCalendar = true := by
  rw [inCalendar_iff] at h ⊢
  have h₁ : year.firstSecond (year.index t + 1) < calendarStop :=
    year.firstSecond_strictMono (show yearOf t.day + 1 < lastYear + 1 by
      have : t.date.year = yearOf t.day := rfl
      omega)
  have h₂ := (b.firstSecond_year_bracket t).2
  have h₃ := (b.index_bracket t).2
  rw [ofSecond_second]
  omega

theorem inCalendar_startOf {b : Bucket} {t : DateTime} (h : t.inCalendar = true) :
    (b.startOf t).inCalendar = true := by
  rw [startOf_eq]
  exact inCalendar_firstSecond h

/-- The end of a bucket does not leave the calendar. -/
theorem inCalendar_of_endOf? {b : Bucket} {t stop : DateTime} (ht : t.inCalendar = true)
    (h : b.endOf? t = some stop) : stop.inCalendar = true := by
  rw [endOf?_eq] at h
  split_ifs at h with hnext
  have hlast := (b.index_bracket t).2
  rw [← Option.some.inj h]
  rw [inCalendar_iff] at ht hnext ⊢
  simp only [ofSecond_second] at *
  omega

/-! ### Counting -/

/-- The number of buckets from one date-time to a later one, both ends counted, is the difference of
their numbers and one more. -/
theorem countBetween_eq (b : Bucket) {start stop : DateTime} (h : start.second ≤ stop.second) :
    b.countBetween start stop = b.index stop - b.index start + 1 := by
  have hle := (b.firstSecond_strictMono).monotone (b.index_mono h)
  have hmonth (t : DateTime) : 12 * t.date.year + (t.date.month : Int) = monthIndex t.day + 1 := by
    rw [monthIndex, DateTime.date]
    ring
  unfold countBetween
  cases b with
  -- buckets of a fixed length are counted by the difference of the snapped bounds
  | minute =>
    dsimp only
    rw [startOf_eq, startOf_eq, wholeUnits_diff_ofSecond, Int.tdiv_eq_ediv_of_nonneg (by omega)]
    simp only [firstSecond]
    omega
  | hour =>
    dsimp only
    rw [startOf_eq, startOf_eq, wholeUnits_diff_ofSecond, Int.tdiv_eq_ediv_of_nonneg (by omega)]
    simp only [firstSecond]
    omega
  | day =>
    dsimp only
    rw [startOf_eq, startOf_eq, wholeDays_diff_ofSecond hle]
    simp only [firstSecond, secondsPerDay]
    omega
  | month =>
    -- months and years are counted by the dates of the snapped bounds
    have h₁ := month.index_startOf start
    have h₂ := month.index_startOf stop
    simp only [index] at h₁ h₂ ⊢
    rw [hmonth, hmonth, h₁, h₂]
    ring
  | year =>
    have h₁ := year.index_startOf start
    have h₂ := year.index_startOf stop
    simp only [index] at h₁ h₂ ⊢
    rw [DateTime.date, DateTime.date, ofDay_year, ofDay_year, h₁, h₂]
    ring

end SiteAnalytics.Bucket
