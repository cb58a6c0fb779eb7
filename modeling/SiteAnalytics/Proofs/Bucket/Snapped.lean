import SiteAnalytics.Proofs.Bucket.Staircase
import SiteAnalytics.Proofs.Calendar.LeapSecond

/-!
# The length of snapped windows

A window that is snapped outwards to whole buckets has `snappedDays` whole days.  Snapped to days it
has as many as lie between its dates; snapped to a coarser bucket it has at most two of those more.
-/

namespace SiteAnalytics.Bucket

open Calendar DateTime

/-- The whole days of the window from `first` to `now` once that is snapped to the bucket. -/
def snappedDays (first now : DateTime) (b : Bucket) : Int :=
  (b.firstSecond (b.index now + 1) - 1 - b.firstSecond (b.index first)) / secondsPerDay

/-- The window from the first bucket to the end of the last one has so many whole days. -/
theorem dayDiff_startOf {b : Bucket} {t u stop : DateTime} (hle : t.second ≤ u.second)
    (h : b.endOf? u = some stop) : dayDiff (b.startOf t) stop = snappedDays t u b := by
  have hmono := b.firstSecond_strictMono.monotone (b.index_mono hle)
  have hlt := b.firstSecond_strictMono (lt_add_one (b.index u))
  rw [(endOf?_eq_some_iff.mp h).1, startOf_eq, dayDiff_ofSecond (by omega), snappedDays]

section Snapped

variable {s t : Int}

/-- Snapped to hours, a window has at most one whole day more. -/
theorem snappedDays_hour_le :
    snappedDays (ofSecond s) (ofSecond t) hour ≤ (t - s) / secondsPerDay + 1 := by
  simp only [snappedDays, firstSecond, index, ofSecond_second, secondsPerDay]
  omega

/-- Snapped to days, a window has the whole days from the first date to the last. -/
theorem snappedDays_day :
    snappedDays (ofSecond s) (ofSecond t) day = (ofSecond t).day - (ofSecond s).day := by
  simp only [snappedDays, firstSecond, index, secondsPerDay]
  omega

/-- Snapped to months, a window has at most two months more. -/
theorem snappedDays_month_bounds (h : s ≤ t) :
    1 ≤ snappedDays (ofSecond s) (ofSecond t) month ∧
      snappedDays (ofSecond s) (ofSecond t) month ≤ (ofSecond t).day - (ofSecond s).day + 60 := by
  have hmono := monthFirst_strictMono.monotone
    (month.index_mono (t := ofSecond s) (u := ofSecond t) h)
  have hs := monthIndex_near (ofSecond s).day
  have ht := monthIndex_near (ofSecond t).day
  have hlen := monthLength_pos (isLeapYear (month.index (ofSecond t) / 12))
    ((month.index (ofSecond t) % 12).toNat + 1)
  rw [← monthDays] at hlen
  simp only [snappedDays, firstSecond, secondsPerDay]
  simp only [index, monthFirst_succ] at *
  omega

/-- The whole days between two seconds, by the dates of the two. -/
theorem wholeDays_bracket :
    (t - s) / secondsPerDay ≤ (ofSecond t).day - (ofSecond s).day ∧
      (ofSecond t).day - (ofSecond s).day ≤ (t - s) / secondsPerDay + 1 := by
  simp only [DateTime.day, ofSecond_second, secondsPerDay]
  omega

end Snapped

/-- Fractions do not change the bucket in which a time lies. -/
theorem snappedDays_eq (t u : DateTime) (b : Bucket) :
    snappedDays t u b = snappedDays (ofSecond t.second) (ofSecond u.second) b := by
  cases b <;> rfl

/-- Snapped to years, a window that touches three of them is longer than two. -/
theorem snappedDays_year_ge {t u : DateTime} (h : t.day + 732 ≤ u.day) :
    733 ≤ snappedDays t u year := by
  have ht := yearStart_yearOf_le t.day
  have hu := lt_yearStart_yearOf_succ u.day
  have h₁ := yearStart_succ (yearOf t.day)
  have h₂ := yearStart_succ (yearOf t.day + 1)
  have h₃ := yearStart_succ (yearOf t.day + 1 + 1)
  have hlength (y : Int) : 365 ≤ yearLength y ∧ yearLength y ≤ 366 := by
    unfold yearLength
    split <;> omega
  have hl₁ := hlength (yearOf t.day)
  have hl₂ := hlength (yearOf t.day + 1)
  have hl₃ := hlength (yearOf t.day + 1 + 1)
  -- two years have at most 732 days, so there is a third one
  have hyear : yearOf t.day + 2 ≤ yearOf u.day := by
    by_contra hlt
    have := yearStart_strictMono.monotone
      (show yearOf u.day + 1 ≤ yearOf t.day + 1 + 1 by omega)
    omega
  have hlast := yearStart_strictMono.monotone
    (show yearOf t.day + 1 + 1 + 1 ≤ yearOf u.day + 1 by omega)
  simp only [snappedDays, firstSecond, index, secondsPerDay]
  omega

/-- Snapped to years, a window has at most two years more. -/
theorem snappedDays_year_le (t u : DateTime) : snappedDays t u year ≤ u.day - t.day + 732 := by
  have ht := lt_yearStart_yearOf_succ t.day
  have hu := yearStart_yearOf_le u.day
  rw [yearStart_succ, yearLength] at ht
  have hlast := yearStart_succ (yearOf u.day)
  rw [yearLength] at hlast
  simp only [snappedDays, firstSecond, index, secondsPerDay]
  split_ifs at ht hlast <;> omega

/-- So many whole days between two times are as many between their seconds, but for what the
nanoseconds make up. -/
theorem lt_second_of_le_dayDiff {t u : DateTime} (ht : t.Valid) (hu : u.Valid) {n : Int}
    (hn : 0 < n) (h : n ≤ dayDiff t u) : n * secondsPerDay - 3 < u.second - t.second := by
  have hdiff := (diff_bounds hu.nano_lt ht.nano_lt).2
  rw [dayDiff, wholeDays, wholeUnits] at h
  have hle : n * (secondsPerDay * nanosPerSecond) ≤ u.diff t := by
    rcases le_total (u.diff t) 0 with hneg | hpos
    · have hzero := Int.tdiv_le_tdiv (c := secondsPerDay * nanosPerSecond) (by decide) hneg
      rw [Int.zero_tdiv] at hzero
      omega
    · rw [Int.tdiv_eq_ediv_of_nonneg hpos] at h
      exact (Int.le_ediv_iff_mul_le (by decide)).mp h
  unfold nanosPerSecond secondsPerDay at *
  omega

/-! ### Times in one bucket -/

theorem day_le_of_month_eq {t u : DateTime} (h : month.index t = month.index u) :
    u.day ≤ t.day + 30 := by
  have ht := monthIndex_near t.day
  have hu := monthIndex_bracket u.day
  simp only [index] at h
  rw [← h] at hu
  omega

theorem day_le_of_year_eq {t u : DateTime} (h : year.index t = year.index u) :
    u.day ≤ t.day + 365 := by
  have ht := yearStart_yearOf_le t.day
  have hu := lt_yearStart_yearOf_succ u.day
  simp only [index] at h
  rw [← h, yearStart_succ, yearLength] at hu
  split_ifs at hu <;> omega

end SiteAnalytics.Bucket
