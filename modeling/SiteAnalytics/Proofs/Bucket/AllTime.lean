import SiteAnalytics.Proofs.Axis.Dense
import SiteAnalytics.Proofs.Window.AllTime
import SiteAnalytics.Proofs.Window.Extent

/-!
# When there is a chart for all time

Each candidate for all time is checked against its own snapped window, which can be too long for it,
and the year, tried last, does not suit short windows.  Up to 1464 whole days some candidate fits
all the same (`exists_candidate_suits`): where the first one of a tier is pushed out of it by
snapping, the window is long enough for the one after it.  Beyond that only the year is left, and
all depends on the window from the first day of a year to the last of another.

The count is that of the points of the chart, since both are differences of the numbers of buckets.
-/

namespace SiteAnalytics

open Calendar DateTime

namespace DateTime

/-- Away from the ends of the calendar there is a day before and a day after. -/
theorem AwayFromEnds.dayFromEnds {t : DateTime} (h : t.AwayFromEnds) : t.DayFromEnds := by
  have hyear : t.date.year = yearOf t.day := rfl
  have hfirst := yearStart_strictMono (lt_add_one firstYear)
  have hlast := yearStart_strictMono (lt_add_one lastYear)
  have hle := yearStart_strictMono.monotone (show firstYear + 1 ≤ yearOf t.day from hyear ▸ h.1)
  have hge := yearStart_strictMono.monotone (show yearOf t.day + 1 ≤ lastYear from hyear ▸ h.2)
  have hstart := yearStart_yearOf_le t.day
  have hstop := lt_yearStart_yearOf_succ t.day
  rw [DayFromEnds, isSome_addDays?_iff, isSome_addDays?_iff]
  unfold Calendar.inCalendar
  simp only [Bool.and_eq_true, decide_eq_true_eq]
  omega

end DateTime

namespace Bucket

/-! ### Candidates that fit -/

section Candidates

variable {first now : DateTime}

/-- No more than so many whole days, by the seconds alone. -/
theorem wholeDays_le_of_dayDiff_le (hfirst : first.Valid) (hnow : now.Valid) {n : Int} (hn : 0 ≤ n)
    (h : dayDiff first now ≤ n) : (now.second - first.second) / secondsPerDay ≤ n + 1 := by
  have hlt := second_lt_of_dayDiff_lt hfirst hnow (Int.lt_add_one_of_le hn)
    (Int.lt_add_one_of_le h)
  unfold secondsPerDay at *
  omega

/-- No fewer than so many whole days, by the seconds alone. -/
theorem le_wholeDays_of_le_dayDiff (hfirst : first.Valid) (hnow : now.Valid) {n : Int} (hn : 0 < n)
    (h : n ≤ dayDiff first now) : n - 1 ≤ (now.second - first.second) / secondsPerDay := by
  have hlt := lt_second_of_le_dayDiff hfirst hnow hn h
  unfold secondsPerDay at *
  omega

/-- How long the snapped windows are, by the whole days between the seconds. -/
theorem snappedDays_bounds (hle : first.second ≤ now.second) {d : Int}
    (hd : (now.second - first.second) / secondsPerDay = d) :
    snappedDays first now hour ≤ d + 1 ∧
      (d ≤ snappedDays first now day ∧ snappedDays first now day ≤ d + 1) ∧
      (1 ≤ snappedDays first now month ∧ snappedDays first now month ≤ d + 61) ∧
      (732 ≤ d → 733 ≤ snappedDays first now year) ∧ snappedDays first now year ≤ d + 733 := by
  have hhour := snappedDays_hour_le (s := first.second) (t := now.second)
  have hdates := wholeDays_bracket (s := first.second) (t := now.second)
  have hmonth := snappedDays_month_bounds hle
  have hyear := snappedDays_year_le first now
  have hday := snappedDays_day (s := first.second) (t := now.second)
  rw [hd] at hhour hdates
  simp only [← snappedDays_eq] at hhour hmonth hday
  rw [← hday] at hdates hmonth
  have hday' : snappedDays first now day = now.day - first.day := hday
  refine ⟨hhour, hdates, ⟨hmonth.1, by omega⟩, fun hlong => ?_, by omega⟩
  exact snappedDays_year_ge (by omega)

/-- Up to 1464 whole days one of the candidates suits its snapped window. -/
theorem exists_candidate_suits (hfirst : first.Valid) (hnow : now.Valid)
    (hle : first.second ≤ now.second) (h : dayDiff first now ≤ 1464) :
    ∃ l, allTimeCandidates first now = .ok l ∧ ∃ b ∈ l, b.Suits (snappedDays first now b) := by
  obtain ⟨d, hd⟩ : ∃ d, (now.second - first.second) / (secondsPerDay : Int) = d := ⟨_, rfl⟩
  obtain ⟨hhour, hday, hmonth, hyear, hyear'⟩ := snappedDays_bounds hle hd
  -- the days of the tiers count nanoseconds too, and those make up less than a day
  have hlo {n : Int} := le_wholeDays_of_le_dayDiff (n := n) hfirst hnow
  have hhi {n : Int} := wholeDays_le_of_dayDiff_le (n := n) hfirst hnow
  rw [hd] at hlo hhi
  rw [allTimeCandidates_eq]
  split_ifs with h₀ h₇ h₂₈ h₇₃₂
  · -- within a day the hour fits
    have := hhi le_rfl h₀
    exact ⟨_, rfl, hour, by simp, show snappedDays first now hour ≤ 7 by omega⟩
  · -- within a week the hour or else the day fits
    have := hhi (by decide) h₇
    by_cases hfits : hour.Suits (snappedDays first now hour)
    · exact ⟨_, rfl, hour, by simp, hfits⟩
    · simp only [Suits] at hfits
      exact ⟨_, rfl, day, by simp, by omega, by omega⟩
  · -- within four weeks the day or else the month fits
    have := hlo (by decide) (show 8 ≤ dayDiff first now by omega)
    have := hhi (by decide) h₂₈
    by_cases hfits : day.Suits (snappedDays first now day)
    · exact ⟨_, rfl, day, by simp, hfits⟩
    · exact ⟨_, rfl, month, by simp, by omega, by omega⟩
  · -- within two years the month fits
    have := hhi (by decide) h₇₃₂
    exact ⟨_, rfl, month, by simp, by omega, by omega⟩
  · -- within four years the month or else the year fits
    have := hlo (by decide) (show 733 ≤ dayDiff first now by omega)
    have := hhi (by decide) h
    by_cases hfits : month.Suits (snappedDays first now month)
    · exact ⟨_, rfl, month, by simp, hfits⟩
    · exact ⟨_, rfl, year, by simp, by omega, by omega⟩

/-- One of the candidates suits its snapped window, unless only the year is left and that window is
too long, or no tier covers so many days. -/
theorem exists_candidate_suits_iff (hfirst : first.Valid) (hnow : now.Valid)
    (hle : first.second ≤ now.second) :
    (∃ l, allTimeCandidates first now = .ok l ∧ ∃ b ∈ l, b.Suits (snappedDays first now b)) ↔
      dayDiff first now ≤ 1464 ∨
        dayDiff first now ≤ 99999 ∧ snappedDays first now year ≤ 99999 := by
  by_cases h : dayDiff first now ≤ 1464
  · exact iff_of_true (exists_candidate_suits hfirst hnow hle h) (.inl h)
  · -- beyond four years every candidate is the year, which is not too coarse
    have hlong := le_wholeDays_of_le_dayDiff hfirst hnow (by decide)
      (show 1465 ≤ dayDiff first now by omega)
    have hyear := (snappedDays_bounds hle rfl).2.2.2.1 (by omega)
    rw [allTimeCandidates_eq, if_neg (by omega), if_neg (by omega), if_neg (by omega),
      if_neg (by omega), if_neg h]
    split_ifs with hcovered
    · simp [Suits, h, hcovered, hyear]
    · simp [h, hcovered]

end Candidates

/-! ### The result -/

/-- If all candidates fail in the same way, so does the search. -/
theorem firstFitting_eq_error {first now : DateTime} {e : ValidationError} {l : List Bucket}
    (h : ∀ b ∈ l, ∀ stop, b.endOf? now = some stop →
      b.check (b.startOf first) stop = .error e) : firstFitting first now e l = .error e := by
  induction l with
  | nil => rfl
  | cons b rest ih =>
    have hrest := ih fun c hc => h c (List.mem_cons_of_mem b hc)
    rw [firstFitting]
    cases hstop : b.endOf? now with
    | none => exact hrest
    | some stop =>
      dsimp only
      rw [h b List.mem_cons_self stop hstop]
      exact hrest

theorem ne_minute_of_mem_allTimeCandidates {first now : DateTime} {l : List Bucket}
    (hl : allTimeCandidates first now = .ok l) {b : Bucket} (hb : b ∈ l) : b ≠ minute := by
  rintro rfl
  rw [allTimeCandidates_eq] at hl
  split_ifs at hl <;> obtain rfl := Except.ok.inj hl <;> simp at hb

/-- A first event after now counts as now. -/
theorem allTime_earlier (first now : DateTime) :
    allTime (first.earlier now) now = allTime first now := by
  rw [allTime, allTime, earlier_eq_left (earlier_le first now)]

section Result

variable {first now : DateTime}

theorem exists_allTime_iff_exists_suits (hle : first ≤ now) (hnow : now.AwayFromEnds) :
    (∃ b k, allTime first now = .ok (b, k)) ↔
      ∃ l, allTimeCandidates first now = .ok l ∧ ∃ b ∈ l, b.Suits (snappedDays first now b) := by
  have hsecond := second_le_of_le hle
  -- before the last year of the calendar every bucket has an end, and only the days decide
  have hfits (b : Bucket) : fitsSnapped first now b = true ↔ b.Suits (snappedDays first now b) :=
    fitsSnapped_iff hsecond (inCalendar_firstSecond_succ hnow.inCalendar hnow.2)
  simp only [← hfits, ← List.find?_isSome, Option.isSome_iff_exists]
  constructor
  · rintro ⟨b, k, h⟩
    obtain ⟨l, hl, hfind, -⟩ := (allTime_eq_ok_iff hle).mp h
    exact ⟨l, hl, b, hfind⟩
  · rintro ⟨l, hl, b, hfind⟩
    exact ⟨b, _, (allTime_eq_ok_iff hle).mpr ⟨l, hl, hfind, rfl⟩⟩

/-- If no candidate suits its snapped window, the range is too large. -/
theorem allTime_eq_rangeTooLarge (hle : first ≤ now) (hlong : 1464 < dayDiff first now)
    (hyear : dayDiff first now ≤ 99999 → 99999 < snappedDays first now year) :
    allTime first now = .error .rangeTooLarge := by
  have hsecond := second_le_of_le hle
  rw [allTime, earlier_eq_left hle, allTimeCandidates_eq, if_neg (by omega), if_neg (by omega),
    if_neg (by omega), if_neg (by omega), if_neg (by omega)]
  split_ifs with hcovered
  · -- the year fails for being too long, whose error is that of a range that no tier covers
    refine firstFitting_eq_error fun b hb stop hstop => ?_
    obtain rfl : b = year := by simpa using hb
    have hdays := dayDiff_startOf hsecond hstop
    rcases year.check_cases (year.startOf first) stop with ⟨-, hsuits⟩ | ⟨hcheck, -⟩ | ⟨-, hfew, -⟩
    · have := hsuits.2
      have := hyear hcovered
      omega
    · exact hcheck
    · have := hyear hcovered
      omega
  · rfl

/-- A result is a bucket that is legal for its snapped window, and the number of points of its
chart in any zone. -/
theorem chart_of_allTime (hle : first ≤ now) (hfirst : first.AwayFromEnds)
    (hnow : now.AwayFromEnds) {b : Bucket} {k : Int} (h : allTime first now = .ok (b, k)) :
    b ≠ minute ∧
      (∃ stop, b.endOf? now = some stop ∧ b.check (b.startOf first) stop = .ok ()) ∧
      1 ≤ k ∧ ∀ zone, ∃ axis, Axis.generate? b first now zone = some axis ∧
        (axis.labels.length : Int) = k := by
  have hsecond := second_le_of_le hle
  have hindex := b.index_mono hsecond
  have hnext := inCalendar_firstSecond_succ (b := b) hnow.inCalendar hnow.2
  obtain ⟨l, hl, hfind, rfl⟩ := (allTime_eq_ok_iff hle).mp h
  have hsuits := (fitsSnapped_iff hsecond hnext).mp (List.find?_some hfind)
  have hstop := endOf?_eq_some_iff.mpr ⟨rfl, hnext⟩
  refine ⟨ne_minute_of_mem_allTimeCandidates hl (List.mem_of_find?_eq_some hfind),
    ⟨_, hstop, ?_⟩, ?_, fun zone => ?_⟩
  · rw [check_eq_ok_iff, dayDiff_startOf hsecond hstop]
    exact hsuits
  · rw [countBetween_eq b hsecond]
    omega
  · obtain ⟨axis, haxis, -, -, hends, -⟩ :=
      Axis.generate?_dense b hfirst.dayFromEnds hnow.dayFromEnds zone
    exact ⟨axis, haxis, (hends (startOf_le_startOf_iff.mpr hindex)).1⟩

end Result

/-- **Charts for all time.** There is a bucket for all time iff the first event is at most 1464 days
ago, or at most 99999 and the window from the first day of its year to the last day of this one is
no longer than that.  Otherwise the range is too large.  The bucket is never a minute and is legal
for its snapped window, and the count with it is the number of points of the chart, one at least. -/
theorem exists_allTime_iff {first now : DateTime} (hfirst : first.Valid) (hnow : now.Valid)
    (hfirstAway : first.AwayFromEnds) (hnowAway : now.AwayFromEnds) :
    let start := first.earlier now
    ((∃ b k, allTime first now = .ok (b, k)) ↔
      dayDiff start now ≤ 1464 ∨ dayDiff start now ≤ 99999 ∧
        ∃ stop, year.endOf? now = some stop ∧ dayDiff (year.startOf start) stop ≤ 99999) ∧
    ((¬∃ b k, allTime first now = .ok (b, k)) → allTime first now = .error .rangeTooLarge) ∧
    ∀ b k, allTime first now = .ok (b, k) → b ≠ minute ∧
      (∃ stop, b.endOf? now = some stop ∧ b.check (b.startOf start) stop = .ok ()) ∧
      1 ≤ k ∧ ∀ zone, ∃ axis, Axis.generate? b start now zone = some axis ∧
        (axis.labels.length : Int) = k := by
  intro start
  have hle : start ≤ now := earlier_le first now
  have hsecond := second_le_of_le hle
  obtain ⟨hstart, hstartAway⟩ : start.Valid ∧ start.AwayFromEnds := by
    obtain h | h : start = first ∨ start = now := earlier_cases first now
    · rw [h]
      exact ⟨hfirst, hfirstAway⟩
    · rw [h]
      exact ⟨hnow, hnowAway⟩
  have hyear : (∃ stop, year.endOf? now = some stop ∧ dayDiff (year.startOf start) stop ≤ 99999) ↔
      snappedDays start now year ≤ 99999 := by
    have hstop := endOf?_eq_some_iff.mpr
      ⟨rfl, inCalendar_firstSecond_succ (b := year) hnowAway.inCalendar hnowAway.2⟩
    simp only [hstop, Option.some.injEq, exists_eq_left', dayDiff_startOf hsecond hstop]
  have hiff := (exists_allTime_iff_exists_suits hle hnowAway).trans
    (exists_candidate_suits_iff hstart hnow hsecond)
  rw [hyear, ← allTime_earlier first now]
  refine ⟨hiff, fun hnone => ?_, fun b k h => chart_of_allTime hle hstartAway hnowAway h⟩
  obtain ⟨hlong, hyears⟩ := not_or.mp (mt hiff.mpr hnone)
  exact allTime_eq_rangeTooLarge hle (not_le.mp hlong) fun hcovered =>
    not_le.mp fun hfew => hyears ⟨hcovered, hfew⟩

/-- From 12 March 2020 to 15 March 2024 it is 1464 days.  Months do not fit once they are snapped,
and the chart has five years. -/
theorem exists_allTime_iff_fiveYears :
    let first := ofSecond 1584020730
    let now := ofSecond 1710510330
    first.Valid ∧ now.Valid ∧ first.AwayFromEnds ∧ now.AwayFromEnds ∧
      dayDiff (first.earlier now) now ≤ 1464 ∧ (∃ b k, allTime first now = .ok (b, k)) ∧
      ∃ axis, Axis.generate? year first now (Zone.parse (some "Europe/Kyiv")) = some axis ∧
        axis.labels.length = 5 := by
  intro first now
  have hfirst : first.Valid := valid_ofSecond (by decide +kernel)
  have hnow : now.Valid := valid_ofSecond (by decide +kernel)
  have hfirstAway : first.AwayFromEnds := by unfold AwayFromEnds; decide +kernel
  have hnowAway : now.AwayFromEnds := by unfold AwayFromEnds; decide +kernel
  have hdays : dayDiff (first.earlier now) now ≤ 1464 := by decide +kernel
  have hresult : allTime first now = .ok (year, 5) := by decide +kernel
  obtain ⟨hiff, -, hchart⟩ := exists_allTime_iff hfirst hnow hfirstAway hnowAway
  obtain ⟨-, -, -, haxis⟩ := hchart year 5 hresult
  obtain ⟨axis, haxis, hlength⟩ := haxis (Zone.parse (some "Europe/Kyiv"))
  exact ⟨hfirst, hnow, hfirstAway, hnowAway, hdays, hiff.mpr (.inl hdays), axis, haxis, by omega⟩

/-- From 1 July 1750 it is 99970 days, but the window of whole years is longer than 99999. -/
example : allTime (ofSecond (-6926860800)) (ofSecond 1710510330) = .error .rangeTooLarge := by
  decide +kernel

end Bucket

end SiteAnalytics
