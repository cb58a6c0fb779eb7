import SiteAnalytics.Proofs.Window.Bounds

/-!
# Windows with their default bucket

A period without a bucket is charted by its default, the finest bucket for the span back from now
(`defaultBucket_eq`).  The window that is checked goes one unit less far back and is snapped
outwards, so it is not the span that the bucket was chosen for.
`resolveIn_defaultBucket` says when the check then fails.

It never fails for a window that has become too short, nor for minutes, hours and years.  Days may
fail for a number of hours, since the window can touch a thirtieth date; months may fail for a
number of hours, days or weeks, since two more months can come in by snapping.  Months and years
back are whole months themselves, and snapping adds nothing to them.
-/

namespace SiteAnalytics

open Calendar DateTime

/-- The date-time is a beginning of a second, four years or more after the calendar begins. -/
structure DateTime.WellInside (t : DateTime) : Prop where
  isWhole : t.IsWhole
  inCalendar : t.inCalendar = true
  fourYears : firstYear + 4 ≤ t.date.year

/-- Four years have 1460 days at least. -/
theorem DateTime.WellInside.le_day {t : DateTime} (h : t.WellInside) :
    yearStart firstYear + 1460 ≤ t.day := by
  have hyear := (yearStart_le_iff (firstYear + 4) t.day).mpr h.fourYears
  have hfour : yearStart firstYear + 1460 ≤ yearStart (firstYear + 4) := by decide
  omega

/-- The days back from a date-time of the calendar to another one of it. -/
theorem DateTime.WellInside.inCalendar_sub {t : DateTime} (h : t.WellInside) {n : Nat}
    (hn : n ≤ 1460) : Calendar.inCalendar (t.day - n) = true := by
  have hday := h.le_day
  have hcal := h.inCalendar
  rw [DateTime.inCalendar] at hcal
  unfold Calendar.inCalendar at hcal ⊢
  simp only [Bool.and_eq_true, decide_eq_true_eq] at hcal ⊢
  omega

namespace Bucket

/-- The range is not too long for every bucket, but it does not suit this one. -/
def Misfits (b : Bucket) (days : Int) : Prop := days ≤ 99999 ∧ ¬b.Suits days

/-- A window of more than two years suits years, if anything. -/
theorem not_misfits_year {first t : DateTime} (h : first.day + 732 ≤ t.day) :
    ¬Bucket.year.Misfits (snappedDays first t .year) := by
  have hdays := snappedDays_year_ge h
  unfold Misfits Suits
  omega

end Bucket

namespace Period

/-- The window of the period is longer than its default bucket covers, though the span back from now
is not. -/
def Overruns : Period → DateTime → Prop
  | relative n unit, now => ∃ start first, unit.before? now n = some start ∧
      unit.before? now (n - 1) = some first ∧
      ((unit = .hour ∧ 8 ≤ Bucket.dayDiff start now ∧ Bucket.dayDiff start now ≤ 28 ∧
          28 < Bucket.snappedDays first now .day) ∨
        (unit.months? = none ∧ 29 ≤ Bucket.dayDiff start now ∧
          Bucket.dayDiff start now ≤ 1464 ∧ 1464 < Bucket.snappedDays first now .month))
  | _, _ => False

theorem not_overruns_of_eq_none {unit : PeriodUnit} {n : Nat} {now : DateTime}
    (h : unit.before? now n = none) : ¬(relative n unit).Overruns now := by
  rintro ⟨start, -, hstart, -⟩
  rw [h] at hstart
  contradiction

theorem overruns_iff {unit : PeriodUnit} {n : Nat} {now start first : DateTime}
    (hstart : unit.before? now n = some start) (hfirst : unit.before? now (n - 1) = some first) :
    (relative n unit).Overruns now ↔
      (unit = .hour ∧ 8 ≤ Bucket.dayDiff start now ∧ Bucket.dayDiff start now ≤ 28 ∧
          28 < Bucket.snappedDays first now .day) ∨
        (unit.months? = none ∧ 29 ≤ Bucket.dayDiff start now ∧
          Bucket.dayDiff start now ≤ 1464 ∧ 1464 < Bucket.snappedDays first now .month) := by
  simp [Overruns, hstart, hfirst]

theorem not_overruns_of_short {unit : PeriodUnit} {n : Nat} {now start : DateTime}
    (hstart : unit.before? now n = some start) (hshort : Bucket.dayDiff start now ≤ 7) :
    ¬(relative n unit).Overruns now := by
  rintro ⟨start', first, hstart', -, h⟩
  obtain rfl := Option.some.inj (hstart.symm.trans hstart')
  omega

/-! ### The default bucket -/

section Default

variable {t : DateTime}

theorem before?_days (ht : t.WellInside) {unit : PeriodUnit} {k n : Nat}
    (hk : unit.days? = some k) (hn : k * n ≤ 1460) :
    unit.before? t n = some (t.onDay (t.day - (k * n : Nat))) := by
  rw [PeriodUnit.before?_of_days? hk, addDays?_neg, if_pos (ht.inCalendar_sub hn)]

/-- Months back, as far as the calendar goes for sure, and the days that they have. -/
theorem exists_before?_months (ht : t.WellInside) {unit : PeriodUnit} {k n : Nat}
    (hk : unit.months? = some k) (hn : k * n ≤ 48) :
    ∃ start, unit.before? t n = some start ∧ 28 * (k * n : Nat) ≤ Bucket.dayDiff start t ∧
      Bucket.dayDiff start t ≤ 31 * (k * n : Nat) + 30 := by
  rw [PeriodUnit.before?_of_months? hk]
  have hyear := ht.fourYears
  have hdiv := monthIndex_div t.day
  rw [show t.date.year = yearOf t.day from rfl] at hyear
  cases hstart : t.addMonths? (-((k * n : Nat) : Int)) with
  | none =>
    have hlt := of_addMonths?_neg_eq_none ht.inCalendar hstart
    omega
  | some start =>
    obtain ⟨d, rfl, -, hlo, -, hhi⟩ := apart_of_addMonths?_neg hstart
    refine ⟨_, rfl, ?_⟩
    rw [Bucket.dayDiff_onDay]
    exact ⟨hlo, hhi⟩

/-- An hour back is less than a day back. -/
theorem exists_before?_oneHour (ht : t.WellInside) :
    ∃ start, PeriodUnit.hour.before? t 1 = some start ∧ Bucket.dayDiff start t = 0 := by
  have hback := addSeconds?_neg ht.isWhole (show 0 < 3600 * 1 by decide)
  obtain ⟨m, h₁, h₂, hdays⟩ := Bucket.dayDiff_shift_neg ht.isWhole (show 0 < 3600 * 1 by decide)
  have hday := ht.le_day
  have hcal := inCalendar_iff.mp ht.inCalendar
  rw [checked_eq_some] at hback
  · refine ⟨_, hback, ?_⟩
    rw [hdays]
    unfold secondsPerDay
    omega
  · have hnano := ht.isWhole
    rw [inCalendar_iff]
    -- an hour does not lead out of the calendar, which began years ago
    unfold calendarStart calendarStop DateTime.day secondsPerDay IsWhole nanosPerSecond at *
    simp only [ofSecond_second]
    omega

/-- The finest bucket for the span of so many units back from now. -/
def spanBucket (unit : PeriodUnit) (n : Nat) (now : DateTime) : Bucket :=
  match unit.before? now n with
  | none => .year
  | some start => Bucket.finestFor (Bucket.dayDiff start now)

theorem spanBucket_of_some {unit : PeriodUnit} {n : Nat} {now start : DateTime}
    (h : unit.before? now n = some start) :
    spanBucket unit n now = Bucket.finestFor (Bucket.dayDiff start now) := by
  rw [spanBucket, h]

theorem spanBucket_days (ht : t.WellInside) {unit : PeriodUnit} {k n : Nat}
    (hk : unit.days? = some k) (hn : k * n ≤ 1460) :
    spanBucket unit n t = Bucket.finestFor (k * n : Nat) := by
  rw [spanBucket_of_some (before?_days ht hk hn), Bucket.dayDiff_onDay, sub_sub_cancel]

/-- From two months back to almost four years the finest bucket is the month. -/
theorem spanBucket_months (ht : t.WellInside) {n : Nat} (h₁ : 2 ≤ n) (h₂ : n ≤ 46) :
    spanBucket .month n t = .month := by
  obtain ⟨start, hstart, hlo, hhi⟩ :=
    exists_before?_months ht (show PeriodUnit.month.months? = some 1 from rfl)
      (show 1 * n ≤ 48 by omega)
  rw [spanBucket_of_some hstart]
  unfold Bucket.finestFor
  rw [if_neg (by omega), if_neg (by omega), if_neg (by omega), if_pos (by omega)]

/-- The default bucket is the finest one for the span back from now.  That is so for the usual
periods too, whose buckets are fixed. -/
theorem defaultBucket_eq (ht : t.WellInside) (n : Nat) (unit : PeriodUnit) :
    (relative n unit).defaultBucket t = spanBucket unit n t := by
  unfold defaultBucket
  split <;> rename_i heq <;> try contradiction
  -- the hour, the days and the months with fixed buckets, then all others
  all_goals obtain ⟨rfl, rfl⟩ := relative.inj heq
  · obtain ⟨start, hstart, hdays⟩ := exists_before?_oneHour ht
    rw [spanBucket_of_some hstart, hdays]
    rfl
  · rw [spanBucket_days ht (k := 1) rfl (by decide)]
    rfl
  · rw [spanBucket_days ht (k := 1) rfl (by decide)]
    rfl
  · rw [spanBucket_days ht (k := 7) rfl (by decide)]
    rfl
  · rw [spanBucket_months ht (by decide) (by decide)]
  · rw [spanBucket_months ht (by decide) (by decide)]
  · rw [spanBucket_months ht (by decide) (by decide)]
  · rw [spanBucket]
    cases unit.before? t n with
    | none => rfl
    | some start =>
      dsimp only
      rw [Bucket.finest_eq]
      split_ifs with hlong
      · rfl
      · unfold Bucket.finestFor
        dsimp only
        rw [if_neg (by omega), if_neg (by omega), if_neg (by omega), if_neg (by omega)]

/-! ### When the default bucket misfits -/

/-- The window of a number of units goes one unit less far back, if there is more than one. -/
def Back (n m : Nat) : Prop := (n = 1 ∧ m = 1) ∨ (1 < n ∧ m = n - 1)

/-- A window goes one unit less far back than its span, or it is one unit like its span. -/
theorem Back.mul {n m : Nat} (h : Back n m) (k : Nat) :
    k ≤ k * m ∧ (k * n = k * m + k ∨ (k * n = k ∧ k * m = k)) := by
  rcases h with ⟨rfl, rfl⟩ | ⟨h, rfl⟩
  · rw [Nat.mul_one]
    exact ⟨le_rfl, .inr ⟨rfl, rfl⟩⟩
  · refine ⟨Nat.le_mul_of_pos_right k (by omega), .inl ?_⟩
    rw [← Nat.mul_succ]
    congr 1
    omega

variable {first : DateTime} {n m : Nat}

/-- The window from `first` is checked with the default bucket of a period, and does not suit it. -/
def DefaultMisfits (unit : PeriodUnit) (n : Nat) (t first : DateTime) : Prop :=
  (spanBucket unit n t).Misfits (Bucket.snappedDays first t (spanBucket unit n t))

section Cases

variable {unit : PeriodUnit} {start : DateTime}

/-- A span that leaves the calendar is one of years, and so is the window. -/
theorem defaultMisfits_iff_of_none (hstart : unit.before? t n = none)
    (hfar : first.day + 732 ≤ t.day) :
    DefaultMisfits unit n t first ↔ (relative n unit).Overruns t := by
  refine iff_of_false ?_ (not_overruns_of_eq_none hstart)
  rw [DefaultMisfits, spanBucket, hstart]
  exact Bucket.not_misfits_year hfar

/-- Up to a week nothing misfits, if it is still a week when it is snapped to hours. -/
theorem defaultMisfits_iff_of_short (hstart : unit.before? t n = some start)
    (hshort : Bucket.dayDiff start t ≤ 7) (hweek : Bucket.snappedDays first t .hour ≤ 7)
    (hday : Bucket.dayDiff start t ≤ 0 → Bucket.snappedDays first t .minute ≤ 0) :
    DefaultMisfits unit n t first ↔ (relative n unit).Overruns t := by
  refine iff_of_false ?_ (not_overruns_of_short hstart hshort)
  rw [DefaultMisfits, spanBucket_of_some hstart]
  unfold Bucket.finestFor
  -- minutes, if the span is less than a day, and hours otherwise
  split_ifs <;> simp only [Bucket.Misfits, Bucket.Suits] <;> omega

/-- Beyond a week only days and months can misfit, by being too fine. -/
theorem defaultMisfits_iff_of_long (hmonths : unit.months? = none)
    (hstart : unit.before? t n = some start) (hfirst : unit.before? t (n - 1) = some first)
    (hlong : 8 ≤ Bucket.dayDiff start t) (hle : first.second ≤ t.second)
    (hlo : Bucket.dayDiff start t - 7 ≤ t.day - first.day)
    (hhi : t.day - first.day ≤ Bucket.dayDiff start t + 1)
    (hunit : unit = .hour ∨ t.day - first.day ≤ Bucket.dayDiff start t) :
    DefaultMisfits unit n t first ↔ (relative n unit).Overruns t := by
  have hday : Bucket.snappedDays first t .day = t.day - first.day := by
    rw [Bucket.snappedDays_eq, Bucket.snappedDays_day]
    rfl
  have hmonth := Bucket.snappedDays_month_bounds hle
  rw [← Bucket.snappedDays_eq] at hmonth
  have hmonth' : Bucket.snappedDays first t .month ≤ t.day - first.day + 60 := hmonth.2
  rw [overruns_iff hstart hfirst, DefaultMisfits, spanBucket_of_some hstart]
  simp only [hmonths, true_and]
  unfold Bucket.finestFor
  rw [if_neg (by omega), if_neg (by omega)]
  -- days, months and years, whose snapped windows are compared with the span
  split_ifs with h28 h1464
  · simp only [Bucket.Misfits, Bucket.Suits]
    rcases hunit with hhour | hunit
    · simp only [hhour, true_and]
      omega
    · omega
  · simp only [Bucket.Misfits, Bucket.Suits]
    omega
  · refine iff_of_false (Bucket.not_misfits_year (by omega)) ?_
    omega

end Cases

/-- Hours misfit the day and the month, and overrun exactly then. -/
theorem defaultMisfits_hours_iff (ht : t.WellInside) (hn : 0 < n) (hback : Back n m)
    (hfirst : PeriodUnit.hour.before? t m = some first) :
    first.second ≤ t.second ∧
      (DefaultMisfits .hour n t first ↔ (relative n .hour).Overruns t) := by
  have hm : 0 < 3600 * m := by unfold Back at hback; omega
  have hstart := addSeconds?_neg ht.isWhole (show 0 < 3600 * n by omega)
  have hfirst' := (addSeconds?_neg ht.isWhole hm).symm.trans hfirst
  obtain ⟨d, h₁, h₂, hdays⟩ :=
    Bucket.dayDiff_shift_neg ht.isWhole (show 0 < 3600 * n by omega)
  have hnano : (t.nano : Int) / nanosPerSecond = 0 ∨ (t.nano : Int) / nanosPerSecond = 1 := by
    have := ht.isWhole
    unfold IsWhole nanosPerSecond at *
    omega
  generalize (t.nano : Int) / nanosPerSecond = q at *
  obtain rfl := eq_of_checked hfirst'
  have hday := ht.le_day
  push_cast at *
  refine ⟨by rw [ofSecond_second]; omega, ?_⟩
  cases hspan : (ofSecond (t.second + q - 3600 * n)).checked with
  | none =>
    -- so many hours lead back further than the calendar, and one fewer is still years
    have hout : ¬(ofSecond (t.second + q - 3600 * n)).inCalendar = true := by
      intro h
      rw [checked_eq_some h] at hspan
      contradiction
    refine defaultMisfits_iff_of_none (hstart.trans hspan) ?_
    have htcal := inCalendar_iff.mp ht.inCalendar
    rw [inCalendar_iff] at hout
    unfold calendarStart calendarStop DateTime.day secondsPerDay Back at *
    simp only [ofSecond_second] at *
    omega
  | some start =>
    have hsome : PeriodUnit.hour.before? t n = some start := hstart.trans hspan
    obtain rfl := eq_of_checked hspan
    -- within a week hours are snapped by less than one of them at either end
    by_cases hshort : d / secondsPerDay ≤ 7
    · refine defaultMisfits_iff_of_short hsome (hdays ▸ hshort) ?_ fun hzero => ?_
      · simp only [Bucket.snappedDays, Bucket.firstSecond, Bucket.index, ofSecond_second]
        unfold secondsPerDay Back at *
        omega
      · rw [hdays] at hzero
        simp only [Bucket.snappedDays, Bucket.firstSecond, Bucket.index, ofSecond_second]
        unfold secondsPerDay Back at *
        omega
    · obtain ⟨-, rfl⟩ : 1 < n ∧ m = n - 1 := by
        unfold Back secondsPerDay at *
        omega
      refine defaultMisfits_iff_of_long rfl hsome hfirst ?_ ?_ ?_ ?_ (.inl rfl)
      · omega
      · rw [ofSecond_second]
        omega
      · rw [hdays]
        unfold DateTime.day secondsPerDay
        rw [ofSecond_second]
        omega
      · rw [hdays]
        unfold DateTime.day secondsPerDay
        rw [ofSecond_second]
        omega

/-- Days and weeks misfit the month only. -/
theorem defaultMisfits_days_iff (ht : t.WellInside) {unit : PeriodUnit} {k : Nat}
    (hk : unit.days? = some k) (hn : 0 < n) (hback : Back n m)
    (hfirst : unit.before? t m = some first) :
    first.second ≤ t.second ∧
      (DefaultMisfits unit n t first ↔ (relative n unit).Overruns t) := by
  have hk7 : 1 ≤ k ∧ k ≤ 7 := by cases unit <;> simp [PeriodUnit.days?] at hk <;> omega
  have hmonths : unit.months? = none := by
    cases unit <;> simp [PeriodUnit.days?] at hk <;> rfl
  have hday := ht.le_day
  have hkn := hback.mul k
  have hstart := PeriodUnit.before?_of_days? hk t n
  have hfirst' := (PeriodUnit.before?_of_days? hk t m).symm.trans hfirst
  rw [addDays?_neg] at hstart hfirst'
  split_ifs at hfirst' with hcal
  obtain rfl := Option.some.inj hfirst'
  have hsecond : (t.onDay (t.day - (k * m : Nat))).second = t.second - 86400 * (k * m : Nat) := by
    unfold onDay DateTime.day secondsPerDay
    dsimp only
    omega
  refine ⟨by omega, ?_⟩
  split_ifs at hstart with hcal'
  · have hdays : Bucket.dayDiff (t.onDay (t.day - (k * n : Nat))) t = (k * n : Nat) := by
      rw [Bucket.dayDiff_onDay, sub_sub_cancel]
    by_cases hshort : k * n ≤ 7
    · refine defaultMisfits_iff_of_short hstart (by omega) ?_ (by omega)
      simp only [Bucket.snappedDays, Bucket.firstSecond, Bucket.index, hsecond, secondsPerDay]
      omega
    · obtain ⟨-, rfl⟩ : 1 < n ∧ m = n - 1 := by
        rcases hback with ⟨rfl, -⟩ | h
        · omega
        · exact h
      have hspan := day_onDay t (t.day - (k * (n - 1) : Nat))
      exact defaultMisfits_iff_of_long hmonths hstart hfirst (by omega) (by omega) (by omega)
        (by omega) (.inr (by omega))
  · have hfar := mt ht.inCalendar_sub hcal'
    refine defaultMisfits_iff_of_none hstart ?_
    rw [day_onDay]
    omega

/-- A window of whole months misfits nothing: snapped to months it is not longer than the span. -/
theorem defaultMisfits_months_iff (ht : t.WellInside) {unit : PeriodUnit} {k : Nat}
    (hk : unit.months? = some k) (hn : 0 < n) (hback : Back n m)
    (hfirst : unit.before? t m = some first) :
    first.second ≤ t.second ∧
      (DefaultMisfits unit n t first ↔ (relative n unit).Overruns t) := by
  have hk12 : 1 ≤ k ∧ k ≤ 12 := by cases unit <;> simp [PeriodUnit.months?] at hk <;> omega
  have hnever : ¬(relative n unit).Overruns t := by
    rintro ⟨_, _, -, -, ⟨rfl, -⟩ | ⟨hnone, -⟩⟩
    · simp [PeriodUnit.months?] at hk
    · rw [hk] at hnone
      contradiction
  have hkn := hback.mul k
  have hpos : 1 ≤ k * n := Nat.mul_pos hk12.1 hn
  have hstart := PeriodUnit.before?_of_months? hk t n
  have hfirst' := (PeriodUnit.before?_of_months? hk t m).symm.trans hfirst
  obtain ⟨d, rfl, hindex, hlo, hspan, hhi⟩ := apart_of_addMonths?_neg hfirst'
  have hday : (t.onDay d).day = d := day_onDay t d
  have hsecond : (t.onDay d).second = t.second - 86400 * (t.day - d) := by
    unfold onDay DateTime.day secondsPerDay
    dsimp only
    omega
  refine ⟨by omega, iff_of_false ?_ hnever⟩
  cases hlook : t.addMonths? (-((k * n : Nat) : Int)) with
  | none =>
    rw [hlook] at hstart
    rw [DefaultMisfits, spanBucket, hstart]
    apply Bucket.not_misfits_year
    have hfar := of_addMonths?_neg_eq_none ht.inCalendar hlook
    have hyear := ht.fourYears
    have hdiv := monthIndex_div t.day
    rw [show t.date.year = yearOf t.day from rfl] at hyear
    omega
  | some start =>
    rw [hlook] at hstart
    obtain ⟨d', rfl, -, hlo', hspan', hhi'⟩ := apart_of_addMonths?_neg hlook
    rw [DefaultMisfits, spanBucket_of_some hstart, Bucket.dayDiff_onDay]
    unfold Bucket.finestFor
    rw [if_neg (by omega), if_neg (by omega)]
    split_ifs with h28 h1464
    · -- a single month of 28 days
      have hsame : k * m = k * n := by omega
      rw [hsame, hlook] at hfirst'
      have hd := congrArg DateTime.day (Option.some.inj hfirst')
      rw [day_onDay, day_onDay] at hd
      have hdays : Bucket.snappedDays (t.onDay d) t .day = t.day - d := by
        rw [Bucket.snappedDays_eq, Bucket.snappedDays_day]
        show t.day - (t.onDay d).day = _
        rw [hday]
      rw [hdays]
      unfold Bucket.Misfits Bucket.Suits
      omega
    · have hshort : monthFirst (monthIndex t.day) ≤
          monthFirst (monthIndex t.day - (k * n : Nat)) + 1464 := by
        omega
      have hfew := months_le_of_monthFirst_le hshort
      have hmono := monthFirst_strictMono.monotone
        (show monthIndex t.day + 1 - 48 ≤ monthIndex t.day - (k * m : Nat) by omega)
      have hfour := monthFirst_add_fourYears (monthIndex t.day + 1 - 48)
      have hmore := monthFirst_add_bounds (monthIndex t.day) 1
      rw [sub_add_cancel] at hfour
      have hbetween := monthFirst_strictMono.monotone
        (show monthIndex t.day - (k * m : Nat) ≤ monthIndex t.day by omega)
      simp only [Bucket.Misfits, Bucket.Suits, Bucket.snappedDays, Bucket.firstSecond,
        Bucket.index, hday, hindex, secondsPerDay]
      push_cast at *
      omega
    · apply Bucket.not_misfits_year
      omega

/-- Whatever the unit, a default bucket misfits exactly if the window overruns. -/
theorem defaultMisfits_iff (ht : t.WellInside) (unit : PeriodUnit) (hn : 0 < n)
    (hback : Back n m) (hfirst : unit.before? t m = some first) :
    first.second ≤ t.second ∧
      (DefaultMisfits unit n t first ↔ (relative n unit).Overruns t) := by
  cases unit with
  | hour => exact defaultMisfits_hours_iff ht hn hback hfirst
  | day => exact defaultMisfits_days_iff ht rfl hn hback hfirst
  | week => exact defaultMisfits_days_iff ht rfl hn hback hfirst
  | month => exact defaultMisfits_months_iff ht rfl hn hback hfirst
  | year => exact defaultMisfits_months_iff ht rfl hn hback hfirst

end Default

/-- A period that is read has a positive number of units. -/
theorem amount_pos_of_parse {raw : String} {n : Nat} {unit : PeriodUnit}
    (h : parse raw = .ok (relative n unit)) : 0 < n := by
  rw [parse] at h
  -- the only way to read a number of units refuses zero
  split at h
  · rename_i hread
    rw [Except.ok.inj h] at hread
    unfold ofChars? at hread
    split_ifs at hread
    · cases hread
    · cases hread
    · cases hread
    · split at hread
      · contradiction
      · split at hread
        · split_ifs at hread with hzero
          obtain ⟨rfl, -⟩ := relative.inj (Option.some.inj hread)
          exact Nat.pos_of_ne_zero hzero
        · contradiction
  · contradiction

end Period

namespace Timeframe

/-! ### Outcomes -/

/-- The resolution gives a window, or there is no bucket for so long a range, or the bucket does not
suit the range; the last iff `misfit` holds. -/
def Outcome (r : Except WindowError Window) (misfit : Prop) : Prop :=
  ((∃ w, r = .ok w) ∨ r = .error (.invalid .rangeTooLarge) ∨
    ∃ b days, r = .error (.invalid (.bucketNotAllowed b days))) ∧
  ((∃ b days, r = .error (.invalid (.bucketNotAllowed b days))) ↔ misfit)

theorem outcome_ok {w : Window} {misfit : Prop} (h : ¬misfit) : Outcome (.ok w) misfit := by
  simp [Outcome, h]

theorem outcome_rangeTooLarge {misfit : Prop} (h : ¬misfit) :
    Outcome (.error (.invalid .rangeTooLarge)) misfit := by
  simp [Outcome, h]

/-- The check of a window decides between the three outcomes. -/
theorem outcome_check (b : Bucket) (start stop : DateTime) (w : Window) :
    Outcome ((checked (b.check start stop)).map fun _ => w)
      (b.Misfits (Bucket.dayDiff start stop)) := by
  rcases b.check_cases start stop with ⟨hcheck, hsuits⟩ | ⟨hcheck, hlong⟩ | ⟨hcheck, hmisfits⟩
  · rw [hcheck]
    exact outcome_ok fun h => h.2 hsuits
  · rw [hcheck]
    exact outcome_rangeTooLarge fun h => by
      have := h.1
      omega
  · rw [hcheck]
    simp [Outcome, checked, Except.map, Bucket.Misfits, hmisfits]

section Periods

variable {zone : Zone} {now : DateTime}

theorem resolvePeriod_of_localBounds_error (hzone : zone.isUtc = true) {bucket : Option Bucket}
    {count : Option Int} {period : Period} {e : WindowError}
    (h : localBounds period (bucketFor bucket period count now.truncate) count now.truncate =
      .error e) : resolvePeriod zone bucket count period now = .error e := by
  have hlocal : localNow zone now.truncate = .ok now.truncate := by rw [localNow, if_pos hzone]
  rw [resolvePeriod_eq, hlocal]
  simp only [bind, Except.bind, h]

theorem outcome_of_suits (hzone : zone.isUtc = true) (hnow : now.Valid) {count : Option Int}
    {period : Period} {start stop : DateTime}
    (h : localBounds period (bucketFor none period count now.truncate) count now.truncate =
      .ok (start, stop))
    (hsuits : (bucketFor none period count now.truncate).Suits (Bucket.dayDiff start stop)) :
    Outcome (resolvePeriod zone none count period now) False := by
  rw [resolvePeriod_of_localBounds hzone hnow h, Bucket.check_eq_ok_iff.mpr hsuits]
  exact outcome_ok id

/-- Today is less than a day, which suits hours. -/
theorem outcome_today (hzone : zone.isUtc = true) (hnow : now.Valid) (count : Option Int) :
    Outcome (resolvePeriod zone none count .today now) False := by
  refine outcome_of_suits hzone hnow rfl ?_
  show Bucket.dayDiff now.truncate.midnight now.truncate ≤ (7 : Int)
  -- eight days from midnight are more than the seconds of a day
  by_contra hlong
  have hmidnight : now.truncate.midnight.Valid :=
    ⟨Bucket.inCalendar_startOf (b := .day) hnow.inCalendar, Nat.zero_lt_succ _⟩
  have hapart := Bucket.lt_second_of_le_dayDiff hmidnight (valid_truncate hnow)
    (show (0 : Int) < 8 by decide) (by omega)
  unfold midnight ofDay DateTime.day secondsPerDay at hapart
  dsimp only at hapart
  omega

/-- Yesterday is less than a day, which suits hours. -/
theorem outcome_yesterday (hzone : zone.isUtc = true) (hnow : now.Valid)
    (hinside : now.truncate.WellInside) (count : Option Int) :
    Outcome (resolvePeriod zone none count .yesterday now) False := by
  have hback : now.truncate.addDays? (-1) =
      some (now.truncate.onDay (now.truncate.day - (1 : Nat))) := by
    have hback := addDays?_neg now.truncate 1
    rwa [if_pos (hinside.inCalendar_sub (by decide))] at hback
  -- it ends with the second before midnight
  have hend : Bucket.day.endOf? (now.truncate.onDay (now.truncate.day - (1 : Nat))) =
      some (ofSecond (now.day * secondsPerDay - 1)) := by
    have hindex : Bucket.day.index (now.truncate.onDay (now.truncate.day - (1 : Nat))) + 1 =
        now.day := by
      show (now.truncate.onDay (now.truncate.day - (1 : Nat))).day + 1 = now.day
      rw [day_onDay, truncate_day]
      omega
    have hcal : (ofSecond (Bucket.day.firstSecond now.day)).inCalendar = true :=
      Bucket.inCalendar_firstSecond (b := .day) hnow.inCalendar
    rw [Bucket.endOf?_eq, hindex, if_pos hcal]
    rfl
  have hbounds : localBounds .yesterday .hour count now.truncate =
      .ok (ofSecond ((now.day - 1) * secondsPerDay), ofSecond (now.day * secondsPerDay - 1)) := by
    unfold localBounds
    rw [hback]
    simp only [orInvalid, bind, Except.bind, hend, midnight, day_onDay]
    rfl
  refine outcome_of_suits hzone hnow hbounds ?_
  show Bucket.dayDiff _ _ ≤ (7 : Int)
  rw [Bucket.dayDiff_ofSecond (by unfold secondsPerDay; omega)]
  unfold secondsPerDay
  omega

/-- Before the last year there is a bucket after that of now. -/
theorem inCalendar_next (hnow : now.Valid) (hlast : now.date.year < lastYear) (b : Bucket) :
    (ofSecond (b.firstSecond (b.index now.truncate + 1))).inCalendar = true :=
  Bucket.inCalendar_firstSecond_succ (b := b) (t := now.truncate) hnow.inCalendar hlast

/-- A number of units back resolves to one of the three outcomes. -/
theorem outcome_relative (hzone : zone.isUtc = true) (hnow : now.Valid)
    (hinside : now.truncate.WellInside) (hlast : now.date.year < lastYear) (count : Option Int)
    {n : Nat} (hn : 0 < n) (unit : PeriodUnit) :
    Outcome (resolvePeriod zone none count (.relative n unit) now)
      ((Period.relative n unit).Overruns now.truncate) := by
  obtain ⟨m, hm, hback⟩ : ∃ m, m = (if n = 1 then n else n - 1) ∧ Period.Back n m := by
    refine ⟨_, rfl, ?_⟩
    unfold Period.Back
    split_ifs <;> omega
  have hbucket : bucketFor none (.relative n unit) count now.truncate =
      Period.spanBucket unit n now.truncate :=
    Period.defaultBucket_eq hinside n unit
  have hlay (b : Bucket) : localBounds (.relative n unit) b count now.truncate =
      wholeBuckets b (unit.before? now.truncate m) now.truncate := by
    rw [hm]
    rfl
  cases hfirst : unit.before? now.truncate m with
  | none =>
    -- what leads out of the calendar is too far back
    have hbounds : localBounds (.relative n unit)
        (bucketFor none (.relative n unit) count now.truncate) count now.truncate =
        .error (.invalid .rangeTooLarge) := by
      rw [hlay, hfirst]
      rfl
    rw [resolvePeriod_of_localBounds_error hzone hbounds]
    apply outcome_rangeTooLarge
    rintro ⟨start, first, hstart, hfirst', -⟩
    rcases hback with ⟨rfl, rfl⟩ | ⟨-, rfl⟩
    · rw [hstart] at hfirst
      contradiction
    · rw [hfirst'] at hfirst
      contradiction
  | some first =>
    obtain ⟨hle, hmisfits⟩ := Period.defaultMisfits_iff hinside unit hn hback hfirst
    have hbounds := hlay (bucketFor none (.relative n unit) count now.truncate)
    rw [hfirst, wholeBuckets_eq (inCalendar_next hnow hlast _)] at hbounds
    rw [resolvePeriod_of_localBounds hzone hnow hbounds, hbucket, ← hmisfits,
      Period.DefaultMisfits, Bucket.snappedDays, ← Bucket.dayDiff_ofSecond]
    · exact outcome_check _ _ _ _
    · have hmono := (Period.spanBucket unit n now.truncate).index_mono hle
      have hlt := (Period.spanBucket unit n now.truncate).firstSecond_strictMono.monotone hmono
      have hlength := (Period.spanBucket unit n now.truncate).firstSecond_add_sixty_le
        ((Period.spanBucket unit n now.truncate).index now.truncate)
      omega

end Periods

/-- **Default buckets.** A period other than `all`, without a bucket and in a UTC zone, resolves to
a window, or it is too large for every bucket.  Otherwise its bucket does not suit the window that
it was chosen for, and that is so iff the window overruns: it has more than 28 days though so many
hours have at most 28, or more than 1464 though so many hours, days or weeks do not. -/
theorem resolveIn_defaultBucket {zone : Zone} (hzone : zone.isUtc = true) {q : Timeframe}
    (hq : q.bucket = none) {period : Period} (hperiod : q.IsPeriod period) (hall : period ≠ .all)
    {now : DateTime} (hnano : now.nano < 2 * nanosPerSecond)
    (hfirst : firstYear + 4 ≤ now.date.year) (hlast : now.date.year < lastYear) :
    ((∃ w, q.resolveIn zone now = .ok w) ∨
        q.resolveIn zone now = .error (.invalid .rangeTooLarge) ∨
        ∃ b days, q.resolveIn zone now = .error (.invalid (.bucketNotAllowed b days))) ∧
      ((∃ b days, q.resolveIn zone now = .error (.invalid (.bucketNotAllowed b days))) ↔
        period.Overruns now.truncate) := by
  have hnow : now.Valid :=
    ⟨AwayFromEnds.inCalendar ⟨by omega, hlast⟩, hnano⟩
  have hinside : now.truncate.WellInside := ⟨isWhole_truncate hnano, hnow.inCalendar, hfirst⟩
  rw [resolveIn_of_isPeriod hperiod, hq]
  -- the fixed periods suit hours, and only a number of units can misfit
  cases period with
  | today => exact outcome_today hzone hnow _
  | yesterday => exact outcome_yesterday hzone hnow hinside _
  | all => contradiction
  | relative n unit =>
    obtain ⟨-, raw, -, hparse⟩ := hperiod
    exact outcome_relative hzone hnow hinside hlast _ (Period.amount_pos_of_parse hparse) unit

/-- Thirty days before 15 March 2024, within a leap second: they are charted by month. -/
theorem resolveIn_defaultBucket_thirtyDays :
    let q : Timeframe := ⟨none, some "2024-01-01", some "30d", some "UTC", none, none⟩
    let zone := Zone.fallback
    let now : DateTime := ⟨1710510359, 1250000000⟩
    zone.isUtc = true ∧ q.IsPeriod (.relative 30 .day) ∧ now.nano < 2 * nanosPerSecond ∧
      firstYear + 4 ≤ now.date.year ∧ now.date.year < lastYear ∧
      ¬(Period.relative 30 .day).Overruns now.truncate ∧
      ¬∃ b days, q.resolveIn zone now = .error (.invalid (.bucketNotAllowed b days)) := by
  intro q zone now
  have hperiod : q.IsPeriod (.relative 30 .day) := ⟨.inl rfl, "30d", rfl, by decide +kernel⟩
  have hnano : now.nano < 2 * nanosPerSecond := by decide
  have hfirst : firstYear + 4 ≤ now.date.year := by decide +kernel
  have hlast : now.date.year < lastYear := by decide +kernel
  have hfits : ¬(Period.relative 30 .day).Overruns now.truncate := by
    rintro ⟨start, first, -, hback, ⟨hhour, -⟩ | ⟨-, -, -, hlong⟩⟩
    · contradiction
    · have hback' : PeriodUnit.day.before? now.truncate 29 =
          some ⟨1708004759, nanosPerSecond⟩ := by decide +kernel
      obtain rfl := Option.some.inj (hback'.symm.trans hback)
      revert hlong
      decide +kernel
  have houtcome := resolveIn_defaultBucket (show zone.isUtc = true from rfl)
    (show q.bucket = none from rfl) hperiod (by decide) hnano hfirst hlast
  exact ⟨rfl, hperiod, hnano, hfirst, hlast, hfits, fun h => hfits (houtcome.2.mp h)⟩

/-- The default bucket of 1464 days is the month, and on 15 March 2024 the window is snapped from
the first day of a month to the last of another, 1491 whole days.  A year would have been fine. -/
theorem resolve_defaultBucket_notAllowed :
    let q : Timeframe := ⟨none, none, some "1464d", some "UTC", none, none⟩
    let now := ofSecond 1710510330
    q.resolve now = .error (.invalid (.bucketNotAllowed .month 1491)) ∧
      (Period.relative 1464 .day).Overruns now ∧
      ∃ w, { q with bucket := some .year }.resolve now = .ok w := by
  intro q now
  refine ⟨by decide +kernel, ?_, ?_⟩
  · refine ⟨ofSecond (1710510330 - 1464 * 86400), ofSecond (1710510330 - 1463 * 86400),
      by decide +kernel, by decide +kernel, .inr ?_⟩
    decide +kernel
  · refine ⟨Window.ofUtc ⟨"UTC", .constant 0, true⟩ .year (ofSecond 1577836800)
      (ofSecond 1735689599), ?_⟩
    decide +kernel

end Timeframe

end SiteAnalytics
