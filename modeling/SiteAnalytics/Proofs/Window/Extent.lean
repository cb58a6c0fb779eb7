import SiteAnalytics.Proofs.Window.Utc

/-!
# How many points a chart has

The staircase allows a bucket for so many whole days, and so a chart has a bounded number of points:
at most one more than a day has minutes (`index_sub_le_of_suits`).  The only longer charts come from
a leap second at the end of a day.  It counts as a second of its own as long as both ends are on
different sides of it, so that a pair from within it may be nearly two seconds longer on the clock
than its difference says, and touch one more minute.

`resolveIn_axis_of_isUtc` is the result for windows in UTC zones: both readings of a bound are the
same, the window is in order, and its axis runs from the bucket of its start to that of its end.
-/

namespace SiteAnalytics

open Calendar DateTime

namespace Bucket

/-! ### Seconds in so many days -/

theorem diff_lt_of_dayDiff_lt {t u : DateTime} {n : Int} (hn : 0 < n) (h : dayDiff t u < n) :
    u.diff t < n * (secondsPerDay * nanosPerSecond) := by
  by_contra hle
  rw [not_lt] at hle
  have hpos : 0 ≤ u.diff t := by
    unfold secondsPerDay nanosPerSecond at hle
    omega
  rw [dayDiff, wholeDays, wholeUnits, Int.tdiv_eq_ediv_of_nonneg hpos] at h
  exact absurd ((Int.le_ediv_iff_mul_le (by decide)).mpr hle) (not_le.mpr h)

/-- In fewer whole days there are fewer seconds, but for what the nanoseconds make up. -/
theorem second_lt_of_dayDiff_lt {t u : DateTime} (ht : t.Valid) (hu : u.Valid) {n : Int}
    (hn : 0 < n) (h : dayDiff t u < n) : u.second - t.second < n * secondsPerDay + 3 := by
  have hdiff := (diff_bounds hu.nano_lt ht.nano_lt).1
  have hlt := diff_lt_of_dayDiff_lt hn h
  unfold nanosPerSecond secondsPerDay at *
  omega

/-- A pair from within the last second of a day, lengthened by a leap second, to the first second of
a day. -/
def AcrossLeapSecond (start stop : DateTime) : Prop :=
  start.inLeapSecond = true ∧ start.secondOfDay = 86399 ∧ stop.secondOfDay = 0

/-- In less than a day there is no second more than a day has, except across a leap second. -/
theorem second_le_of_dayDiff_nonpos {t u : DateTime} (ht : t.Valid) (hu : u.Valid)
    (h : dayDiff t u ≤ 0) : u.second - t.second ≤ 86400 ∨
      u.second - t.second = 86401 ∧ AcrossLeapSecond t u := by
  have hdiff := diff_lt_of_dayDiff_lt one_pos (show dayDiff t u < 1 by omega)
  have htday := secondOfDay_eq t
  have huday := secondOfDay_eq u
  have htnano := ht.nano_lt
  have hunano := hu.nano_lt
  unfold diff at hdiff
  unfold AcrossLeapSecond
  simp only [inLeapSecond, Bool.and_eq_true, decide_eq_true_eq] at hdiff ⊢
  unfold nanosPerSecond secondsPerDay at *
  split_ifs at hdiff <;> omega

/-! ### Buckets in so many days -/

/-- A range touches at most one minute more than a day has, and fewer of the other buckets that suit
it, except for minutes across a leap second. -/
theorem index_sub_le_of_suits {b : Bucket} {t u : DateTime} (ht : t.Valid) (hu : u.Valid)
    (h : b.Suits (dayDiff t u)) : b.index u - b.index t ≤ 1440 ∨
      b.index u - b.index t = 1441 ∧ AcrossLeapSecond t u := by
  cases b with
  | minute =>
    simp only [index]
    obtain hle | ⟨heq, hacross⟩ := second_le_of_dayDiff_nonpos ht hu h
    · left
      omega
    · have htday := secondOfDay_eq t
      have huday := secondOfDay_eq u
      rw [hacross.2.1] at htday
      rw [hacross.2.2] at huday
      exact .inr ⟨by omega, hacross⟩
  | hour =>
    have hlt := second_lt_of_dayDiff_lt ht hu (show 0 < 8 by decide)
      (Int.lt_add_one_of_le (show dayDiff t u ≤ 7 from h))
    simp only [index, secondsPerDay] at *
    omega
  | day =>
    have hlt := second_lt_of_dayDiff_lt ht hu (show 0 < 29 by decide) (Int.lt_add_one_of_le h.2)
    simp only [index, DateTime.day, secondsPerDay] at *
    omega
  | month =>
    have hlt := second_lt_of_dayDiff_lt ht hu (show 0 < 1465 by decide) (Int.lt_add_one_of_le h.2)
    left
    by_contra hmany
    -- so many months would be longer than the range is
    have hmonths := (monthFirst_add_bounds (monthIndex t.day) 1440).1
    have hmono := monthFirst_strictMono.monotone
      (show monthIndex t.day + (1440 : Nat) ≤ monthIndex u.day by
        simp only [index] at hmany
        omega)
    have htnear := monthIndex_near t.day
    have hunear := (monthIndex_bracket u.day).1
    unfold DateTime.day secondsPerDay at *
    omega
  | year =>
    have hlt := second_lt_of_dayDiff_lt ht hu (show 0 < 100000 by decide)
      (Int.lt_add_one_of_le h.2)
    left
    by_contra hmany
    have hmonths := (monthFirst_add_bounds (12 * yearOf t.day) (12 * 1440)).1
    have hmono := yearStart_strictMono.monotone
      (show yearOf t.day + 1440 ≤ yearOf u.day by
        simp only [index] at hmany
        omega)
    rw [monthFirst_twelve_mul, show 12 * yearOf t.day + ((12 * 1440 : Nat) : Int) =
      12 * (yearOf t.day + 1440) by push_cast; ring, monthFirst_twelve_mul] at hmonths
    have htlast := lt_yearStart_yearOf_succ t.day
    have hufirst := yearStart_yearOf_le u.day
    have hlength := yearStart_succ (yearOf t.day)
    unfold yearLength at hlength
    unfold DateTime.day secondsPerDay at *
    split_ifs at hlength <;> omega

end Bucket

namespace Timeframe

variable {zone : Zone} {q : Timeframe} {now : DateTime} {w : Window}

/-! ### Windows in UTC -/

/-- A day is laid out from its first second to its last one. -/
theorem dayDiff_of_resolveDay {b : Bucket} {day : DateTime} (h : resolveDay zone b day = .ok w) :
    Bucket.dayDiff w.localStart w.localStop = 0 := by
  obtain ⟨-, -, hmidnight, hend, -⟩ := resolveDay_eq_ok_iff.mp h
  rw [hmidnight, show day.midnight = Bucket.day.startOf day from rfl, Bucket.endOf?_startOf,
    Bucket.endOf?_eq] at hend
  split_ifs at hend
  rw [← Option.some.inj hend, hmidnight]
  exact Bucket.dayDiff_of_day day.day

/-- A window in UTC touches at most one minute more than a day has, and fewer of the other buckets,
unless it is that of a pair across a leap second. -/
theorem index_sub_le_of_resolveIn (hzone : zone.Sound) (hutc : zone.isUtc = true)
    (hnow : now.Valid) (h : q.resolveIn zone now = .ok w) :
    w.bucket.index w.localStop - w.bucket.index w.localStart ≤ 1440 ∨
      w.bucket.index w.localStop - w.bucket.index w.localStart = 1441 ∧
        ∃ start stop, q.IsPair start stop ∧ Bucket.AcrossLeapSecond start stop := by
  have hreadable := readable_of_resolveIn hzone hnow h
  obtain ⟨hstart, hstop⟩ := readsUtc_of_resolveIn hzone hutc hnow h
  -- a window that is checked as it is begins with a second, and so in no leap second
  have hchecked (hstopValid : w.localStop.Valid)
      (hsuits : w.bucket.Suits (Bucket.dayDiff w.localStart w.localStop)) :
      w.bucket.index w.localStop - w.bucket.index w.localStart ≤ 1440 := by
    have hwhole : w.localStart = ofSecond w.localStart.second := by
      rw [hstart]
      exact eq_ofSecond hreadable.utcStart_nano
    have hstartValid : w.localStart.Valid := by
      rw [hwhole]
      exact valid_ofSecond (hwhole ▸ hreadable.localStart_inCalendar)
    obtain hle | ⟨-, hleap, -⟩ := Bucket.index_sub_le_of_suits hstartValid hstopValid hsuits
    · exact hle
    · rw [hwhole, inLeapSecond_ofSecond] at hleap
      contradiction
  obtain ⟨start, stop, hpair, -, hbucket, h⟩ | ⟨_, -, h⟩ := resolveIn_eq_ok_iff.mp h
  · have hsuits := suits_of_pairBucket hbucket
    split_ifs at h with heq
    · left
      refine hchecked ?_ ?_
      · obtain ⟨-, -, -, hend, -⟩ := resolveDay_eq_ok_iff.mp h
        rw [Bucket.endOf?_eq] at hend
        split_ifs at hend
        have hcal := hreadable.localStop_inCalendar
        rw [← Option.some.inj hend] at hcal ⊢
        exact valid_ofSecond hcal
      · rw [dayDiff_of_resolveDay h]
        rw [heq, Bucket.dayDiff, diff_self] at hsuits
        exact hsuits
    · obtain ⟨hfirst, hlast⟩ := index_of_resolvePair h
      obtain ⟨_, _, -, -, hread, hread'⟩ := id hpair
      rw [hstart, hstop, hfirst, hlast]
      obtain hle | ⟨hmost, hacross⟩ := Bucket.index_sub_le_of_suits
        (DateInput.valid_of_read? hread) (DateInput.valid_of_read? hread') hsuits
      · exact .inl hle
      · exact .inr ⟨hmost, start, stop, hpair, hacross⟩
  · left
    obtain ⟨nowLocal, hlocal, -, -, hbounds, -, -, hsuits⟩ := resolvePeriod_eq_ok_iff.mp h
    rw [localNow, if_pos hutc] at hlocal
    obtain rfl := Except.ok.inj hlocal
    rw [← hstart, ← hstop] at hsuits
    refine hchecked ?_ hsuits
    obtain ⟨-, -, -, hsame | ⟨s, hs, -⟩⟩ :=
      laidOut_of_localBounds (isWhole_truncate hnow.nano_lt) hnow.inCalendar hbounds
    · rw [hsame]
      exact valid_truncate hnow
    · have hcal := hreadable.localStop_inCalendar
      rw [hs] at hcal ⊢
      exact valid_ofSecond hcal

/-- **The chart of a window in UTC.** In a UTC zone both readings of a bound are the same, a window
does not stop before it starts, and it has an axis, from the bucket of its start to that of its end.
The axis has one point at least and 1441 at most, or 1442 for a pair across a leap second at the end
of a day. -/
theorem resolveIn_axis_of_isUtc (hzone : zone.Sound) (hutc : zone.isUtc = true) (hnow : now.Valid)
    (h : q.resolveIn zone now = .ok w) :
    w.localStart = w.utcStart ∧ w.localStop = w.utcStop ∧ w.utcStart ≤ w.utcStop ∧
      ∃ axis, Axis.ofWindow? w = some axis ∧ 1 ≤ axis.size ∧
        (axis.size ≤ 1441 ∨ axis.size = 1442 ∧
          ∃ start stop, q.IsPair start stop ∧ Bucket.AcrossLeapSecond start stop) ∧
        axis.labels.head? = some (w.bucket.label (w.bucket.startOf w.localStart)) ∧
        axis.labels.getLast? = some (w.bucket.label (w.bucket.startOf w.localStop)) := by
  have hreadable := readable_of_resolveIn hzone hnow h
  obtain ⟨hstart, hstop⟩ := readsUtc_of_resolveIn hzone hutc hnow h
  have hle := le_of_resolveIn hzone hutc hnow h
  have hindex : w.bucket.index w.localStart ≤ w.bucket.index w.localStop := by
    rw [hstart, hstop]
    refine w.bucket.index_mono ?_
    rw [le_iff] at hle
    omega
  have hextent := index_sub_le_of_resolveIn hzone hutc hnow h
  obtain ⟨hcount, hfirst, hlast⟩ := Axis.points_ends hreadable.localStart_inCalendar
    hreadable.localStop_inCalendar hindex
  have hshown (t : DateTime) (_ : t ∈ Axis.points w.bucket w.localStart w.localStop) :
      (Axis.utcLabel? w.bucket w.zone t).isSome := by
    rw [Axis.utcLabel?, zone_of_resolveIn h, if_pos hutc]
    rfl
  obtain ⟨axis, haxis, hlabels⟩ := Axis.exists_generate?_of_isSome hshown
  have hsize : (axis.size : Int) =
      w.bucket.index w.localStop - w.bucket.index w.localStart + 1 := by
    rw [Axis.size, hlabels, List.length_map, hcount]
  refine ⟨hstart, hstop, hle, axis, haxis, by omega, ?_, ?_, ?_⟩
  · obtain hmost | ⟨hmost, hpair⟩ := hextent
    · exact .inl (by omega)
    · exact .inr ⟨by omega, hpair⟩
  · rw [hlabels, List.head?_map, hfirst, Option.map_some]
  · rw [hlabels, List.getLast?_map, hlast, Option.map_some]

/-- A pair of times less than a day apart, cut into minutes: the longest chart that needs no leap
second. -/
theorem resolveIn_axis_of_isUtc_minutes :
    let zone := Zone.parse (some "UTC")
    let q : Timeframe :=
      ⟨some "2024-01-01 00:00:30", some "2024-01-02 00:00:10", none, some "UTC", some .minute, none⟩
    let now := ofSecond 1710510330
    let w := Window.ofUtc zone .minute (ofSecond 1704067200) (ofSecond 1704153659)
    zone.Sound ∧ zone.isUtc = true ∧ now.Valid ∧ q.resolveIn zone now = .ok w ∧
      w.utcStart ≤ w.utcStop ∧ ∃ axis, Axis.ofWindow? w = some axis ∧
        1 ≤ axis.size ∧ axis.size ≤ 1441 ∧
        axis.labels.head? = some "2024-01-01 00:00:00" ∧
        axis.labels.getLast? = some "2024-01-02 00:00:00" := by
  intro zone q now w
  have hzone : zone.Sound := Zone.sound_parse _ _
  have hutc : zone.isUtc = true := by decide +kernel
  have hnow : now.Valid := valid_ofSecond (by decide +kernel)
  have h : q.resolveIn zone now = .ok w := by decide +kernel
  obtain ⟨-, -, hle, axis, haxis, hsome, hmost, hfirst, hlast⟩ :=
    resolveIn_axis_of_isUtc hzone hutc hnow h
  refine ⟨hzone, hutc, hnow, h, hle, axis, haxis, hsome, ?_, ?_, ?_⟩
  · obtain hmost | ⟨-, start, stop, ⟨_, _, ⟨⟩, -, hread, -⟩, hleap, -⟩ := hmost
    · exact hmost
    · have hstart : DateInput.read? "2024-01-01 00:00:30" = some (ofSecond 1704067230) := by
        decide +kernel
      rw [← Option.some.inj (hstart.symm.trans hread)] at hleap
      contradiction
  · rw [hfirst]
    decide +kernel
  · rw [hlast]
    decide +kernel

/-- From within a leap second at the end of a day to the first second of the day after next it is
half a second less than a day, and more than a day by the clock: the chart has 1442 minutes. -/
theorem resolve_axis_acrossLeapSecond :
    let q : Timeframe := ⟨some "2024-01-01T23:59:60.5Z", some "2024-01-03T00:00:00Z", none,
      some "UTC", some .minute, none⟩
    let now := ofSecond 1710510330
    let w := Window.ofUtc (Zone.parse (some "UTC")) .minute (ofSecond 1704153540)
      (ofSecond 1704240059)
    w.zone.isUtc = true ∧ q.resolve now = .ok w ∧
      ∃ axis, Axis.ofWindow? w = some axis ∧ axis.size = 1442 := by
  intro q now w
  have hutc : w.zone.isUtc = true := by decide +kernel
  have hshown (t : DateTime) (_ : t ∈ Axis.points w.bucket w.localStart w.localStop) :
      (Axis.utcLabel? w.bucket w.zone t).isSome := by
    rw [Axis.utcLabel?, if_pos hutc]
    rfl
  obtain ⟨axis, haxis, hlabels⟩ := Axis.exists_generate?_of_isSome hshown
  obtain ⟨hcount, -⟩ := @Axis.points_ends w.bucket w.localStart w.localStop
    (by decide +kernel) (by decide +kernel) (by decide +kernel)
  have hindex : w.bucket.index w.localStop - w.bucket.index w.localStart + 1 = 1442 := by
    decide +kernel
  refine ⟨hutc, by decide +kernel, axis, haxis, ?_⟩
  rw [Axis.size, hlabels, List.length_map]
  omega

end Timeframe

end SiteAnalytics
