import SiteAnalytics.Proofs.Window.Utc

/-!
# Asking again for the window of a period

The window of a period that reaches over whole buckets can be kept by its bounds: in a UTC zone the
explicit pair of its reported bounds, with its bucket, resolves to the same window, at any time
(`resolveIn_again_of_isPeriod`).  Relative periods, yesterday and all time with several buckets are
of that kind.  Today ends at now and need not be.

The two paths of resolution agree because each of them is repeated on what is snapped already: the
bounds are those of their own buckets, so the check of the pair sees the window that was checked
before.
-/

namespace SiteAnalytics

open Calendar DateTime

/-- The window reaches from the start of one bucket to the end of another. -/
def Window.IsSnapped (w : Window) : Prop :=
  ∃ u v, u.inCalendar = true ∧ u.second ≤ v.second ∧ w.utcStart = w.bucket.startOf u ∧
    w.bucket.endOf? v = some w.utcStop

namespace Bucket

/-- A bucket that suits less than a day divides every day. -/
theorem eq_minute_or_hour_of_suits {b : Bucket} (h : b.Suits 0) : b = minute ∨ b = hour := by
  cases b with
  | minute => exact .inl rfl
  | hour => exact .inr rfl
  | _ => simp [Suits] at h

/-- A day reaches from the start of a minute or hour to the end of another. -/
theorem snapped_day {b : Bucket} (hb : b = minute ∨ b = hour) {d : Int}
    (hnext : (ofSecond (day.firstSecond (d + 1))).inCalendar = true) :
    b.startOf (ofDay d) = ofDay d ∧
      b.endOf? (ofSecond (day.firstSecond (d + 1) - 1)) =
        some (ofSecond (day.firstSecond (d + 1) - 1)) := by
  have hlast : b.firstSecond (b.index (ofSecond (day.firstSecond (d + 1) - 1)) + 1) =
      day.firstSecond (d + 1) := by
    rcases hb with rfl | rfl <;>
      simp only [firstSecond, index, secondsPerDay, ofSecond_second] <;> omega
  refine ⟨?_, ?_⟩
  · have hfirst : b.firstSecond (b.index (ofDay d)) = d * secondsPerDay := by
      rcases hb with rfl | rfl <;> simp only [firstSecond, index, ofDay, secondsPerDay] <;> omega
    rw [startOf_eq, hfirst]
    rfl
  · rw [endOf?_eq, hlast, if_pos hnext]

end Bucket

namespace Timeframe

variable {zone : Zone} {w : Window}

/-- The periods whose windows reach over whole buckets. -/
def ReachesOverBuckets (q : Timeframe) (period : Period) : Prop :=
  period = .yesterday ∨ (∃ n unit, period = .relative n unit) ∨
    period = .all ∧ ∃ n ∈ q.allTimeCount, 1 < n

/-- In a UTC zone a window over whole buckets is that of a pair. -/
theorem resolvePair_of_isSnapped (hzone : zone.Sound) (hutc : zone.isUtc = true)
    (hw : w.zone = zone) (hstart : w.localStart = w.utcStart) (hstop : w.localStop = w.utcStop)
    (hstartCal : w.localStart.inCalendar = true) (hstopCal : w.localStop.inCalendar = true)
    {u v : DateTime} (hfirst : w.utcStart = w.bucket.startOf u)
    (hlast : w.bucket.endOf? v = some w.utcStop) : resolvePair zone w.bucket u v = .ok w := by
  have hlocal {t : DateTime} (ht : t.inCalendar = true) : zone.utcToLocal? t = some t := by
    rw [Zone.utcToLocal?, hzone.utc hutc, Clock.utcToLocal?_utc, checked_eq_some ht]
  refine resolvePair_eq_ok_iff.mpr ⟨rfl, hw, hfirst, hlast, ?_, ?_⟩
  · rw [hstart] at hstartCal ⊢
    exact hlocal hstartCal
  · rw [hstop] at hstopCal ⊢
    exact hlocal hstopCal

/-- Such a period is laid out in whole buckets, all of a day if it is yesterday. -/
theorem isSnapped_of_localBounds {q : Timeframe} {period : Period} {now : DateTime}
    (hwhole : now.IsWhole) (hreaches : q.ReachesOverBuckets period)
    (hstart : w.localStart = w.utcStart) (hstop : w.localStop = w.utcStop)
    (hsuits : w.bucket.Suits (Bucket.dayDiff w.utcStart w.utcStop))
    (h : localBounds period w.bucket q.allTimeCount now = .ok (w.localStart, w.localStop)) :
    w.IsSnapped := by
  rw [hstart, hstop] at h
  have hbuckets {unit : PeriodUnit} {n : Nat}
      (h : wholeBuckets w.bucket (unit.before? now n) now = .ok (w.utcStart, w.utcStop)) :
      w.IsSnapped := by
    obtain ⟨u, hu, hfirst, hlast⟩ := wholeBuckets_eq_ok_iff.mp h
    exact ⟨u, now, PeriodUnit.inCalendar_of_before? hu, PeriodUnit.second_le_of_before? hwhole hu,
      hfirst, hlast⟩
  obtain ⟨rfl, -⟩ | ⟨-, day, hday, hfirst, hlast⟩ | ⟨rfl, hfew, -⟩ | ⟨n, -, -, -, h⟩ |
    ⟨amount, unit, -, h⟩ := localBounds_cases h
  · simp [ReachesOverBuckets] at hreaches
  · have hdayCal := (of_addDays?_neg (n := 1) hday).2
    rw [Bucket.endOf?_eq] at hlast
    split_ifs at hlast with hnext
    have hlast := (Option.some.inj hlast).symm
    -- less than a day, so cut into minutes or hours
    have hzero : Bucket.dayDiff w.utcStart w.utcStop = 0 := by
      rw [hfirst, hlast]
      exact Bucket.dayDiff_of_day day.day
    rw [hzero] at hsuits
    obtain ⟨hsnapStart, hsnapStop⟩ :=
      Bucket.snapped_day (Bucket.eq_minute_or_hour_of_suits hsuits) hnext
    refine ⟨w.utcStart, w.utcStop, ?_, ?_, ?_, ?_⟩
    · rw [hfirst]
      exact Bucket.inCalendar_startOf (b := .day) hdayCal
    · rw [hfirst, hlast]
      show day.day * secondsPerDay ≤ Bucket.day.firstSecond (day.day + 1) - 1
      simp only [Bucket.firstSecond, secondsPerDay]
      omega
    · rw [hfirst]
      exact hsnapStart.symm
    · rw [hlast]
      exact hsnapStop
  · obtain h | ⟨n, unit, h⟩ | ⟨-, n, hn, hmany⟩ := hreaches
    · cases h
    · cases h
    · exact absurd (hfew n hn) (not_le.mpr hmany)
  · exact hbuckets h
  · exact hbuckets h

/-- **Asking again.** In a UTC zone the window of a period that reaches over whole buckets is also
that of the pair of its reported bounds with its bucket, whatever else is asked for and whenever. -/
theorem resolveIn_again_of_isPeriod (hzone : zone.Sound) (hutc : zone.isUtc = true) {q : Timeframe}
    {now : DateTime} (hnow : now.Valid) {period : Period} (hperiod : q.IsPeriod period)
    (hreaches : q.ReachesOverBuckets period) (h : q.resolveIn zone now = .ok w) (p : Timeframe)
    (later : DateTime) : (p.again w).resolveIn zone later = .ok w := by
  have hreadable := readable_of_resolveIn hzone hnow h
  obtain ⟨hstart, hstop⟩ := readsUtc_of_resolveIn hzone hutc hnow h
  have hw := zone_of_resolveIn h
  rw [resolveIn_of_isPeriod hperiod] at h
  obtain ⟨nowLocal, hlocal, -, -, hbounds, -, -, hsuits⟩ := resolvePeriod_eq_ok_iff.mp h
  rw [localNow, if_pos hutc] at hlocal
  obtain rfl := Except.ok.inj hlocal
  obtain ⟨u, v, hu, hle, hfirst, hlast⟩ := isSnapped_of_localBounds
    (isWhole_truncate hnow.nano_lt) hreaches hstart hstop hsuits hbounds
  have hpair := resolvePair_of_isSnapped hzone hutc hw hstart hstop
    hreadable.localStart_inCalendar hreadable.localStop_inCalendar hfirst hlast
  exact (resolveIn_again_iff p hle hu hpair later).mpr (Window.legal_iff_suits.mpr hsuits)

/-- Thirteen months back from a leap day, cut into months. -/
theorem resolveIn_again_of_isPeriod_months :
    let zone := Zone.parse (some "UTC")
    let q : Timeframe := ⟨none, none, some "13M", some "UTC", some .month, none⟩
    let now := ofSecond 1709208000
    let w := Window.ofUtc zone .month (ofSecond 1675209600) (ofSecond 1709251199)
    zone.Sound ∧ zone.isUtc = true ∧ now.Valid ∧ q.IsPeriod (.relative 13 .month) ∧
      q.ReachesOverBuckets (.relative 13 .month) ∧ q.resolveIn zone now = .ok w ∧
      ∀ (p : Timeframe) (later : DateTime), (p.again w).resolveIn zone later = .ok w := by
  intro zone q now w
  have hzone : zone.Sound := Zone.sound_parse _ _
  have hutc : zone.isUtc = true := by decide +kernel
  have hnow : now.Valid := valid_ofSecond (by decide +kernel)
  have hperiod : q.IsPeriod (.relative 13 .month) := ⟨.inl rfl, "13M", rfl, by decide +kernel⟩
  have hreaches : q.ReachesOverBuckets (.relative 13 .month) := .inr (.inl ⟨13, .month, rfl⟩)
  have h : q.resolveIn zone now = .ok w := by decide +kernel
  exact ⟨hzone, hutc, hnow, hperiod, hreaches, h,
    resolveIn_again_of_isPeriod hzone hutc hnow hperiod hreaches h⟩

end Timeframe

end SiteAnalytics
