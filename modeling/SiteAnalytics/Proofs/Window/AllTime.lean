import SiteAnalytics.Proofs.Window.Bounds
import SiteAnalytics.Window.AllTime

/-!
# Windows for all time

`Bucket.allTime` finds a bucket and a number of buckets from the first event of a project to now,
and `Timeframe.resolve` turns the two into a window again.
`resolve_allTime_contains_first_event_iff` says when that window reaches back to the first event.

A count of two or more leads back to the bucket of the first event, so the window is the snapped one
that `allTime` has checked (`localBounds_all`).  A count of one stands for the last twenty-four
hours.  That is enough for an hour, and no day or year is ever counted once, but a month is counted
once when first event and now are so far apart in one month that days do not fit
(`allTime_single_iff`); the window then misses the first event.
-/

namespace SiteAnalytics

open Calendar DateTime

namespace Bucket

/-! ### Candidates -/

/-- The bucket fits the window from `first` to `now` once that is snapped to it. -/
def fitsSnapped (first now : DateTime) (b : Bucket) : Bool :=
  match b.endOf? now with
  | none => false
  | some stop => (b.check (b.startOf first) stop).isOk

/-- The first candidate that fits is taken, with its number of buckets. -/
theorem firstFitting_eq_ok_iff {first now : DateTime} {e : ValidationError} {l : List Bucket}
    {b : Bucket} {k : Int} :
    firstFitting first now e l = .ok (b, k) ↔
      l.find? (fitsSnapped first now) = some b ∧ k = b.countBetween first now := by
  induction l generalizing e with
  | nil => simp [firstFitting]
  | cons c rest ih =>
    rw [firstFitting, List.find?_cons, fitsSnapped]
    cases c.endOf? now with
    | none => exact ih
    | some stop =>
      cases hc : c.check (c.startOf first) stop with
      | error e' => simp only [hc, Except.isOk, Except.toBool]; exact ih
      | ok u =>
        simp only [hc, Except.isOk, Except.toBool, Except.ok.injEq, Prod.mk.injEq,
          Option.some.injEq]
        constructor
        · rintro ⟨rfl, rfl⟩
          exact ⟨rfl, rfl⟩
        · rintro ⟨rfl, rfl⟩
          exact ⟨rfl, rfl⟩

theorem fitsSnapped_iff {first now : DateTime} {b : Bucket} (hle : first.second ≤ now.second)
    (hnext : (ofSecond (b.firstSecond (b.index now + 1))).inCalendar = true) :
    fitsSnapped first now b = true ↔ b.Suits (snappedDays first now b) := by
  have hmono := b.firstSecond_strictMono.monotone (b.index_mono hle)
  have hlt := b.firstSecond_strictMono (lt_add_one (b.index now))
  rw [fitsSnapped, endOf?_eq, if_pos hnext, snappedDays, ← dayDiff_ofSecond (by omega),
    ← check_eq_ok_iff, ← startOf_eq]
  dsimp only
  cases b.check (b.startOf first) (ofSecond (b.firstSecond (b.index now + 1) - 1)) with
  | error e => simp [Except.isOk, Except.toBool]
  | ok u => simp [Except.isOk, Except.toBool]

theorem allTimeCandidates_eq (first now : DateTime) : allTimeCandidates first now =
    if dayDiff first now ≤ 0 then .ok [hour, year]
    else if dayDiff first now ≤ 7 then .ok [hour, day, month, year]
    else if dayDiff first now ≤ 28 then .ok [day, month, year]
    else if dayDiff first now ≤ 732 then .ok [month, year]
    else if dayDiff first now ≤ 1464 then .ok [month, year, year]
    else if dayDiff first now ≤ 99999 then .ok [year, year]
    else .error .rangeTooLarge := by
  rw [allTimeCandidates, allowed_eq]
  split_ifs <;> rfl

/-- The result for all time is the first candidate that fits, with its number of buckets. -/
theorem allTime_eq_ok_iff {first now : DateTime} (h : first ≤ now) {b : Bucket} {k : Int} :
    allTime first now = .ok (b, k) ↔
      ∃ l, allTimeCandidates first now = .ok l ∧ l.find? (fitsSnapped first now) = some b ∧
        k = b.countBetween first now := by
  rw [allTime, earlier_eq_left h]
  cases allTimeCandidates first now with
  | error e => simp [bind, Except.bind]
  | ok l =>
    simp only [bind, Except.bind, firstFitting_eq_ok_iff, Except.ok.injEq, exists_eq_left']

/-! ### Windows of one bucket -/

/-- The number of days between first event and now for which a bucket is chosen for all time. -/
def AllTimeDays (b : Bucket) (days : Int) : Prop :=
  match b with
  | minute => False
  | hour => days ≤ 8
  | day => 1 ≤ days ∧ days ≤ 28
  | month => 29 ≤ days
  | year => 733 ≤ days

/-- The bucket for all time, by the dates of first event and now. -/
theorem allTime_days {s t : Int} (hst : s ≤ t) (ht : (ofSecond t).inCalendar = true)
    (hyear : (ofSecond t).date.year < lastYear) {b : Bucket} {k : Int}
    (h : allTime (ofSecond s) (ofSecond t) = .ok (b, k)) :
    b.AllTimeDays ((ofSecond t).day - (ofSecond s).day) := by
  have hfits (c : Bucket) : fitsSnapped (ofSecond s) (ofSecond t) c = true ↔
      c.Suits (snappedDays (ofSecond s) (ofSecond t) c) :=
    fitsSnapped_iff hst (inCalendar_firstSecond_succ ht hyear)
  have hhour := hfits hour
  have hday := hfits day
  have hmonth := hfits month
  have hspan := snappedDays_month_bounds hst
  have hdays := wholeDays_bracket (s := s) (t := t)
  have hhours := snappedDays_hour_le (s := s) (t := t)
  rw [snappedDays_day] at hday
  simp only [Suits] at hhour hday hmonth
  obtain ⟨l, hl, hfind, -⟩ := (allTime_eq_ok_iff (ofSecond_le_iff.mpr hst)).mp h
  rw [allTimeCandidates_eq, dayDiff_ofSecond hst] at hl
  generalize (t - s) / (secondsPerDay : Int) = d at *
  split_ifs at hl with h₁ h₂ h₃ h₄ h₅ h₆ <;> obtain rfl := Except.ok.inj hl
  · -- within a day the hour fits
    rw [List.find?_cons_of_pos (hhour.mpr (by omega))] at hfind
    obtain rfl := Option.some.inj hfind
    show _ ≤ (8 : Int)
    omega
  · -- within a week the hour or else the day fits
    rw [List.find?_cons] at hfind
    split at hfind
    · obtain rfl := Option.some.inj hfind
      show _ ≤ (8 : Int)
      omega
    · rw [List.find?_cons_of_pos (hday.mpr (by omega))] at hfind
      obtain rfl := Option.some.inj hfind
      exact ⟨by omega, by omega⟩
  · -- within four weeks the day or else the month fits
    rw [List.find?_cons] at hfind
    split at hfind
    · rename_i hd
      obtain rfl := Option.some.inj hfind
      exact hday.mp hd
    · rename_i hd
      rw [List.find?_cons_of_pos (hmonth.mpr (by omega))] at hfind
      obtain rfl := Option.some.inj hfind
      have := mt hday.mpr (by simp [hd])
      show (29 : Int) ≤ _
      omega
  · -- within two years the month fits
    rw [List.find?_cons_of_pos (hmonth.mpr (by omega))] at hfind
    obtain rfl := Option.some.inj hfind
    show (29 : Int) ≤ _
    omega
  · -- within four years the month or else the year may fit
    have hb := List.mem_of_find?_eq_some hfind
    simp only [List.mem_cons, List.not_mem_nil, or_false, or_self] at hb
    rcases hb with rfl | rfl
    · show (29 : Int) ≤ _
      omega
    · show (733 : Int) ≤ _
      omega
  · -- after that only the year can fit
    have hb := List.mem_of_find?_eq_some hfind
    simp only [List.mem_cons, List.not_mem_nil, or_false, or_self] at hb
    subst hb
    show (733 : Int) ≤ _
    omega

/-- The dates are in one month, and the second one is at least twenty-nine days behind the first. -/
def FarInMonth (t u : DateTime) : Prop :=
  month.index t = month.index u ∧ t.day + 29 ≤ u.day

/-- A window for all time is a single bucket, and not an hour, iff first event and now are in one
month, but so far apart that days do not fit. -/
theorem allTime_single_iff {s t : Int} (hst : s ≤ t) (ht : (ofSecond t).inCalendar = true)
    (hyear : (ofSecond t).date.year < lastYear) {b : Bucket} {k : Int}
    (h : allTime (ofSecond s) (ofSecond t) = .ok (b, k)) :
    (b ≠ hour ∧ k = 1) ↔ FarInMonth (ofSecond s) (ofSecond t) := by
  have hdays := allTime_days hst ht hyear h
  have hsameMonth := day_le_of_month_eq (t := ofSecond s) (u := ofSecond t)
  have hsameYear := day_le_of_year_eq (t := ofSecond s) (u := ofSecond t)
  obtain ⟨-, -, -, rfl⟩ := (allTime_eq_ok_iff (ofSecond_le_iff.mpr hst)).mp h
  rw [countBetween_eq b hst, FarInMonth]
  cases b with
  | minute => exact hdays.elim
  | hour =>
    -- eight days at most
    simp only [AllTimeDays] at hdays
    simp only [ne_eq, not_true_eq_false, false_and, false_iff]
    omega
  | day =>
    -- at least two days, and not far enough apart
    simp only [AllTimeDays] at hdays
    simp only [index]
    omega
  | month =>
    -- always far enough apart, so all depends on the month
    simp only [AllTimeDays] at hdays
    simp only [ne_eq, reduceCtorEq, not_false_eq_true, true_and]
    omega
  | year =>
    -- neither one year nor one month is as long
    simp only [AllTimeDays] at hdays
    simp only [ne_eq, reduceCtorEq, not_false_eq_true, true_and]
    omega

end Bucket

/-! ### The way back -/

namespace Timeframe

/-- The request asks for all time, not for an explicit pair of dates. -/
def AsksForAll (q : Timeframe) : Prop :=
  (q.start = none ∨ q.stop = none) ∧ ∃ raw, q.period = some raw ∧ Period.parse raw = .ok .all

/-- A request for all time with a bucket is resolved as that period. -/
theorem resolve_of_asksForAll {q : Timeframe} (hq : q.AsksForAll) (b : Bucket) (k : Int)
    (now : DateTime) (zones : ZoneSource) :
    { q with bucket := some b, allTimeCount := some k : Timeframe }.resolve now zones =
      resolvePeriod (Zone.parse q.timezone zones) (some b) (some k) .all now := by
  obtain ⟨hpair, raw, hraw, hall⟩ := hq
  obtain ⟨start, stop, period, timezone, bucket, count⟩ := q
  simp only at hraw hpair
  subst hraw
  unfold resolve
  dsimp only
  rw [hall]
  rcases hpair with rfl | rfl
  · rfl
  · cases start <;> rfl

section Back

variable {b : Bucket} {s t : Int}

/-- A count of two or more leads back to the bucket it was counted from. -/
theorem localBounds_all (hb : b ≠ .minute) (hs : (ofSecond s).inCalendar = true)
    (ht : (ofSecond t).inCalendar = true)
    (hnext : (ofSecond (b.firstSecond (b.index (ofSecond t) + 1))).inCalendar = true)
    (hlt : b.index (ofSecond s) < b.index (ofSecond t))
    (hmax : b.index (ofSecond t) - b.index (ofSecond s) ≤ Numeral.maxU32) :
    localBounds .all b (some (b.index (ofSecond t) - b.index (ofSecond s) + 1)) (ofSecond t) =
      .ok (ofSecond (b.firstSecond (b.index (ofSecond s))),
        ofSecond (b.firstSecond (b.index (ofSecond t) + 1) - 1)) := by
  obtain ⟨n, hn⟩ : ∃ n : Nat, b.index (ofSecond t) = b.index (ofSecond s) + n :=
    ⟨(b.index (ofSecond t) - b.index (ofSecond s)).toNat, by omega⟩
  have hfirst : (ofSecond (b.firstSecond (b.index (ofSecond t) - n))).inCalendar = true := by
    rw [hn, add_sub_cancel_right]
    exact Bucket.inCalendar_firstSecond hs
  -- so many units before now lies the bucket of the first event
  obtain ⟨u, hu, hindex⟩ := PeriodUnit.before?_ofBucket hb ht hfirst
  have hunits : (b.index (ofSecond t) - b.index (ofSecond s) + 1 - 1).toNat = n := by omega
  unfold localBounds
  simp only [hunits]
  rw [if_pos (by omega), if_pos (by omega), hu, wholeBuckets_eq hnext, hindex, hn,
    add_sub_cancel_right]

/-- A count of one stands for the last twenty-four hours. -/
theorem localBounds_all_one (h : (ofSecond (t - secondsPerDay)).inCalendar = true) :
    localBounds .all b (some 1) (ofSecond t) =
      .ok (ofSecond (t - secondsPerDay), ofSecond t) := by
  have hadd : (ofSecond t).addSeconds? (-86400) = some (ofSecond (t - secondsPerDay)) := by
    rw [addSeconds?_ofSecond, ← Int.sub_eq_add_neg]
    exact checked_eq_some h
  unfold localBounds localBounds.lastDay
  rw [hadd]
  rfl

/-- All time with a count of two or more is the window snapped to the bucket. -/
theorem resolvePeriod_all {zone : Zone} (hzone : zone.isUtc = true) (hb : b ≠ .minute)
    (hs : (ofSecond s).inCalendar = true) (ht : (ofSecond t).inCalendar = true)
    (hnext : (ofSecond (b.firstSecond (b.index (ofSecond t) + 1))).inCalendar = true)
    (hlt : b.index (ofSecond s) < b.index (ofSecond t))
    (hsuits : b.Suits (Bucket.snappedDays (ofSecond s) (ofSecond t) b)) :
    resolvePeriod zone (some b) (some (b.index (ofSecond t) - b.index (ofSecond s) + 1)) .all
        (ofSecond t) =
      .ok (Window.ofUtc zone b (ofSecond (b.firstSecond (b.index (ofSecond s))))
        (ofSecond (b.firstSecond (b.index (ofSecond t) + 1) - 1))) := by
  have hfirst := b.firstSecond_strictMono hlt
  have hlast := b.index_bracket (ofSecond t)
  -- the staircase bounds the length of the window, and so the number of its buckets
  have hmax : b.index (ofSecond t) - b.index (ofSecond s) ≤ Numeral.maxU32 := by
    have hdays : Bucket.snappedDays (ofSecond s) (ofSecond t) b ≤ 99999 := by
      cases b <;> unfold Bucket.Suits at hsuits <;> omega
    have hadd := b.firstSecond_add_le (b.index (ofSecond s))
      (b.index (ofSecond t) - b.index (ofSecond s)).toNat
    rw [show b.index (ofSecond s) + ((b.index (ofSecond t) - b.index (ofSecond s)).toNat : Int) =
      b.index (ofSecond t) by omega] at hadd
    unfold Bucket.snappedDays secondsPerDay at hdays
    unfold Numeral.maxU32
    omega
  rw [resolvePeriod_of_localBounds hzone (valid_ofSecond ht)
    (localBounds_all hb hs ht hnext hlt hmax)]
  have hcheck : b.check (ofSecond (b.firstSecond (b.index (ofSecond s))))
      (ofSecond (b.firstSecond (b.index (ofSecond t) + 1) - 1)) = .ok () := by
    rw [Bucket.check_eq_ok_iff,
      Bucket.dayDiff_ofSecond (by simp only [ofSecond_second] at *; omega)]
    exact hsuits
  simp only [bucketFor, hcheck, checked, Except.map]

/-- All time with a count of one is the last twenty-four hours, if the bucket suits one day. -/
theorem resolvePeriod_all_one {zone : Zone} (hzone : zone.isUtc = true) (hsuits : b.Suits 1)
    (hs : (ofSecond (t - secondsPerDay)).inCalendar = true)
    (ht : (ofSecond t).inCalendar = true) :
    resolvePeriod zone (some b) (some 1) .all (ofSecond t) =
      .ok (Window.ofUtc zone b (ofSecond (t - secondsPerDay)) (ofSecond t)) := by
  rw [resolvePeriod_of_localBounds hzone (valid_ofSecond ht) (localBounds_all_one (t := t) hs)]
  have hcheck : b.check (ofSecond (t - secondsPerDay)) (ofSecond t) = .ok () := by
    rw [Bucket.check_eq_ok_iff, Bucket.dayDiff_ofSecond (by unfold secondsPerDay; omega),
      sub_sub_cancel, Int.ediv_self (by decide)]
    exact hsuits
  simp only [bucketFor, hcheck, checked, Except.map]

end Back

/-! ### The first event -/

theorem farInMonth_iff (t u : DateTime) :
    Bucket.FarInMonth t u ↔ t.date.year = u.date.year ∧ t.date.month = u.date.month ∧
      t.date.day + 29 ≤ u.date.day := by
  have ht := ofDay_month_bounds t.day
  have hu := ofDay_month_bounds u.day
  have hday (v : DateTime) : (v.date.day : Int) = v.day - monthFirst (monthIndex v.day) + 1 := by
    rw [monthFirst_monthIndex]
    exact ofDay_day v.day
  have hindex (v : DateTime) : monthIndex v.day = 12 * v.date.year + v.date.month - 1 := rfl
  have hdt := hday t
  have hdu := hday u
  have h : monthIndex t.day = monthIndex u.day ↔
      t.date.year = u.date.year ∧ t.date.month = u.date.month := by
    rw [hindex, hindex]
    unfold DateTime.date
    omega
  show (monthIndex t.day = monthIndex u.day ∧ _) ↔ _
  rw [h, and_assoc]
  refine and_congr_right fun hy => and_congr_right fun hm => ?_
  rw [h.mpr ⟨hy, hm⟩] at hdt
  omega

section FirstEvent

variable {zone : Zone} {b : Bucket} {s t : Int}

/-- A count of one leads back by a day. An hour is not longer than that, so the first event is in
the window; a month is counted once only if the first event is farther away. -/
theorem resolvePeriod_allTime_one (hzone : zone.isUtc = true) (hst : s ≤ t)
    (ht : (ofSecond t).AwayFromEnds) (h : Bucket.allTime (ofSecond s) (ofSecond t) = .ok (b, 1)) :
    ∃ w, resolvePeriod zone (some b) (some 1) .all (ofSecond t) = .ok w ∧
      ofSecond t ≤ w.utcStop ∧
      (w.utcStart ≤ ofSecond s ↔ ¬Bucket.FarInMonth (ofSecond s) (ofSecond t)) := by
  have hdays := Bucket.allTime_days hst ht.inCalendar ht.2 h
  have hsingle := Bucket.allTime_single_iff hst ht.inCalendar ht.2 h
  obtain ⟨-, -, -, hk⟩ := (Bucket.allTime_eq_ok_iff (ofSecond_le_iff.mpr hst)).mp h
  rw [Bucket.countBetween_eq b hst] at hk
  have hsuits : b.Suits 1 := by
    cases b with
    | minute => exact hdays.elim
    | hour => simp [Bucket.Suits]
    | day => simp [Bucket.Suits]
    | month => simp [Bucket.Suits]
    | year =>
      -- no year is counted once, for days two years apart are in different years
      have hyear := Bucket.day_le_of_year_eq (t := ofSecond s) (u := ofSecond t) (by omega)
      simp only [Bucket.AllTimeDays] at hdays
      omega
  refine ⟨_, resolvePeriod_all_one hzone hsuits ht.inCalendar_sub_day ht.inCalendar,
    ofSecond_le_iff.mpr le_rfl, ?_⟩
  show ofSecond (t - secondsPerDay) ≤ ofSecond s ↔ _
  rw [ofSecond_le_iff, ofSecond_second]
  by_cases hhour : b = .hour
  · -- the last twenty-four hours contain the last hour
    subst hhour
    have hnear := mt hsingle.mpr fun h => h.1 rfl
    simp only [Bucket.index, ofSecond_second] at hk
    refine iff_of_true ?_ hnear
    unfold secondsPerDay
    omega
  · -- what is a month, and far in it, is more than a day away
    have hfar := hsingle.mp ⟨hhour, rfl⟩
    refine iff_of_false ?_ (not_not_intro hfar)
    have hapart := hfar.2
    unfold DateTime.day secondsPerDay at hapart
    simp only [ofSecond_second] at hapart
    unfold secondsPerDay
    omega

/-- A count of two or more leads back to the bucket of the first event. -/
theorem resolvePeriod_allTime_several (hzone : zone.isUtc = true) (hst : s ≤ t)
    (hs : (ofSecond s).AwayFromEnds) (ht : (ofSecond t).AwayFromEnds) {k : Int} (hk : k ≠ 1)
    (h : Bucket.allTime (ofSecond s) (ofSecond t) = .ok (b, k)) :
    ∃ w, resolvePeriod zone (some b) (some k) .all (ofSecond t) = .ok w ∧
      ofSecond t ≤ w.utcStop ∧ w.utcStart ≤ ofSecond s := by
  have hdays := Bucket.allTime_days hst ht.inCalendar ht.2 h
  have hb : b ≠ .minute := by
    rintro rfl
    exact hdays
  have hnext := Bucket.inCalendar_firstSecond_succ (b := b) ht.inCalendar ht.2
  obtain ⟨l, -, hfind, rfl⟩ := (Bucket.allTime_eq_ok_iff (ofSecond_le_iff.mpr hst)).mp h
  rw [Bucket.countBetween_eq b hst] at hk ⊢
  have hsuits := (Bucket.fitsSnapped_iff hst hnext).mp (List.find?_some hfind)
  have hmono := b.index_mono (t := ofSecond s) (u := ofSecond t) hst
  have hlt : b.index (ofSecond s) < b.index (ofSecond t) := by omega
  refine ⟨_, resolvePeriod_all hzone hb hs.inCalendar ht.inCalendar hnext hlt hsuits, ?_, ?_⟩
  · show ofSecond t ≤ ofSecond _
    rw [ofSecond_le_iff, ofSecond_second]
    have hlast := (b.index_bracket (ofSecond t)).2
    simp only [ofSecond_second] at hlast
    omega
  · show ofSecond _ ≤ ofSecond s
    rw [ofSecond_le_iff]
    exact (b.index_bracket (ofSecond s)).1

end FirstEvent

/-- **All-time windows.** The bucket and the count found for all time are resolved to a window that
reaches at least to now.  It reaches back to the first event as well, except when that lies in the
same month as now and its date is at least twenty-nine days earlier. -/
theorem resolve_allTime_contains_first_event_iff {q : Timeframe} (hq : q.AsksForAll)
    {zones : ZoneSource} (hzone : (Zone.parse q.timezone zones).isUtc = true)
    {first now : DateTime} (hle : first ≤ now)
    (hfirst : first.nano = 0) (hnow : now.nano = 0) (hstart : first.AwayFromEnds)
    (hstop : now.AwayFromEnds) {b : Bucket} {k : Int}
    (h : Bucket.allTime first now = .ok (b, k)) :
    ∃ w, { q with bucket := some b, allTimeCount := some k : Timeframe }.resolve now zones =
        .ok w ∧ now ≤ w.utcStop ∧
      (w.utcStart ≤ first ↔ ¬(first.date.year = now.date.year ∧
        first.date.month = now.date.month ∧ first.date.day + 29 ≤ now.date.day)) := by
  rw [resolve_of_asksForAll hq, ← farInMonth_iff]
  obtain ⟨s, rfl⟩ : ∃ s, first = ofSecond s := ⟨_, eq_ofSecond hfirst⟩
  obtain ⟨t, rfl⟩ : ∃ t, now = ofSecond t := ⟨_, eq_ofSecond hnow⟩
  rw [ofSecond_le_iff, ofSecond_second] at hle
  -- a count of one is the only one that does not lead back to the first event's own bucket
  by_cases hk : k = 1
  · subst hk
    exact resolvePeriod_allTime_one hzone hle hstop h
  · obtain ⟨w, hw, hto, hfrom⟩ := resolvePeriod_allTime_several hzone hle hstart hstop hk h
    have hnear := mt (Bucket.allTime_single_iff hle hstop.inCalendar hstop.2 h).mpr fun h => hk h.2
    exact ⟨w, hw, hto, iff_of_true hfrom hnear⟩

/-- A project whose first event is of 1 May 2024, seen on 9 August: the window contains it. -/
theorem resolve_allTime_contains_first_event_may :
    let q : Timeframe := ⟨none, none, some " all ", some "UTC", none, none⟩
    let first := ofSecond 1714550400
    let now := ofSecond 1723197600
    q.AsksForAll ∧ (Zone.parse q.timezone).isUtc = true ∧ first ≤ now ∧ first.nano = 0 ∧
      now.nano = 0 ∧ first.AwayFromEnds ∧ now.AwayFromEnds ∧
      Bucket.allTime first now = .ok (.month, 4) ∧
      ∃ w, { q with bucket := some .month, allTimeCount := some 4 : Timeframe }.resolve now =
          .ok w ∧ now ≤ w.utcStop ∧
        (w.utcStart ≤ first ↔ ¬(first.date.year = now.date.year ∧
          first.date.month = now.date.month ∧ first.date.day + 29 ≤ now.date.day)) := by
  intro q first now
  have hq : q.AsksForAll := ⟨.inl rfl, " all ", rfl, by decide +kernel⟩
  have hzone : (Zone.parse q.timezone).isUtc = true := by decide +kernel
  have hle : first ≤ now := by decide
  have hstart : first.AwayFromEnds := by unfold AwayFromEnds; decide +kernel
  have hstop : now.AwayFromEnds := by unfold AwayFromEnds; decide +kernel
  have h : Bucket.allTime first now = .ok (.month, 4) := by decide +kernel
  exact ⟨hq, hzone, hle, rfl, rfl, hstart, hstop, h,
    resolve_allTime_contains_first_event_iff hq hzone hle rfl rfl hstart hstop h⟩

/-- A project whose first event is of 1 January 2024, seen on 31 January: the only month is counted
once, and the window begins on 30 January. -/
theorem resolve_allTime_misses_first_event :
    Bucket.allTime (ofSecond 1704067200) (ofSecond 1706702400) = .ok (.month, 1) ∧
      Timeframe.resolve ⟨none, none, some "all", some "UTC", some .month, some 1⟩
          (ofSecond 1706702400) =
        .ok (Window.ofUtc ⟨"UTC", .constant 0, true⟩ .month (ofSecond 1706616000)
          (ofSecond 1706702400)) ∧
      ¬ofSecond 1706616000 ≤ ofSecond 1704067200 := by
  refine ⟨?_, ?_, ?_⟩
  · decide +kernel
  · decide +kernel
  · decide

end Timeframe

end SiteAnalytics
