import SiteAnalytics.Proofs.Axis.Label
import SiteAnalytics.Proofs.Window.Axis
import SiteAnalytics.Proofs.Window.DefaultBucket

/-!
# Periods counted in the units of their chart

A period of so many hours, days, months or years that is charted by its own unit has as many points,
and the last of them is the bucket of now (`resolveIn_points_of_isPeriod`).  A single unit reaches
back by a whole one and has two points.

Nothing depends on how long the units are: so many units back lies the bucket whose number is
smaller by as many (`PeriodUnit.index_of_before?`), also from the last day of a month into a shorter
one.  The exception is an hour that a leap second ends.  Going back, the leap second is taken for
the second after it, and so one hour fewer is left behind.
-/

namespace SiteAnalytics

open Calendar DateTime

/-- The reading lies within a leap second that ends an hour. -/
def DateTime.ClosesHour (t : DateTime) : Prop := t.inLeapSecond = true ∧ t.second % 3600 = 3599

instance (t : DateTime) : Decidable t.ClosesHour := inferInstanceAs (Decidable (_ ∧ _))

theorem DateTime.closesHour_truncate (t : DateTime) : t.truncate.ClosesHour ↔ t.ClosesHour := by
  unfold ClosesHour inLeapSecond truncate nanosPerSecond
  simp only [decide_eq_true_eq]
  omega

namespace PeriodUnit

/-- So many hours back, the leap second at the end of an hour counts for the hour that follows. -/
theorem index_of_addSeconds?_neg {t u : DateTime} (ht : t.IsWhole) {n : Nat} (hn : 0 < n)
    (h : t.addSeconds? (-(3600 * n : Nat)) = some u) :
    Bucket.hour.index u = Bucket.hour.index t - n + if t.ClosesHour then 1 else 0 := by
  rw [addSeconds?_neg ht (by omega)] at h
  obtain rfl := eq_of_checked h
  unfold ClosesHour inLeapSecond
  unfold IsWhole at ht
  simp only [Bucket.index, ofSecond_second, decide_eq_true_eq]
  unfold nanosPerSecond at *
  split_ifs <;> omega

/-- So many units of a bucket before a time lies the bucket whose number is smaller by as many. -/
theorem index_of_before? {b : Bucket} (hb : b ≠ .minute) {t u : DateTime} (ht : t.IsWhole) {n : Nat}
    (hn : 0 < n) (h : (ofBucket b).before? t n = some u) :
    b.index u = b.index t - n + if b = .hour ∧ t.ClosesHour then 1 else 0 := by
  cases b with
  | minute => contradiction
  | hour => simpa using index_of_addSeconds?_neg ht hn h
  | day =>
    obtain ⟨rfl, -⟩ := of_addDays?_neg h
    rw [if_neg (by simp), add_zero]
    exact day_onDay t _
  | month =>
    obtain ⟨d, rfl, hindex, -⟩ := of_addMonths?_neg h
    rw [if_neg (by simp), add_zero]
    show monthIndex (t.onDay d).day = _
    rw [day_onDay, hindex]
    rfl
  | year =>
    obtain ⟨d, rfl, hindex, -⟩ := of_addMonths?_neg h
    have hdiv := monthIndex_div d
    have hdiv' := monthIndex_div t.day
    rw [if_neg (by simp), add_zero]
    show yearOf (t.onDay d).day = yearOf t.day - n
    rw [day_onDay]
    omega

end PeriodUnit

namespace Timeframe

variable {zone : Zone} {q : Timeframe} {now : DateTime} {w : Window}

/-- The reading from which a period is counted back, with the fraction it was taken without. -/
theorem exists_utcToLocal?_of_localNow (hzone : zone.Sound) (hnow : now.inCalendar = true)
    {nowLocal : DateTime} (h : localNow zone now.truncate = .ok nowLocal) :
    ∃ wall, zone.utcToLocal? now = some wall ∧ nowLocal = wall.truncate := by
  obtain ⟨hcal, hsecond, hnano⟩ := localNow_eq_ok hzone
    (show now.truncate.inCalendar = true from hnow) h
  refine ⟨⟨zone.clock.reading now.second, now.nano⟩, ?_, ?_⟩
  · refine Clock.utcToLocal?_eq_some_iff.mpr ⟨?_, rfl, rfl⟩
    rw [inCalendar_iff] at hcal ⊢
    rwa [hsecond] at hcal
  · cases nowLocal
    dsimp only at hsecond hnano
    rw [hsecond, hnano]
    rfl

/-- Whole buckets back from now reach from the bucket that lies so many before it. -/
theorem index_of_wholeBuckets {b : Bucket} (hb : b ≠ .minute) {t start stop : DateTime}
    (ht : t.IsWhole) {n : Nat} (hn : 0 < n)
    (h : wholeBuckets b ((PeriodUnit.ofBucket b).before? t n) t = .ok (start, stop)) :
    b.index start = b.index t - n + (if b = .hour ∧ t.ClosesHour then 1 else 0) ∧
      b.index stop = b.index t := by
  obtain ⟨u, hu, rfl, hlast⟩ := wholeBuckets_eq_ok_iff.mp h
  rw [b.index_startOf, PeriodUnit.index_of_before? hb ht hn hu]
  exact ⟨rfl, Bucket.index_of_endOf? hlast⟩

/-- **Charts of so many units.** A window of so many hours, days, months or years that is cut into
the same unit has an axis.  The last point is the bucket of now on the wall clock, and there are as
many points as units, or two for a single one.  Hours from within a leap second that ends an hour
are one point fewer. -/
theorem resolveIn_points_of_isPeriod (hzone : zone.Sound) (hsettles : zone.clock.Settles)
    (hnow : now.Valid) {b : Bucket} (hb : b ≠ .minute) (hbucket : q.bucket = some b) {n : Nat}
    (hperiod : q.IsPeriod (.relative n (PeriodUnit.ofBucket b)))
    (h : q.resolveIn zone now = .ok w) :
    ∃ wall axis, zone.utcToLocal? now = some wall ∧ Axis.ofWindow? w = some axis ∧
      axis.labels.getLast? = some (b.label (b.startOf wall)) ∧
      axis.size + (if b = .hour ∧ wall.ClosesHour then 1 else 0) = if n = 1 then 2 else n := by
  have hreadable := readable_of_resolveIn hzone hnow h
  obtain ⟨axis, haxis⟩ := exists_axis_of_resolveIn hzone hsettles hnow h
  obtain ⟨-, raw, -, hparse⟩ := id hperiod
  have hn := Period.amount_pos_of_parse hparse
  rw [resolveIn_of_isPeriod hperiod] at h
  obtain ⟨nowLocal, hlocal, hsame, -, hbounds, -⟩ := resolvePeriod_eq_ok_iff.mp h
  obtain rfl : w.bucket = b := by rw [hsame, hbucket, bucketFor]
  obtain ⟨wall, hwall, rfl⟩ := exists_utcToLocal?_of_localNow hzone hnow.inCalendar hlocal
  have hnano := (Clock.utcToLocal?_eq_some_iff.mp hwall).2.2
  have hwhole : wall.truncate.IsWhole := isWhole_truncate (hnano ▸ hnow.nano_lt)
  -- it goes back by a unit less, so that the bucket of now is one of those asked for
  have hback : 0 < if n = 1 then n else n - 1 := by split_ifs <;> omega
  obtain ⟨hfirst, hlast⟩ := index_of_wholeBuckets hb hwhole hback hbounds
  -- now was taken without its fraction, and that changes neither its bucket nor its leap second
  simp only [closesHour_truncate, w.bucket.index_eq_of_second_eq wall.truncate_second]
    at hfirst hlast
  have hle : w.bucket.index w.localStart ≤ w.bucket.index w.localStop := by
    rw [hfirst, hlast]
    split_ifs <;> omega
  obtain ⟨hsize, -, hlabel⟩ := Axis.labels_ends hreadable.localStart_inCalendar
    hreadable.localStop_inCalendar hle haxis
  refine ⟨wall, axis, hwall, haxis, ?_, ?_⟩
  · rw [hlabel, w.bucket.startOf_eq, hlast, ← w.bucket.startOf_eq]
  · rw [hfirst, hlast] at hsize
    split_ifs at hsize ⊢ <;> omega

/-- Two months back on 31 March: February comes into the window although it has no such day. -/
theorem resolveIn_points_of_isPeriod_february :
    let zone := Zone.parse (some "Europe/Kyiv")
    let q : Timeframe := ⟨none, none, some "2M", some "Europe/Kyiv", some .month, none⟩
    let now := ofSecond 1711886400
    ∃ w, zone.Sound ∧ zone.clock.Settles ∧ now.Valid ∧ q.IsPeriod (.relative 2 .month) ∧
      q.resolveIn zone now = .ok w ∧ ∃ axis, Axis.ofWindow? w = some axis ∧
        axis.labels.getLast? = some "2024-03" ∧ axis.size = 2 := by
  intro zone q now
  have hzone : zone.Sound := Zone.sound_parse _ _
  have hsettles : zone.clock.Settles := Zone.settles_parse _ _
  have hnow : now.Valid := valid_ofSecond (by decide +kernel)
  have hperiod : q.IsPeriod (.relative 2 .month) := ⟨.inl rfl, "2M", rfl, by decide +kernel⟩
  have h : q.resolveIn zone now = .ok ⟨ofSecond 1706745600, ofSecond 1711929599,
      ofSecond 1706738400, ofSecond 1711918799, .month, zone⟩ := by decide +kernel
  obtain ⟨wall, axis, hwall, haxis, hlast, hsize⟩ :=
    resolveIn_points_of_isPeriod hzone hsettles hnow (by decide) rfl hperiod h
  have hshown : zone.utcToLocal? now = some (ofSecond 1711897200) := by decide +kernel
  obtain rfl := Option.some.inj (hshown.symm.trans hwall)
  refine ⟨_, hzone, hsettles, hnow, hperiod, h, axis, haxis, ?_, ?_⟩
  · rw [hlast]
    decide +kernel
  · simpa using hsize

/-- Seven hours back from within the leap second at the end of 2016 are six hours before midnight,
and the chart shows six. -/
theorem resolve_points_leapSecond :
    let q : Timeframe := ⟨none, none, some "7h", some "UTC", some .hour, none⟩
    let now : DateTime := ⟨1483228799, nanosPerSecond⟩
    q.IsPeriod (.relative 7 .hour) ∧ now.Valid ∧ ∃ w axis, q.resolve now = .ok w ∧
      Axis.ofWindow? w = some axis ∧ axis.size = 6 := by
  intro q now
  let w := Window.ofUtc (Zone.parse (some "UTC")) .hour (ofSecond 1483207200) (ofSecond 1483228799)
  have h : q.resolve now = .ok w := by decide +kernel
  have hcount : (Axis.ofWindow? w).map (·.size) = some 6 := by decide +kernel
  obtain ⟨axis, haxis, hsize⟩ := Option.map_eq_some_iff.mp hcount
  exact ⟨⟨.inl rfl, "7h", rfl, by decide +kernel⟩, ⟨by decide +kernel, by decide⟩, w, axis, h,
    haxis, hsize⟩

end Timeframe

end SiteAnalytics
