import SiteAnalytics.Proofs.Period.Reach
import SiteAnalytics.Proofs.Window.Resolution

/-!
# The bounds of a period

The bounds of a period are laid out on the wall clock.  They are readings of the calendar, the first
one is the beginning of a second, and the last one is now or the last second of some bucket, at a
time of day that is not before that of now (`laidOut_of_localBounds`).

That is why counting from now leads to the last one (`stopInstant_eq`): no leap second gets in the
way, since at most the one of now lies between.
-/

namespace SiteAnalytics

open Calendar DateTime

/-- A window that is laid out from now ends at now, or with a second whose time of day is not before
that of now. -/
def DateTime.Follows (now stop : DateTime) : Prop :=
  stop = now ∨ ∃ s, stop = ofSecond s ∧ now.secondOfDay ≤ (ofSecond s).secondOfDay

namespace Bucket

/-- The last second of a bucket has the latest time of day in it. -/
theorem secondOfDay_le (b : Bucket) (t : DateTime) :
    t.secondOfDay ≤ (ofSecond (b.firstSecond (b.index t + 1) - 1)).secondOfDay := by
  have ht := secondOfDay_eq t
  have hlast := secondOfDay_eq (ofSecond (b.firstSecond (b.index t + 1) - 1))
  cases b with
  | minute => simp only [firstSecond, index, ofSecond_second] at *; omega
  | hour => simp only [firstSecond, index, ofSecond_second] at *; omega
  | _ => simp only [firstSecond, secondsPerDay, ofSecond_second] at *; omega

theorem follows_of_endOf? {b : Bucket} {now stop : DateTime} (h : b.endOf? now = some stop) :
    now.Follows stop := by
  rw [endOf?_eq] at h
  split_ifs at h
  exact .inr ⟨_, (Option.some.inj h).symm, b.secondOfDay_le now⟩

end Bucket

/-- The window whose bounds read the same on the wall clock and in UTC. -/
def Window.ofUtc (zone : Zone) (bucket : Bucket) (start stop : DateTime) : Window :=
  { localStart := start, localStop := stop, utcStart := start, utcStop := stop, bucket, zone }

namespace Timeframe

/-! ### Whole buckets -/

/-- Whole buckets reach from the first second of one to the last second of another. -/
theorem wholeBuckets_eq {b : Bucket} {u now : DateTime}
    (h : (ofSecond (b.firstSecond (b.index now + 1))).inCalendar = true) :
    wholeBuckets b (some u) now =
      .ok (ofSecond (b.firstSecond (b.index u)),
        ofSecond (b.firstSecond (b.index now + 1) - 1)) := by
  rw [wholeBuckets, Bucket.endOf?_eq, if_pos h]
  show Except.ok (b.startOf u, _) = _
  rw [Bucket.startOf_eq]

theorem wholeBuckets_eq_ok_iff {b : Bucket} {first : Option DateTime} {now start stop : DateTime} :
    wholeBuckets b first now = .ok (start, stop) ↔
      ∃ u, first = some u ∧ start = b.startOf u ∧ b.endOf? now = some stop := by
  simp only [wholeBuckets, bind_eq_ok_iff, orInvalid_eq_ok_iff, pure_eq_ok_iff]
  constructor
  · rintro ⟨u, hu, last, hlast, ⟨⟩⟩
    exact ⟨u, hu, rfl, hlast⟩
  · rintro ⟨u, hu, rfl, hlast⟩
    exact ⟨u, hu, stop, hlast, rfl⟩

/-! ### Each period -/

/-- How the bounds of each period are laid out from now. -/
theorem localBounds_cases {period : Period} {b : Bucket} {count : Option Int}
    {now start stop : DateTime} (h : localBounds period b count now = .ok (start, stop)) :
    (period = .today ∧ start = now.midnight ∧ stop = now) ∨
    (period = .yesterday ∧ ∃ day, now.addDays? (-1) = some day ∧ start = day.midnight ∧
      Bucket.day.endOf? day = some stop) ∨
    (period = .all ∧ (∀ n ∈ count, n ≤ 1) ∧ now.addSeconds? (-86400) = some start ∧ stop = now) ∨
    (∃ n, period = .all ∧ count = some n ∧ 1 < n ∧
      wholeBuckets b ((PeriodUnit.ofBucket b).before? now (n - 1).toNat) now =
        .ok (start, stop)) ∨
    (∃ amount unit, period = .relative amount unit ∧
      wholeBuckets b (unit.before? now (if amount = 1 then amount else amount - 1)) now =
        .ok (start, stop)) := by
  have hlastDay (h : localBounds.lastDay now = .ok (start, stop)) :
      now.addSeconds? (-86400) = some start ∧ stop = now := by
    simp only [localBounds.lastDay, bind_eq_ok_iff, inCalendar_eq_ok_iff, pure_eq_ok_iff] at h
    obtain ⟨t, ht, ⟨⟩⟩ := h
    exact ⟨ht, rfl⟩
  cases period with
  | today =>
    obtain ⟨rfl, rfl⟩ := Prod.mk.inj (Except.ok.inj h)
    exact .inl ⟨rfl, rfl, rfl⟩
  | yesterday =>
    simp only [localBounds, bind_eq_ok_iff, orInvalid_eq_ok_iff, pure_eq_ok_iff] at h
    obtain ⟨day, hday, last, hlast, ⟨⟩⟩ := h
    exact .inr (.inl ⟨rfl, day, hday, rfl, hlast⟩)
  | all =>
    cases count with
    | none =>
      obtain ⟨hstart, hstop⟩ := hlastDay h
      exact .inr (.inr (.inl ⟨rfl, by simp, hstart, hstop⟩))
    | some n =>
      simp only [localBounds] at h
      split_ifs at h with hcount hmany
      · exact .inr (.inr (.inr (.inl ⟨n, rfl, rfl, hcount, h⟩)))
      · obtain ⟨hstart, hstop⟩ := hlastDay h
        exact .inr (.inr (.inl ⟨rfl, by simpa using hcount, hstart, hstop⟩))
  | relative amount unit => exact .inr (.inr (.inr (.inr ⟨amount, unit, rfl, h⟩)))

/-! ### All periods -/

/-- What the bounds of a period are like, whatever the period. -/
structure LaidOut (now start stop : DateTime) : Prop where
  start_nano : start.nano = 0
  start_inCalendar : start.inCalendar = true
  stop_inCalendar : stop.inCalendar = true
  follows : now.Follows stop

theorem laidOut_of_wholeBuckets {b : Bucket} {first : Option DateTime} {now start stop : DateTime}
    (hfirst : ∀ t ∈ first, t.inCalendar = true) (hnow : now.inCalendar = true)
    (h : wholeBuckets b first now = .ok (start, stop)) : LaidOut now start stop := by
  obtain ⟨t, ht, rfl, hlast⟩ := wholeBuckets_eq_ok_iff.mp h
  exact ⟨b.startOf_nano t, Bucket.inCalendar_startOf (hfirst t ht),
    Bucket.inCalendar_of_endOf? hnow hlast, Bucket.follows_of_endOf? hlast⟩

theorem laidOut_lastDay {now start : DateTime} (hwhole : now.IsWhole) (hnow : now.inCalendar = true)
    (h : now.addSeconds? (-86400) = some start) : LaidOut now start now := by
  have hback := addSeconds?_neg hwhole (show 0 < 86400 by decide)
  have hsome := hback.symm.trans h
  have hcal := inCalendar_of_checked hsome
  obtain rfl := eq_of_checked hsome
  exact ⟨rfl, hcal, hnow, .inl rfl⟩

theorem laidOut_today {now : DateTime} (hnow : now.inCalendar = true) :
    LaidOut now now.midnight now :=
  ⟨rfl, Bucket.inCalendar_startOf (b := .day) hnow, hnow, .inl rfl⟩

theorem laidOut_yesterday {now day stop : DateTime} (hday : now.addDays? (-1) = some day)
    (hstop : Bucket.day.endOf? day = some stop) : LaidOut now day.midnight stop := by
  have hday' := (of_addDays?_neg (n := 1) hday).2
  refine ⟨rfl, Bucket.inCalendar_startOf (b := .day) hday',
    Bucket.inCalendar_of_endOf? hday' hstop, ?_⟩
  -- a day ends at the latest time of day there is
  rw [Bucket.endOf?_eq] at hstop
  split_ifs at hstop
  refine .inr ⟨_, (Option.some.inj hstop).symm, ?_⟩
  have hlast := secondOfDay_eq (ofSecond (Bucket.day.firstSecond (Bucket.day.index day + 1) - 1))
  have hnow := secondOfDay_eq now
  simp only [Bucket.firstSecond, secondsPerDay, ofSecond_second] at *
  omega

theorem laidOut_of_localBounds {period : Period} {b : Bucket} {count : Option Int}
    {now start stop : DateTime} (hwhole : now.IsWhole) (hnow : now.inCalendar = true)
    (h : localBounds period b count now = .ok (start, stop)) : LaidOut now start stop := by
  obtain ⟨-, rfl, rfl⟩ | ⟨-, day, hday, rfl, hlast⟩ | ⟨-, -, hstart, rfl⟩ | ⟨n, -, -, -, h⟩ |
    ⟨amount, unit, -, h⟩ := localBounds_cases h
  · exact laidOut_today hnow
  · exact laidOut_yesterday hday hlast
  · exact laidOut_lastDay hwhole hnow hstart
  · exact laidOut_of_wholeBuckets (fun _ ht => PeriodUnit.inCalendar_of_before? ht) hnow h
  · exact laidOut_of_wholeBuckets (fun _ ht => PeriodUnit.inCalendar_of_before? ht) hnow h

/-! ### The end of a period -/

/-- The end of a window is less than an hour ahead of now. -/
def Near (now stop : DateTime) : Prop :=
  0 ≤ stop.diff now ∧ stop.diff now < 3600 * (nanosPerSecond : Int)

instance (now stop : DateTime) : Decidable (Near now stop) :=
  inferInstanceAs (Decidable (0 ≤ stop.diff now ∧ stop.diff now < 3600 * (nanosPerSecond : Int)))

/-- A near end is as far ahead of now in UTC as it is on the wall clock. -/
theorem shift_diff_of_follows {nowUtc nowLocal stop : DateTime} (hwhole : nowLocal.IsWhole)
    (hnano : nowUtc.nano = nowLocal.nano) (hstop : nowLocal.Follows stop)
    (hnear : Near nowLocal stop) : nowUtc.shift (stop.diff nowLocal) =
      ⟨nowUtc.second + (stop.second - nowLocal.second), stop.nano⟩ := by
  rcases hstop with rfl | ⟨s, rfl, hs⟩
  · rw [diff_self, shift_zero (by rw [IsWhole, hnano]; exact hwhole), sub_self, add_zero, ← hnano]
  · exact shift_diff hwhole hnano hs hnear.1 hnear.2

theorem stopInstant_eq {zone : Zone} {nowUtc nowLocal stop : DateTime}
    (hwhole : nowLocal.IsWhole) (hnano : nowUtc.nano = nowLocal.nano)
    (hstop : nowLocal.Follows stop) : stopInstant zone nowUtc nowLocal stop =
      if Near nowLocal stop then
        inCalendar (DateTime.checked
          ⟨nowUtc.second + (stop.second - nowLocal.second), stop.nano⟩)
      else toUtc zone stop := by
  rw [stopInstant]
  by_cases hnear : Near nowLocal stop
  · have hahead := hnear
    unfold Near at hahead
    rw [if_pos hnear, if_pos (by simpa using hahead), add?,
      shift_diff_of_follows hwhole hnano hstop hnear]
  · have hahead := hnear
    unfold Near at hahead
    rw [if_neg hnear, if_neg (by simpa using hahead)]

/-! ### UTC zones -/

/-- In a UTC zone the end of a period is the same in UTC as on the wall clock. -/
theorem stopInstant_utc {zone : Zone} (hzone : zone.isUtc = true) {now stop : DateTime}
    (hwhole : now.IsWhole) (hfollows : now.Follows stop) (hstop : stop.inCalendar = true) :
    stopInstant zone now now stop = .ok stop := by
  rw [stopInstant_eq hwhole rfl hfollows, add_sub_cancel, checked_eq_some hstop, toUtc,
    if_pos hzone]
  split_ifs <;> rfl

/-- In a UTC zone a period resolves to its bounds, if its bucket fits them. -/
theorem resolvePeriod_of_localBounds {zone : Zone} (hzone : zone.isUtc = true)
    {bucket : Option Bucket} {count : Option Int} {period : Period} {now start stop : DateTime}
    (hnow : now.Valid)
    (h : localBounds period (bucketFor bucket period count now.truncate) count now.truncate =
      .ok (start, stop)) : resolvePeriod zone bucket count period now =
      (checked ((bucketFor bucket period count now.truncate).check start stop)).map fun _ =>
        Window.ofUtc zone (bucketFor bucket period count now.truncate) start stop := by
  have hwhole := isWhole_truncate hnow.nano_lt
  have hlaid := laidOut_of_localBounds hwhole hnow.inCalendar h
  have hlocal : localNow zone now.truncate = .ok now.truncate := by rw [localNow, if_pos hzone]
  rw [resolvePeriod_eq, hlocal]
  simp only [bind, Except.bind, h, stopInstant_utc hzone hwhole hlaid.follows hlaid.stop_inCalendar,
    toUtc, hzone, if_true]
  cases checked ((bucketFor bucket period count now.truncate).check start stop) with
  | error e => rfl
  | ok _ => rfl

end Timeframe

end SiteAnalytics
