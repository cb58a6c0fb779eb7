import SiteAnalytics.Proofs.Axis.Points
import SiteAnalytics.Proofs.Window.Legal
import SiteAnalytics.Proofs.Window.OnChart

/-!
# Windows in UTC zones

In a zone that shows UTC both readings of a bound are the same, whichever way the window was
resolved (`readsUtc_of_resolveIn`), and a window never stops before it starts
(`le_of_resolveIn`).
-/

namespace SiteAnalytics

open Calendar DateTime

namespace PeriodUnit

/-- Units back lead to no later second. -/
theorem second_le_of_before? {unit : PeriodUnit} {t u : DateTime} {n : Nat} (ht : t.IsWhole)
    (h : unit.before? t n = some u) : u.second ≤ t.second := by
  have hdays {m : Nat} (h : t.addDays? (-(m : Int)) = some u) : u.second ≤ t.second := by
    rw [(of_addDays?_neg h).1]
    unfold onDay DateTime.day secondsPerDay
    dsimp only
    omega
  have hmonths {m : Nat} (h : t.addMonths? (-(m : Int)) = some u) : u.second ≤ t.second := by
    obtain ⟨d, rfl, -, hday, -⟩ := apart_of_addMonths?_neg h
    unfold onDay DateTime.day secondsPerDay at *
    dsimp only
    omega
  cases unit with
  | hour =>
    simp only [before?] at h
    rcases Nat.eq_zero_or_pos n with rfl | hn
    · rw [addSeconds?, add?] at h
      simp only [mul_zero, Nat.cast_zero, neg_zero, zero_mul, shift_zero ht] at h
      rw [eq_of_checked h]
    · rw [addSeconds?_neg ht (by omega)] at h
      rw [← eq_of_checked h, ofSecond_second]
      unfold IsWhole nanosPerSecond at *
      omega
  | day => exact hdays h
  | week => exact hdays h
  | month => exact hmonths h
  | year => exact hmonths h

end PeriodUnit

namespace Timeframe

variable {zone : Zone} {q : Timeframe} {now : DateTime} {w : Window}

/-! ### Order -/

theorem le_of_wholeBuckets {b : Bucket} {first : Option DateTime} {now start stop : DateTime}
    (hfirst : ∀ t ∈ first, t.second ≤ now.second)
    (h : wholeBuckets b first now = .ok (start, stop)) : start ≤ stop := by
  obtain ⟨t, ht, rfl, hlast⟩ := wholeBuckets_eq_ok_iff.mp h
  rw [Bucket.endOf?_eq] at hlast
  split_ifs at hlast
  have hlt := firstSecond_lt_of_le (b := b) (hfirst t ht)
  rw [← Option.some.inj hlast, Bucket.startOf_eq, ofSecond_le_iff, ofSecond_second]
  exact hlt.le

/-- The bounds of a period are laid out in order. -/
theorem le_of_localBounds {period : Period} {b : Bucket} {count : Option Int}
    {now start stop : DateTime} (hwhole : now.IsWhole)
    (h : localBounds period b count now = .ok (start, stop)) : start ≤ stop := by
  have hmidnight (t : DateTime) : t.midnight ≤ t := ofSecond_le_iff.mpr (by
    unfold DateTime.day secondsPerDay
    omega)
  obtain ⟨-, rfl, rfl⟩ | ⟨-, day, -, rfl, hlast⟩ | ⟨-, -, hstart, rfl⟩ | ⟨n, -, -, -, h⟩ |
    ⟨amount, unit, -, h⟩ := localBounds_cases h
  · exact hmidnight _
  · have hbuckets : wholeBuckets .day (some day) day = .ok (day.midnight, stop) :=
      wholeBuckets_eq_ok_iff.mpr ⟨day, rfl, rfl, hlast⟩
    exact le_of_wholeBuckets (by simp) hbuckets
  · have hback := addSeconds?_neg hwhole (show 0 < 86400 by decide)
    rw [← eq_of_checked (hback.symm.trans hstart), ofSecond_le_iff]
    unfold IsWhole nanosPerSecond at *
    omega
  · exact le_of_wholeBuckets (fun _ ht => PeriodUnit.second_le_of_before? hwhole ht) h
  · exact le_of_wholeBuckets (fun _ ht => PeriodUnit.second_le_of_before? hwhole ht) h

/-! ### Both readings -/

/-- In a UTC zone the bounds of a window read the same on the wall clock and in UTC. -/
theorem readsUtc_of_resolveIn (hzone : zone.Sound) (hutc : zone.isUtc = true) (hnow : now.Valid)
    (h : q.resolveIn zone now = .ok w) :
    w.localStart = w.utcStart ∧ w.localStop = w.utcStop := by
  have hclock := hzone.utc hutc
  have htoLocal {t u : DateTime} (h : zone.utcToLocal? t = some u) : u = t := by
    rw [Zone.utcToLocal?, hclock, Clock.utcToLocal?_utc] at h
    exact (eq_of_checked h).symm
  have htoUtc {t u : DateTime} (ht : t.inCalendar = true) (h : zone.localToUtc? t = some u) :
      t = u := by
    rw [Zone.localToUtc?, hclock, Clock.localToUtc?_utc ht] at h
    exact Option.some.inj h
  obtain ⟨start, stop, ⟨_, _, -, -, hstart, -⟩, -, -, h⟩ | ⟨_, -, h⟩ := resolveIn_eq_ok_iff.mp h
  · split_ifs at h
    · have hday := (DateInput.valid_of_read? hstart).inCalendar
      obtain ⟨_, _, -, -, hstartCal, hstopCal, -, hutcStart, hutcStop⟩ :=
        bounds_of_resolveDay hday h
      exact ⟨htoUtc hstartCal hutcStart, htoUtc hstopCal hutcStop⟩
    · obtain ⟨-, -, -, -, hlocalStart, hlocalStop⟩ := resolvePair_eq_ok_iff.mp h
      exact ⟨htoLocal hlocalStart, htoLocal hlocalStop⟩
  · obtain ⟨nowLocal, hlocal, -, -, hbounds, hstop, hstart, -⟩ := resolvePeriod_eq_ok_iff.mp h
    rw [localNow, if_pos hutc] at hlocal
    obtain rfl := Except.ok.inj hlocal
    have hwhole := isWhole_truncate hnow.nano_lt
    have hlaid := laidOut_of_localBounds hwhole hnow.inCalendar hbounds
    rw [stopInstant_utc hutc hwhole hlaid.follows hlaid.stop_inCalendar] at hstop
    rw [toUtc, if_pos hutc] at hstart
    exact ⟨Except.ok.inj hstart, Except.ok.inj hstop⟩

/-- In a UTC zone no window stops before it starts. -/
theorem le_of_resolveIn (hzone : zone.Sound) (hutc : zone.isUtc = true) (hnow : now.Valid)
    (h : q.resolveIn zone now = .ok w) : w.utcStart ≤ w.utcStop := by
  obtain ⟨hstart, hstop⟩ := readsUtc_of_resolveIn hzone hutc hnow h
  obtain ⟨start, stop, -, hle, -, h⟩ | ⟨_, -, h⟩ := resolveIn_eq_ok_iff.mp h
  · split_ifs at h
    · obtain ⟨-, -, hmidnight, hend, -, -⟩ := resolveDay_eq_ok_iff.mp h
      rw [← hstart, ← hstop]
      have hbuckets : wholeBuckets .day (some start) start = .ok (w.localStart, w.localStop) := by
        refine wholeBuckets_eq_ok_iff.mpr ⟨start, rfl, hmidnight, ?_⟩
        rw [← hend, hmidnight]
        exact (Bucket.day.endOf?_startOf start).symm
      exact le_of_wholeBuckets (by simp) hbuckets
    · obtain ⟨hfirst, hlast, -⟩ := bounds_of_resolvePair h
      rw [hfirst, hlast, ofSecond_le_iff, ofSecond_second]
      rw [lt_iff] at hle
      exact (firstSecond_lt_of_le (by omega)).le
  · obtain ⟨nowLocal, hlocal, -, -, hbounds, -⟩ := resolvePeriod_eq_ok_iff.mp h
    rw [localNow, if_pos hutc] at hlocal
    obtain rfl := Except.ok.inj hlocal
    rw [← hstart, ← hstop]
    exact le_of_localBounds (isWhole_truncate hnow.nano_lt) hbounds

end Timeframe

end SiteAnalytics
