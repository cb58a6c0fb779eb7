import SiteAnalytics.Proofs.Axis.Points
import SiteAnalytics.Proofs.Window.OnChart
import SiteAnalytics.Proofs.Zone.Settled

/-!
# Every window has an axis

The points of an axis lie on the wall clock, and each needs a label in UTC.  Such a label is
missing only for a reading in the last hour of the calendar that is not shown.  A window that can be
resolved does not have such points: either it stops before that hour, or the clock gets as far as
its stop within the calendar (`reaches_of_resolveIn`), and then it also shows every point before
(`Clock.isSome_localToUtc?_of_reaches`).
-/

namespace SiteAnalytics

open Calendar DateTime

/-! ### Readings that are reached -/

namespace Clock

/-- A reading lies before the last hour of the calendar, or the clock gets as far within the
calendar. -/
def Reaches (c : Clock) (s : Int) : Prop :=
  s + 3600 < calendarStop ∨ ∃ u : DateTime, u.inCalendar = true ∧ s ≤ c.reading u.second

variable {c : Clock}

/-- What comes before a reading that is reached has an instant in UTC. -/
theorem isSome_localToUtc?_of_reaches (hordered : c.Ordered) (hsettles : c.Settles) {s stop : Int}
    (hs : (ofSecond s).inCalendar = true) (hle : s ≤ stop) (hreached : c.Reaches stop) :
    (c.localToUtc? (ofSecond s)).isSome := by
  have hcal := inCalendar_iff.mp hs
  rw [ofSecond_second] at hcal
  by_cases hearly : s + 3600 < calendarStop
  · refine Axis.isSome_localToUtc? c ?_
    rw [isSome_addSeconds?_ofSecond_iff]
    omega
  · obtain hstop | ⟨u, hu, hreached⟩ := hreached
    · exact absurd hstop (by omega)
    · obtain ⟨t, ht⟩ := Option.isSome_iff_exists.mp
        (isSome_firstInstant? hordered hsettles (by omega) hu (le_trans hle hreached))
      rw [localToUtc?, ht]
      rfl

/-- A reading that has an instant in UTC is reached. -/
theorem reaches_of_localToUtc? (hordered : c.Ordered) {s : Int} {utc : DateTime}
    (hs : (ofSecond s).inCalendar = true) (h : c.localToUtc? (ofSecond s) = some utc) :
    c.Reaches s := by
  obtain hshown | ⟨-, hlater, -⟩ := localToUtc?_cases h
  · refine .inr ⟨utc, ?_, (reading_of_firstInstant? hordered hs hshown).1.ge⟩
    rw [firstInstant?] at hshown
    split at hshown
    · contradiction
    · exact inCalendar_of_checked hshown
  · exact .inl (inCalendar_iff.mp hlater).2

end Clock

/-! ### Windows -/

namespace Timeframe

variable {zone : Zone} {q : Timeframe} {now : DateTime} {w : Window}

theorem second_bounds_of_near {now stop : DateTime} (hnow : now.nano < 2 * nanosPerSecond)
    (hstop : stop.nano < 2 * nanosPerSecond) (h : Near now stop) :
    stop.second < now.second + 3603 ∧ now.second < stop.second + 3 := by
  obtain ⟨hlo, hhi⟩ := diff_bounds hstop hnow
  unfold Near nanosPerSecond at *
  omega

/-- An end that is counted from now is reached, since at the end of the calendar the clock is not
changed any more. -/
theorem reaches_of_near (hsettles : zone.clock.Settles) {nowLocal stop utcStop : DateTime}
    (hnano : nowLocal.nano < 2 * nanosPerSecond) (hstopNano : stop.nano < 2 * nanosPerSecond)
    (hlocal : nowLocal.second = zone.clock.reading now.second) (hnear : Near nowLocal stop)
    (h : DateTime.checked ⟨now.second + (stop.second - nowLocal.second), stop.nano⟩ =
      some utcStop) : zone.clock.Reaches stop.second := by
  by_cases hearly : stop.second + 3600 < calendarStop
  · exact .inl hearly
  · refine .inr ⟨utcStop, inCalendar_of_checked h, ?_⟩
    have hstop : Clock.lastChange + 2 * 86400 + 3600 < calendarStop := by decide
    have hday := hsettles.le_day now.second
    have hbounds := second_bounds_of_near hnano hstopNano hnear
    rw [← eq_of_checked h]
    rw [Clock.reading] at hlocal ⊢
    dsimp only
    rw [hsettles.settled _ now.second (by omega) (by omega)]
    omega

theorem reaches_of_resolvePeriod (hzone : zone.Sound) (hsettles : zone.clock.Settles)
    {bucket : Option Bucket} {count : Option Int} {period : Period} (hutc : zone.isUtc = false)
    (hnow : now.Valid) (h : resolvePeriod zone bucket count period now = .ok w) :
    zone.clock.Reaches w.localStop.second := by
  obtain ⟨nowLocal, -, hwhole, hsecond, -, hlaid, -, hstop⟩ := laidOut_of_resolvePeriod hzone hnow h
  split_ifs at hstop with hnear
  · have hnano := hwhole.nano_lt
    refine reaches_of_near hsettles hnano ?_ hsecond hnear hstop
    obtain hsame | ⟨e, he, -⟩ := hlaid.follows
    · rwa [hsame]
    · rw [he, ofSecond_nano]
      decide
  · obtain ⟨he, hstop⟩ := hstop
    have hstopCal := hlaid.stop_inCalendar
    rw [toUtc, if_neg (by simp [hutc]), inCalendar_eq_ok_iff] at hstop
    rw [he] at hstop hstopCal
    exact Clock.reaches_of_localToUtc? hzone.ordered hstopCal hstop

/-- The clock gets as far as the stop of every window. -/
theorem reaches_of_resolveIn (hzone : zone.Sound) (hsettles : zone.clock.Settles)
    (hutc : zone.isUtc = false) (hnow : now.Valid) (h : q.resolveIn zone now = .ok w) :
    zone.clock.Reaches w.localStop.second := by
  obtain ⟨start, stop, ⟨_, _, -, -, hstart, hstop⟩, -, -, h⟩ | ⟨_, -, h⟩ :=
    resolveIn_eq_ok_iff.mp h
  · split_ifs at h
    · obtain ⟨s, e, -, he, -, hstopCal, -, -, hutcStop⟩ :=
        bounds_of_resolveDay (DateInput.valid_of_read? hstart).inCalendar h
      rw [he] at hstopCal hutcStop ⊢
      exact Clock.reaches_of_localToUtc? hzone.ordered hstopCal hutcStop
    · obtain ⟨-, -, -, hend, -, hlocalStop⟩ := resolvePair_eq_ok_iff.mp h
      refine .inr ⟨w.utcStop, ?_, (Clock.utcToLocal?_eq_some_iff.mp hlocalStop).2.1.le⟩
      exact Bucket.inCalendar_of_endOf? (DateInput.valid_of_read? hstop).inCalendar hend
  · exact reaches_of_resolvePeriod hzone hsettles hutc hnow h

/-- Every window that can be resolved has an axis. -/
theorem exists_axis_of_resolveIn (hzone : zone.Sound) (hsettles : zone.clock.Settles)
    (hnow : now.Valid) (h : q.resolveIn zone now = .ok w) :
    ∃ axis, Axis.ofWindow? w = some axis := by
  have hreadable := readable_of_resolveIn hzone hnow h
  have hw := zone_of_resolveIn h
  have hlabels : ∀ t ∈ Axis.points w.bucket w.localStart w.localStop,
      (Axis.utcLabel? w.bucket w.zone t).isSome := by
    intro t ht
    rw [Axis.mem_points_iff hreadable.localStart_inCalendar hreadable.localStop_inCalendar] at ht
    obtain ⟨i, hfirst, hlast, rfl⟩ := ht
    rw [Axis.utcLabel?, hw]
    split_ifs with hutc
    · rfl
    · rw [Option.isSome_map]
      exact Clock.isSome_localToUtc?_of_reaches hzone.ordered hsettles
        (Bucket.inCalendar_firstSecond_of_between hreadable.localStart_inCalendar
          hreadable.localStop_inCalendar hfirst hlast)
        ((w.bucket.firstSecond_le_iff i w.localStop).mpr hlast)
        (reaches_of_resolveIn hzone hsettles (by simpa using hutc) hnow h)
  obtain ⟨axis, haxis, -⟩ := Axis.exists_generate?_of_isSome hlabels
  exact ⟨axis, haxis⟩

end Timeframe

end SiteAnalytics
