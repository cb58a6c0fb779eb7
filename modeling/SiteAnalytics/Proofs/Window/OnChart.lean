import SiteAnalytics.Proofs.Calendar.Text
import SiteAnalytics.Proofs.Window.Bounds
import SiteAnalytics.Proofs.Zone.Clock

/-!
# Events on the chart of their window

A query selects the events between the bounds of a window in UTC, and the chart has a bucket for
each of those between the bounds on the wall clock.  A wall clock can be set back, so an event may
be selected and have no place on the chart.  `resolveIn_charts_iff` says when that happens: an end
of the window is off the chart, or within the window the clock is set back across an edge of the
chart.

For a pair of different times the ends are on the chart, since its readings are those of its
instants.  For a day or a period they are if the clock shows the readings that were laid out.
-/

namespace SiteAnalytics

open Calendar DateTime

/-! ### Edges of a chart -/

namespace Bucket

/-- A bucket that holds a date-time of the calendar ends with it at the latest. -/
theorem firstSecond_succ_le_calendarStop (b : Bucket) {t : DateTime} (h : t.inCalendar = true) :
    b.firstSecond (b.index t + 1) ≤ calendarStop := by
  have hyear := (inCalendar_iff_year t.day).mp h
  have hmono := Bucket.year.firstSecond_strictMono.monotone
    (show Bucket.year.index t + 1 ≤ lastYear + 1 by
      show yearOf t.day + 1 ≤ lastYear + 1
      omega)
  exact le_trans (b.firstSecond_year_bracket t).2 hmono

end Bucket

namespace Window

/-- The second at which the first bucket of the chart begins. -/
def chartStart (w : Window) : Int := w.bucket.firstSecond (w.bucket.index w.localStart)

/-- The second after the last bucket of the chart. -/
def chartStop (w : Window) : Int := w.bucket.firstSecond (w.bucket.index w.localStop + 1)

/-- The bucket in which the wall clock stands at an instant is one of the chart. -/
def Charts (w : Window) (utc : DateTime) : Prop :=
  ∃ wall, w.zone.utcToLocal? utc = some wall ∧
    w.bucket.startOf w.localStart ≤ w.bucket.startOf wall ∧
    w.bucket.startOf wall ≤ w.bucket.startOf w.localStop

/-- When the window starts the clock has reached the chart, and when it stops it has not passed
it. -/
structure EndsOnChart (w : Window) : Prop where
  start : w.chartStart ≤ w.zone.clock.reading w.utcStart.second
  stop : w.zone.clock.reading w.utcStop.second < w.chartStop

variable {w : Window}

/-- An instant is on the chart iff its reading lies between the edges. -/
theorem charts_iff (hstart : w.localStart.inCalendar = true) (hstop : w.localStop.inCalendar = true)
    (utc : DateTime) : w.Charts utc ↔
      w.chartStart ≤ w.zone.clock.reading utc.second ∧
        w.zone.clock.reading utc.second < w.chartStop := by
  have hedges (wall : DateTime) : (w.bucket.startOf w.localStart ≤ w.bucket.startOf wall ∧
      w.bucket.startOf wall ≤ w.bucket.startOf w.localStop) ↔
      w.chartStart ≤ wall.second ∧ wall.second < w.chartStop := by
    rw [Bucket.startOf_le_startOf_iff, Bucket.startOf_le_startOf_iff, chartStart, chartStop,
      w.bucket.firstSecond_le_iff, ← not_le, w.bucket.firstSecond_le_iff]
    omega
  constructor
  · rintro ⟨wall, hwall, hbetween⟩
    rw [hedges] at hbetween
    rwa [← (Clock.utcToLocal?_eq_some_iff.mp hwall).2.1]
  · intro hbetween
    -- what lies between the edges of a chart lies in the calendar
    have hfirst := (inCalendar_iff.mp (Bucket.inCalendar_firstSecond (b := w.bucket) hstart)).1
    have hlast := w.bucket.firstSecond_succ_le_calendarStop hstop
    refine ⟨⟨w.zone.clock.reading utc.second, utc.nano⟩,
      Clock.utcToLocal?_eq_some_iff.mpr ⟨?_, rfl, rfl⟩, (hedges _).mpr hbetween⟩
    rw [inCalendar_iff]
    exact ⟨le_trans hfirst hbetween.1, lt_of_lt_of_le hbetween.2 hlast⟩

/-- All events of a window are on its chart iff its ends are, and the clock is not set back across
an edge of the chart in between. -/
theorem forall_charts_iff (hstart : w.localStart.inCalendar = true)
    (hstop : w.localStop.inCalendar = true) (hnano : w.utcStart.nano = 0) :
    (∀ u : DateTime, u.nano = 0 → w.utcStart ≤ u → u ≤ w.utcStop → w.Charts u) ↔
      (w.utcStart ≤ w.utcStop → w.EndsOnChart) ∧
        ∀ s, w.utcStart.second < s → s ≤ w.utcStop.second →
          ¬w.zone.clock.SetBackAcross w.chartStart s ∧
            ¬w.zone.clock.SetBackAcross w.chartStop s := by
  have hle (u : DateTime) : w.utcStart ≤ u ↔ w.utcStart.second ≤ u.second := by
    rw [eq_ofSecond hnano, ofSecond_le_iff, ofSecond_second]
  constructor
  · intro hall
    have hon (s : Int) (h₁ : w.utcStart.second ≤ s) (h₂ : s ≤ w.utcStop.second) :
        w.chartStart ≤ w.zone.clock.reading s ∧ w.zone.clock.reading s < w.chartStop :=
      (charts_iff hstart hstop (ofSecond s)).mp
        (hall (ofSecond s) rfl ((hle _).mpr h₁) (ofSecond_le_iff.mpr h₂))
    refine ⟨fun hsome => ?_, fun s h₁ h₂ => ⟨fun hback => ?_, fun hback => ?_⟩⟩
    · rw [hle] at hsome
      exact ⟨(hon _ le_rfl hsome).1, (hon _ hsome le_rfl).2⟩
    · -- set back below the first edge, the clock shows what is off the chart
      exact absurd (hon s h₁.le h₂).1 (not_le.mpr hback.2)
    · -- set back below the last edge, it has shown what is off the chart just before
      exact absurd (hon (s - 1) (by omega) (by omega)).2 (not_lt.mpr hback.1)
  · rintro ⟨hends, hstay⟩ u - h₁ h₂
    rw [hle] at h₁
    have h₂' : u.second ≤ w.utcStop.second := by
      rw [le_iff] at h₂
      omega
    have hends := hends ((hle _).mpr (le_trans h₁ h₂'))
    -- from the ends on, a clock that is not set back stays between the edges
    rw [charts_iff hstart hstop]
    constructor
    · exact Clock.le_reading_of_not_setBack hends.start (fun s hs₁ hs₂ => (hstay s hs₁ hs₂).1)
        h₁ h₂'
    · exact Clock.reading_lt_of_not_setBack hends.stop (fun s hs₁ hs₂ => (hstay s hs₁ hs₂).2)
        h₁ h₂'

/-- The readings of a window, and the second in which it starts. -/
structure Readable (w : Window) : Prop where
  localStart_inCalendar : w.localStart.inCalendar = true
  localStop_inCalendar : w.localStop.inCalendar = true
  utcStart_nano : w.utcStart.nano = 0

/-- The start of a window lies in the first bucket of its chart. -/
theorem chartStart_le (w : Window) : w.chartStart ≤ w.localStart.second :=
  (w.bucket.index_bracket w.localStart).1

/-- The end of a window lies in the last bucket of its chart. -/
theorem lt_chartStop (w : Window) : w.localStop.second < w.chartStop :=
  (w.bucket.index_bracket w.localStop).2

end Window

namespace Timeframe

variable {zone : Zone} {w : Window}

/-! ### Explicit pairs -/

/-- A pair is read on the wall clock within the calendar. -/
theorem readable_of_resolvePair {b : Bucket} {start stop : DateTime}
    (h : resolvePair zone b start stop = .ok w) : w.Readable := by
  obtain ⟨-, -, hstart, -, hlocalStart, hlocalStop⟩ := resolvePair_eq_ok_iff.mp h
  exact ⟨(Clock.utcToLocal?_eq_some_iff.mp hlocalStart).1,
    (Clock.utcToLocal?_eq_some_iff.mp hlocalStop).1, by rw [hstart, Bucket.startOf_nano]⟩

/-- The bounds of a pair on the wall clock are the readings at its bounds in UTC. -/
theorem endsOnChart_of_resolvePair {b : Bucket} {start stop : DateTime}
    (h : resolvePair zone b start stop = .ok w) : w.EndsOnChart := by
  obtain ⟨-, rfl, -, -, hlocalStart, hlocalStop⟩ := resolvePair_eq_ok_iff.mp h
  have hstart := w.chartStart_le
  have hstop := w.lt_chartStop
  rw [(Clock.utcToLocal?_eq_some_iff.mp hlocalStart).2.1] at hstart
  rw [(Clock.utcToLocal?_eq_some_iff.mp hlocalStop).2.1] at hstop
  exact ⟨hstart, hstop⟩

/-- The bounds of a day are whole seconds of the wall clock. -/
theorem bounds_of_resolveDay {b : Bucket} {day : DateTime} (hday : day.inCalendar = true)
    (h : resolveDay zone b day = .ok w) :
    ∃ s e, w.localStart = ofSecond s ∧ w.localStop = ofSecond e ∧
      w.localStart.inCalendar = true ∧ w.localStop.inCalendar = true ∧ w.zone = zone ∧
      zone.localToUtc? w.localStart = some w.utcStart ∧
      zone.localToUtc? w.localStop = some w.utcStop := by
  obtain ⟨-, hzone, hmidnight, hend, hstart, hstop⟩ := resolveDay_eq_ok_iff.mp h
  have hcal : w.localStart.inCalendar = true := by
    rw [hmidnight]
    exact Bucket.inCalendar_startOf (b := .day) hday
  have hstopCal := Bucket.inCalendar_of_endOf? hcal hend
  rw [Bucket.endOf?_eq] at hend
  split_ifs at hend
  exact ⟨_, _, hmidnight, (Option.some.inj hend).symm, hcal, hstopCal, hzone, hstart, hstop⟩

/-- A day is laid out within the calendar. -/
theorem readable_of_resolveDay (hzone : zone.Sound) {b : Bucket} {day : DateTime}
    (hday : day.inCalendar = true) (h : resolveDay zone b day = .ok w) : w.Readable := by
  obtain ⟨s, e, hs, -, hstartCal, hstopCal, -, hstart, -⟩ := bounds_of_resolveDay hday h
  refine ⟨hstartCal, hstopCal, ?_⟩
  rw [hs] at hstartCal hstart
  exact (Clock.reading_of_localToUtc? hzone.ordered hstartCal hstart).1

/-- A day keeps its ends on the chart, if the clock shows them. -/
theorem endsOnChart_of_resolveDay (hzone : zone.Sound) {b : Bucket} {day : DateTime}
    (hday : day.inCalendar = true) (h : resolveDay zone b day = .ok w)
    (hshown : zone.clock.ShownSoon w.localStart)
    (hshown' : (zone.clock.firstInstant? w.localStop).isSome) : w.EndsOnChart := by
  obtain ⟨s, e, hs, he, hstartCal, hstopCal, rfl, hstart, hstop⟩ := bounds_of_resolveDay hday h
  have hfirst := w.chartStart_le
  have hlast := w.lt_chartStop
  rw [hs] at hstartCal hstart hshown hfirst
  rw [he] at hstopCal hstop hshown' hlast
  have hreading := (Clock.reading_of_localToUtc? hzone.ordered hstartCal hstart).2.2 hshown
  have hreading' := (Clock.reading_of_localToUtc? hzone.ordered hstopCal hstop).2.1 hshown'
  exact ⟨le_trans hfirst hreading, by rw [hreading']; exact hlast⟩

/-! ### Periods -/

/-- What the clock shows now is the reading of the instant, with its fraction. -/
theorem localNow_eq_ok (hzone : zone.Sound) {now nowLocal : DateTime}
    (hnow : now.inCalendar = true) (h : localNow zone now = .ok nowLocal) :
    nowLocal.inCalendar = true ∧ nowLocal.second = zone.clock.reading now.second ∧
      nowLocal.nano = now.nano := by
  rw [localNow] at h
  -- in UTC the clock shows the instant itself
  split_ifs at h with hutc
  · obtain rfl := Except.ok.inj h
    rw [hzone.utc hutc, Clock.reading_constant, add_zero]
    exact ⟨hnow, rfl, rfl⟩
  · exact Clock.utcToLocal?_eq_some_iff.mp (inCalendar_eq_ok_iff.mp h)

/-- What is taken to UTC is read back there, if the clock shows it, and is not missed, if the clock
shows something soon after. -/
theorem reading_of_toUtc (hzone : zone.Sound) {s : Int} {utc : DateTime}
    (hs : (ofSecond s).inCalendar = true) (h : toUtc zone (ofSecond s) = .ok utc) :
    utc.nano = 0 ∧
      ((zone.clock.firstInstant? (ofSecond s)).isSome → zone.clock.reading utc.second = s) ∧
      (zone.clock.ShownSoon (ofSecond s) → s ≤ zone.clock.reading utc.second) := by
  rw [toUtc] at h
  split_ifs at h with hutc
  · obtain rfl := Except.ok.inj h
    rw [hzone.utc hutc, Clock.reading_constant, ofSecond_second, add_zero]
    exact ⟨rfl, fun _ => rfl, fun _ => le_rfl⟩
  · exact Clock.reading_of_localToUtc? hzone.ordered hs (inCalendar_eq_ok_iff.mp h)

/-- The clock shows the bounds of a period.  Instead of its last reading being shown, it is enough
for a near end that the clock is not set forward from now on. -/
def BoundsShown (zone : Zone) (now : DateTime) (w : Window) : Prop :=
  zone.clock.ShownSoon w.localStart ∧
    ∀ nowLocal, localNow zone now.truncate = .ok nowLocal →
      if Near nowLocal w.localStop then
        zone.clock.offsetAt w.utcStop.second ≤ zone.clock.offsetAt now.second
      else (zone.clock.firstInstant? w.localStop).isSome

section Period

variable {bucket : Option Bucket} {count : Option Int} {period : Period} {now : DateTime}

/-- What the window of a period is made of: bounds that are laid out from the reading of the clock
now, and taken to UTC.  An end that is not near is the beginning of a second. -/
theorem laidOut_of_resolvePeriod (hzone : zone.Sound) (hnow : now.Valid)
    (h : resolvePeriod zone bucket count period now = .ok w) :
    ∃ nowLocal, localNow zone now.truncate = .ok nowLocal ∧ nowLocal.IsWhole ∧
      nowLocal.second = zone.clock.reading now.second ∧
      localBounds period w.bucket count nowLocal = .ok (w.localStart, w.localStop) ∧
      LaidOut nowLocal w.localStart w.localStop ∧ toUtc zone w.localStart = .ok w.utcStart ∧
      if Near nowLocal w.localStop then
        DateTime.checked ⟨now.second + (w.localStop.second - nowLocal.second), w.localStop.nano⟩ =
          some w.utcStop
      else w.localStop = ofSecond w.localStop.second ∧ toUtc zone w.localStop = .ok w.utcStop := by
  obtain ⟨nowLocal, hlocal, -, -, hbounds, hstop, hstart, -⟩ := resolvePeriod_eq_ok_iff.mp h
  obtain ⟨hcal, hsecond, hnano⟩ := localNow_eq_ok hzone
    (show now.truncate.inCalendar = true from hnow.inCalendar) hlocal
  have hwhole : nowLocal.IsWhole := by
    rw [IsWhole, hnano]
    exact isWhole_truncate hnow.nano_lt
  have hlaid := laidOut_of_localBounds hwhole hcal hbounds
  refine ⟨nowLocal, hlocal, hwhole, hsecond, hbounds, hlaid, hstart, ?_⟩
  rw [stopInstant_eq hwhole hnano.symm hlaid.follows] at hstop
  split_ifs at hstop ⊢ with hnear
  · exact inCalendar_eq_ok_iff.mp hstop
  · obtain hsame | ⟨e, he, -⟩ := hlaid.follows
    · -- now itself is near
      rw [hsame] at hnear
      exact absurd ⟨by rw [diff_self], by rw [diff_self]; decide⟩ hnear
    · exact ⟨by rw [he]; rfl, hstop⟩

/-- A period is laid out within the calendar. -/
theorem readable_of_resolvePeriod (hzone : zone.Sound) (hnow : now.Valid)
    (h : resolvePeriod zone bucket count period now = .ok w) : w.Readable := by
  obtain ⟨nowLocal, -, -, -, -, hlaid, hstart, -⟩ := laidOut_of_resolvePeriod hzone hnow h
  refine ⟨hlaid.start_inCalendar, hlaid.stop_inCalendar, ?_⟩
  have hstartCal := hlaid.start_inCalendar
  rw [eq_ofSecond hlaid.start_nano] at hstart hstartCal
  exact (reading_of_toUtc hzone hstartCal hstart).1

/-- A period keeps its ends on the chart, if the clock shows them. -/
theorem endsOnChart_of_resolvePeriod (hzone : zone.Sound) (hnow : now.Valid)
    (h : resolvePeriod zone bucket count period now = .ok w) (hshown : BoundsShown zone now w) :
    w.EndsOnChart := by
  obtain ⟨-, -, -, rfl, -⟩ := resolvePeriod_eq_ok_iff.mp h
  obtain ⟨nowLocal, hlocal, -, hsecond, -, hlaid, hstart, hstop⟩ :=
    laidOut_of_resolvePeriod hzone hnow h
  have hfirst := w.chartStart_le
  have hlast := w.lt_chartStop
  obtain ⟨hshownStart, hshownStop⟩ := hshown
  have hshownStop := hshownStop nowLocal hlocal
  constructor
  · have hstartCal := hlaid.start_inCalendar
    rw [eq_ofSecond hlaid.start_nano] at hstart hstartCal hshownStart
    exact le_trans hfirst ((reading_of_toUtc hzone hstartCal hstart).2.2 hshownStart)
  · split_ifs at hstop hshownStop with hnear
    · -- the end is as far ahead of now as it was laid out
      rw [← eq_of_checked hstop] at hshownStop ⊢
      unfold Clock.reading at *
      dsimp only at *
      omega
    · obtain ⟨he, hstop⟩ := hstop
      have hstopCal := hlaid.stop_inCalendar
      rw [he] at hstop hstopCal hshownStop
      rw [(reading_of_toUtc hzone hstopCal hstop).2.1 hshownStop]
      exact hlast

end Period

/-! ### Any timeframe -/

/-- Every window starts with a whole second and is laid out within the calendar. -/
theorem readable_of_resolveIn (hzone : zone.Sound) {q : Timeframe} {now : DateTime}
    (hnow : now.Valid) (h : q.resolveIn zone now = .ok w) : w.Readable := by
  obtain ⟨start, stop, ⟨_, _, -, -, hstart, -⟩, -, -, h⟩ | ⟨_, -, h⟩ := resolveIn_eq_ok_iff.mp h
  · split_ifs at h
    · exact readable_of_resolveDay hzone (DateInput.valid_of_read? hstart).inCalendar h
    · exact readable_of_resolvePair h
  · exact readable_of_resolvePeriod hzone hnow h

/-- **Events on the chart.** All events of a window are on its chart iff its ends are, and within
the window the clock is not set back across an edge of the chart.  The ends are on the chart for a
pair of different times, and for a day or a period if the clock shows its bounds. -/
theorem resolveIn_charts_iff (hzone : zone.Sound) {q : Timeframe} {now : DateTime}
    (hnow : now.Valid) (h : q.resolveIn zone now = .ok w) :
    ((∀ u : DateTime, u.nano = 0 → w.utcStart ≤ u → u ≤ w.utcStop → w.Charts u) ↔
      (w.utcStart ≤ w.utcStop → w.EndsOnChart) ∧
        ∀ s, w.utcStart.second < s → s ≤ w.utcStop.second →
          ¬w.zone.clock.SetBackAcross w.chartStart s ∧
            ¬w.zone.clock.SetBackAcross w.chartStop s) ∧
    (∀ start stop, q.IsPair start stop → start ≠ stop → w.EndsOnChart) ∧
    (∀ day, q.IsPair day day → zone.clock.ShownSoon w.localStart →
      (zone.clock.firstInstant? w.localStop).isSome → w.EndsOnChart) ∧
    ∀ period, q.IsPeriod period → BoundsShown zone now w → w.EndsOnChart := by
  have hreadable := readable_of_resolveIn hzone hnow h
  -- the exact condition, then the three kinds of timeframes
  refine ⟨?_, fun start stop hpair hne => ?_, fun day hpair hstart hstop => ?_,
    fun period hperiod hshown => ?_⟩
  · exact Window.forall_charts_iff hreadable.localStart_inCalendar hreadable.localStop_inCalendar
      hreadable.utcStart_nano
  · obtain ⟨-, -, hresolved⟩ := of_resolveIn_of_isPair hpair h
    rw [if_neg hne] at hresolved
    exact endsOnChart_of_resolvePair hresolved
  · obtain ⟨-, -, hresolved⟩ := of_resolveIn_of_isPair hpair h
    obtain ⟨_, _, -, -, hread, -⟩ := hpair
    rw [if_pos rfl] at hresolved
    exact endsOnChart_of_resolveDay hzone (DateInput.valid_of_read? hread).inCalendar hresolved
      hstart hstop
  · rw [resolveIn_of_isPeriod hperiod] at h
    exact endsOnChart_of_resolvePeriod hzone hnow h hshown

/-- Today, in the repeated hour of a night in which the clock goes back, is on the chart. -/
theorem resolveIn_charts_repeatedHour :
    let zone := Zone.parse (some "Europe/Kyiv")
    let q : Timeframe := ⟨none, none, some "today", some "Europe/Kyiv", none, none⟩
    let now := ofSecond 1729992600
    let w : Window :=
      ⟨ofSecond 1729987200, ofSecond 1729999800, ofSecond 1729976400, now, .hour, zone⟩
    zone.Sound ∧ now.Valid ∧ q.resolveIn zone now = .ok w ∧
      ∀ u : DateTime, u.nano = 0 → w.utcStart ≤ u → u ≤ w.utcStop → w.Charts u := by
  intro zone q now w
  have hzone : zone.Sound := Zone.sound_parse _ _
  have hnow : now.Valid := ⟨by decide +kernel, by decide +kernel⟩
  have h : q.resolveIn zone now = .ok w := by decide +kernel
  obtain ⟨hiff, -, -, hends⟩ := resolveIn_charts_iff hzone hnow h
  have hshown : BoundsShown zone now w := by
    refine ⟨.inl (by decide +kernel), fun nowLocal hlocal => ?_⟩
    have hat : localNow zone now.truncate = .ok w.localStop := by decide +kernel
    obtain rfl := Except.ok.inj (hat.symm.trans hlocal)
    rw [if_pos ⟨by decide +kernel, by decide +kernel⟩]
  have hstay : ∀ change ∈ w.zone.clock.changes, w.utcStart.second < change.1 →
      change.1 ≤ w.utcStop.second → ¬w.zone.clock.SetBackAcross w.chartStart change.1 ∧
        ¬w.zone.clock.SetBackAcross w.chartStop change.1 := by
    decide +kernel
  refine ⟨hzone, hnow, h, hiff.mpr ⟨fun _ => ?_, fun s h₁ h₂ => ⟨fun hback => ?_, fun hback => ?_⟩⟩⟩
  · exact hends .today ⟨.inl rfl, "today", rfl, by decide +kernel⟩ hshown
  · obtain ⟨change, hchange, rfl⟩ := hback.exists_change
    exact (hstay change hchange h₁ h₂).1 hback
  · obtain ⟨change, hchange, rfl⟩ := hback.exists_change
    exact (hstay change hchange h₁ h₂).2 hback

/-- An hour and a half in which the clock is set back by two hours: on the wall clock the window
ends before it starts, and its chart is empty. -/
theorem resolve_event_off_chart :
    let q : Timeframe := ⟨some "2024-10-27 00:00:00", some "2024-10-27 01:30:00", none,
      some "Antarctica/Troll", some .hour, none⟩
    let now := ofSecond 1730246400
    let w : Window := ⟨ofSecond 1729994400, ofSecond 1729994399, ofSecond 1729987200,
      ofSecond 1729994399, .hour, Zone.parse (some "Antarctica/Troll")⟩
    let u := ofSecond 1729987200
    q.resolve now = .ok w ∧ u.nano = 0 ∧ w.utcStart ≤ u ∧ u ≤ w.utcStop ∧ ¬w.Charts u := by
  intro q now w u
  refine ⟨by decide +kernel, rfl, by decide +kernel, by decide +kernel, ?_⟩
  rw [Window.charts_iff (by decide +kernel) (by decide +kernel)]
  decide +kernel

end Timeframe

end SiteAnalytics
