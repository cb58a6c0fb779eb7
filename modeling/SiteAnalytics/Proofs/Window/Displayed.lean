import SiteAnalytics.Proofs.Window.OnChart

/-!
# Instants that a window displays

A window that is laid out on the wall clock, for a single day or for a period, displays the instants
at which the clock shows one of its times.  Its query asks for those between its bounds in UTC, and
these are found from the two readings alone: of a reading that is shown twice the first instant is
taken, and a reading that is skipped is put off by an hour.  So a displayed instant may be left out.

The displayed instants come in runs.  All of them are asked for iff none of the runs begins before
the first bound or ends after the last one (`resolveIn_queries_shown_iff`).  A run begins or ends
where the clock shows a bound of the window, where it is changed, or now (`Enters.cases`,
`Leaves.cases`), and changes do not count if they stay within the window or out of it.
-/

namespace SiteAnalytics

open Calendar DateTime

/-! ### Runs -/

section Runs

variable {P : Int → Prop}

/-- A run that goes down has a beginning. -/
theorem exists_run_start {lo s : Int} (hlo : ∀ t, P t → lo ≤ t) (hs : P s) :
    ∃ e, e ≤ s ∧ P e ∧ ¬P (e - 1) := by
  by_contra hnone
  push Not at hnone
  have hall (t : Int) (ht : t ≤ s) : P t := by
    induction t, ht using Int.leInductionDown with
    | base => exact hs
    | pred t ht ih => exact hnone t ht ih
  have hfirst := hlo s hs
  have hbefore := hlo (lo - 1) (hall (lo - 1) (by omega))
  omega

theorem exists_run_stop {hi s : Int} (hhi : ∀ t, P t → t ≤ hi) (hs : P s) :
    ∃ e, s ≤ e ∧ P e ∧ ¬P (e + 1) := by
  obtain ⟨e, he, hp, hnext⟩ := @exists_run_start (fun t => P (-t)) (-hi) (-s)
    (fun t ht => by have := hhi (-t) ht; omega) (by rwa [neg_neg])
  refine ⟨-e, by omega, hp, ?_⟩
  rwa [show -e + 1 = -(e - 1) by omega]

/-- What holds in the calendar only lies between two bounds iff its runs begin and end there. -/
theorem forall_between_iff {lo hi a b : Int} (hlo : ∀ t, P t → lo ≤ t) (hhi : ∀ t, P t → t ≤ hi) :
    (∀ s, P s → a ≤ s ∧ s ≤ b) ↔
      (∀ s, P s ∧ ¬P (s - 1) → a ≤ s) ∧ ∀ s, P s ∧ ¬P (s + 1) → s ≤ b := by
  constructor
  · intro h
    exact ⟨fun s hs => (h s hs.1).1, fun s hs => (h s hs.1).2⟩
  · rintro ⟨hstart, hstop⟩ s hs
    obtain ⟨e, he, hrun⟩ := exists_run_start hlo hs
    obtain ⟨e', he', hrun'⟩ := exists_run_stop hhi hs
    exact ⟨le_trans (hstart e hrun) he, le_trans he' (hstop e' hrun')⟩

end Runs

/-! ### Displayed instants -/

namespace Window

/-- The clock shows one of the times of the window at an instant. -/
def Displays (w : Window) (utc : DateTime) : Prop :=
  ∃ wall, w.zone.utcToLocal? utc = some wall ∧ w.localStart ≤ wall ∧ wall ≤ w.localStop

/-- No change of the clock leads into the window or out of it. -/
def Undisturbed (w : Window) : Prop :=
  ∀ change ∈ w.zone.clock.changes,
    (w.localStart.second ≤ w.zone.clock.reading (change.1 - 1) ∧
      w.zone.clock.reading (change.1 - 1) ≤ w.localStop.second) ↔
    (w.localStart.second ≤ w.zone.clock.reading change.1 ∧
      w.zone.clock.reading change.1 ≤ w.localStop.second)

instance (w : Window) : Decidable w.Undisturbed :=
  inferInstanceAs (Decidable (∀ change ∈ w.zone.clock.changes, _))

theorem displays_iff {w : Window} (hnano : w.localStart.nano = 0)
    (hstart : w.localStart.inCalendar = true) (hstop : w.localStop.inCalendar = true) (s : Int) :
    w.Displays (ofSecond s) ↔ w.localStart.second ≤ w.zone.clock.reading s ∧
      w.zone.clock.reading s ≤ w.localStop.second := by
  have hfirst := inCalendar_iff.mp hstart
  have hlast := inCalendar_iff.mp hstop
  rw [eq_ofSecond hnano, ofSecond_second] at hfirst
  constructor
  · rintro ⟨wall, hwall, h₁, h₂⟩
    obtain ⟨-, hsecond, hnano'⟩ := Clock.utcToLocal?_eq_some_iff.mp hwall
    rw [ofSecond_second] at hsecond
    rw [eq_ofSecond hnano, ofSecond_le_iff, hsecond] at h₁
    rw [eq_ofSecond hnano', ofSecond_le_iff, hsecond] at h₂
    exact ⟨h₁, h₂⟩
  · rintro ⟨h₁, h₂⟩
    refine ⟨ofSecond (w.zone.clock.reading s), Clock.utcToLocal?_eq_some_iff.mpr ⟨?_, rfl, rfl⟩,
      ?_, ofSecond_le_iff.mpr h₂⟩
    · rw [inCalendar_iff, ofSecond_second]
      omega
    · rw [eq_ofSecond hnano, ofSecond_le_iff]
      exact h₁

end Window

namespace Timeframe

/-- The window is laid out on the wall clock: for a single day, or for a period. -/
def IsAnchored (q : Timeframe) : Prop := (∃ day, q.IsPair day day) ∨ ∃ period, q.IsPeriod period

/-- The window of a timeframe shows an instant, which has come unless yesterday or a single day is
asked for. -/
structure Shows (q : Timeframe) (w : Window) (now utc : DateTime) : Prop where
  inCalendar : utc.inCalendar = true
  displayed : w.Displays utc
  hasCome : ∀ period, q.IsPeriod period → period ≠ .yesterday → utc ≤ now

/-- A run of seconds that are shown begins. -/
def Enters (q : Timeframe) (w : Window) (now : DateTime) (s : Int) : Prop :=
  q.Shows w now (ofSecond s) ∧ ¬q.Shows w now (ofSecond (s - 1))

/-- A run of seconds that are shown ends. -/
def Leaves (q : Timeframe) (w : Window) (now : DateTime) (s : Int) : Prop :=
  q.Shows w now (ofSecond s) ∧ ¬q.Shows w now (ofSecond (s + 1))

variable {zone : Zone} {q : Timeframe} {now : DateTime} {w : Window}

/-! ### Bounds in UTC -/

/-- In a UTC zone the clock takes every reading to itself, so that all zones are alike. -/
theorem toUtc_eq_ok_iff (hzone : zone.Sound) {wall utc : DateTime}
    (hwall : wall.inCalendar = true) :
    toUtc zone wall = .ok utc ↔ zone.clock.localToUtc? wall = some utc := by
  rw [toUtc]
  split_ifs with hutc
  · rw [hzone.utc hutc, Clock.localToUtc?_utc hwall]
    simp
  · rw [inCalendar_eq_ok_iff]
    rfl

/-- An end before now is not near. -/
theorem not_near_of_lt {now : DateTime} {e : Int} (h : e < now.second) :
    ¬Near now (ofSecond e) := by
  rintro ⟨hahead, -⟩
  unfold diff inLeapSecond nanosPerSecond at hahead
  simp only [ofSecond_second, ofSecond_nano] at hahead
  split_ifs at hahead with h₁ h₂
  · simp only [Bool.and_eq_true, decide_eq_true_eq] at h₁
    omega
  · simp at h₂
  · omega

/-- A near end does not come before now. -/
theorem le_utcStop_of_near {nowLocal stop utcStop : DateTime} (hfollows : nowLocal.Follows stop)
    (hnear : Near nowLocal stop)
    (h : DateTime.checked ⟨now.second + (stop.second - nowLocal.second), stop.nano⟩ =
      some utcStop) : now.second ≤ utcStop.second := by
  have hle : nowLocal.second ≤ stop.second := by
    obtain rfl | ⟨e, rfl, -⟩ := hfollows
    · exact le_rfl
    · by_contra hlt
      exact not_near_of_lt (not_le.mp hlt) hnear
  rw [← eq_of_checked h]
  dsimp only
  omega

/-- Yesterday ends before now. -/
theorem lt_of_localBounds_yesterday {b : Bucket} {count : Option Int} {now start stop : DateTime}
    (h : localBounds .yesterday b count now = .ok (start, stop)) :
    ∃ e, stop = ofSecond e ∧ e < now.second := by
  obtain ⟨⟨⟩, -⟩ | ⟨-, day, hday, -, hlast⟩ | ⟨⟨⟩, -⟩ | ⟨n, ⟨⟩, -⟩ | ⟨n, unit, ⟨⟩, -⟩ :=
    localBounds_cases h
  rw [Bucket.endOf?_eq] at hlast
  split_ifs at hlast
  refine ⟨_, (Option.some.inj hlast).symm, ?_⟩
  rw [(of_addDays?_neg (n := 1) hday).1]
  simp only [Bucket.firstSecond, Bucket.index]
  unfold onDay DateTime.day secondsPerDay
  dsimp only
  omega

/-- The bounds of a window that is laid out on the wall clock are the instants of their readings,
except for a near end, which is counted from now. -/
theorem bounds_of_isAnchored (hzone : zone.Sound) (hnow : now.Valid) (hq : q.IsAnchored)
    (h : q.resolveIn zone now = .ok w) :
    w.localStart.nano = 0 ∧ zone.clock.localToUtc? w.localStart = some w.utcStart ∧
      (zone.clock.localToUtc? w.localStop = some w.utcStop ∨
        ∃ period, q.IsPeriod period ∧ period ≠ .yesterday ∧ now.second ≤ w.utcStop.second) := by
  obtain ⟨day, hpair⟩ | ⟨period, hperiod⟩ := hq
  · obtain ⟨-, -, hresolved⟩ := of_resolveIn_of_isPair hpair h
    obtain ⟨_, _, -, -, hread, -⟩ := hpair
    rw [if_pos rfl] at hresolved
    obtain ⟨s, e, hs, -, -, -, -, hstart, hstop⟩ :=
      bounds_of_resolveDay (DateInput.valid_of_read? hread).inCalendar hresolved
    exact ⟨by rw [hs]; rfl, hstart, .inl hstop⟩
  · rw [resolveIn_of_isPeriod hperiod] at h
    obtain ⟨nowLocal, -, -, -, hbounds, hlaid, hstart, hstop⟩ :=
      laidOut_of_resolvePeriod hzone hnow h
    refine ⟨hlaid.start_nano, (toUtc_eq_ok_iff hzone hlaid.start_inCalendar).mp hstart, ?_⟩
    split_ifs at hstop with hnear
    · refine .inr ⟨period, hperiod, ?_, le_utcStop_of_near hlaid.follows hnear hstop⟩
      rintro rfl
      obtain ⟨e, he, hlt⟩ := lt_of_localBounds_yesterday hbounds
      rw [he] at hnear
      exact not_near_of_lt hlt hnear
    · exact .inl ((toUtc_eq_ok_iff hzone hlaid.stop_inCalendar).mp hstop.2)

/-! ### Runs of a window -/

theorem shows_iff (hnano : w.localStart.nano = 0) (hw : w.Readable) {s : Int} :
    q.Shows w now (ofSecond s) ↔ (calendarStart ≤ s ∧ s < calendarStop) ∧
      (w.localStart.second ≤ w.zone.clock.reading s ∧
        w.zone.clock.reading s ≤ w.localStop.second) ∧
      ∀ period, q.IsPeriod period → period ≠ .yesterday → s ≤ now.second := by
  rw [← Window.displays_iff hnano hw.localStart_inCalendar hw.localStop_inCalendar]
  constructor
  · rintro ⟨hcal, hdisplayed, hcome⟩
    exact ⟨inCalendar_iff.mp hcal, hdisplayed,
      fun period hperiod hne => ofSecond_le_iff.mp (hcome period hperiod hne)⟩
  · rintro ⟨hcal, hdisplayed, hcome⟩
    exact ⟨inCalendar_iff.mpr hcal, hdisplayed,
      fun period hperiod hne => ofSecond_le_iff.mpr (hcome period hperiod hne)⟩

/-- Where a run can begin. -/
theorem Enters.cases (hnano : w.localStart.nano = 0) (hw : w.Readable) {s : Int}
    (h : q.Enters w now s) : s = calendarStart ∨
      w.zone.clock.reading s = w.localStart.second ∨
        ∃ change ∈ w.zone.clock.changes, change.1 = s := by
  obtain ⟨hshown, hbefore⟩ := h
  rw [shows_iff hnano hw] at hshown hbefore
  obtain ⟨hcal, hdisplayed, hcome⟩ := hshown
  by_contra hnone
  push Not at hnone
  obtain ⟨hfirst, hreading, hchange⟩ := hnone
  refine hbefore ⟨by omega, ?_, fun period hperiod hne => ?_⟩
  · rw [Clock.reading_sub_one hchange]
    omega
  · have := hcome period hperiod hne
    omega

/-- Where a run can end. -/
theorem Leaves.cases (hnano : w.localStart.nano = 0) (hw : w.Readable) {s : Int}
    (h : q.Leaves w now s) : s = calendarStop - 1 ∨ s = now.second ∨
      w.zone.clock.reading s = w.localStop.second ∨
        ∃ change ∈ w.zone.clock.changes, change.1 = s + 1 := by
  obtain ⟨hshown, hafter⟩ := h
  rw [shows_iff hnano hw] at hshown hafter
  obtain ⟨hcal, hdisplayed, hcome⟩ := hshown
  by_contra hnone
  push Not at hnone
  obtain ⟨hlast, hcurrent, hreading, hchange⟩ := hnone
  have hnext := Clock.reading_sub_one hchange
  rw [add_sub_cancel_right] at hnext
  refine hafter ⟨by omega, by omega, fun period hperiod hne => ?_⟩
  have := hcome period hperiod hne
  omega

/-- Without changes that lead into the window, a run begins with its first time. -/
theorem Enters.reading_eq (hnano : w.localStart.nano = 0) (hw : w.Readable)
    (hundisturbed : w.Undisturbed) {s : Int} (h : q.Enters w now s) :
    s = calendarStart ∨ w.zone.clock.reading s = w.localStart.second := by
  obtain hfirst | hreading | ⟨change, hchange, rfl⟩ := h.cases hnano hw
  · exact .inl hfirst
  · exact .inr hreading
  · obtain ⟨hshown, hbefore⟩ := h
    rw [shows_iff hnano hw] at hshown hbefore
    obtain ⟨hcal, hdisplayed, hcome⟩ := hshown
    by_contra hnone
    refine hbefore ⟨by omega, (hundisturbed change hchange).mpr hdisplayed,
      fun period hperiod hne => ?_⟩
    have := hcome period hperiod hne
    omega

/-- Without changes that lead out of the window, a run ends with its last time, or now. -/
theorem Leaves.reading_eq (hnano : w.localStart.nano = 0) (hw : w.Readable)
    (hundisturbed : w.Undisturbed) {s : Int} (h : q.Leaves w now s) :
    s = calendarStop - 1 ∨ s = now.second ∨ w.zone.clock.reading s = w.localStop.second := by
  obtain hlast | hcurrent | hreading | ⟨change, hchange, hs⟩ := h.cases hnano hw
  · exact .inl hlast
  · exact .inr (.inl hcurrent)
  · exact .inr (.inr hreading)
  · obtain ⟨hshown, hafter⟩ := h
    rw [shows_iff hnano hw] at hshown hafter
    obtain ⟨hcal, hdisplayed, hcome⟩ := hshown
    have hstays := hundisturbed change hchange
    rw [hs, add_sub_cancel_right] at hstays
    by_contra hnone
    refine hafter ⟨by omega, hstays.mp hdisplayed, fun period hperiod hne => ?_⟩
    have := hcome period hperiod hne
    omega

/-! ### What is asked for -/

/-- All that is shown lies between the bounds in UTC iff its runs begin and end there. -/
theorem forall_shows_iff (hw : w.Readable) :
    (∀ u : DateTime, u.nano = 0 → q.Shows w now u → w.utcStart ≤ u ∧ u ≤ w.utcStop) ↔
      (∀ s, q.Enters w now s → w.utcStart.second ≤ s) ∧
        ∀ s, q.Leaves w now s → s ≤ w.utcStop.second := by
  have hbetween (s : Int) : w.utcStart ≤ ofSecond s ∧ ofSecond s ≤ w.utcStop ↔
      w.utcStart.second ≤ s ∧ s ≤ w.utcStop.second := by
    rw [eq_ofSecond hw.utcStart_nano, ofSecond_le_iff, ofSecond_le_iff, ofSecond_second,
      ofSecond_second]
  have hlo (s : Int) (hs : q.Shows w now (ofSecond s)) : calendarStart ≤ s :=
    (inCalendar_iff.mp hs.inCalendar).1
  have hhi (s : Int) (hs : q.Shows w now (ofSecond s)) : s ≤ calendarStop :=
    (inCalendar_iff.mp hs.inCalendar).2.le
  refine Iff.trans ?_ (forall_between_iff hlo hhi)
  constructor
  · intro hall s hs
    exact (hbetween s).mp (hall (ofSecond s) rfl hs)
  · intro hall u hu hs
    rw [eq_ofSecond hu] at hs ⊢
    exact (hbetween u.second).mpr (hall u.second hs)

/-- **Displayed instants.** The query of a window that is laid out on the wall clock asks for all
instants that it displays iff no run of them begins before its first bound or ends after its last
one.

* None begins before the first bound if the start is shown, or an hour later is, and every run
  begins with what is shown at the first bound.
* None ends after the last bound if only what has come counts, and the last bound has not; it has
  not if the end is near.
* None does for yesterday or a single day, if the end is shown once and every run ends with it. -/
theorem resolveIn_queries_shown_iff (hzone : zone.Sound) (hnow : now.Valid) (hq : q.IsAnchored)
    (h : q.resolveIn zone now = .ok w) :
    ((∀ u : DateTime, u.nano = 0 → q.Shows w now u → w.utcStart ≤ u ∧ u ≤ w.utcStop) ↔
      (∀ s, q.Enters w now s → w.utcStart.second ≤ s) ∧
        ∀ s, q.Leaves w now s → s ≤ w.utcStop.second) ∧
    (zone.clock.ShownSoon w.localStart →
      (∀ s, q.Enters w now s → zone.clock.reading s = zone.clock.reading w.utcStart.second) →
      ∀ s, q.Enters w now s → w.utcStart.second ≤ s) ∧
    (∀ period, q.IsPeriod period → period ≠ .yesterday →
      (now.second ≤ w.utcStop.second → ∀ s, q.Leaves w now s → s ≤ w.utcStop.second) ∧
      ∀ nowLocal, localNow zone now.truncate = .ok nowLocal → Near nowLocal w.localStop →
        now.second ≤ w.utcStop.second) ∧
    ((∀ period, q.IsPeriod period → period = .yesterday) →
      (∃ i, zone.clock.instantsAt w.localStop.second = [i]) →
      (∀ s, q.Leaves w now s → zone.clock.reading s = w.localStop.second) →
      ∀ s, q.Leaves w now s → s ≤ w.utcStop.second) := by
  have hreadable := readable_of_resolveIn hzone hnow h
  obtain ⟨hnano, hstart, hend⟩ := bounds_of_isAnchored hzone hnow hq h
  have hstartCal := hreadable.localStart_inCalendar
  rw [eq_ofSecond hnano] at hstart hstartCal
  refine ⟨?_, fun hsoon hall s hs => ?_, fun period hperiod hne => ⟨fun hahead s hs => ?_, ?_⟩,
    fun hpast ⟨i, honce⟩ hall s hs => ?_⟩
  · exact forall_shows_iff hreadable
  · rw [eq_ofSecond hnano] at hsoon
    exact Clock.le_of_localToUtc? hzone.ordered hstartCal hstart hsoon (hall s hs)
  · exact le_trans (ofSecond_le_iff.mp (hs.1.hasCome period hperiod hne)) hahead
  · intro nowLocal hlocal hnear
    rw [resolveIn_of_isPeriod hperiod] at h
    obtain ⟨nowLocal', hlocal', -, -, -, hlaid, -, hstop⟩ := laidOut_of_resolvePeriod hzone hnow h
    obtain rfl := Except.ok.inj (hlocal'.symm.trans hlocal)
    rw [if_pos hnear] at hstop
    exact le_utcStop_of_near hlaid.follows hnear hstop
  · obtain hstop | ⟨period, hperiod, hne, -⟩ := hend
    · exact (Clock.eq_of_shownOnce hzone.ordered honce hstop hs.1.inCalendar (hall s hs)).le
    · exact absurd (hpast period hperiod) hne

/-- The day on which the clock goes back lasts twenty-five hours, and all of them are asked for. -/
theorem resolveIn_queries_shown_day :
    let zone := Zone.parse (some "Europe/Kyiv")
    let q : Timeframe :=
      ⟨some "2024-10-27", some "2024-10-27", none, some "Europe/Kyiv", some .hour, none⟩
    let now := ofSecond 1730246400
    let w : Window := ⟨ofSecond 1729987200, ofSecond 1730073599, ofSecond 1729976400,
      ofSecond 1730066399, .hour, zone⟩
    zone.Sound ∧ now.Valid ∧ q.IsAnchored ∧ q.resolveIn zone now = .ok w ∧
      ∀ u : DateTime, u.nano = 0 → q.Shows w now u → w.utcStart ≤ u ∧ u ≤ w.utcStop := by
  intro zone q now w
  have hzone : zone.Sound := Zone.sound_parse _ _
  have hnow : now.Valid := valid_ofSecond (by decide +kernel)
  have hq : q.IsAnchored :=
    .inl ⟨ofSecond 1729987200, _, _, rfl, rfl, by decide +kernel, by decide +kernel⟩
  have h : q.resolveIn zone now = .ok w := by decide +kernel
  have hreadable := readable_of_resolveIn hzone hnow h
  obtain ⟨hiff, hstart, -, hstop⟩ := resolveIn_queries_shown_iff hzone hnow hq h
  have hperiod (period : Period) : ¬q.IsPeriod period := by
    rintro ⟨hnone | hnone, -⟩ <;> cases hnone
  have hundisturbed : w.Undisturbed := by decide +kernel
  -- neither the ends of the calendar nor now lie in the day
  have hends : w.zone.clock.reading calendarStart < w.localStart.second ∧
      w.localStop.second < w.zone.clock.reading (calendarStop - 1) ∧
      w.localStop.second < w.zone.clock.reading now.second := by
    decide +kernel
  have hwithin {s : Int} (hs : q.Shows w now (ofSecond s)) :=
    ((shows_iff rfl hreadable).mp hs).2.1
  refine ⟨hzone, hnow, hq, h, hiff.mpr ⟨hstart (.inl (by decide +kernel)) fun s hs => ?_,
    hstop (fun period hp => absurd hp (hperiod period)) ⟨1730066399, by decide +kernel⟩
      fun s hs => ?_⟩⟩
  · have hfirst : w.zone.clock.reading w.utcStart.second = w.localStart.second := by
      decide +kernel
    obtain rfl | hreading := hs.reading_eq rfl hreadable hundisturbed
    · have := hwithin hs.1
      omega
    · rw [hreading, hfirst]
  · obtain rfl | rfl | hreading := hs.reading_eq rfl hreadable hundisturbed
    · have := hwithin hs.1
      omega
    · have := hwithin hs.1
      omega
    · exact hreading

/-- The last hour of a day that is repeated at midnight is asked for only once: half past eleven in
the evening is a time of the day, and its second instant comes after the last bound. -/
theorem resolve_day_lacks_hour :
    let q : Timeframe :=
      ⟨some "2018-02-17", some "2018-02-17", none, some "America/Sao_Paulo", some .hour, none⟩
    let now := ofSecond 1519862400
    let w : Window := ⟨ofSecond 1518825600, ofSecond 1518911999, ofSecond 1518832800,
      ofSecond 1518919199, .hour, Zone.parse (some "America/Sao_Paulo")⟩
    let u := ofSecond 1518921000
    q.IsAnchored ∧ q.resolve now = .ok w ∧ u.nano = 0 ∧ q.Shows w now u ∧ ¬u ≤ w.utcStop := by
  intro q now w u
  have hq : q.IsAnchored :=
    .inl ⟨ofSecond 1518825600, _, _, rfl, rfl, by decide +kernel, by decide +kernel⟩
  refine ⟨hq, by decide +kernel, rfl, ?_, by decide +kernel⟩
  constructor
  · decide +kernel
  · exact ⟨ofSecond 1518910200, by decide +kernel, by decide +kernel, by decide +kernel⟩
  · rintro period ⟨hnone | hnone, -⟩ <;> cases hnone

end Timeframe

end SiteAnalytics
