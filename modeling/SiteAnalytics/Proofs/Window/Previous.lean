import SiteAnalytics.Proofs.Axis.Label
import SiteAnalytics.Proofs.Dict
import SiteAnalytics.Proofs.Window.DefaultBucket
import SiteAnalytics.Proofs.Window.Extent
import SiteAnalytics.Proofs.Window.Replay
import SiteAnalytics.Query.Summary

/-!
# The window before

A summary is compared with the window of the same length that ends a second before.  It is laid out
by seconds alone, without a look at buckets.  In a UTC zone minutes, hours and days have a fixed
length, and then it fits all the same: as many whole buckets lie before a window of whole buckets
(`Window.exists_previous?_of_spans`), which is a reflection of their numbers
(`Bucket.firstSecond_reflect`).  Months and years have lengths of their own, and there the window
before begins anywhere.

How long a window can be is bounded by the staircase, so that four years from the beginning of the
calendar there is always room for the one before.
-/

namespace SiteAnalytics

open Calendar DateTime

namespace Bucket

/-- The seconds of a bucket, if all of that size have the same. -/
def seconds? : Bucket → Option Nat
  | minute => some 60
  | hour => some 3600
  | day => some secondsPerDay
  | month | year => none

theorem firstSecond_of_seconds? {b : Bucket} {n : Nat} (h : b.seconds? = some n) (i : Int) :
    b.firstSecond i = i * n := by
  cases b <;> simp [seconds?] at h <;> subst h <;> rfl

theorem seconds?_le {b : Bucket} {n : Nat} (h : b.seconds? = some n) : n ≤ 86400 := by
  cases b <;> simp [seconds?] at h <;> subst h <;> decide

/-- As long before the start of a bucket as it is from there to the end of another one, a bucket
begins again. -/
theorem firstSecond_reflect {b : Bucket} {n : Nat} (h : b.seconds? = some n) (i j : Int) :
    b.firstSecond i - (b.firstSecond (j + 1) - b.firstSecond i) =
      b.firstSecond (i - (j + 1 - i)) := by
  simp only [firstSecond_of_seconds? h]
  ring

/-- The bounds reach from the first second of one numbered bucket to the last second of another. -/
structure Spans (b : Bucket) (i j : Int) (start stop : DateTime) : Prop where
  le : i ≤ j
  start_eq : start = ofSecond (b.firstSecond i)
  stop_eq : stop = ofSecond (b.firstSecond (j + 1) - 1)
  start_inCalendar : (ofSecond (b.firstSecond i)).inCalendar = true
  next_inCalendar : (ofSecond (b.firstSecond (j + 1))).inCalendar = true

namespace Spans

variable {b : Bucket} {i j : Int} {start stop : DateTime} (h : b.Spans i j start stop)
include h

theorem index_start : b.index start = i := by
  rw [h.start_eq, index_firstSecond]

theorem index_stop : b.index stop = j := by
  have hlength := b.firstSecond_add_sixty_le j
  apply index_eq_of_bracket <;> rw [h.stop_eq, ofSecond_second] <;> omega

theorem startOf_start : b.startOf start = start := by
  rw [startOf_eq, h.index_start, h.start_eq]

theorem endOf?_stop : b.endOf? stop = some stop :=
  endOf?_eq_some_iff.mpr (by rw [h.index_stop]; exact ⟨h.stop_eq, h.next_inCalendar⟩)

theorem bounds_inCalendar : start.inCalendar = true ∧ stop.inCalendar = true := by
  have hle := b.firstSecond_strictMono (Int.lt_add_one_of_le h.le)
  have hstart := inCalendar_iff.mp h.start_inCalendar
  have hnext := inCalendar_iff.mp h.next_inCalendar
  simp only [ofSecond_second] at hstart hnext
  refine ⟨h.start_eq ▸ h.start_inCalendar, ?_⟩
  rw [h.stop_eq, inCalendar_iff, ofSecond_second]
  omega

end Spans

end Bucket

namespace Axis

variable {b : Bucket} {zone : Zone} {start stop : DateTime} {axis : Axis}

/-- An axis has a point for each of the buckets that its bounds span. -/
theorem size_of_spans {i j : Int} (hspans : b.Spans i j start stop)
    (h : generate? b start stop zone = some axis) : (axis.size : Int) = j - i + 1 := by
  obtain ⟨hstart, hstop⟩ := hspans.bounds_inCalendar
  have hle : b.index start ≤ b.index stop := by
    rw [hspans.index_start, hspans.index_stop]
    exact hspans.le
  rw [(labels_ends hstart hstop hle h).1, hspans.index_start, hspans.index_stop]

end Axis

namespace Window

variable {w : Window}

theorem exists_spans_of_isSnapped (h : w.IsSnapped) :
    ∃ i j, w.bucket.Spans i j w.utcStart w.utcStop := by
  obtain ⟨u, v, hu, hle, hfirst, hlast⟩ := h
  obtain ⟨hlast, hnext⟩ := Bucket.endOf?_eq_some_iff.mp hlast
  exact ⟨_, _, w.bucket.index_mono hle, by rw [hfirst, Bucket.startOf_eq], hlast,
    Bucket.inCalendar_firstSecond hu, hnext⟩

/-- Before so many whole buckets of fixed length lie as many, if there is room in the calendar. -/
theorem exists_previous?_of_spans {i j : Int} (h : w.bucket.Spans i j w.utcStart w.utcStop)
    {n : Nat} (hn : w.bucket.seconds? = some n)
    (hroom : (ofSecond (w.bucket.firstSecond (i - (j + 1 - i)))).inCalendar = true) :
    ∃ start stop, w.previous? = some (start, stop) ∧
      w.bucket.Spans (i - (j + 1 - i)) (i - 1) start stop := by
  have hstop : (ofSecond (w.bucket.firstSecond i - 1)).inCalendar = true := by
    have hlt := w.bucket.firstSecond_strictMono (show i - (j + 1 - i) < i by
      have := h.le
      omega)
    have hfirst := inCalendar_iff.mp hroom
    have hlast := inCalendar_iff.mp h.start_inCalendar
    rw [inCalendar_iff]
    simp only [ofSecond_second] at *
    omega
  refine ⟨ofSecond (w.bucket.firstSecond (i - (j + 1 - i))), ofSecond (w.bucket.firstSecond i - 1),
    ?_, ?_⟩
  · -- the start comes as many seconds before the stop as lie between the bounds
    have hback : w.bucket.firstSecond i - 1 +
        -(w.bucket.firstSecond (j + 1) - 1 - w.bucket.firstSecond i) =
        w.bucket.firstSecond (i - (j + 1 - i)) := by
      rw [← Bucket.firstSecond_reflect hn]
      ring
    rw [previous?, h.start_eq, h.stop_eq, addSeconds?_ofSecond, ← Int.sub_eq_add_neg,
      checked_eq_some hstop, diff_ofSecond, ← Int.neg_mul]
    show ((ofSecond (w.bucket.firstSecond i - 1)).add? _).bind _ = _
    rw [add?_ofSecond, hback, checked_eq_some hroom]
    rfl
  · refine ⟨?_, rfl, ?_, hroom, ?_⟩
    · have := h.le
      omega
    · rw [sub_add_cancel]
    · rw [sub_add_cancel]
      exact h.start_inCalendar

end Window

/-- A summary with a previous window binds the bounds of that, whatever the filter binds. -/
theorem Query.get?_params_summary (pid : String) (w : Window) (filter : CompiledFilter)
    (start stop : DateTime) :
    (summary pid w filter (some (start, stop))).params.get? "groupFromPrev" =
        some (.text (start.format Pattern.dateTime)) ∧
      (summary pid w filter (some (start, stop))).params.get? "groupToPrev" =
        some (.text (stop.format Pattern.dateTime)) := by
  rw [summary]
  dsimp only
  rw [Dict.get?_insert_of_ne _ (by decide), Dict.get?_insert_self, Dict.get?_insert_self]
  exact ⟨rfl, rfl⟩

namespace Timeframe

variable {zone : Zone} {q : Timeframe} {now : DateTime} {w : Window}

/-- In a UTC zone the windows of pairs of different times, and of periods that reach over whole
buckets, are snapped. -/
theorem isSnapped_of_resolveIn (hzone : zone.Sound) (hutc : zone.isUtc = true) (hnow : now.Valid)
    (hq : (∃ start stop, q.IsPair start stop ∧ start ≠ stop) ∨
      ∃ period, q.IsPeriod period ∧ q.ReachesOverBuckets period)
    (h : q.resolveIn zone now = .ok w) : w.IsSnapped := by
  obtain ⟨start, stop, hpair, hne⟩ | ⟨period, hperiod, hreaches⟩ := hq
  · obtain ⟨hle, -, hresolved⟩ := of_resolveIn_of_isPair hpair h
    obtain ⟨_, _, -, -, hread, -⟩ := hpair
    rw [if_neg hne] at hresolved
    obtain ⟨-, -, hfirst, hlast, -⟩ := resolvePair_eq_ok_iff.mp hresolved
    refine ⟨start, stop, (DateInput.valid_of_read? hread).inCalendar, ?_, hfirst, hlast⟩
    rw [lt_iff] at hle
    omega
  · obtain ⟨hstart, hstop⟩ := readsUtc_of_resolveIn hzone hutc hnow h
    rw [resolveIn_of_isPeriod hperiod] at h
    obtain ⟨nowLocal, hlocal, -, -, hbounds, -, -, hsuits⟩ := resolvePeriod_eq_ok_iff.mp h
    rw [localNow, if_pos hutc] at hlocal
    obtain rfl := Except.ok.inj hlocal
    exact isSnapped_of_localBounds (isWhole_truncate hnow.nano_lt) hreaches hstart hstop hsuits
      hbounds

/-- Four years after the beginning of the calendar there is room for the window before. -/
theorem inCalendar_reflect {i j : Int} (h : w.bucket.Spans i j w.utcStart w.utcStop) {n : Nat}
    (hn : w.bucket.seconds? = some n) (hmany : j - i ≤ 1441)
    (hyear : firstYear + 4 ≤ w.utcStart.date.year) :
    (ofSecond (w.bucket.firstSecond (i - (j + 1 - i)))).inCalendar = true := by
  have hinside : w.utcStart.WellInside :=
    ⟨.inl (by rw [h.start_eq, ofSecond_nano]), h.bounds_inCalendar.1, hyear⟩
  have hday := hinside.le_day
  -- so many buckets of at most a day are fewer days than four years have
  have hlength : w.bucket.firstSecond (j + 1) - w.bucket.firstSecond i ≤ 1442 * 86400 := by
    have hle := Bucket.seconds?_le hn
    rw [Bucket.firstSecond_of_seconds? hn, Bucket.firstSecond_of_seconds? hn, ← Int.sub_mul]
    exact Int.mul_le_mul (by omega) (by omega) (by omega) (by decide)
  have hlt := w.bucket.firstSecond_strictMono (Int.lt_add_one_of_le h.le)
  have hcal := inCalendar_iff.mp h.start_inCalendar
  rw [← Bucket.firstSecond_reflect hn, inCalendar_iff]
  rw [h.start_eq] at hday
  unfold calendarStart DateTime.day secondsPerDay at *
  simp only [ofSecond_second] at *
  omega

/-- **The window before.** In a UTC zone, let a window in minutes, hours or days be that of a pair
of different times or of a period that reaches over whole buckets, four years or more after the
calendar begins.  Then there is a window before it, in whole buckets too, which ends a second before
the other starts.  The axes of both have the same number of points and no label in common, and the
texts that a summary binds for its bounds are read back as those. -/
theorem previous?_of_resolveIn (hzone : zone.Sound) (hutc : zone.isUtc = true) (hnow : now.Valid)
    (hq : (∃ start stop, q.IsPair start stop ∧ start ≠ stop) ∨
      ∃ period, q.IsPeriod period ∧ q.ReachesOverBuckets period)
    (h : q.resolveIn zone now = .ok w)
    (hb : w.bucket = .minute ∨ w.bucket = .hour ∨ w.bucket = .day)
    (hyear : firstYear + 4 ≤ w.utcStart.date.year) :
    ∃ start stop, w.previous? = some (start, stop) ∧
      w.bucket.startOf start = start ∧ w.bucket.endOf? stop = some stop ∧
      stop.addSeconds? 1 = some w.utcStart ∧
      (∃ before axis, Axis.generate? w.bucket start stop zone = some before ∧
        Axis.generate? w.bucket w.utcStart w.utcStop zone = some axis ∧
        before.size = axis.size ∧ before.labels.Disjoint axis.labels) ∧
      ∀ pid filter, ∃ startText stopText,
        (Query.summary pid w filter (some (start, stop))).params.get? "groupFromPrev" =
          some (.text startText) ∧
        (Query.summary pid w filter (some (start, stop))).params.get? "groupToPrev" =
          some (.text stopText) ∧
        DateInput.read? startText = some start ∧ DateInput.read? stopText = some stop := by
  obtain ⟨n, hn⟩ : ∃ n, w.bucket.seconds? = some n := by
    rcases hb with hb | hb | hb <;> rw [hb] <;> exact ⟨_, rfl⟩
  obtain ⟨i, j, hspans⟩ := Window.exists_spans_of_isSnapped
    (isSnapped_of_resolveIn hzone hutc hnow hq h)
  have hmany : j - i ≤ 1441 := by
    have hextent := index_sub_le_of_resolveIn hzone hutc hnow h
    obtain ⟨hstart, hstop⟩ := readsUtc_of_resolveIn hzone hutc hnow h
    rw [hstart, hstop, hspans.index_start, hspans.index_stop] at hextent
    omega
  -- both windows span whole buckets, and everything follows from their numbers
  obtain ⟨start, stop, hprevious, hbefore⟩ :=
    Window.exists_previous?_of_spans hspans hn (inCalendar_reflect hspans hn hmany hyear)
  obtain ⟨hstartCal, hstopCal⟩ := hbefore.bounds_inCalendar
  obtain ⟨hfirstCal, hlastCal⟩ := hspans.bounds_inCalendar
  refine ⟨start, stop, hprevious, hbefore.startOf_start, hbefore.endOf?_stop, ?_, ?_,
    fun pid filter => ?_⟩
  · rw [hbefore.stop_eq, addSeconds?_ofSecond, sub_add_cancel, sub_add_cancel,
      checked_eq_some hspans.start_inCalendar, hspans.start_eq]
  · obtain ⟨before, hbeforeAxis⟩ := Axis.exists_generate?_of_isUtc w.bucket hutc start stop
    obtain ⟨axis, haxis⟩ := Axis.exists_generate?_of_isUtc w.bucket hutc w.utcStart w.utcStop
    refine ⟨before, axis, hbeforeAxis, haxis, ?_, ?_⟩
    · have hsize := Axis.size_of_spans hbefore hbeforeAxis
      have hsize' := Axis.size_of_spans hspans haxis
      omega
    · refine Axis.disjoint_labels hstartCal hstopCal hfirstCal hlastCal ?_ hbeforeAxis haxis
      rw [hbefore.index_stop, hspans.index_start]
      omega
  · obtain ⟨hfrom, hto⟩ := Query.get?_params_summary pid w filter start stop
    exact ⟨_, _, hfrom, hto, DateInput.read?_format hstartCal (by rw [hbefore.start_eq]; rfl),
      DateInput.read?_format hstopCal (by rw [hbefore.stop_eq]; rfl)⟩

/-- The seven days up to 15 March 2024 are preceded by the seven days from 2 March on. -/
theorem previous?_of_resolveIn_sevenDays :
    let zone := Zone.parse (some "UTC")
    let q : Timeframe := ⟨none, none, some "7d", some "UTC", some .day, none⟩
    let now := ofSecond 1710510330
    let w := Window.ofUtc zone .day (ofSecond 1709942400) (ofSecond 1710547199)
    zone.Sound ∧ zone.isUtc = true ∧ now.Valid ∧ q.IsPeriod (.relative 7 .day) ∧
      q.resolveIn zone now = .ok w ∧ firstYear + 4 ≤ w.utcStart.date.year ∧
      w.previous? = some (ofSecond 1709337600, ofSecond 1709942399) ∧
      ∃ before axis,
        Axis.generate? .day (ofSecond 1709337600) (ofSecond 1709942399) zone = some before ∧
        Axis.generate? .day w.utcStart w.utcStop zone = some axis ∧
        before.size = axis.size ∧ before.labels.Disjoint axis.labels := by
  intro zone q now w
  have hzone : zone.Sound := Zone.sound_parse _ _
  have hutc : zone.isUtc = true := by decide +kernel
  have hnow : now.Valid := valid_ofSecond (by decide +kernel)
  have hperiod : q.IsPeriod (.relative 7 .day) := ⟨.inl rfl, "7d", rfl, by decide +kernel⟩
  have hreaches : q.ReachesOverBuckets (.relative 7 .day) := .inr (.inl ⟨7, .day, rfl⟩)
  have h : q.resolveIn zone now = .ok w := by decide +kernel
  have hyear : firstYear + 4 ≤ w.utcStart.date.year := by decide +kernel
  have hprevious : w.previous? = some (ofSecond 1709337600, ofSecond 1709942399) := by
    decide +kernel
  obtain ⟨start, stop, hsame, -, -, -, haxes, -⟩ := previous?_of_resolveIn hzone hutc hnow
    (.inr ⟨_, hperiod, hreaches⟩) h (.inr (.inr rfl)) hyear
  obtain ⟨rfl, rfl⟩ := Prod.mk.inj (Option.some.inj (hsame.symm.trans hprevious))
  exact ⟨hzone, hutc, hnow, hperiod, h, hyear, hprevious, haxes⟩

/-- February and March 2024 have sixty days, and sixty days before them no month begins. -/
example :
    let w := Window.ofUtc Zone.fallback .month (ofSecond 1706745600) (ofSecond 1711929599)
    w.previous? = some (ofSecond 1701561600, ofSecond 1706745599) ∧
      Bucket.month.startOf (ofSecond 1701561600) ≠ ofSecond 1701561600 := by
  decide +kernel

end Timeframe

end SiteAnalytics
