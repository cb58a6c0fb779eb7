import SiteAnalytics.Proofs.Calendar.Text
import SiteAnalytics.Proofs.Window.Bounds

/-!
# Windows that fit their bucket

A window is legal if its bucket is one of those that the staircase allows for its length.  Periods
are checked after they are snapped, so their windows always are.  An explicit pair is checked as it
is given and snapped afterwards, and snapping can lengthen it past the last day that its bucket
covers; `legal_iff_of_resolveIn` says when it does.

The window of a pair reports bounds that can be asked for again.  They are snapped already, so this
time the check sees the window itself: what is legal comes back as it is, and nothing else does.
-/

namespace SiteAnalytics

open DateTime

namespace Bucket

/-- The greatest number of whole days that a bucket covers. -/
def longest : Bucket → Int
  | minute => 0
  | hour => 7
  | day => 28
  | month => 1464
  | year => 99999

/-- Once a range is snapped, its bucket is never too coarse for it, except for a day that is cut
into days. -/
theorem suits_snappedDays_iff {b : Bucket} {t u : DateTime} (ht : t.Valid) (hu : u.Valid)
    (hle : t.second ≤ u.second) (h : b.Suits (dayDiff t u)) :
    b.Suits (snappedDays t u b) ↔
      snappedDays t u b ≤ b.longest ∧ (b = .day → t.day < u.day) := by
  cases b with
  | minute => simp [Suits, longest]
  | hour => simp [Suits, longest]
  | day =>
    have hdays : snappedDays t u .day = u.day - t.day := by
      rw [snappedDays_eq, snappedDays_day]
      rfl
    simp only [Suits, longest, hdays, true_implies]
    omega
  | month =>
    have hdays := (snappedDays_month_bounds hle).1
    rw [← snappedDays_eq] at hdays
    simp [Suits, longest, hdays]
  | year =>
    have hsecond := lt_second_of_le_dayDiff ht hu (by decide) h.1
    have hdays : 733 ≤ snappedDays t u .year := snappedDays_year_ge (by
      unfold DateTime.day secondsPerDay at *
      omega)
    simp [Suits, longest, hdays]

end Bucket

namespace Window

/-- The bucket of the window is one of those that the staircase allows for its length. -/
def Legal (w : Window) : Prop :=
  ∃ fitting, Bucket.allowed (Bucket.dayDiff w.utcStart w.utcStop) = .ok fitting ∧
    w.bucket ∈ fitting

theorem legal_iff_suits {w : Window} :
    w.Legal ↔ w.bucket.Suits (Bucket.dayDiff w.utcStart w.utcStop) :=
  Bucket.mem_allowed_iff

end Window

namespace Timeframe

/-! ### Bounds of a pair -/

/-- The window of a pair of different times reaches from the first second of one bucket to the last
of another. -/
theorem bounds_of_resolvePair {zone : Zone} {b : Bucket} {start stop : DateTime} {w : Window}
    (h : resolvePair zone b start stop = .ok w) :
    w.utcStart = ofSecond (b.firstSecond (b.index start)) ∧
      w.utcStop = ofSecond (b.firstSecond (b.index stop + 1) - 1) ∧
      (ofSecond (b.firstSecond (b.index stop + 1))).inCalendar = true := by
  obtain ⟨-, -, hstart, hstop, -, -⟩ := resolvePair_eq_ok_iff.mp h
  rw [Bucket.endOf?_eq] at hstop
  split_ifs at hstop with hcal
  exact ⟨by rw [hstart, Bucket.startOf_eq], (Option.some.inj hstop).symm, hcal⟩

theorem firstSecond_lt_of_le {b : Bucket} {start stop : DateTime}
    (hle : start.second ≤ stop.second) :
    b.firstSecond (b.index start) < b.firstSecond (b.index stop + 1) - 1 := by
  have hmono := b.firstSecond_strictMono.monotone (b.index_mono hle)
  have hlength := b.firstSecond_add_sixty_le (b.index stop)
  omega

theorem dayDiff_of_resolvePair {zone : Zone} {b : Bucket} {start stop : DateTime} {w : Window}
    (hle : start.second ≤ stop.second) (h : resolvePair zone b start stop = .ok w) :
    Bucket.dayDiff w.utcStart w.utcStop = Bucket.snappedDays start stop b := by
  obtain ⟨hstart, hstop, -⟩ := bounds_of_resolvePair h
  rw [hstart, hstop, Bucket.dayDiff_ofSecond (firstSecond_lt_of_le hle).le, Bucket.snappedDays]

/-- The bounds of the window lie in the buckets of the pair. -/
theorem index_of_resolvePair {zone : Zone} {b : Bucket} {start stop : DateTime} {w : Window}
    (h : resolvePair zone b start stop = .ok w) :
    b.index w.utcStart = b.index start ∧ b.index w.utcStop = b.index stop := by
  obtain ⟨hstart, hstop, -⟩ := bounds_of_resolvePair h
  have hlength := b.firstSecond_add_sixty_le (b.index stop)
  rw [hstart, Bucket.index_firstSecond]
  refine ⟨rfl, Bucket.index_eq_of_bracket ?_ ?_⟩ <;> rw [hstop, ofSecond_second] <;> omega

/-- The bounds of a window, resolved again, are snapped to themselves. -/
theorem resolvePair_again {zone : Zone} {b : Bucket} {start stop : DateTime} {w : Window}
    (h : resolvePair zone b start stop = .ok w) :
    resolvePair zone w.bucket w.utcStart w.utcStop = .ok w := by
  obtain ⟨hstart, hstop, hcal⟩ := bounds_of_resolvePair h
  obtain ⟨hfirst, hlast⟩ := index_of_resolvePair h
  obtain ⟨rfl, hzone, -, -, hlocalStart, hlocalStop⟩ := resolvePair_eq_ok_iff.mp h
  refine resolvePair_eq_ok_iff.mpr ⟨rfl, hzone, ?_, ?_, hlocalStart, hlocalStop⟩
  · rw [Bucket.startOf_eq, hfirst, hstart]
  · rw [Bucket.endOf?_eq, hlast, if_pos hcal, hstop]

/-! ### Resolving again -/

/-- The timeframe that asks for the reported bounds of a window, with its bucket. -/
def again (q : Timeframe) (w : Window) : Timeframe :=
  { q with start := some w.startText, stop := some w.stopText, bucket := some w.bucket }

theorem isPair_again (q : Timeframe) {zone : Zone} {b : Bucket} {start stop : DateTime} {w : Window}
    (hle : start.second ≤ stop.second) (hcal : start.inCalendar = true)
    (h : resolvePair zone b start stop = .ok w) {s e : DateTime} :
    (q.again w).IsPair s e ↔ s = w.utcStart ∧ e = w.utcStop := by
  obtain ⟨hstart, hstop, hnext⟩ := bounds_of_resolvePair h
  have hlt := firstSecond_lt_of_le (b := b) hle
  have hfirst := Bucket.inCalendar_firstSecond (b := b) hcal
  have hlast : (ofSecond (b.firstSecond (b.index stop + 1) - 1)).inCalendar = true := by
    rw [inCalendar_iff] at hfirst hnext ⊢
    simp only [ofSecond_second] at *
    omega
  -- the texts are those of date-times of the calendar, and so they are read back
  have hreadStart : DateInput.read? w.startText = some w.utcStart := by
    rw [Window.startText, hstart]
    exact DateInput.read?_format hfirst rfl
  have hreadStop : DateInput.read? w.stopText = some w.utcStop := by
    rw [Window.stopText, hstop]
    exact DateInput.read?_format hlast rfl
  constructor
  · rintro ⟨_, _, ⟨⟩, ⟨⟩, hs, he⟩
    rw [hreadStart] at hs
    rw [hreadStop] at he
    exact ⟨(Option.some.inj hs).symm, (Option.some.inj he).symm⟩
  · rintro ⟨rfl, rfl⟩
    exact ⟨_, _, rfl, rfl, hreadStart, hreadStop⟩

theorem resolveIn_again_iff (q : Timeframe) {zone : Zone} {b : Bucket} {start stop : DateTime}
    {w : Window} (hle : start.second ≤ stop.second) (hcal : start.inCalendar = true)
    (h : resolvePair zone b start stop = .ok w) (later : DateTime) :
    (q.again w).resolveIn zone later = .ok w ↔ w.Legal := by
  have hpair {s e : DateTime} := isPair_again q (s := s) (e := e) hle hcal h
  obtain ⟨hstart, hstop, -⟩ := bounds_of_resolvePair h
  have hlt := firstSecond_lt_of_le (b := b) hle
  have hne : w.utcStart ≠ w.utcStop := by
    intro heq
    have hsecond := congrArg DateTime.second heq
    rw [hstart, hstop] at hsecond
    simp only [ofSecond_second] at hsecond
    omega
  have hnot : ¬w.utcStop < w.utcStart := by
    rw [hstart, hstop, lt_ofSecond_iff, ofSecond_second]
    omega
  rw [Window.legal_iff_suits, ← pairBucket_some_eq_ok_iff, resolveIn_eq_ok_iff]
  constructor
  · rintro (⟨s, e, hse, -, hbucket, -⟩ | ⟨period, ⟨hnone, -⟩, -⟩)
    · obtain ⟨rfl, rfl⟩ := hpair.mp hse
      exact hbucket
    · simp [again] at hnone
  · intro hbucket
    refine .inl ⟨_, _, hpair.mpr ⟨rfl, rfl⟩, hnot, hbucket, ?_⟩
    rw [if_neg hne]
    exact resolvePair_again h

/-! ### Legal windows -/

/-- The window of a pair is legal iff it is not longer than its bucket covers, and a window of days
has two days at least. -/
theorem legal_iff_of_isPair {start stop : DateTime} (hstart : start.Valid) (hstop : stop.Valid)
    (hle : ¬stop < start) {bucket : Option Bucket} {zone : Zone} {w : Window}
    (hbucket : pairBucket bucket start stop = .ok w.bucket)
    (h : (if start = stop then resolveDay zone w.bucket start
      else resolvePair zone w.bucket start stop) = .ok w) :
    w.Legal ↔ Bucket.dayDiff w.utcStart w.utcStop ≤ w.bucket.longest ∧
      (w.bucket = .day → start.day < stop.day) := by
  have hsuits := suits_of_pairBucket hbucket
  rw [Window.legal_iff_suits]
  split_ifs at h with heq
  · -- a single day is cut into minutes or hours
    subst heq
    have hzero : Bucket.dayDiff start start = 0 := by
      rw [Bucket.dayDiff, diff_self]
      rfl
    rw [hzero] at hsuits
    cases hb : w.bucket with
    | minute => simp [Bucket.Suits, Bucket.longest]
    | hour => simp [Bucket.Suits, Bucket.longest]
    | _ =>
      rw [hb] at hsuits
      simp [Bucket.Suits] at hsuits
  · rw [lt_iff] at hle
    rw [dayDiff_of_resolvePair (by omega) h]
    exact Bucket.suits_snappedDays_iff hstart hstop (by omega) hsuits

/-- **Legal windows.** The window of a period is legal.  That of an explicit pair is legal iff it is
not longer than its bucket covers, and a window of days has two days at least; and for a pair of
different times the reported bounds, asked for again with the bucket of the window, give the window
again iff it is legal. -/
theorem legal_iff_of_resolveIn {zone : Zone} {q : Timeframe} {now : DateTime} {w : Window}
    (h : q.resolveIn zone now = .ok w) :
    (∀ period, q.IsPeriod period → w.Legal) ∧
      ∀ start stop, q.IsPair start stop →
        (w.Legal ↔ Bucket.dayDiff w.utcStart w.utcStop ≤ w.bucket.longest ∧
          (w.bucket = .day → start.day < stop.day)) ∧
        (start ≠ stop → ∀ later, (q.again w).resolveIn zone later = .ok w ↔ w.Legal) := by
  constructor
  · intro period hperiod
    rw [resolveIn_of_isPeriod hperiod, resolvePeriod_eq_ok_iff] at h
    obtain ⟨_, -, -, -, -, -, -, hsuits⟩ := h
    exact Window.legal_iff_suits.mpr hsuits
  · intro start stop hpair
    obtain ⟨hle, hbucket, h⟩ := of_resolveIn_of_isPair hpair h
    obtain ⟨s, e, -, -, hstart, hstop⟩ := hpair
    have hvalid := DateInput.valid_of_read? hstart
    refine ⟨legal_iff_of_isPair hvalid (DateInput.valid_of_read? hstop) hle hbucket h, ?_⟩
    intro hne later
    rw [if_neg hne] at h
    rw [lt_iff] at hle
    exact resolveIn_again_iff q (by omega) hvalid.inCalendar h later

/-- A week cut into days is legal, and can be asked for again at any time. -/
theorem legal_iff_of_resolveIn_week :
    let q : Timeframe :=
      ⟨some "2024-01-01", some "2024-01-07 12:00", none, some "UTC", some .day, none⟩
    let w := Window.ofUtc ⟨"UTC", .constant 0, true⟩ .day (ofSecond 1704067200)
      (ofSecond 1704671999)
    let start := ofSecond 1704067200
    let stop := ofSecond 1704628800
    q.resolveIn w.zone stop = .ok w ∧ q.IsPair start stop ∧ start ≠ stop ∧ w.Legal ∧
      ∀ later, (q.again w).resolveIn w.zone later = .ok w := by
  intro q w start stop
  have h : q.resolveIn w.zone stop = .ok w := by decide +kernel
  have hpair : q.IsPair start stop :=
    ⟨_, _, rfl, rfl, by decide +kernel, by decide +kernel⟩
  have hne : start ≠ stop := by decide
  obtain ⟨hlegal, hagain⟩ := (legal_iff_of_resolveIn h).2 start stop hpair
  have hw : w.Legal := hlegal.mpr ⟨by decide +kernel, fun _ => by decide⟩
  exact ⟨h, hpair, hne, hw, fun later => (hagain hne later).mpr hw⟩

/-- A pair of times less than a day apart may be cut into minutes.  Snapped to them it is a day and
a minute long, and asked for again it is rejected. -/
theorem resolve_pair_not_legal :
    let q : Timeframe :=
      ⟨some "2024-01-01 00:00:30", some "2024-01-02 00:00:10", none, some "UTC", some .minute, none⟩
    let now := ofSecond 1710510330
    let w := Window.ofUtc ⟨"UTC", .constant 0, true⟩ .minute (ofSecond 1704067200)
      (ofSecond 1704153659)
    q.resolve now = .ok w ∧ ¬w.Legal ∧
      (q.again w).resolve now = .error (.invalid (.bucketNotAllowed .minute 1)) := by
  intro q now w
  refine ⟨by decide +kernel, ?_, by decide +kernel⟩
  rw [Window.legal_iff_suits]
  show ¬Bucket.dayDiff (ofSecond 1704067200) (ofSecond 1704153659) ≤ 0
  decide +kernel

end Timeframe

end SiteAnalytics
