import SiteAnalytics.Proofs.Axis.Dense
import SiteAnalytics.Proofs.Zone.Settled

/-!
# The labels of an axis in UTC

The points of an axis follow one another on the wall clock, and each of them has a label in UTC,
that of the bucket in which its instant lies.  By how many buckets this one comes before that of the
point is told by the offset alone (`index_instant`).  So the labels in UTC go on with the points for
as long as that number does not grow from one point to the next (`utcLabels_increasing_iff`).  It
grows where the clock is set forward past the start of a bucket: there two points have one label, as
the first day of summer time and the day after it have in London (`utcLabels_london`).
-/

namespace SiteAnalytics

open Calendar DateTime

/-! ### Instants of readings -/

namespace Zone

/-- The instant that stands for a reading of the zone's clock; the reading itself if there is
none. -/
def instant (z : Zone) (wall : DateTime) : DateTime :=
  if z.isUtc then wall else (z.localToUtc? wall).getD wall

/-- By how many seconds a reading is ahead of the instant that stands for it. -/
def ahead (z : Zone) (wall : DateTime) : Int := wall.second - (z.instant wall).second

variable {z : Zone} {s : Int}

/-- A reading is ahead by the offset in force at its instant, and a skipped one by an hour less. One
that is skipped even an hour later is not ahead, and neither is any reading of UTC. -/
theorem ahead_cases (hordered : z.clock.Ordered) (hs : (ofSecond s).inCalendar = true) :
    z.ahead (ofSecond s) = z.clock.offsetAt (z.instant (ofSecond s)).second ∨
      z.ahead (ofSecond s) = z.clock.offsetAt (z.instant (ofSecond s)).second - 3600 ∨
      z.ahead (ofSecond s) = 0 := by
  rw [ahead, instant, ofSecond_second]
  split_ifs
  · exact .inr (.inr (sub_self s))
  · cases h : z.localToUtc? (ofSecond s) with
    | none => exact .inr (.inr (sub_self s))
    | some utc =>
      rw [Option.getD_some]
      -- the reading is shown, or it is so an hour later, or it stands for itself
      obtain hshown | ⟨-, hcal, hshown | ⟨-, rfl⟩⟩ := Clock.localToUtc?_cases h
      · have hreading := (Clock.reading_of_firstInstant? hordered hs hshown).1
        rw [Clock.reading, ofSecond_second] at hreading
        omega
      · have hreading := (Clock.reading_of_firstInstant? hordered hcal hshown).1
        rw [Clock.reading, ofSecond_second] at hreading
        omega
      · exact .inr (.inr (sub_self s))

/-- No reading is ahead or behind by more than an offset and an hour. -/
theorem ahead_bounds (hordered : z.clock.Ordered)
    (hday : ∀ s, -86400 ≤ z.clock.offsetAt s ∧ z.clock.offsetAt s ≤ 86400)
    (hs : (ofSecond s).inCalendar = true) :
    -90000 ≤ z.ahead (ofSecond s) ∧ z.ahead (ofSecond s) ≤ 86400 := by
  have hcases := ahead_cases hordered hs
  have hoffset := hday (z.instant (ofSecond s)).second
  omega

/-- The offset of the zone is the same from a day before one second to a day after another. -/
def UnchangedBetween (z : Zone) (first last : Int) : Prop :=
  ∃ offset, ∀ s, first - 86400 ≤ s → s ≤ last + 86400 → z.clock.offsetAt s = offset

/-- Where the offset does not change, every reading is ahead by it. -/
theorem ahead_of_unchanged (hordered : z.clock.Ordered)
    (hday : ∀ s, -86400 ≤ z.clock.offsetAt s ∧ z.clock.offsetAt s ≤ 86400)
    (hutc : z.isUtc = false) {offset : Int}
    (hsame : ∀ i, s - 86400 ≤ i → i ≤ s + 86400 → z.clock.offsetAt i = offset)
    (hcal : (ofSecond (s - offset)).inCalendar = true) : z.ahead (ofSecond s) = offset := by
  have hfirst := Clock.firstInstant?_of_unchanged hordered hday hsame hcal
  rw [ahead, instant, if_neg (by simp [hutc]), localToUtc?, Clock.localToUtc?, hfirst]
  dsimp only [Option.getD_some, ofSecond_second]
  omega

end Zone

/-! ### Buckets ahead -/

namespace Bucket

/-- By how many buckets the start of one is ahead of its instant, if it is so many seconds ahead:
the seconds in buckets, rounded up.  Months and years are longer than any offset. -/
def bucketsAhead (b : Bucket) (seconds : Int) : Int :=
  match b with
  | minute => -(-seconds / 60)
  | hour => -(-seconds / 3600)
  | day => -(-seconds / secondsPerDay)
  | month | year => if 0 < seconds then 1 else 0

theorem index_ofSecond (b : Bucket) (t : DateTime) : b.index (ofSecond t.second) = b.index t := by
  cases b <;> rfl

/-- Before the start of a long bucket comes the one before it, and after the start the bucket
itself. -/
theorem index_sub_of_long {b : Bucket}
    (hlong : ∀ i, b.firstSecond i + 28 * 86400 ≤ b.firstSecond (i + 1)) {i seconds : Int}
    (h₁ : -(28 * 86400) < seconds) (h₂ : seconds ≤ 28 * 86400) :
    b.index (ofSecond (b.firstSecond i - seconds)) = i - if 0 < seconds then 1 else 0 := by
  have hbefore := hlong (i - 1)
  have hafter := hlong i
  rw [sub_add_cancel] at hbefore
  -- no less than a bucket comes before the start, and no less after it
  split_ifs
  · apply index_eq_of_bracket
    · rw [ofSecond_second]
      omega
    · rw [ofSecond_second, sub_add_cancel]
      omega
  · rw [sub_zero]
    apply index_eq_of_bracket
    · rw [ofSecond_second]
      omega
    · rw [ofSecond_second]
      omega

/-- Some seconds before the start of a bucket lies the bucket that comes so many before it. -/
theorem index_sub (b : Bucket) {i seconds : Int} (h₁ : -(28 * 86400) < seconds)
    (h₂ : seconds ≤ 28 * 86400) :
    b.index (ofSecond (b.firstSecond i - seconds)) = i - b.bucketsAhead seconds := by
  -- short buckets are divided, and the long ones are longer than any offset
  cases b with
  | minute =>
    simp only [index, firstSecond, bucketsAhead, ofSecond_second]
    omega
  | hour =>
    simp only [index, firstSecond, bucketsAhead, ofSecond_second]
    omega
  | day =>
    simp only [index, firstSecond, bucketsAhead, DateTime.day, secondsPerDay, ofSecond_second]
    omega
  | month =>
    refine index_sub_of_long (fun i => ?_) h₁ h₂
    have hlength := (monthFirst_add_bounds i 1).1
    rw [Nat.cast_one] at hlength
    simp only [firstSecond, secondsPerDay]
    omega
  | year =>
    refine index_sub_of_long (fun i => ?_) h₁ h₂
    have hlength := yearStart_succ i
    unfold yearLength at hlength
    simp only [firstSecond, secondsPerDay]
    split_ifs at hlength <;> omega

/-- The instant of the start of a bucket lies in the bucket that comes as many before it as the zone
is ahead. -/
theorem index_instant (b : Bucket) {zone : Zone} (hordered : zone.clock.Ordered)
    (hday : ∀ s, -86400 ≤ zone.clock.offsetAt s ∧ zone.clock.offsetAt s ≤ 86400) {i : Int}
    (hcal : (ofSecond (b.firstSecond i)).inCalendar = true) :
    b.index (zone.instant (ofSecond (b.firstSecond i))) =
      i - b.bucketsAhead (zone.ahead (ofSecond (b.firstSecond i))) := by
  have hbounds := Zone.ahead_bounds hordered hday hcal
  have hsecond : (zone.instant (ofSecond (b.firstSecond i))).second =
      b.firstSecond i - zone.ahead (ofSecond (b.firstSecond i)) := by
    rw [Zone.ahead, ofSecond_second, sub_sub_cancel]
  rw [← index_ofSecond, hsecond, b.index_sub (by omega) (by omega)]

/-! ### Labels that increase -/

/-- The labels are those of starts of buckets, each later than the one before. -/
def Increasing (b : Bucket) (labels : List String) : Prop :=
  ∃ starts : List DateTime, labels = starts.map b.label ∧ (∀ t ∈ starts, b.startOf t = t) ∧
    starts.Pairwise (· < ·)

theorem Increasing.nodup {b : Bucket} {labels : List String} (h : b.Increasing labels) :
    labels.Nodup := by
  obtain ⟨starts, rfl, hstarts, hincreasing⟩ := h
  rw [List.Nodup, List.pairwise_map]
  -- one label is one bucket, and of one bucket there is but one start
  refine hincreasing.imp_of_mem fun {t u} ht hu hlt hlabel => ?_
  rw [← hstarts t ht, ← hstarts u hu, startOf_lt_startOf_iff] at hlt
  exact hlt.ne (index_eq_of_label_eq hlabel)

/-- Labels increase iff the numbers of their buckets do. -/
theorem increasing_map_label_iff {b : Bucket} {ts : List DateTime} :
    b.Increasing (ts.map b.label) ↔ (ts.map b.index).Pairwise (· < ·) := by
  constructor
  · rintro ⟨starts, hlabels, hstarts, hincreasing⟩
    -- the same labels are those of the same buckets
    have hindex : ts.map b.index = starts.map b.index := by
      apply List.ext_getElem
      · simpa using congrArg List.length hlabels
      · intro i h₁ h₂
        rw [List.length_map] at h₁ h₂
        rw [List.getElem_map, List.getElem_map]
        apply index_eq_of_label_eq
        simpa [h₁, h₂] using congrArg (·[i]?) hlabels
    rw [hindex, List.pairwise_map]
    refine hincreasing.imp_of_mem fun {t u} ht hu hlt => ?_
    rw [← hstarts t ht, ← hstarts u hu, startOf_lt_startOf_iff] at hlt
    exact hlt
  · intro hincreasing
    refine ⟨ts.map b.startOf, ?_, ?_, ?_⟩
    · rw [List.map_map]
      refine List.map_congr_left fun t _ => ?_
      rw [Function.comp_apply, label_eq_label_iff, b.index_startOf]
    · intro t ht
      obtain ⟨u, -, rfl⟩ := List.mem_map.mp ht
      exact b.startOf_startOf u
    · rw [List.pairwise_map] at hincreasing ⊢
      exact hincreasing.imp fun h => startOf_lt_startOf_iff.mpr h

end Bucket

namespace Axis

variable {b : Bucket} {start stop : DateTime} {zone : Zone} {axis : Axis}

/-- A label in UTC is that of the instant of its point. -/
theorem utcLabel?_eq_some {t : DateTime} {label : String} (h : utcLabel? b zone t = some label) :
    label = b.label (zone.instant t) := by
  rw [utcLabel?] at h
  rw [Zone.instant]
  split_ifs at h ⊢
  · exact (Option.some.inj h).symm
  · obtain ⟨utc, hutc, rfl⟩ := Option.map_eq_some_iff.mp h
    rw [hutc, Option.getD_some]

/-- The labels in UTC are those of the instants of the points. -/
theorem utcLabels_eq (h : generate? b start stop zone = some axis) :
    axis.utcLabels = ((points b start stop).map zone.instant).map b.label := by
  have hutc := utcLabels_of_generate? h
  -- every point has its label, since the axis exists
  apply List.map_injective_iff.mpr fun _ _ => Option.some.inj
  rw [← hutc, List.map_map, List.map_map]
  refine List.map_congr_left fun t ht => ?_
  obtain ⟨label, -, hlabel⟩ := List.mem_map.mp (hutc ▸ List.mem_map_of_mem ht)
  rw [← hlabel, utcLabel?_eq_some hlabel.symm]
  rfl

/-- The points of an axis are consecutive buckets. -/
theorem isChain_points (b : Bucket) (hstart : start.inCalendar = true)
    (hstop : stop.inCalendar = true) :
    (points b start stop).IsChain fun t u => b.index u = b.index t + 1 := by
  rw [points_eq b hstart hstop, List.isChain_map, List.isChain_range]
  intro k _
  rw [b.index_firstSecond, b.index_firstSecond, Nat.cast_succ, add_assoc]

/-- Where the offset does not change, all points of an axis are ahead by the same. -/
theorem isChain_ahead_of_unchanged (hordered : zone.clock.Ordered)
    (hday : ∀ s, -86400 ≤ zone.clock.offsetAt s ∧ zone.clock.offsetAt s ≤ 86400)
    (hfirst : (b.startOf start).DayFromEnds) (hstart : start.inCalendar = true)
    (hstop : stop.DayFromEnds)
    (hsame : zone.UnchangedBetween (b.startOf start).second stop.second) :
    (points b start stop).IsChain fun t u =>
      b.bucketsAhead (zone.ahead u) ≤ b.bucketsAhead (zone.ahead t) := by
  obtain ⟨offset, hsame⟩ := hsame
  -- all points are ahead by one and the same number of seconds
  obtain ⟨ahead, hahead⟩ : ∃ ahead, ∀ t ∈ points b start stop, zone.ahead t = ahead := by
    cases hutc : zone.isUtc with
    | true => exact ⟨0, fun t _ => by rw [Zone.ahead, Zone.instant, if_pos hutc, sub_self]⟩
    | false =>
      refine ⟨offset, fun t ht => ?_⟩
      obtain ⟨i, h₁, h₂, rfl⟩ := (mem_points_iff hstart hstop.inCalendar).mp ht
      have hlo := b.firstSecond_strictMono.monotone h₁
      have hhi := (b.firstSecond_le_iff i stop).mpr h₂
      have hafter := hfirst.second_bounds
      have hbefore := hstop.second_bounds
      rw [b.startOf_eq, ofSecond_second] at hafter hsame
      have hoffset := hday (b.firstSecond i)
      rw [hsame _ (by omega) (by omega)] at hoffset
      refine Zone.ahead_of_unchanged hordered hday hutc
        (fun s h₁ h₂ => hsame s (by omega) (by omega)) ?_
      rw [inCalendar_iff, ofSecond_second]
      omega
  rw [List.isChain_iff_getElem]
  intro k hk
  rw [hahead _ (List.getElem_mem _), hahead _ (List.getElem_mem _)]

/-- **Labels in UTC.** The labels of an axis in UTC are all different, and each denotes a later time
than the one before, exactly if from no point of the axis to the next one the zone gets ahead by
more buckets.  So they do where the offset of the zone does not change.  What is asked of the clock
holds for every zone that a request can name (`Zone.sound_parse`, `Zone.settles_parse`). -/
theorem utcLabels_increasing_iff (hordered : zone.clock.Ordered)
    (hday : ∀ s, -86400 ≤ zone.clock.offsetAt s ∧ zone.clock.offsetAt s ≤ 86400)
    (hstart : start.inCalendar = true) (hstop : stop.inCalendar = true)
    (h : generate? b start stop zone = some axis) :
    (axis.utcLabels.Nodup ∧ b.Increasing axis.utcLabels ↔
      (points b start stop).IsChain fun t u =>
        b.bucketsAhead (zone.ahead u) ≤ b.bucketsAhead (zone.ahead t)) ∧
    ((b.startOf start).DayFromEnds → stop.DayFromEnds →
      zone.UnchangedBetween (b.startOf start).second stop.second →
      axis.utcLabels.Nodup ∧ b.Increasing axis.utcLabels) := by
  have hindex (t : DateTime) (ht : t ∈ points b start stop) :
      b.index (zone.instant t) = b.index t - b.bucketsAhead (zone.ahead t) := by
    obtain ⟨i, h₁, h₂, rfl⟩ := (mem_points_iff hstart hstop).mp ht
    rw [b.index_firstSecond]
    exact b.index_instant hordered hday
      (Bucket.inCalendar_firstSecond_of_between hstart hstop h₁ h₂)
  have hsteps := isChain_points b hstart hstop
  have hiff : axis.utcLabels.Nodup ∧ b.Increasing axis.utcLabels ↔
      (points b start stop).IsChain fun t u =>
        b.bucketsAhead (zone.ahead u) ≤ b.bucketsAhead (zone.ahead t) := by
    rw [and_iff_right_of_imp Bucket.Increasing.nodup, utcLabels_eq h,
      Bucket.increasing_map_label_iff, ← List.isChain_iff_pairwise, List.isChain_map,
      List.isChain_map, List.isChain_iff_getElem, List.isChain_iff_getElem]
    rw [List.isChain_iff_getElem] at hsteps
    -- the bucket goes on by one less what the zone gets further ahead
    refine forall₂_congr fun k hk => ?_
    have hstep := hsteps k hk
    rw [hindex _ (List.getElem_mem _), hindex _ (List.getElem_mem _)]
    omega
  exact ⟨hiff, fun hfirst hlast hsame =>
    hiff.mpr (isChain_ahead_of_unchanged hordered hday hfirst hstart hlast hsame)⟩

/-- In the night in which New York goes back to standard time, the hours on the wall clock have
labels that increase, for the zone gets no further ahead. -/
theorem utcLabels_increasing_iff_newYork :
    let zone := Zone.parse (some "America/New_York")
    let start := ofSecond 1730592000
    let stop := ofSecond 1730606400
    zone.clock.Ordered ∧ (∀ s, -86400 ≤ zone.clock.offsetAt s ∧ zone.clock.offsetAt s ≤ 86400) ∧
      start.inCalendar = true ∧ stop.inCalendar = true ∧
      ∃ axis, generate? .hour start stop zone = some axis ∧
        axis.utcLabels.Nodup ∧ Bucket.hour.Increasing axis.utcLabels := by
  intro zone start stop
  have hordered : zone.clock.Ordered := (Zone.sound_parse _ _).ordered
  have hday := (Zone.settles_parse (some "America/New_York") .listed).le_day
  have hstart : start.inCalendar = true := by decide +kernel
  have hstop : stop.inCalendar = true := by decide +kernel
  have hsome : (generate? .hour start stop zone).isSome := by decide +kernel
  obtain ⟨axis, haxis⟩ := Option.isSome_iff_exists.mp hsome
  refine ⟨hordered, hday, hstart, hstop, axis, haxis, ?_⟩
  exact (utcLabels_increasing_iff hordered hday hstart hstop haxis).1.mpr (by decide +kernel)

/-- The first day of summer time in London begins at midnight in UTC and the day after it an hour
before midnight, so that both have the label of the same day. -/
theorem utcLabels_london :
    let axis : Axis := ⟨.day, ["2024-03-31", "2024-04-01"], ["2024-03-31", "2024-03-31"]⟩
    generate? .day (ofSecond 1711843200) (ofSecond 1711929600)
        (Zone.parse (some "Europe/London")) = some axis ∧
      ¬axis.utcLabels.Nodup ∧ ¬Bucket.day.Increasing axis.utcLabels := by
  intro axis
  have hdup : ¬axis.utcLabels.Nodup := by decide +kernel
  exact ⟨by decide +kernel, hdup, fun h => hdup h.nodup⟩

end Axis

end SiteAnalytics
