import SiteAnalytics.Proofs.Axis.Label
import SiteAnalytics.Proofs.Bucket.Partition

/-!
# Axes without gaps

An axis has one point for every bucket between its bounds and no others (`generate?_dense`).  The
walk that lays them out ends by itself: the number of buckets, by which it is bounded, is the number
of steps it takes (`pointsFrom_of_countBetween_le`).  The points are reached from the first one step
by step (`after?_startOf`), and each is found at its own place by its label.
-/

namespace SiteAnalytics

open Calendar DateTime

namespace DateTime

/-- The calendar has a day before that of the date-time and one after it. -/
def DayFromEnds (t : DateTime) : Prop := (t.addDays? (-1)).isSome ∧ (t.addDays? 1).isSome

instance (t : DateTime) : Decidable t.DayFromEnds := inferInstanceAs (Decidable (_ ∧ _))

theorem isSome_addDays?_iff {t : DateTime} {n : Int} :
    (t.addDays? n).isSome ↔ Calendar.inCalendar (t.day + n) = true := by
  rw [addDays?, Option.isSome_map, Calendar.addDays?]
  split_ifs with h <;> simp [h]

/-- A date-time a day from the ends keeps a day's seconds from them. -/
theorem DayFromEnds.second_bounds {t : DateTime} (h : t.DayFromEnds) :
    calendarStart + 86400 ≤ t.second ∧ t.second + 86400 < calendarStop := by
  obtain ⟨hbefore, hafter⟩ := h
  rw [isSome_addDays?_iff] at hbefore hafter
  unfold Calendar.inCalendar at hbefore hafter
  unfold calendarStart calendarStop DateTime.day secondsPerDay at *
  simp only [Bool.and_eq_true, decide_eq_true_eq] at hbefore hafter
  omega

theorem DayFromEnds.inCalendar {t : DateTime} (h : t.DayFromEnds) : t.inCalendar = true := by
  have hbounds := h.second_bounds
  rw [inCalendar_iff]
  omega

/-- What begins no later than a day before the end of the calendar has an hour after it. -/
theorem DayFromEnds.isSome_addSeconds? {t : DateTime} (h : t.DayFromEnds) {s : Int}
    (hs : (ofSecond s).inCalendar = true) (hle : s ≤ t.second) :
    ((ofSecond s).addSeconds? 3600).isSome := by
  have hbounds := h.second_bounds
  rw [inCalendar_iff, ofSecond_second] at hs
  rw [isSome_addSeconds?_ofSecond_iff]
  omega

end DateTime

namespace Bucket

/-- The time `n` steps after `t`, each a unit long. -/
def after? (b : Bucket) : Nat → DateTime → Option DateTime
  | 0, t => some t
  | n + 1, t => (b.next? t).bind (b.after? n)

/-- As many steps lead as many buckets on, within the calendar. -/
theorem after?_firstSecond (b : Bucket) (n : Nat) {i : Int}
    (hcalendar : ∀ j, i < j → j ≤ i + n → (ofSecond (b.firstSecond j)).inCalendar = true) :
    b.after? n (ofSecond (b.firstSecond i)) = some (ofSecond (b.firstSecond (i + n))) := by
  -- on the steps, from whatever bucket the first of them starts
  induction n generalizing i with
  | zero => rw [after?, Nat.cast_zero, add_zero]
  | succ n ih =>
    push_cast at hcalendar ⊢
    rw [after?, next?_firstSecond, checked_eq_some (hcalendar (i + 1) (by omega) (by omega)),
      Option.bind_some, ih fun j h₁ h₂ => hcalendar j (by omega) (by omega), add_assoc,
      add_comm (n : Int) 1]

/-- Steps from the start of a bucket lead to the starts of the buckets that follow it. -/
theorem after?_startOf {b : Bucket} {start stop : DateTime} (hstart : start.inCalendar = true)
    (hstop : stop.inCalendar = true) {n : Nat} (hn : b.index start + n ≤ b.index stop) :
    b.after? n (b.startOf start) = some (ofSecond (b.firstSecond (b.index start + n))) := by
  rw [b.startOf_eq]
  exact b.after?_firstSecond n fun j h₁ h₂ =>
    inCalendar_firstSecond_of_between hstart hstop (by omega) (by omega)

theorem tailChars_eq_of_ofDateTime_eq {b : Bucket} {t u : DateTime}
    (h : BucketKey.ofDateTime b t = BucketKey.ofDateTime b u) :
    t.date.year = u.date.year ∧ BucketKey.tailChars b t = BucketKey.tailChars b u := by
  cases b <;> simp only [BucketKey.ofDateTime, BucketKey.mk.injEq, Option.some.injEq] at h <;>
    simp [BucketKey.tailChars, h]

/-- Times of one bucket have the same label, and only those. -/
theorem label_eq_label_iff {b : Bucket} {t u : DateTime} :
    b.label t = b.label u ↔ b.index t = b.index u := by
  refine ⟨index_eq_of_label_eq, fun h => ?_⟩
  obtain ⟨hyear, htail⟩ := tailChars_eq_of_ofDateTime_eq (BucketKey.ofDateTime_eq_iff.mpr h)
  rw [label, label, format, format, formatChars_labelPattern, formatChars_labelPattern, hyear,
    htail]

end Bucket

namespace Axis

/-- The walk ends by itself: with the number of buckets for its bound it is complete, and no greater
bound makes it longer. -/
theorem pointsFrom_of_countBetween_le {b : Bucket} {start stop : DateTime}
    (hstart : start.inCalendar = true) (hstop : stop.inCalendar = true) {n : Nat}
    (hn : b.countBetween start stop ≤ n) :
    pointsFrom b (b.startOf stop) (b.startOf start) n = points b start stop := by
  have hcount : min n (b.index stop - b.index start + 1).toNat =
      (b.index stop - b.index start + 1).toNat := by
    -- the bound does not matter unless it is less than the number of buckets
    by_cases h : b.index start ≤ b.index stop
    · rw [b.countBetween_of_index_le h] at hn
      omega
    · omega
  rw [points_eq b hstart hstop, b.startOf_eq start, b.startOf_eq stop,
    pointsFrom_eq b n fun j => Bucket.inCalendar_firstSecond_of_between hstart hstop, hcount]

/-- An axis has as many labels in UTC as it has on the wall clock. -/
theorem length_utcLabels {b : Bucket} {start stop : DateTime} {zone : Zone} {axis : Axis}
    (h : generate? b start stop zone = some axis) :
    axis.utcLabels.length = axis.labels.length := by
  have hutc := congrArg List.length (utcLabels_of_generate? h)
  rw [List.length_map, List.length_map] at hutc
  rw [← hutc, labels_of_generate? h, List.length_map]

/-- **Axes without gaps.** Between bounds a day from the ends of the calendar there is an axis in
every zone, and the walk that lays it out ends by itself.  If the first bucket comes after the last
one, the axis is empty.  Otherwise it has as many points as there are buckets, from the first bucket
to the last one, each a step after the one before.  No label comes twice, and each is found at its
own place. -/
theorem generate?_dense (b : Bucket) {start stop : DateTime} (hstart : start.DayFromEnds)
    (hstop : stop.DayFromEnds) (zone : Zone) :
    ∃ axis, generate? b start stop zone = some axis ∧
      (∀ n : Nat, b.countBetween start stop ≤ n →
        axis.labels = (pointsFrom b (b.startOf stop) (b.startOf start) n).map b.label) ∧
      (b.startOf stop < b.startOf start → axis.labels = []) ∧
      (b.startOf start ≤ b.startOf stop →
        (axis.labels.length : Int) = b.countBetween start stop ∧
        axis.labels.head? = some (b.label (b.startOf start)) ∧
        axis.labels.getLast? = some (b.label (b.startOf stop))) ∧
      (∀ i (hi : i < axis.labels.length), ∃ t, b.after? i (b.startOf start) = some t ∧
        axis.labels[i] = b.label t ∧ axis.position? axis.labels[i] = some i) ∧
      axis.labels.Nodup ∧ axis.utcLabels.length = axis.labels.length := by
  have hfirst := hstart.inCalendar
  have hlast := hstop.inCalendar
  have hpoints := points_eq b hfirst hlast
  have hlater (t : DateTime) (ht : t ∈ points b start stop) : (t.addSeconds? 3600).isSome := by
    obtain ⟨i, h₁, h₂, rfl⟩ := (mem_points_iff hfirst hlast).mp ht
    exact hstop.isSome_addSeconds?
      (Bucket.inCalendar_firstSecond_of_between hfirst hlast h₁ h₂)
      ((b.firstSecond_le_iff i stop).mpr h₂)
  obtain ⟨axis, haxis, hlabels⟩ : ∃ axis, generate? b start stop zone = some axis ∧
      axis.labels = (points b start stop).map b.label := exists_generate?_eq hlater
  have hnodup := nodup_labels haxis
  refine ⟨axis, haxis, fun n hn => ?_, fun hlt => ?_, fun hle => ?_, fun i hi => ?_, hnodup,
    length_utcLabels haxis⟩
  · rw [hlabels, pointsFrom_of_countBetween_le hfirst hlast hn]
  · rw [Bucket.startOf_lt_startOf_iff] at hlt
    have hnone : (b.index stop - b.index start + 1).toNat = 0 := by omega
    rw [hlabels, hpoints, hnone, List.range_zero, List.map_nil, List.map_nil]
  · rw [Bucket.startOf_le_startOf_iff] at hle
    obtain ⟨hlength, hhead, hgetLast⟩ := points_ends hfirst hlast hle
    rw [hlabels, List.length_map, List.head?_map, List.getLast?_map, hhead, hgetLast, hlength,
      b.countBetween_of_index_le hle]
    exact ⟨rfl, rfl, rfl⟩
  · have hbound := hi
    simp only [hlabels, hpoints, List.length_map, List.length_range] at hbound
    refine ⟨_, Bucket.after?_startOf hfirst hlast (n := i) (by omega), ?_, ?_⟩
    · simp only [hlabels, hpoints, List.getElem_map, List.getElem_range]
    · exact (position?_eq_some_iff hnodup).mpr (List.getElem?_eq_getElem hi)

/-- The years from 9999 to 10001: the last two have a sign. -/
theorem generate?_dense_signedYears :
    let start := ofSecond 253383811200
    let stop := ofSecond 253439020800
    start.DayFromEnds ∧ stop.DayFromEnds ∧
      ∃ axis, generate? .year start stop (Zone.parse (some "Europe/Kyiv")) = some axis ∧
        axis.labels.length = 3 ∧ axis.labels.head? = some "9999" ∧
        axis.labels.getLast? = some "+10001" ∧ axis.labels.Nodup := by
  intro start stop
  have hstart : start.DayFromEnds := by decide +kernel
  have hstop : stop.DayFromEnds := by decide +kernel
  obtain ⟨axis, haxis, -, -, hends, -, hnodup, -⟩ :=
    generate?_dense .year hstart hstop (Zone.parse (some "Europe/Kyiv"))
  obtain ⟨hlength, hhead, hlast⟩ := hends (by decide +kernel)
  have hcount : Bucket.year.countBetween start stop = 3 := by decide +kernel
  have hfirstLabel : Bucket.year.label (Bucket.year.startOf start) = "9999" := by decide +kernel
  have hlastLabel : Bucket.year.label (Bucket.year.startOf stop) = "+10001" := by decide +kernel
  refine ⟨hstart, hstop, axis, haxis, by omega, ?_, ?_, hnodup⟩
  · rw [hhead, hfirstLabel]
  · rw [hlast, hlastLabel]

end Axis

end SiteAnalytics
