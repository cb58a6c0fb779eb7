import SiteAnalytics.Proofs.Axis.Key
import SiteAnalytics.Proofs.Axis.Points
import SiteAnalytics.Proofs.Calendar.Text

/-!
# The labels of an axis

The labels of an axis are all different, in every year of the calendar (`nodup_labels`): the year is
read back from a label (`index_eq_of_label_eq`), and the walk from bucket to bucket never comes to
the same one twice.  A label is therefore found at the one point that has it
(`position?_eq_some_iff`).
-/

namespace SiteAnalytics

open Calendar DateTime

namespace Bucket

/-! ### Labels and numbers of buckets -/

/-- A label is a year and a tail, whatever the bucket is. -/
theorem formatChars_labelPattern (b : Bucket) (t : DateTime) :
    t.formatChars b.labelPattern = yearChars t.date.year ++ BucketKey.tailChars b t := by
  cases b <;>
    simp [formatChars, labelPattern, Pattern.dateMinute, Pattern.dateOnly, fieldChars,
      BucketKey.tailChars]

/-- A tail goes on with no digit. -/
theorem digitsEnd_tailChars (b : Bucket) (t : DateTime) : DigitsEnd (BucketKey.tailChars b t) := by
  cases b <;> simp [DigitsEnd, BucketKey.tailChars]

/-- Buckets of one size with the same label are the same. -/
theorem index_eq_of_label_eq {b : Bucket} {t u : DateTime} (h : b.label t = b.label u) :
    b.index t = b.index u := by
  rw [label, label, format, format, String.ofList_inj, formatChars_labelPattern,
    formatChars_labelPattern] at h
  have hread := congrArg readYear? h
  rw [readYear?_yearChars _ (b.digitsEnd_tailChars t),
    readYear?_yearChars _ (b.digitsEnd_tailChars u), Option.some.injEq, Prod.mk.injEq] at hread
  exact BucketKey.ofDateTime_eq_iff.mp
    (BucketKey.ofDateTime_eq_of_tailChars_eq hread.1 hread.2)

end Bucket

namespace Axis

/-! ### The points of a walk -/

/-- A walk lists consecutive buckets, wherever it ends. -/
theorem exists_pointsFrom_eq (b : Bucket) (last : DateTime) (i : Int) (n : Nat) :
    ∃ m, pointsFrom b last (ofSecond (b.firstSecond i)) n =
      (List.range m).map fun k : Nat => ofSecond (b.firstSecond (i + k)) := by
  -- on the bound of the walk, from whatever bucket it starts
  induction n generalizing i with
  | zero => exact ⟨0, rfl⟩
  | succ n ih =>
    rw [pointsFrom, b.next?_firstSecond]
    split
    · exact ⟨0, rfl⟩
    · have hfirst : i + ((0 : Nat) : Int) = i := add_zero i
      cases hnext : (ofSecond (b.firstSecond (i + 1))).checked with
      | none => exact ⟨1, by rw [List.range_one, List.map_singleton, hfirst]⟩
      | some next =>
        obtain rfl := eq_of_checked hnext
        obtain ⟨m, hm⟩ := ih (i + 1)
        refine ⟨m + 1, ?_⟩
        dsimp only
        rw [hm, List.range_succ_eq_map, List.map_cons, List.map_map, hfirst]
        congr 1
        refine List.map_congr_left fun k _ => ?_
        rw [Function.comp_apply, Nat.cast_succ, add_assoc, add_comm 1 (k : Int)]

variable {b : Bucket} {start stop : DateTime} {zone : Zone} {axis : Axis}

theorem labels_of_generate? (h : generate? b start stop zone = some axis) :
    axis.labels = (points b start stop).map b.label := by
  rw [generate?, Option.bind_eq_bind, Option.bind_eq_some_iff] at h
  obtain ⟨utcLabels, -, h⟩ := h
  rw [← Option.some.inj h]

/-- The number of labels, the first of them and the last. -/
theorem labels_ends (hstart : start.inCalendar = true) (hstop : stop.inCalendar = true)
    (hle : b.index start ≤ b.index stop) (h : generate? b start stop zone = some axis) :
    (axis.size : Int) = b.index stop - b.index start + 1 ∧
      axis.labels.head? = some (b.label (b.startOf start)) ∧
      axis.labels.getLast? = some (b.label (b.startOf stop)) := by
  obtain ⟨hcount, hfirst, hlast⟩ := points_ends hstart hstop hle
  rw [size, labels_of_generate? h, List.length_map, List.head?_map, List.getLast?_map, hfirst,
    hlast]
  exact ⟨hcount, rfl, rfl⟩

theorem utcLabels_of_generate? (h : generate? b start stop zone = some axis) :
    (points b start stop).map (utcLabel? b zone) = axis.utcLabels.map some := by
  rw [generate?, Option.bind_eq_bind, Option.bind_eq_some_iff] at h
  obtain ⟨utcLabels, hutc, h⟩ := h
  rw [← Option.some.inj h]
  exact mapM_eq_some_iff.mp hutc

/-- No two points of an axis have the same label. -/
theorem nodup_labels (h : generate? b start stop zone = some axis) : axis.labels.Nodup := by
  obtain ⟨m, hm⟩ := exists_pointsFrom_eq b (b.startOf stop) (b.index start)
    (b.countBetween start stop).toNat
  rw [labels_of_generate? h, points, b.startOf_eq start, hm, List.map_map]
  -- points of one label have one bucket, and so one place in the walk
  refine List.nodup_range.map fun j k hlabel => ?_
  have hindex := Bucket.index_eq_of_label_eq hlabel
  rw [b.index_firstSecond, b.index_firstSecond] at hindex
  omega

theorem exists_index_of_mem_labels (hstart : start.inCalendar = true)
    (hstop : stop.inCalendar = true) (h : generate? b start stop zone = some axis) {label : String}
    (hl : label ∈ axis.labels) : ∃ i, b.index start ≤ i ∧ i ≤ b.index stop ∧
      label = b.label (ofSecond (b.firstSecond i)) := by
  rw [labels_of_generate? h, List.mem_map] at hl
  obtain ⟨t, ht, rfl⟩ := hl
  obtain ⟨i, hfirst, hlast, rfl⟩ := (mem_points_iff hstart hstop).mp ht
  exact ⟨i, hfirst, hlast, rfl⟩

/-- Axes that follow each other have no label in common. -/
theorem disjoint_labels {start' stop' : DateTime} {axis' : Axis} (hstart : start.inCalendar = true)
    (hstop : stop.inCalendar = true) (hstart' : start'.inCalendar = true)
    (hstop' : stop'.inCalendar = true) (hlt : b.index stop < b.index start')
    (h : generate? b start stop zone = some axis)
    (h' : generate? b start' stop' zone = some axis') : axis.labels.Disjoint axis'.labels := by
  intro label hl hl'
  obtain ⟨i, -, hi, rfl⟩ := exists_index_of_mem_labels hstart hstop h hl
  obtain ⟨j, hj, -, hsame⟩ := exists_index_of_mem_labels hstart' hstop' h' hl'
  -- a label in common would be that of a bucket on both axes
  have hindex := Bucket.index_eq_of_label_eq hsame
  rw [b.index_firstSecond, b.index_firstSecond] at hindex
  omega

/-- In a UTC zone all points have their label. -/
theorem exists_generate?_of_isUtc (b : Bucket) (hutc : zone.isUtc = true) (start stop : DateTime) :
    ∃ axis, generate? b start stop zone = some axis := by
  obtain ⟨axis, haxis, -⟩ := @exists_generate?_of_isSome b start stop zone fun t _ => by
    rw [utcLabel?, if_pos hutc]
    rfl
  exact ⟨axis, haxis⟩

/-! ### Positions -/

theorem isSome_position?_iff (axis : Axis) (label : String) :
    (axis.position? label).isSome = true ↔ label ∈ axis.labels := by
  rw [position?, List.findIdx?_isSome, List.any_beq']
  simp

/-- A label is found at the point that has it. -/
theorem position?_eq_some_iff (h : axis.labels.Nodup) {label : String} {i : Nat} :
    axis.position? label = some i ↔ axis.labels[i]? = some label := by
  rw [position?, List.findIdx?_eq_some_iff_getElem, List.getElem?_eq_some_iff]
  constructor
  · rintro ⟨hi, hlabel, -⟩
    exact ⟨hi, by simpa using hlabel⟩
  · rintro ⟨hi, rfl⟩
    -- no earlier point has the label, since it comes only once
    refine ⟨hi, beq_self_eq_true _, fun j hj => ?_⟩
    simp [h.getElem_inj_iff, hj.ne]

end Axis

end SiteAnalytics
