import SiteAnalytics.Proofs.Axis.Key
import SiteAnalytics.Proofs.Axis.Points

/-!
# Where a row falls on an axis

A row is matched to a point of an axis by comparing texts: the label written from the group columns
of the row, and the label of the point.  `position?_label_eq` says that this finds the bucket of the
row by its number, and nothing if the bucket is not one of the axis.  It holds for years 0 to 9999,
where both labels have a year of four digits.
-/

namespace SiteAnalytics

open Calendar DateTime

namespace DateTime

/-- The year of the date-time has four digits and no sign. -/
def InFourDigitYear (t : DateTime) : Prop := 0 ≤ t.date.year ∧ t.date.year ≤ 9999

theorem InFourDigitYear.inCalendar {t : DateTime} (h : t.InFourDigitYear) :
    t.inCalendar = true := by
  have h₁ : firstYear < 0 := by decide
  have h₂ : 9999 < lastYear := by decide
  exact AwayFromEnds.inCalendar ⟨lt_of_lt_of_le h₁ h.1, lt_of_le_of_lt h.2 h₂⟩

theorem InFourDigitYear.isSome_addSeconds? {s : Int} (h : (ofSecond s).InFourDigitYear) :
    ((ofSecond s).addSeconds? 3600).isSome := by
  have hstart := inCalendar_iff.mp h.inCalendar
  have hyear := (Bucket.year.firstSecond_le_iff 10000 (ofSecond s)).not.mpr (by
    have h₁ : Bucket.year.index (ofSecond s) ≤ 9999 := h.2
    omega)
  have hstop : Bucket.year.firstSecond 10000 + 3600 < calendarStop := by decide
  rw [isSome_addSeconds?_ofSecond_iff]
  simp only [ofSecond_second] at *
  omega

end DateTime

namespace Bucket

/-- The buckets between two times begin in years between those of the two. -/
theorem year_firstSecond_of_between {b : Bucket} {start stop : DateTime} {i : Int}
    (h₁ : b.index start ≤ i) (h₂ : i ≤ b.index stop) :
    start.date.year ≤ (ofSecond (b.firstSecond i)).date.year ∧
      (ofSecond (b.firstSecond i)).date.year ≤ stop.date.year := by
  have hlo := b.firstSecond_strictMono.monotone h₁
  have hhi := b.firstSecond_strictMono.monotone h₂
  constructor
  · -- the year of `start` has begun by then, for it contains the bucket of `start`
    refine (year.firstSecond_le_iff (year.index start) (ofSecond (b.firstSecond i))).mp ?_
    exact le_trans (b.firstSecond_year_bracket start).1 hlo
  · exact year.index_mono (le_trans hhi (b.index_bracket stop).1)

end Bucket

namespace Axis

variable {b : Bucket} {start stop : DateTime}

theorem inFourDigitYear_of_mem_points (hstart : start.InFourDigitYear)
    (hstop : stop.InFourDigitYear) {t : DateTime} (ht : t ∈ points b start stop) :
    t.InFourDigitYear := by
  obtain ⟨i, h₁, h₂, rfl⟩ := (mem_points_iff hstart.inCalendar hstop.inCalendar).mp ht
  have hyear := Bucket.year_firstSecond_of_between h₁ h₂
  exact ⟨le_trans hstart.1 hyear.1, le_trans hyear.2 hstop.2⟩

/-- A point and a row have the same label iff the point begins the bucket of the row. -/
theorem label_eq_label_iff {i : Int} {x : DateTime}
    (h : (ofSecond (b.firstSecond i)).InFourDigitYear) :
    b.label (ofSecond (b.firstSecond i)) = (BucketKey.ofDateTime b x).label ↔ i = b.index x := by
  rw [BucketKey.label_eq_label_ofDateTime b h.1 h.2]
  constructor
  · intro hlabel
    rw [← b.index_firstSecond i]
    exact BucketKey.ofDateTime_eq_iff.mp (BucketKey.ofDateTime_eq_of_label_eq h.1 hlabel)
  · rintro rfl
    rw [BucketKey.ofDateTime_eq_iff.mpr (b.index_firstSecond (b.index x))]

/-- The position of a row is the number of its bucket, counted from the first one of the axis; a
bucket before or after the axis has none. -/
theorem position?_label_eq (hstart : start.InFourDigitYear) (hstop : stop.InFourDigitYear)
    {axis : Axis} (hlabels : axis.labels = (points b start stop).map b.label) (x : DateTime) :
    axis.position? (BucketKey.ofDateTime b x).label =
      if b.index start ≤ b.index x ∧ b.index x ≤ b.index stop then
        some (b.index x - b.index start).toNat
      else none := by
  have hpoints := points_eq b hstart.inCalendar hstop.inCalendar
  have hyears (k : Nat) (hk : k < (b.index stop - b.index start + 1).toNat) :
      (ofSecond (b.firstSecond (b.index start + k))).InFourDigitYear :=
    inFourDigitYear_of_mem_points hstart hstop
      ((mem_points_iff hstart.inCalendar hstop.inCalendar).mpr ⟨_, by omega, by omega, rfl⟩)
  rw [position?, hlabels, hpoints, List.map_map]
  split_ifs with h
  · rw [List.findIdx?_eq_some_iff_getElem]
    refine ⟨?_, ?_, ?_⟩
    · rw [List.length_map, List.length_range]
      omega
    · rw [List.getElem_map, List.getElem_range, beq_iff_eq, Function.comp_apply,
        label_eq_label_iff (hyears _ (by omega))]
      omega
    · intro j hj
      rw [List.getElem_map, List.getElem_range, beq_iff_eq, Function.comp_apply,
        label_eq_label_iff (hyears _ (by omega))]
      omega
  · rw [List.findIdx?_eq_none_iff]
    intro label hlabel
    obtain ⟨k, hk, rfl⟩ := List.mem_map.mp hlabel
    rw [List.mem_range] at hk
    rw [beq_eq_false_iff_ne, ne_eq, Function.comp_apply, label_eq_label_iff (hyears k hk)]
    omega

/-- **Rows and points.** From year 0 to 9999 there is an axis in every zone.  A row that holds the
group columns of a time in one of its buckets falls on the point of that bucket, which is as many
points after the first as there are buckets in between.  Rows of different buckets fall on different
points, and a row of a bucket before the first or after the last one falls on none. -/
theorem position?_ofColumns (hstart : start.InFourDigitYear) (hstop : stop.InFourDigitYear)
    (zone : Zone) : ∃ axis, generate? b start stop zone = some axis ∧
      (∀ x, b.startOf start ≤ b.startOf x → b.startOf x ≤ b.startOf stop →
        ∃ i : Nat, axis.position? (BucketKey.ofColumns b.groupColumns x).label = some i ∧
          b.countBetween start x = i + 1) ∧
      (∀ x y, b.startOf start ≤ b.startOf x → b.startOf x ≤ b.startOf stop →
        b.startOf start ≤ b.startOf y → b.startOf y ≤ b.startOf stop →
        b.startOf x ≠ b.startOf y →
        axis.position? (BucketKey.ofColumns b.groupColumns x).label ≠
          axis.position? (BucketKey.ofColumns b.groupColumns y).label) ∧
      (∀ x, b.startOf x < b.startOf start ∨ b.startOf stop < b.startOf x →
        axis.position? (BucketKey.ofColumns b.groupColumns x).label = none) := by
  have hlater (t : DateTime) (ht : t ∈ points b start stop) : (t.addSeconds? 3600).isSome := by
    obtain ⟨i, -, -, rfl⟩ := (mem_points_iff hstart.inCalendar hstop.inCalendar).mp ht
    exact (inFourDigitYear_of_mem_points hstart hstop ht).isSome_addSeconds?
  obtain ⟨axis, haxis, hlabels⟩ : ∃ axis, generate? b start stop zone = some axis ∧
      axis.labels = (points b start stop).map b.label := exists_generate?_eq hlater
  have hposition (x : DateTime) := position?_label_eq hstart hstop hlabels x
  simp only [← BucketKey.ofColumns_groupColumns] at hposition
  simp only [Bucket.startOf_le_startOf_iff, Bucket.startOf_lt_startOf_iff]
  refine ⟨axis, haxis, ?_, ?_, ?_⟩
  · intro x h₁ h₂
    refine ⟨(b.index x - b.index start).toNat, ?_, ?_⟩
    · rw [hposition, if_pos ⟨h₁, h₂⟩]
    · rw [b.countBetween_of_index_le h₁]
      omega
  · intro x y hx₁ hx₂ hy₁ hy₂ hne heq
    rw [hposition, hposition, if_pos ⟨hx₁, hx₂⟩, if_pos ⟨hy₁, hy₂⟩, Option.some.injEq] at heq
    -- the same place on the axis is the same number of a bucket
    apply hne
    rw [b.startOf_eq, b.startOf_eq, show b.index x = b.index y by omega]
  · intro x h
    rw [hposition, if_neg (by omega)]

/-- The days from 28 February to 1 March 2024 in Kyiv: noon of the leap day falls on the second
point, and 2 March on none. -/
theorem position?_ofColumns_leapDay :
    let start := ofSecond 1709078400
    let stop := ofSecond 1709251200
    let leapDay := ofSecond 1709208000
    let dayAfter := ofSecond 1709337600
    start.InFourDigitYear ∧ stop.InFourDigitYear ∧
      ∃ axis, generate? .day start stop ⟨"Europe/Kyiv", Zone.europeKyiv, false⟩ = some axis ∧
        axis.position? (BucketKey.ofColumns ["year", "month", "day"] leapDay).label = some 1 ∧
        axis.position? (BucketKey.ofColumns ["year", "month", "day"] dayAfter).label = none := by
  intro start stop leapDay dayAfter
  have hstart : start.InFourDigitYear := by unfold InFourDigitYear; decide +kernel
  have hstop : stop.InFourDigitYear := by unfold InFourDigitYear; decide +kernel
  obtain ⟨axis, haxis, hon, -, hoff⟩ := position?_ofColumns (b := .day) hstart hstop
    ⟨"Europe/Kyiv", Zone.europeKyiv, false⟩
  refine ⟨hstart, hstop, axis, haxis, ?_, ?_⟩
  · obtain ⟨i, hi, hcount⟩ := hon leapDay (by decide +kernel) (by decide +kernel)
    have hcount' : Bucket.day.countBetween start leapDay = 2 := by decide +kernel
    obtain rfl : i = 1 := by omega
    exact hi
  · exact hoff dayAfter (.inr (by decide +kernel))

end Axis

end SiteAnalytics
