import SiteAnalytics.Proofs.Bucket.Index

/-!
# Buckets partition the calendar

Snapping sends every date-time to the start of a bucket and never past it, and the date-times that
are sent to one start are those from it up to the start of the following bucket
(`startOf_eq_startOf_iff_between`).  So the buckets of one size lie side by side, and every
date-time of the calendar lies in exactly one of them (`startOf_partitions`).  Nothing here depends
on the size: how long the months and years are is settled by the laws of their numbers.
-/

namespace SiteAnalytics.Bucket

open Calendar DateTime

variable {b : Bucket} {t u : DateTime}

/-! ### Starts -/

theorem startOf_eq_startOf_iff : b.startOf t = b.startOf u ↔ b.index t = b.index u := by
  constructor
  · intro h
    rw [← b.index_startOf t, h, b.index_startOf]
  · intro h
    rw [b.startOf_eq, b.startOf_eq, h]

theorem startOf_le (b : Bucket) (t : DateTime) : b.startOf t ≤ t := by
  rw [b.startOf_eq, ofSecond_le_iff]
  exact (b.index_bracket t).1

theorem startOf_mono (b : Bucket) (h : t ≤ u) : b.startOf t ≤ b.startOf u := by
  rw [le_iff] at h
  exact startOf_le_startOf_iff.mpr (b.index_mono (by omega))

/-! ### The following bucket -/

/-- The start of the bucket after that of a date-time, on the calendar or not. -/
def nextStart (b : Bucket) (t : DateTime) : DateTime := ofSecond (b.firstSecond (b.index t + 1))

theorem next?_startOf (b : Bucket) (t : DateTime) :
    b.next? (b.startOf t) = (b.nextStart t).checked := by
  rw [b.startOf_eq, b.next?_firstSecond, nextStart]

theorem lt_nextStart (b : Bucket) (t : DateTime) : t < b.nextStart t := by
  rw [nextStart, lt_ofSecond_iff]
  exact (b.index_bracket t).2

theorem startOf_nextStart (b : Bucket) (t : DateTime) :
    b.startOf (b.nextStart t) = b.nextStart t := by
  rw [b.startOf_eq, nextStart, b.index_firstSecond]

/-- The bucket of a date-time reaches from its start to the start of the following bucket. -/
theorem startOf_eq_startOf_iff_between :
    b.startOf u = b.startOf t ↔ b.startOf t ≤ u ∧ u < b.nextStart t := by
  rw [startOf_eq_startOf_iff, b.startOf_eq, nextStart, ofSecond_le_iff, lt_ofSecond_iff]
  constructor
  · intro h
    rw [← h]
    exact b.index_bracket u
  · rintro ⟨hlo, hhi⟩
    exact index_eq_of_bracket hlo hhi

/-- The last second of a bucket is followed by the start of the next one. -/
theorem endOf?_eq_nextStart (h : (b.nextStart t).inCalendar = true) :
    ∃ last, b.endOf? t = some last ∧ b.startOf last = b.startOf t ∧
      last.addSeconds? 1 = some (b.nextStart t) := by
  rw [nextStart] at h ⊢
  refine ⟨ofSecond (b.firstSecond (b.index t + 1) - 1), ?_, ?_, ?_⟩
  · rw [endOf?_eq, if_pos h]
  · have hlength := b.firstSecond_add_sixty_le (b.index t)
    rw [startOf_eq_startOf_iff]
    apply index_eq_of_bracket
    · rw [ofSecond_second]
      omega
    · rw [ofSecond_second]
      omega
  · rw [addSeconds?_ofSecond, sub_add_cancel, checked_eq_some h]

/-! ### The partition -/

/-- **Buckets side by side.** Before the last year of the calendar, a date-time lies between the
start of its bucket and that of the following one, and so do exactly the date-times of the same
bucket.  A later date-time never lies in an earlier bucket.  The end of the bucket lies in it, a
second before the following one. -/
theorem startOf_partitions (b : Bucket) {x : DateTime} (hx : x.inCalendar = true)
    (hyear : x.date.year < lastYear) :
    ∃ next last, b.next? (b.startOf x) = some next ∧ b.endOf? x = some last ∧
      (b.startOf x ≤ x ∧ x < next) ∧
      (∀ y, b.startOf y = b.startOf x ↔ b.startOf x ≤ y ∧ y < next) ∧
      b.startOf next = next ∧
      (∀ y, x ≤ y → b.startOf x ≤ b.startOf y) ∧
      b.startOf last = b.startOf x ∧ last.addSeconds? 1 = some next := by
  have hnext : (b.nextStart x).inCalendar = true := inCalendar_firstSecond_succ hx hyear
  obtain ⟨last, hlast, hsame, hsecond⟩ := endOf?_eq_nextStart hnext
  refine ⟨b.nextStart x, last, ?_, hlast, ⟨b.startOf_le x, b.lt_nextStart x⟩,
    fun y => startOf_eq_startOf_iff_between, b.startOf_nextStart x, fun y => b.startOf_mono, hsame,
    hsecond⟩
  rw [next?_startOf, checked_eq_some hnext]

/-- The leap second at the end of 2016 lies in the last month of that year, which ends a second
before the first month of 2017. -/
theorem startOf_partitions_leapSecond :
    let leap : DateTime := ⟨1483228799, 1500000000⟩
    let first := ofSecond 1480550400
    let next := ofSecond 1483228800
    leap.inCalendar = true ∧ leap.date.year < lastYear ∧
      (first ≤ leap ∧ leap < next) ∧
      (∀ y, month.startOf y = first ↔ first ≤ y ∧ y < next) ∧
      month.endOf? leap = some (ofSecond 1483228799) := by
  intro leap first next
  have hx : leap.inCalendar = true := by decide +kernel
  have hyear : leap.date.year < lastYear := by decide +kernel
  have hfirst : month.startOf leap = first := by decide +kernel
  have hnext : month.next? first = some next := by decide +kernel
  obtain ⟨next', last, hnext', -, hbetween, hbucket, -⟩ := startOf_partitions month hx hyear
  rw [hfirst, hnext, Option.some.injEq] at hnext'
  subst hnext'
  rw [hfirst] at hbetween hbucket
  exact ⟨hx, hyear, hbetween, hbucket, by decide +kernel⟩

end SiteAnalytics.Bucket
