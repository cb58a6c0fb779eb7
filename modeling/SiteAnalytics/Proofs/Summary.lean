import Mathlib.Data.List.Basic
import SiteAnalytics.Summary

/-!
# Rows of a summary

The rows of a summary may come in any order, and there may be other rows among them.  They are
sorted by their tags first, which keeps the order of the rows with one tag (`filter_mergeSort_tag`);
what is picked is therefore the first row with either tag (`pick_eq`).  So nothing but the rows with
these tags matters to a comparison, and of these only the order among those with the same tag
(`ofRows_congr`).
-/

namespace SiteAnalytics

namespace SummaryRow

/-- Sorting by tags keeps the order of the rows with one tag. -/
theorem filter_mergeSort_tag (rows : List SummaryRow) (tag : Nat) :
    (rows.mergeSort fun a b => a.tag ≤ b.tag).filter (fun row => row.tag == tag) =
      rows.filter fun row => row.tag == tag := by
  have hsorted : (rows.filter fun row => row.tag == tag).Pairwise
      fun a b => decide (a.tag ≤ b.tag) = true := by
    refine List.pairwise_of_forall_mem_list fun a ha b hb => ?_
    have ha := eq_of_beq (List.mem_filter.mp ha).2
    have hb := eq_of_beq (List.mem_filter.mp hb).2
    exact decide_eq_true (Nat.le_of_eq (ha.trans hb.symm))
  have hsub : (rows.filter fun row => row.tag == tag).Sublist
      (rows.mergeSort fun a b => a.tag ≤ b.tag) :=
    List.sublist_mergeSort (by simpa using fun a b c => Nat.le_trans)
      (by simpa using fun (a b : SummaryRow) => Nat.le_total a.tag b.tag) hsorted
      List.filter_sublist
  have hfilter := hsub.filter fun row => row.tag == tag
  simp only [List.filter_filter, Bool.and_self] at hfilter
  exact (hfilter.eq_of_length ((List.mergeSort_perm rows _).filter _).length_eq.symm).symm

/-- Along rows, the first row with either tag is added to what is kept already. -/
theorem foldl_keepFirst (rows : List SummaryRow) (found : Option SummaryRow × Option SummaryRow) :
    rows.foldl keepFirst found =
      (found.1.or (rows.find? fun row => row.tag == Query.currentTag),
        found.2.or (rows.find? fun row => row.tag == Query.previousTag)) := by
  induction rows generalizing found with
  | nil => simp
  | cons row rest ih =>
    obtain ⟨current, previous⟩ := found
    rw [List.foldl_cons, ih, keepFirst, List.find?_cons, List.find?_cons]
    unfold Query.currentTag Query.previousTag
    by_cases hcurrent : row.tag = 1
    · cases current <;> simp [hcurrent]
    · by_cases hprevious : row.tag = 2
      · cases previous <;> simp [hprevious]
      · simp [hcurrent, hprevious, beq_eq_false_iff_ne.mpr hcurrent,
          beq_eq_false_iff_ne.mpr hprevious]

/-- What is picked is the first row with either tag. -/
theorem pick_eq (rows : List SummaryRow) :
    pick rows = (rows.find? fun row => row.tag == Query.currentTag,
      rows.find? fun row => row.tag == Query.previousTag) := by
  rw [pick, foldl_keepFirst, Option.none_or, Option.none_or]
  simp only [← List.head?_filter, filter_mergeSort_tag]

end SummaryRow

namespace PeriodComparison

/-- The first row with either tag is what a comparison is made of. All time has no window before
it. -/
theorem ofRows_eq (rows : List SummaryRow) (customEvents allTime : Bool) :
    ofRows rows customEvents allTime =
      compare (.ofRow (rows.find? fun row => row.tag == Query.currentTag) customEvents)
        (if allTime then .zero
          else .ofRow (rows.find? fun row => row.tag == Query.previousTag) customEvents) := by
  rw [ofRows, SummaryRow.pick_eq]

/-- A comparison depends on the rows with either tag, in their order. -/
theorem ofRows_congr {rows rows' : List SummaryRow}
    (hcurrent : (rows'.filter fun row => row.tag == Query.currentTag) =
      rows.filter fun row => row.tag == Query.currentTag)
    (hprevious : (rows'.filter fun row => row.tag == Query.previousTag) =
      rows.filter fun row => row.tag == Query.previousTag) (customEvents allTime : Bool) :
    ofRows rows' customEvents allTime = ofRows rows customEvents allTime := by
  rw [ofRows_eq, ofRows_eq]
  simp only [← List.head?_filter, hcurrent, hprevious]

end PeriodComparison

end SiteAnalytics
