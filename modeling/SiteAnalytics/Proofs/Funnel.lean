import Mathlib
import SiteAnalytics.Funnel

/-!
# Reports of funnels

A session that stopped at a level passed all levels below, so the sessions at a step are those of
the rows from its level up to the last one: `sessionsBetween`.  It is a sum over rows in no order
(`sessionsBetween_perm`), and all that is said of a report follows from it.  `reached_eq` finds it
in the counts that are accumulated from the last level down, where the head of what is above is the
sum before the level is added (`sessionsBetween_succ`).

Words are wrapped as they are added, and once at the end is the same (`Count.add_wrap_wrap`).  If
the whole total fits into a word, so does every sum, and no wrapping shows.

A funnel that no session entered is reported on its own.  `map_sessions_ofLevels` is true of it too:
if the first step has no sessions, no step has (`sessionsBetween_anti`).
-/

namespace SiteAnalytics

namespace Funnel

/-! ### Sums over levels -/

/-- The sessions that got to a level from `low` to `high` and no further. -/
def sessionsBetween (rows : List FunnelLevel) (low high : Nat) : Int :=
  ((rows.filter fun row => low ≤ row.level && row.level ≤ high).map (·.sessions)).sum

theorem sessionsBetween_cons (row : FunnelLevel) (rows : List FunnelLevel) (low high : Nat) :
    sessionsBetween (row :: rows) low high =
      (if low ≤ row.level ∧ row.level ≤ high then row.sessions else 0) +
        sessionsBetween rows low high := by
  unfold sessionsBetween
  rw [List.filter_cons]
  simp only [Bool.and_eq_true, decide_eq_true_eq]
  split_ifs
  · rw [List.map_cons, List.sum_cons]
  · rw [zero_add]

theorem sessionsBetween_append (rows rows' : List FunnelLevel) (low high : Nat) :
    sessionsBetween (rows ++ rows') low high =
      sessionsBetween rows low high + sessionsBetween rows' low high := by
  unfold sessionsBetween
  rw [List.filter_append, List.map_append, List.sum_append]

/-- The order of the rows does not matter to a sum. -/
theorem sessionsBetween_perm {rows rows' : List FunnelLevel} (h : rows.Perm rows')
    (low high : Nat) : sessionsBetween rows low high = sessionsBetween rows' low high :=
  ((h.filter _).map _).sum_eq

/-- Rows of other levels do not count. -/
theorem sessionsBetween_eq_zero {rows : List FunnelLevel} {low high : Nat}
    (h : ∀ row ∈ rows, row.level < low ∨ high < row.level) : sessionsBetween rows low high = 0 := by
  have hnone : (rows.filter fun row => low ≤ row.level && row.level ≤ high) = [] := by
    rw [List.filter_eq_nil_iff]
    intro row hrow
    have := h row hrow
    simp only [Bool.and_eq_true, decide_eq_true_eq]
    omega
  rw [sessionsBetween, hnone, List.map_nil, List.sum_nil]

/-- The lowest level counts on top of those above. -/
theorem sessionsBetween_succ (rows : List FunnelLevel) {low high : Nat} (h : low ≤ high) :
    sessionsBetween rows low high =
      sessionsBetween rows (low + 1) high + sessionsBetween rows low low := by
  -- a row counts on neither side, or on the left and in one of the sums on the right
  induction rows with
  | nil => rfl
  | cons row rows ih =>
    rw [sessionsBetween_cons, sessionsBetween_cons, sessionsBetween_cons, ih]
    split_ifs <;> omega

section Nonneg

variable {rows : List FunnelLevel} (hnonneg : ∀ row ∈ rows, 0 ≤ row.sessions)
include hnonneg

theorem sessionsBetween_nonneg (low high : Nat) : 0 ≤ sessionsBetween rows low high := by
  refine List.sum_nonneg fun n hn => ?_
  obtain ⟨row, hrow, rfl⟩ := List.mem_map.mp hn
  exact hnonneg row (List.mem_of_mem_filter hrow)

/-- No sum is more than that of all rows. -/
theorem sessionsBetween_le_total (low high : Nat) :
    sessionsBetween rows low high ≤ (rows.map (·.sessions)).sum := by
  induction rows with
  | nil => exact le_rfl
  | cons row rows ih =>
    have hrow := hnonneg row List.mem_cons_self
    have hrest := ih fun r hr => hnonneg r (List.mem_cons_of_mem row hr)
    rw [sessionsBetween_cons, List.map_cons, List.sum_cons]
    split_ifs <;> omega

/-- The more levels, the more sessions. -/
theorem sessionsBetween_anti {low low' : Nat} (h : low ≤ low') (high : Nat) :
    sessionsBetween rows low' high ≤ sessionsBetween rows low high := by
  induction rows with
  | nil => exact le_rfl
  | cons row rows ih =>
    have hrow := hnonneg row List.mem_cons_self
    have hrest := ih fun r hr => hnonneg r (List.mem_cons_of_mem row hr)
    rw [sessionsBetween_cons, sessionsBetween_cons]
    split_ifs <;> omega

end Nonneg

/-! ### Counts -/

/-- Words that are wrapped as they are added make the wrapped sum. -/
theorem foldl_add_eq (rows : List FunnelLevel) (n : Int) :
    rows.foldl (fun total row => Count.add total row.sessions) (Count.wrap n) =
      Count.wrap (n + (rows.map (·.sessions)).sum) := by
  -- for any total so far, which is wrapped already
  induction rows generalizing n with
  | nil => rw [List.foldl_nil, List.map_nil, List.sum_nil, add_zero]
  | cons row rows ih =>
    rw [List.foldl_cons, Count.add_wrap_left, ih, List.map_cons, List.sum_cons, add_assoc]

theorem stoppedAt_eq (rows : List FunnelLevel) (level : Nat) :
    stoppedAt rows level = Count.wrap (sessionsBetween rows level level) := by
  have hfilter : (rows.filter fun row => row.level == level) =
      rows.filter fun row => level ≤ row.level && row.level ≤ level := by
    refine List.filter_congr fun row _ => ?_
    rw [Bool.eq_iff_iff, beq_iff_eq, Bool.and_eq_true, decide_eq_true_eq, decide_eq_true_eq]
    omega
  rw [stoppedAt, show (0 : Int) = Count.wrap 0 from rfl, foldl_add_eq, zero_add, hfilter,
    sessionsBetween]

/-- The sessions that got to a level are those of all rows from it up. -/
theorem reached_eq (rows : List FunnelLevel) {level count last : Nat}
    (h : level + count = last + 1) :
    reached rows level count =
      (List.range' level count).map fun l => Count.wrap (sessionsBetween rows l last) := by
  -- on the levels that are left, so from the last one down as the counts are accumulated
  induction count generalizing level with
  | zero => rfl
  | succ count ih =>
    have hlast : level + 1 + count = last + 1 := by omega
    -- above the last level there is nothing, and so the head is the sum also where there is none
    have hhead : (reached rows (level + 1) count).headD 0 =
        Count.wrap (sessionsBetween rows (level + 1) last) := by
      rw [ih hlast]
      cases count with
      | zero =>
        rw [sessionsBetween_eq_zero fun row _ => by omega]
        rfl
      | succ count => rw [List.range'_succ, List.map_cons, List.headD_cons]
    rw [reached, hhead, stoppedAt_eq, Count.add_wrap_wrap,
      ← sessionsBetween_succ rows (by omega), ih hlast, List.range'_succ, List.map_cons]

/-- The number of the last step. Levels are numbered by unsigned 32-bit words, and so it is one. -/
def lastLevel (steps : List String) : Nat := steps.length % (Numeral.maxU32 + 1)

theorem lastLevel_of_le {steps : List String} (h : steps.length ≤ Numeral.maxU32) :
    lastLevel steps = steps.length := Nat.mod_eq_of_lt (Nat.lt_succ_of_le h)

/-- The sessions at each step, as they are reported. -/
def counts (rows : List FunnelLevel) (steps : List String) : List Int :=
  (backfill rows steps.length).map (·.sessions)

theorem ofLevels_eq (rows : List FunnelLevel) (steps : List String) : ofLevels rows steps =
    if (counts rows steps).headD 0 = 0 then emptyReport steps
    else report (counts rows steps) steps := rfl

/-- The reported counts are wrapped sums up to the last level, one for each step that has a level.
-/
theorem counts_eq (rows : List FunnelLevel) (steps : List String) :
    counts rows steps = (List.range' 1 (lastLevel steps)).map fun l =>
      Count.wrap (sessionsBetween rows l (lastLevel steps)) := by
  have hreached := reached_eq rows (show 1 + lastLevel steps = lastLevel steps + 1 by omega)
  -- every count is paired with a level
  have hlength : (reached rows 1 (lastLevel steps)).length ≤
      (List.range' 1 (lastLevel steps)).length := by
    rw [hreached, List.length_map]
  rw [← hreached, counts, backfill, List.map_map]
  exact List.map_snd_zip hlength

/-- A step has the sessions of its own level and of those above; past the last level that is
none. -/
theorem getD_counts (rows : List FunnelLevel) (steps : List String) (i : Nat) :
    (counts rows steps).getD i 0 =
      Count.wrap (sessionsBetween rows (i + 1) (lastLevel steps)) := by
  rw [counts_eq, List.getD_eq_getElem?_getD, List.getElem?_map]
  by_cases h : i < lastLevel steps
  · rw [List.getElem?_range' h, Option.map_some, Option.getD_some, Nat.one_mul, Nat.add_comm]
  · rw [List.getElem?_eq_none (by rw [List.length_range']; omega), Option.map_none,
      Option.getD_none, sessionsBetween_eq_zero fun row _ => by omega]
    rfl

/-! ### Reports -/

theorem headD_eq_getD (counts : List Int) : counts.headD 0 = counts.getD 0 0 := by
  cases counts <;> rfl

theorem getD_tail (counts : List Int) (i : Nat) : counts.tail.getD i 0 = counts.getD (i + 1) 0 := by
  cases counts <;> rfl

theorem map_step_laterSteps (first previous : Int) (counts : List Int) (steps : List String) :
    (laterSteps first previous counts steps).map (·.step) = steps := by
  induction steps generalizing previous counts with
  | nil => rfl
  | cons step rest ih => rw [laterSteps, List.map_cons, ih]

/-- Later steps take their sessions from the counts, and have none where the counts end. -/
theorem map_sessions_laterSteps (first previous : Int) (counts : List Int) (steps : List String) :
    (laterSteps first previous counts steps).map (·.sessions) =
      (List.range steps.length).map fun i => counts.getD i 0 := by
  -- the counts run out with the steps or before them
  induction steps generalizing previous counts with
  | nil => rfl
  | cons step rest ih =>
    rw [laterSteps, List.map_cons, ih, List.length_cons, List.range_succ_eq_map, List.map_cons,
      List.map_map, headD_eq_getD]
    congr 1
    exact List.map_congr_left fun i _ => getD_tail counts i

/-- What is lost at a step is the difference to the step before. -/
theorem isChain_laterSteps (s : FunnelStep) (first : Int) (counts : List Int)
    (steps : List String) : (s :: laterSteps first s.sessions counts steps).IsChain
      fun s t => t.lost = Count.sub s.sessions t.sessions := by
  -- for any step before, whose sessions are carried along
  induction steps generalizing s counts with
  | nil => exact List.isChain_singleton s
  | cons step rest ih =>
    rw [laterSteps]
    exact List.isChain_cons_cons.mpr ⟨rfl, ih _ counts.tail⟩

theorem zero_of_mem_emptyReport {steps : List String} {s : FunnelStep}
    (h : s ∈ emptyReport steps) : s.sessions = 0 ∧ s.lost = 0 := by
  obtain ⟨step, -, rfl⟩ := List.mem_map.mp h
  exact ⟨rfl, rfl⟩

/-- A report names the steps in order. -/
theorem map_step_ofLevels (rows : List FunnelLevel) (steps : List String) :
    (ofLevels rows steps).map (·.step) = steps := by
  rw [ofLevels_eq]
  -- both kinds of report name every step once
  split_ifs
  · rw [emptyReport, List.map_map]
    exact List.map_id steps
  · cases steps with
    | nil => rfl
    | cons step rest => rw [report, List.map_cons, map_step_laterSteps]

/-- At the first step nothing is lost, and at each of the others the difference to the step
before. -/
theorem lost_ofLevels (rows : List FunnelLevel) (steps : List String) :
    (∀ s ∈ (ofLevels rows steps).head?, s.lost = 0) ∧
      (ofLevels rows steps).IsChain fun s t => t.lost = Count.sub s.sessions t.sessions := by
  rw [ofLevels_eq]
  split_ifs
  · refine ⟨fun s hs => (zero_of_mem_emptyReport (List.mem_of_mem_head? hs)).2, ?_⟩
    rw [List.isChain_iff_getElem]
    intro i hi
    rw [(zero_of_mem_emptyReport (List.getElem_mem hi)).1,
      (zero_of_mem_emptyReport (List.getElem_mem hi)).2,
      (zero_of_mem_emptyReport (List.getElem_mem (Nat.lt_of_succ_lt hi))).1]
    rfl
  · cases steps with
    | nil => exact ⟨by simp [report], List.isChain_nil⟩
    | cons step rest =>
      rw [report]
      refine ⟨fun s hs => ?_, isChain_laterSteps _ _ _ _⟩
      rw [List.head?_cons, Option.mem_some_iff] at hs
      rw [← hs]

/-- A step is reported with the sessions of its own level and of those above. -/
theorem map_sessions_ofLevels {rows : List FunnelLevel} (hnonneg : ∀ row ∈ rows, 0 ≤ row.sessions)
    (htotal : Count.InRange (rows.map (·.sessions)).sum) (steps : List String) :
    (ofLevels rows steps).map (·.sessions) =
      (List.range steps.length).map fun i => sessionsBetween rows (i + 1) (lastLevel steps) := by
  -- no sum is wrapped, since each lies between nothing and the total
  have hexact (i : Nat) : (counts rows steps).getD i 0 =
      sessionsBetween rows (i + 1) (lastLevel steps) := by
    have hlo := sessionsBetween_nonneg hnonneg (i + 1) (lastLevel steps)
    have hhi := sessionsBetween_le_total hnonneg (i + 1) (lastLevel steps)
    rw [getD_counts, Count.wrap_eq_self]
    unfold Count.InRange at htotal ⊢
    omega
  rw [ofLevels_eq, headD_eq_getD, hexact]
  split_ifs with hempty
  · -- if no session got to the first level, none got to a later one
    refine List.ext_getElem (by simp [emptyReport]) fun i hi hi' => ?_
    rw [List.getElem_map, List.getElem_map, List.getElem_range]
    have hlo := sessionsBetween_nonneg hnonneg (i + 1) (lastLevel steps)
    have hhi := sessionsBetween_anti hnonneg (show 0 + 1 ≤ i + 1 by omega) (lastLevel steps)
    rw [(zero_of_mem_emptyReport (List.getElem_mem _)).1]
    omega
  · cases steps with
    | nil => rfl
    | cons step rest =>
      rw [report, List.map_cons, map_sessions_laterSteps, List.length_cons, List.range_succ_eq_map,
        List.map_cons, List.map_map, headD_eq_getD, hexact]
      congr 1
      refine List.map_congr_left fun i _ => ?_
      rw [getD_tail, hexact]
      rfl

/-- Losses add up to the difference between the first step and the last. -/
theorem sum_lost_of_isChain {s : FunnelStep} {l : List FunnelStep}
    (h : (s :: l).IsChain fun s t => t.lost = s.sessions - t.sessions) :
    (l.map (·.lost)).sum = s.sessions - ((s :: l).getLast (List.cons_ne_nil s l)).sessions := by
  induction l generalizing s with
  | nil => rw [List.map_nil, List.sum_nil, List.getLast_singleton, sub_self]
  | cons t l ih =>
    obtain ⟨hlost, hrest⟩ := List.isChain_cons_cons.mp h
    rw [List.map_cons, List.sum_cons, ih hrest, hlost, List.getLast_cons (List.cons_ne_nil t l)]
    omega

/-! ### Which rows matter -/

/-- Only the sums over the levels from one up to the last matter. -/
theorem ofLevels_congr {rows rows' : List FunnelLevel} {steps : List String}
    (h : ∀ level, 1 ≤ level → sessionsBetween rows level (lastLevel steps) =
      sessionsBetween rows' level (lastLevel steps)) :
    ofLevels rows steps = ofLevels rows' steps := by
  have hcounts : counts rows steps = counts rows' steps := by
    rw [counts_eq, counts_eq]
    refine List.map_congr_left fun level hlevel => ?_
    rw [List.mem_range'_1] at hlevel
    rw [h level hlevel.1]
  rw [ofLevels_eq, ofLevels_eq, hcounts]

/-- The order of the rows does not matter to a report. -/
theorem ofLevels_perm {rows rows' : List FunnelLevel} (h : rows.Perm rows')
    (steps : List String) : ofLevels rows' steps = ofLevels rows steps :=
  ofLevels_congr fun level _ => (sessionsBetween_perm h level _).symm

/-- A count may be split over two rows of its level. -/
theorem ofLevels_split (before after : List FunnelLevel) (level : Nat) (a b : Int)
    (steps : List String) :
    ofLevels (before ++ ⟨level, a⟩ :: ⟨level, b⟩ :: after) steps =
      ofLevels (before ++ ⟨level, a + b⟩ :: after) steps := by
  refine ofLevels_congr fun low _ => ?_
  simp only [sessionsBetween_append, sessionsBetween_cons]
  split_ifs <;> omega

/-- Rows that belong to no step do not matter. -/
theorem ofLevels_append {rows others : List FunnelLevel} {steps : List String}
    (h : ∀ row ∈ others, row.level = 0 ∨ steps.length < row.level) :
    ofLevels (rows ++ others) steps = ofLevels rows steps := by
  refine ofLevels_congr fun level hlevel => ?_
  have hlast : lastLevel steps ≤ steps.length := Nat.mod_le _ _
  -- from the first level up to the last there is none of them
  have hnone : sessionsBetween others level (lastLevel steps) = 0 :=
    sessionsBetween_eq_zero fun row hrow => by
      have := h row hrow
      omega
  rw [sessionsBetween_append, hnone, add_zero]

/-! ### The report of a funnel -/

section Report

variable {rows : List FunnelLevel} (hnonneg : ∀ row ∈ rows, 0 ≤ row.sessions)
  (htotal : Count.InRange (rows.map (·.sessions)).sum) (steps : List String)
include hnonneg htotal

/-- A later step never has more sessions than an earlier one. -/
theorem pairwise_sessions_ofLevels :
    (ofLevels rows steps).Pairwise fun s t => t.sessions ≤ s.sessions := by
  -- a later step sums over fewer levels
  have hsessions : ((ofLevels rows steps).map (·.sessions)).Pairwise fun m n => n ≤ m := by
    rw [map_sessions_ofLevels hnonneg htotal, List.pairwise_map]
    refine List.pairwise_lt_range.imp fun {i j} hij => ?_
    exact sessionsBetween_anti hnonneg (by omega) _
  exact List.pairwise_map.mp hsessions

/-- No step has less than no sessions, or more than all rows together. -/
theorem inRange_sessions_ofLevels {s : FunnelStep} (hs : s ∈ ofLevels rows steps) :
    0 ≤ s.sessions ∧ s.sessions ≤ (rows.map (·.sessions)).sum := by
  have hmem := List.mem_map_of_mem (f := (·.sessions)) hs
  rw [map_sessions_ofLevels hnonneg htotal, List.mem_map] at hmem
  obtain ⟨i, -, hi⟩ := hmem
  rw [← hi]
  exact ⟨sessionsBetween_nonneg hnonneg _ _, sessionsBetween_le_total hnonneg _ _⟩

/-- What is lost at a step is no word that was wrapped. -/
theorem isChain_lost_ofLevels : (ofLevels rows steps).IsChain
    fun s t => t.lost = s.sessions - t.sessions ∧ 0 ≤ t.lost := by
  have hle := (pairwise_sessions_ofLevels hnonneg htotal steps).isChain
  have hlost := (lost_ofLevels rows steps).2
  rw [List.isChain_iff_getElem] at hle hlost ⊢
  intro i hi
  have hfirst := inRange_sessions_ofLevels hnonneg htotal steps
    (List.getElem_mem (Nat.lt_of_succ_lt hi))
  have hsecond := inRange_sessions_ofLevels hnonneg htotal steps (List.getElem_mem hi)
  have hword := hlost i hi
  -- of two words that count something, the difference is a word too
  rw [Count.sub, Count.wrap_eq_self] at hword
  · rw [hword]
    exact ⟨rfl, Int.sub_nonneg_of_le (hle i hi)⟩
  · unfold Count.InRange at htotal ⊢
    omega

/-- The first step loses nothing, so all losses make the difference between it and the last. -/
theorem sum_lost_ofLevels {first last : FunnelStep} (hfirst : first ∈ (ofLevels rows steps).head?)
    (hlast : last ∈ (ofLevels rows steps).getLast?) :
    ((ofLevels rows steps).map (·.lost)).sum = first.sessions - last.sessions := by
  have hzero := (lost_ofLevels rows steps).1 first hfirst
  have hchain := (isChain_lost_ofLevels hnonneg htotal steps).imp fun _ _ h => h.1
  cases hreport : ofLevels rows steps with
  | nil =>
    rw [hreport] at hfirst
    contradiction
  | cons s rest =>
    rw [hreport] at hfirst hlast hchain
    rw [List.head?_cons, Option.mem_some_iff] at hfirst
    rw [List.getLast?_eq_some_getLast (List.cons_ne_nil s rest), Option.mem_some_iff] at hlast
    rw [List.map_cons, List.sum_cons, sum_lost_of_isChain hchain, hlast, hfirst, hzero, zero_add]

end Report

/-- **Reports of funnels.** If no row counts less than nothing and all of them together fit into a
word, the report has the steps in order.  The sessions at a step are those of all rows from its
level up to the last one, so that they never increase.  At the first step nothing is lost, at every
other one the difference to the step before, and all that is lost is the difference between the
first step and the last.  The report does not depend on the order of the rows, on whether a count is
split over two rows of its level, nor on rows of level 0 or past the last step. -/
theorem ofLevels_suffixSums {rows : List FunnelLevel} (hnonneg : ∀ row ∈ rows, 0 ≤ row.sessions)
    (htotal : Count.InRange (rows.map (·.sessions)).sum) (steps : List String) :
    (ofLevels rows steps).map (·.step) = steps ∧
      (steps.length ≤ Numeral.maxU32 → lastLevel steps = steps.length) ∧
      (ofLevels rows steps).map (·.sessions) =
        ((List.range steps.length).map fun i =>
          sessionsBetween rows (i + 1) (lastLevel steps)) ∧
      (ofLevels rows steps).Pairwise (fun s t => t.sessions ≤ s.sessions) ∧
      (∀ first ∈ (ofLevels rows steps).head?, first.lost = 0 ∧
        ∀ last ∈ (ofLevels rows steps).getLast?,
          ((ofLevels rows steps).map (·.lost)).sum = first.sessions - last.sessions) ∧
      (ofLevels rows steps).IsChain
        (fun s t => t.lost = s.sessions - t.sessions ∧ 0 ≤ t.lost) ∧
      (∀ rows', rows.Perm rows' → ofLevels rows' steps = ofLevels rows steps) ∧
      (∀ before after level a b, rows = before ++ ⟨level, a + b⟩ :: after →
        ofLevels (before ++ ⟨level, a⟩ :: ⟨level, b⟩ :: after) steps = ofLevels rows steps) ∧
      ∀ others : List FunnelLevel,
        (∀ row ∈ others, row.level = 0 ∨ steps.length < row.level) →
          ofLevels (rows ++ others) steps = ofLevels rows steps := by
  refine ⟨map_step_ofLevels rows steps, lastLevel_of_le, map_sessions_ofLevels hnonneg htotal steps,
    pairwise_sessions_ofLevels hnonneg htotal steps, fun first hfirst => ⟨?_, fun last hlast => ?_⟩,
    isChain_lost_ofLevels hnonneg htotal steps, fun rows' h => ofLevels_perm h steps, ?_,
    fun others h => ofLevels_append h⟩
  · exact (lost_ofLevels rows steps).1 first hfirst
  · exact sum_lost_ofLevels hnonneg htotal steps hfirst hlast
  · rintro before after level a b rfl
    exact ofLevels_split before after level a b steps

/-- Three steps, with rows out of order, two for one level, and two that belong to no step: 85
sessions got to the first step and 55 of them to the last. -/
theorem ofLevels_suffixSums_unordered :
    let rows : List FunnelLevel := [⟨3, 50⟩, ⟨9, 4⟩, ⟨1, 30⟩, ⟨0, 7⟩, ⟨3, 5⟩]
    let steps := ["/", "/pricing", "signup"]
    (∀ row ∈ rows, 0 ≤ row.sessions) ∧ Count.InRange (rows.map (·.sessions)).sum ∧
      (ofLevels rows steps).map (·.step) = steps ∧
      (ofLevels rows steps).map (·.sessions) = [85, 55, 55] ∧
      (∀ first ∈ (ofLevels rows steps).head?, ∀ last ∈ (ofLevels rows steps).getLast?,
        ((ofLevels rows steps).map (·.lost)).sum = first.sessions - last.sessions) ∧
      ofLevels [⟨3, 55⟩, ⟨1, 30⟩] steps = ofLevels [⟨3, 50⟩, ⟨3, 5⟩, ⟨1, 30⟩] steps := by
  intro rows steps
  have hnonneg : ∀ row ∈ rows, 0 ≤ row.sessions := by decide
  have htotal : Count.InRange (rows.map (·.sessions)).sum := by decide
  obtain ⟨hsteps, -, hsessions, -, hlost, -, -, -, -⟩ := ofLevels_suffixSums hnonneg htotal steps
  obtain ⟨-, -, -, -, -, -, -, hsplit, -⟩ :=
    @ofLevels_suffixSums [⟨3, 50 + 5⟩, ⟨1, 30⟩] (by decide) (by decide) steps
  refine ⟨hnonneg, htotal, hsteps, ?_, fun first hfirst => (hlost first hfirst).2, ?_⟩
  · rw [hsessions]
    decide
  · exact (hsplit [] [⟨1, 30⟩] 3 50 5 rfl).symm

end Funnel

end SiteAnalytics
