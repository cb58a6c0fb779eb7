import SiteAnalytics.Bucket.Staircase
import SiteAnalytics.Proofs.Bucket.Index

/-!
# The staircase as a condition on days

`Suits b days` says for each bucket how many whole days it may be used for, without tiers;
`mem_allowed_iff` and `check_eq_ok_iff` say that the staircase of tiers means just that.
-/

namespace SiteAnalytics.Bucket

open DateTime

/-- The bucket may be used for a range of so many whole days. -/
def Suits (b : Bucket) (days : Int) : Prop :=
  match b with
  | minute => days ≤ 0
  | hour => days ≤ 7
  | day => 1 ≤ days ∧ days ≤ 28
  | month => 1 ≤ days ∧ days ≤ 1464
  | year => 733 ≤ days ∧ days ≤ 99999

/-- The tiers, as a case distinction on the number of days. -/
theorem allowed_eq (days : Int) : allowed days =
    if days ≤ 0 then .ok [minute, hour]
    else if days ≤ 7 then .ok [hour, day, month]
    else if days ≤ 28 then .ok [day, month]
    else if days ≤ 732 then .ok [month]
    else if days ≤ 1464 then .ok [month, year]
    else if days ≤ 99999 then .ok [year]
    else .error .rangeTooLarge := by
  unfold allowed staircase
  simp only [List.find?_cons, List.find?_nil]
  -- one case for each tier; those up to 366 and up to 732 days allow the same
  by_cases h₁ : days ≤ 0
  · simp [h₁]
  by_cases h₂ : days ≤ 7
  · simp [h₁, h₂]
  by_cases h₃ : days ≤ 28
  · simp [h₁, h₂, h₃]
  by_cases h₄ : days ≤ 366
  · simp [h₁, h₂, h₃, h₄, show days ≤ 732 by omega]
  by_cases h₅ : days ≤ 732
  · simp [h₁, h₂, h₃, h₄, h₅]
  by_cases h₆ : days ≤ 1464
  · simp [h₁, h₂, h₃, h₄, h₅, h₆]
  by_cases h₇ : days ≤ 99999
  · simp [h₁, h₂, h₃, h₄, h₅, h₆, h₇]
  · simp [h₁, h₂, h₃, h₄, h₅, h₆, h₇]

theorem mem_allowed_iff {b : Bucket} {days : Int} :
    (∃ fitting, allowed days = .ok fitting ∧ b ∈ fitting) ↔ b.Suits days := by
  rw [allowed_eq]
  cases b <;> unfold Suits <;> split_ifs <;> simp <;> omega

/-- A bucket passes the check of a range iff it suits the whole days of the range. -/
theorem check_eq_ok_iff {b : Bucket} {start stop : DateTime} :
    b.check start stop = .ok () ↔ b.Suits (dayDiff start stop) := by
  rw [← mem_allowed_iff, check]
  cases h : allowed (dayDiff start stop) with
  | error e => simp [bind, Except.bind]
  | ok fitting =>
    simp only [bind, Except.bind, List.contains_iff_mem]
    split_ifs with hb <;> simp [hb]

/-- The check of a range has three outcomes, by the whole days of the range. -/
theorem check_cases (b : Bucket) (start stop : DateTime) :
    (b.check start stop = .ok () ∧ b.Suits (dayDiff start stop)) ∨
      (b.check start stop = .error .rangeTooLarge ∧ 99999 < dayDiff start stop) ∨
      (b.check start stop = .error (.bucketNotAllowed b (dayDiff start stop)) ∧
        dayDiff start stop ≤ 99999 ∧ ¬b.Suits (dayDiff start stop)) := by
  by_cases hsuits : b.Suits (dayDiff start stop)
  · exact .inl ⟨check_eq_ok_iff.mpr hsuits, hsuits⟩
  · right
    have hallowed := allowed_eq (dayDiff start stop)
    cases hfitting : allowed (dayDiff start stop) with
    | error e =>
      left
      rw [hfitting] at hallowed
      split_ifs at hallowed
      rw [check, hfitting, hallowed]
      exact ⟨rfl, by omega⟩
    | ok fitting =>
      right
      have hmem : b ∉ fitting := fun hb => hsuits (mem_allowed_iff.mp ⟨fitting, hfitting, hb⟩)
      refine ⟨?_, ?_, hsuits⟩
      · rw [check, hfitting]
        show (if fitting.contains b then _ else _) = _
        rw [if_neg (by simpa using hmem)]
      · rw [hfitting] at hallowed
        split_ifs at hallowed <;> omega

/-- The finest bucket for a range of so many whole days; the coarsest if there is none. -/
def finestFor (days : Int) : Bucket :=
  if days ≤ 0 then minute
  else if days ≤ 7 then hour
  else if days ≤ 28 then day
  else if days ≤ 1464 then month
  else year

theorem finest_eq (start stop : DateTime) : finest start stop =
    if dayDiff start stop ≤ 99999 then .ok (finestFor (dayDiff start stop))
    else .error .rangeTooLarge := by
  rw [finest, allowed_eq, finestFor]
  split_ifs <;> first | rfl | omega

theorem dayDiff_ofSecond {a b : Int} (h : a ≤ b) :
    dayDiff (ofSecond a) (ofSecond b) = (b - a) / secondsPerDay :=
  wholeDays_diff_ofSecond h

/-- A day has less than a whole day between its first second and its last one. -/
theorem dayDiff_of_day (d : Int) :
    dayDiff (ofDay d) (ofSecond (day.firstSecond (d + 1) - 1)) = 0 := by
  show dayDiff (ofSecond (d * secondsPerDay)) (ofSecond _) = 0
  rw [dayDiff_ofSecond] <;> simp only [firstSecond, secondsPerDay] <;> omega

end SiteAnalytics.Bucket
