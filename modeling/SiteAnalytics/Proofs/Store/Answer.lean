import SiteAnalytics.Store.Task

/-!
# Answers of the column store

`ReadsAs` says without the readers what it is for an answer to be good: the store gave rows, and
every one of them can be read.  An answer is either good or a failure behind the scenes
(`ofAnswer_eq_ok_iff`, `ofAnswer_eq_error`), never anything that a client could mend.
-/

namespace SiteAnalytics.StoreTask

variable {α : Type} {f : Json → Option α}

/-- The store answered with rows, and they are read as `as`. -/
def ReadsAs (f : Json → Option α) (answer : Except String (List Json)) (as : List α) : Prop :=
  ∃ rows, answer = .ok rows ∧ rows.mapM f = some as

theorem readRows_eq_ok_iff {index : Nat} {rows : List Json} {as : List α} :
    readRows f index rows = .ok as ↔ rows.mapM f = some as := by
  induction rows generalizing index as with
  | nil => simp [readRows, eq_comm]
  | cons row rest ih =>
    rw [readRows, List.mapM_cons]
    cases f row with
    | none => simp
    | some a =>
      cases hrest : readRows f (index + 1) rest with
      | error number =>
        have hnone : rest.mapM f = none :=
          Option.eq_none_iff_forall_ne_some.mpr fun more hmore => by
            rw [ih.mpr hmore] at hrest
            contradiction
        simp [hnone, Except.map]
      | ok more => simp [ih.mp hrest, Except.map]

theorem ofAnswer_eq_ok_iff {answer : Except String (List Json)} {as : List α} :
    ofAnswer f answer = .ok as ↔ ReadsAs f answer as := by
  cases answer with
  | error reason => simp [ofAnswer, ReadsAs]
  | ok rows =>
    rw [ofAnswer]
    cases hread : readRows f 0 rows with
    | ok more => simp [ReadsAs, readRows_eq_ok_iff.mp hread]
    | error index =>
      have hnot : rows.mapM f ≠ some as := fun h => by
        rw [readRows_eq_ok_iff.mpr h] at hread
        contradiction
      simp [ReadsAs, hnot]

/-- What is wrong with an answer is a failure behind the scenes. -/
theorem ofAnswer_ok_or_unavailable (f : Json → Option α) (answer : Except String (List Json)) :
    (∃ as, ofAnswer f answer = .ok as) ∨
      ∃ reason, ofAnswer f answer = .error (.unavailable reason) := by
  unfold ofAnswer
  split
  · exact .inr ⟨_, rfl⟩
  · split
    · exact .inl ⟨_, rfl⟩
    · exact .inr ⟨_, rfl⟩

theorem ofAnswer_eq_error {answer : Except String (List Json)}
    (h : ∀ as, ¬ReadsAs f answer as) :
    ∃ reason, ofAnswer f answer = .error (.unavailable reason) := by
  refine (ofAnswer_ok_or_unavailable f answer).resolve_left ?_
  rintro ⟨as, has⟩
  exact h as (ofAnswer_eq_ok_iff.mp has)

end SiteAnalytics.StoreTask
