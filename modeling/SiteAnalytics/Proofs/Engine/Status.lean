import SiteAnalytics.Proofs.Dict
import SiteAnalytics.Proofs.Engine.Refusal

/-!
# Changing the status of an error

The status of an error is the only thing that is ever written, and it is written only if the change
is `Justified`: the id has the form of one, the project exists, and the store answers that the error
has occurred.  There is one lemma for each way in which a change can end, in the order in which the
conditions are checked.  `Operation.execute_iff_justified` puts them together, and says of every
other operation that it writes nothing.
-/

namespace SiteAnalytics

open StoreTask

/-- An error id is made of 32 characters that have a value as hexadecimal digits. -/
theorem isErrorId_iff {s : String} :
    isErrorId s = true ↔ s.length = 32 ∧ ∀ c ∈ s.toList, (Text.hexValue? c).isSome := by
  have hdigit (c : Char) : (('0' ≤ c && c ≤ '9') || ('a' ≤ c && c ≤ 'f') || ('A' ≤ c && c ≤ 'F')) =
      (Text.hexValue? c).isSome := by
    rw [Text.hexValue?]
    cases ('0' ≤ c && c ≤ '9' : Bool) <;> cases ('a' ≤ c && c ≤ 'f' : Bool) <;>
      cases ('A' ≤ c && c ≤ 'F' : Bool) <;> rfl
  rw [isErrorId, Bool.and_eq_true, beq_iff_eq, List.all_eq_true, String.length_toList]
  simp only [hdigit]

/-- What a change of status binds. -/
theorem Query.get?_insertStatus (pid eid : String) (status : ErrorStatus) (k : String) :
    (insertStatus pid eid status).params.get? k =
      [("eid", .text eid), ("pid", .text pid), ("status", .text status.name)].lookup k :=
  Dict.get?_ofList (by simp) k

namespace Engine

variable (e : Engine) (s : ColumnStore) (log : List StoreRequest) (pid eid : String)

/-- The answer of the store to the question whether an error has occurred. -/
def occurrences : Except String (List Json) := s.query log (.errorExists pid eid)

/-- The change of the status is justified. -/
structure Justified : Prop where
  isErrorId : isErrorId eid = true
  project : (e.registry.project? pid).isSome
  occurs : ∃ n more, ReadsAs occurrencesOfJson? (occurrences s log pid eid) (n :: more) ∧ 0 < n

/-! ### How a change can end -/

variable {e s log pid eid} (status : ErrorStatus)

/-- An id of the wrong form is refused before anything is asked. -/
theorem runOn_setErrorStatus_of_invalid (hid : isErrorId eid = false) :
    (e.setErrorStatus pid eid status).runOn s log =
      (.error (.validation (.invalidErrorId eid)), log) := by
  have hcheck : checkErrorId eid = .error (.invalidErrorId eid) := by
    rw [checkErrorId, hid]
    rfl
  exact runOn_bind_of_error (runOn_of_error hcheck) _

theorem runOn_setErrorStatus_of_id (hid : isErrorId eid = true) :
    (e.setErrorStatus pid eid status).runOn s log =
      (e.project pid >>= fun _ =>
        StoreTask.fetch occurrencesOfJson? (.errorExists pid eid) >>= fun counts =>
          StoreTask.orElse (.notFound "Error") (counts.head?.filter (0 < ·)) >>= fun _ =>
            StoreTask.command (.insertStatus pid eid status)).runOn s log := by
  have hcheck : checkErrorId eid = .ok () := by
    rw [checkErrorId, hid]
    rfl
  exact runOn_bind_of_ok (runOn_of_ok hcheck) _

/-- A missing project is reported before anything is asked. -/
theorem runOn_setErrorStatus_of_no_project (hid : isErrorId eid = true)
    (hproject : e.registry.project? pid = none) :
    (e.setErrorStatus pid eid status).runOn s log = (.error (.notFound "Project"), log) := by
  have hnone : (e.project pid).runOn s log = (.error (.notFound "Project"), log) :=
    runOn_orElse_none hproject
  rw [runOn_setErrorStatus_of_id status hid, runOn_bind_of_error hnone]

/-- Once the project is there, the store is asked whether the error has occurred. -/
theorem runOn_setErrorStatus_of_project (hid : isErrorId eid = true)
    (hproject : (e.registry.project? pid).isSome) :
    (e.setErrorStatus pid eid status).runOn s log =
      (StoreTask.fetch occurrencesOfJson? (.errorExists pid eid) >>= fun counts =>
        StoreTask.orElse (.notFound "Error") (counts.head?.filter (0 < ·)) >>= fun _ =>
          StoreTask.command (.insertStatus pid eid status)).runOn s log := by
  obtain ⟨p, hp⟩ := Option.isSome_iff_exists.mp hproject
  have hsome : (e.project pid).runOn s log = (.ok p, log) := runOn_orElse_some hp
  rw [runOn_setErrorStatus_of_id status hid, runOn_bind_of_ok hsome]

/-- Without an answer that can be read the store is unavailable, and nothing is written. -/
theorem runOn_setErrorStatus_of_unreadable (hid : isErrorId eid = true)
    (hproject : (e.registry.project? pid).isSome)
    (hanswer : ∀ counts, ¬ReadsAs occurrencesOfJson? (occurrences s log pid eid) counts) :
    ∃ reason, (e.setErrorStatus pid eid status).runOn s log =
      (.error (.unavailable reason), log ++ [.query (.errorExists pid eid)]) := by
  obtain ⟨reason, hreason⟩ := ofAnswer_eq_error hanswer
  refine ⟨reason, ?_⟩
  rw [runOn_setErrorStatus_of_project status hid hproject, runOn_bind_of_error]
  rw [runOn_fetch]
  exact congrArg (·, _) hreason

/-- After a good answer it is the first count that decides. -/
theorem runOn_setErrorStatus_of_readsAs (hid : isErrorId eid = true)
    (hproject : (e.registry.project? pid).isSome) {counts : List Nat}
    (hanswer : ReadsAs occurrencesOfJson? (occurrences s log pid eid) counts) :
    (e.setErrorStatus pid eid status).runOn s log =
      (StoreTask.orElse (.notFound "Error") (counts.head?.filter (0 < ·)) >>= fun _ =>
        StoreTask.command (.insertStatus pid eid status)).runOn s
          (log ++ [.query (.errorExists pid eid)]) := by
  rw [runOn_setErrorStatus_of_project status hid hproject, runOn_bind_of_ok]
  rw [runOn_fetch]
  exact congrArg (·, _) (ofAnswer_eq_ok_iff.mpr hanswer)

/-- An error that has not occurred is not found. -/
theorem runOn_setErrorStatus_of_no_error (hid : isErrorId eid = true)
    (hproject : (e.registry.project? pid).isSome) {counts : List Nat}
    (hanswer : ReadsAs occurrencesOfJson? (occurrences s log pid eid) counts)
    (hcount : ∀ n ∈ counts.head?, n = 0) :
    (e.setErrorStatus pid eid status).runOn s log =
      (.error (.notFound "Error"), log ++ [.query (.errorExists pid eid)]) := by
  have hfilter : counts.head?.filter (0 < ·) = none := by
    rw [Option.filter_eq_none_iff]
    intro n hn
    simp [hcount n hn]
  rw [runOn_setErrorStatus_of_readsAs status hid hproject hanswer,
    runOn_bind_of_error (runOn_orElse_none hfilter)]

/-- A justified change asks once and writes once. -/
theorem runOn_setErrorStatus_of_justified (h : e.Justified s log pid eid) :
    (e.setErrorStatus pid eid status).runOn s log =
      ((s.execute (log ++ [.query (.errorExists pid eid)])
          (.insertStatus pid eid status)).mapError .unavailable,
        log ++ [.query (.errorExists pid eid), .execute (.insertStatus pid eid status)]) := by
  obtain ⟨n, more, hanswer, hpos⟩ := h.occurs
  have hfilter : (n :: more).head?.filter (0 < ·) = some n := by
    simp [hpos]
  rw [runOn_setErrorStatus_of_readsAs status h.isErrorId h.project hanswer,
    runOn_bind_of_ok (runOn_orElse_some hfilter), runOn_command, List.append_assoc]
  rfl

/-- A change that is not justified asks one query at most and writes nothing. -/
theorem runOn_setErrorStatus_of_not_justified (h : ¬e.Justified s log pid eid) :
    ((e.setErrorStatus pid eid status).runOn s log).2 = log ∨
      ((e.setErrorStatus pid eid status).runOn s log).2 =
        log ++ [.query (.errorExists pid eid)] := by
  -- the conditions in the order in which they are checked: id, project, answer, count
  cases hid : isErrorId eid with
  | false =>
    left
    rw [runOn_setErrorStatus_of_invalid status hid]
  | true =>
    cases hp : e.registry.project? pid with
    | none =>
      left
      rw [runOn_setErrorStatus_of_no_project status hid hp]
    | some p =>
      have hproject : (e.registry.project? pid).isSome := by simp [hp]
      right
      by_cases hanswer : ∃ counts, ReadsAs occurrencesOfJson? (occurrences s log pid eid) counts
      · obtain ⟨counts, hcounts⟩ := hanswer
        rw [runOn_setErrorStatus_of_no_error status hid hproject hcounts]
        intro n hn
        obtain ⟨more, rfl⟩ := List.head?_eq_some_iff.mp hn
        -- a positive count would have justified the change
        by_contra hne
        exact h ⟨hid, hproject, n, more, hcounts, Nat.pos_of_ne_zero hne⟩
      · obtain ⟨reason, hrun⟩ :=
          runOn_setErrorStatus_of_unreadable status hid hproject (not_exists.mp hanswer)
        rw [hrun]

/-! ### Operations that only read -/

variable (e : Engine) (now : DateTime) (r : Request)

theorem onlyReads_summariesOf (filter : CompiledFilter) (pids : List String) :
    (e.summariesOf now r filter pids).OnlyReads := by
  induction pids with
  | nil => exact onlyReads_pure _
  | cons pid rest ih =>
    exact (e.orderly_summaryOf now r filter pid).onlyReads.bind fun _ =>
      ih.bind fun _ => onlyReads_pure _

theorem onlyReads_summary (pids : List String) : (e.summary now r pids).OnlyReads := by
  refine (onlyReads_result _).bind fun filter => ?_
  exact (e.onlyReads_summariesOf now r filter pids).bind fun _ => onlyReads_pure _

end Engine

namespace Operation

/-- No operation but a change of status gives the store a command. -/
theorem onlyReads_task (e : Engine) (now : DateTime) {o : Operation}
    (ho : ∀ pid eid status, o ≠ setErrorStatus pid eid status) :
    (o.task e now).OnlyReads := by
  -- an operation on one project is orderly, and only three are not of that kind
  cases hrequest : o.request? with
  | some r => exact (orderly_task e now hrequest).onlyReads
  | none =>
    cases o with
    | summary r pids => exact e.onlyReads_summary now r pids
    | live cache clock pid => exact onlyReads_result _
    | setErrorStatus pid eid status => exact absurd rfl (ho pid eid status)
    | chart _ _ _ | funnel _ _ | savedFunnel _ _ | userFlow _ | breakdown _ _ _ | errors _ _
    | eventMeta _ _ => contradiction

end Operation

end SiteAnalytics
