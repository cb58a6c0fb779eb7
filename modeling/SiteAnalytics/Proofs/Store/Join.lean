import SiteAnalytics.Proofs.Store.Ensures

/-!
# Tasks at the same time

Tasks that do not wait for each other reach the column store in an order that nobody knows.
`Joins` says with what such tasks can end: in each turn any one of them asks the store, and once all
are done there are their results.  The first failure may end them all; if several of them fail, then
which failure that is depends on the order of the turns, too.

One task after the other is one such order (`joins_carryOut`).  If the tasks only read, and the
store answers a query in the same way whatever it was asked before, the order makes no difference
to what each task comes to, which is what it comes to by itself (`Joins.isOutcome`).
-/

namespace SiteAnalytics

/-! ### Steady stores -/

namespace ColumnStore

/-- The answer to a query depends on the query alone, and not on what was asked before. -/
def Steady (s : ColumnStore) : Prop := ∀ log log' q, s.query log q = s.query log' q

/-- A store that gives one answer first, and then answers as `s` does from the beginning. -/
def behind (answer : Except String (List Json)) (s : ColumnStore) : ColumnStore where
  query log q := match log with
    | [] => answer
    | _ :: log => s.query log q
  execute log q := s.execute log.tail q

end ColumnStore

/-! ### Programs without commands -/

namespace StoreProgram

variable {α : Type} {s : ColumnStore}

/-- The program gives no command, whatever it is answered. -/
inductive ReadOnly : StoreProgram α → Prop
  | done (a : α) : ReadOnly (done a)
  | query {q : Query} {next : Except String (List Json) → StoreProgram α}
      (h : ∀ answer, ReadOnly (next answer)) : ReadOnly (query q next)

/-- What was asked stays in the log. -/
theorem mem_log_run {request : StoreRequest} {log : List StoreRequest} (h : request ∈ log)
    (p : StoreProgram α) : request ∈ (p.run s log).2 := by
  induction p generalizing log with
  | done a => exact h
  | query q next ih => exact ih _ (List.mem_append_left _ h)
  | execute q next ih => exact ih _ (List.mem_append_left _ h)

theorem log_run_behind (answer : Except String (List Json)) (first : StoreRequest)
    (log : List StoreRequest) (p : StoreProgram α) :
    (p.run (s.behind answer) (first :: log)).2 = first :: (p.run s log).2 := by
  induction p generalizing log with
  | done a => rfl
  | query q next ih => exact ih (s.query log q) (log ++ [.query q])
  | execute q next ih => exact ih (s.execute log q) (log ++ [.execute q])

/-- A program in whose runs there is no command has none at all: every way through it is the run on
some store. -/
theorem readOnly_of_log_run {p : StoreProgram α}
    (h : ∀ s q, .execute q ∉ (p.run s []).2) : p.ReadOnly := by
  induction p with
  | done a => exact .done a
  | query q next ih =>
    refine .query fun answer => ih answer fun s command hcommand => ?_
    refine h (s.behind answer) command ?_
    show _ ∈ ((next answer).run (s.behind answer) [.query q]).2
    rw [log_run_behind]
    exact List.mem_cons_of_mem _ hcommand
  | execute q next _ =>
    let s : ColumnStore := ⟨fun _ _ => .ok [], fun _ _ => .ok ()⟩
    exact absurd (mem_log_run (List.mem_singleton_self _) (next (.ok ()))) (h s q)

/-- On a steady store a program comes to the same, whatever was asked before. -/
theorem ReadOnly.run_eq (hs : s.Steady) {p : StoreProgram α} (hp : p.ReadOnly)
    (log log' : List StoreRequest) : (p.run s log).1 = (p.run s log').1 := by
  induction hp generalizing log log' with
  | done a => rfl
  | @query q next _ ih =>
    show ((next (s.query log q)).run s _).1 = ((next (s.query log' q)).run s _).1
    rw [hs log log' q]
    exact ih _ _ _

end StoreProgram

namespace StoreTask

variable {α : Type} {s : ColumnStore}

theorem OnlyReads.readOnly {t : StoreTask α} (ht : t.OnlyReads) : t.run.ReadOnly := by
  refine StoreProgram.readOnly_of_log_run fun s q hq => ?_
  obtain ⟨asked, hlog, hasked⟩ := ht s []
  rw [StoreTask.runOn, List.nil_append] at hlog
  exact hasked q (hlog ▸ hq)

/-! ### Turns -/

/-- With what tasks can end that are carried out at the same time on a store that was asked `log`
before. -/
inductive Joins (s : ColumnStore) : List StoreRequest → List (StoreTask α) →
    Except EngineError (List α) → Prop
  /-- All tasks are done. -/
  | done {log : List StoreRequest} (as : List α) :
      Joins s log (as.map fun a => result (.ok a)) (.ok as)
  /-- A task has failed, and nobody waits for the others. -/
  | failed {log : List StoreRequest} {before after : List (StoreTask α)} (e : EngineError) :
      Joins s log (before ++ result (.error e) :: after) (.error e)
  /-- It is the turn of a task with a query. -/
  | query {log : List StoreRequest} {before after : List (StoreTask α)}
      {outcome : Except EngineError (List α)} (q : Query)
      (next : Except String (List Json) → StoreProgram (Except EngineError α))
      (h : Joins s (log ++ [.query q])
        (before ++ ExceptT.mk (next (s.query log q)) :: after) outcome) :
      Joins s log (before ++ ExceptT.mk (.query q next) :: after) outcome
  /-- It is the turn of a task with a command. -/
  | execute {log : List StoreRequest} {before after : List (StoreTask α)}
      {outcome : Except EngineError (List α)} (q : Query)
      (next : Except String Unit → StoreProgram (Except EngineError α))
      (h : Joins s (log ++ [.execute q])
        (before ++ ExceptT.mk (next (s.execute log q)) :: after) outcome) :
      Joins s log (before ++ ExceptT.mk (.execute q next) :: after) outcome

/-- A task may have all its turns before the others have theirs. -/
theorem joins_carryOut {log : List StoreRequest} {before after : List (StoreTask α)}
    {outcome : Except EngineError (List α)} {t : StoreTask α}
    (h : Joins s (t.runOn s log).2 (before ++ result (t.runOn s log).1 :: after) outcome) :
    Joins s log (before ++ t :: after) outcome := by
  suffices hrun : ∀ p : StoreProgram (Except EngineError α),
      Joins s (p.run s log).2 (before ++ result (p.run s log).1 :: after) outcome →
        Joins s log (before ++ ExceptT.mk p :: after) outcome from hrun t.run h
  clear h
  intro p
  induction p generalizing log with
  | done r => exact id
  | query q next ih => exact fun h => .query q next (ih _ h)
  | execute q next ih => exact fun h => .execute q next (ih _ h)

/-! ### Outcomes -/

/-- Results of tasks make up the outcome: all the results if there are such, and the error of one of
the tasks otherwise. -/
def IsOutcome (results : List (Except EngineError α)) : Except EngineError (List α) → Prop
  | .ok as => results = as.map .ok
  | .error e => .error e ∈ results

/-- On a steady store tasks that only read come to what each of them comes to by itself. -/
theorem Joins.isOutcome (hs : s.Steady) {log : List StoreRequest} {tasks : List (StoreTask α)}
    {outcome : Except EngineError (List α)} (h : Joins s log tasks outcome)
    (hread : ∀ t ∈ tasks, t.OnlyReads) (log' : List StoreRequest) :
    IsOutcome (tasks.map fun t => (t.runOn s log').1) outcome := by
  replace hread : ∀ t ∈ tasks, t.run.ReadOnly := fun t ht => (hread t ht).readOnly
  induction h with
  | done as => simp [IsOutcome, Function.comp_def]
  | failed e => simp [IsOutcome]
  | @query log before after outcome q next _ ih =>
    have hnext : ∀ answer, (next answer).ReadOnly := by
      have htask : (StoreProgram.query q next).ReadOnly :=
        hread _ (List.mem_append_right _ List.mem_cons_self)
      cases htask with
      | query h => exact h
    have hstep : (runOn s log' (ExceptT.mk (.query q next))).1 =
        (runOn s log' (ExceptT.mk (next (s.query log q)))).1 := by
      show ((next (s.query log' q)).run s _).1 = ((next (s.query log q)).run s log').1
      rw [hs log' log q]
      exact (hnext _).run_eq hs _ _
    rw [List.map_append, List.map_cons, hstep]
    rw [List.map_append, List.map_cons] at ih
    refine ih fun t ht => ?_
    rcases List.mem_append.mp ht with ht | ht
    · exact hread t (List.mem_append_left _ ht)
    · rcases List.mem_cons.mp ht with rfl | ht
      · exact hnext _
      · exact hread t (List.mem_append_right _ (List.mem_cons_of_mem _ ht))
  | execute q next _ _ =>
    have htask : (StoreProgram.execute q next).ReadOnly :=
      hread _ (List.mem_append_right _ List.mem_cons_self)
    cases htask

end StoreTask

end SiteAnalytics
