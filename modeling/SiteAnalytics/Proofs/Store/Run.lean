import SiteAnalytics.Store.Task

/-!
# Running tasks on a column store

`StoreTask.runOn` carries a task out: it gives the result, and the log of what the store has been
asked by then.  One lemma for each way of building a task says what its run is.  A step that needs
no store leaves the log as it is, and after an error nothing more is asked (`runOn_bind_of_ok`,
`runOn_bind_of_error`).
-/

namespace SiteAnalytics

namespace StoreProgram

variable {α β : Type}

/-- The second program is run on what the first one leaves behind. -/
theorem run_bind (s : ColumnStore) (log : List StoreRequest) (p : StoreProgram α)
    (f : α → StoreProgram β) :
    (p.bind f).run s log = (f (p.run s log).1).run s (p.run s log).2 := by
  -- on the first program, which asks one query after the other
  induction p generalizing log with
  | done a => rfl
  | query q next ih => exact ih (s.query log q) (log ++ [.query q])
  | execute q next ih => exact ih (s.execute log q) (log ++ [.execute q])

end StoreProgram

namespace StoreTask

variable {α β : Type}

/-- Carries out a task on a store that was asked `log` before. -/
def runOn (s : ColumnStore) (log : List StoreRequest) (t : StoreTask α) :
    Except EngineError α × List StoreRequest := t.run.run s log

variable (s : ColumnStore) (log : List StoreRequest)

/-! ### Single steps -/

@[simp] theorem runOn_result (r : Except EngineError α) : (result r).runOn s log = (r, log) := rfl

@[simp] theorem runOn_pure (a : α) : (pure a : StoreTask α).runOn s log = (.ok a, log) := rfl

@[simp] theorem runOn_of {ε : Type} [Coe ε EngineError] (r : Except ε α) :
    (of r).runOn s log = (r.mapError Coe.coe, log) := rfl

/-- A look-up outside the store is run without it. -/
@[simp] theorem runOn_orElse (e : EngineError) (o : Option α) :
    (orElse e o).runOn s log = (o.elim (.error e) .ok, log) := by
  cases o <;> rfl

/-- A fetch asks one query, and its answer is read. -/
@[simp] theorem runOn_fetch (f : Json → Option α) (q : Query) :
    (fetch f q).runOn s log = (ofAnswer f (s.query log q), log ++ [.query q]) := rfl

/-- A fetch that may fail asks one query, and has no rows if that fails. -/
@[simp] theorem runOn_fetchOrNothing (f : Json → Option α) (q : Query) :
    (fetchOrNothing f q).runOn s log =
      (.ok (match ofAnswer f (s.query log q) with
        | .ok as => as
        | .error _ => []), log ++ [.query q]) := rfl

@[simp] theorem runOn_command (q : Query) :
    (command q).runOn s log =
      ((s.execute log q).mapError .unavailable, log ++ [.execute q]) := rfl

/-! ### One after the other -/

/-- The second task is run only if the first one has not failed. -/
theorem runOn_bind (t : StoreTask α) (f : α → StoreTask β) : (t >>= f).runOn s log =
    match t.runOn s log with
    | (.ok a, log') => (f a).runOn s log'
    | (.error e, log') => (.error e, log') := by
  -- a task is a program with an outcome, which decides what follows
  show (StoreProgram.bind t.run (ExceptT.bindCont f)).run s log = _
  rw [StoreProgram.run_bind, runOn]
  cases t.run.run s log with
  | mk r log' =>
    cases r with
    | ok a => rfl
    | error e => rfl

/-- What is made of a result does not ask the store. -/
theorem runOn_bind_pure (t : StoreTask α) (f : α → β) :
    (t >>= fun a => pure (f a)).runOn s log =
      ((t.runOn s log).1.map f, (t.runOn s log).2) := by
  rw [runOn_bind]
  cases t.runOn s log with
  | mk r log' => cases r <;> rfl

variable {s log}

/-- Two tasks are good together if the first one is, and the second one on what that leaves
behind. -/
theorem runOn_bind_eq_ok_iff {t : StoreTask α} {f : α → StoreTask β} {b : β} :
    ((t >>= f).runOn s log).1 = .ok b ↔
      ∃ a log', t.runOn s log = (.ok a, log') ∧ ((f a).runOn s log').1 = .ok b := by
  rw [runOn_bind]
  cases t.runOn s log with
  | mk r log' =>
    cases r with
    | error e => simp
    | ok a =>
      constructor
      · exact fun h => ⟨a, log', rfl, h⟩
      · rintro ⟨_, _, ⟨⟩, h⟩
        exact h

/-! ### Where the outcome is known -/

theorem runOn_of_ok {ε : Type} [Coe ε EngineError] {r : Except ε α} {a : α} (h : r = .ok a) :
    (of r).runOn s log = (.ok a, log) := by
  rw [runOn_of, h]
  rfl

theorem runOn_of_error {ε : Type} [Coe ε EngineError] {r : Except ε α} {cause : ε}
    (h : r = .error cause) : (of r).runOn s log = (.error (Coe.coe cause), log) := by
  rw [runOn_of, h]
  rfl

theorem runOn_orElse_some {e : EngineError} {o : Option α} {a : α} (h : o = some a) :
    (orElse e o).runOn s log = (.ok a, log) := by
  rw [runOn_orElse, h]
  rfl

theorem runOn_orElse_none {e : EngineError} {o : Option α} (h : o = none) :
    (orElse e o).runOn s log = (.error e, log) := by
  rw [runOn_orElse, h]
  rfl

/-- After a good outcome the next step goes on with the log. -/
theorem runOn_bind_of_ok {t : StoreTask α} {a : α} {log' : List StoreRequest}
    (h : t.runOn s log = (.ok a, log')) (f : α → StoreTask β) :
    (t >>= f).runOn s log = (f a).runOn s log' := by
  rw [runOn_bind, h]

/-- After an error the run is over. -/
theorem runOn_bind_of_error {t : StoreTask α} {e : EngineError} {log' : List StoreRequest}
    (h : t.runOn s log = (.error e, log')) (f : α → StoreTask β) :
    (t >>= f).runOn s log = (.error e, log') := by
  rw [runOn_bind, h]

end StoreTask

end SiteAnalytics
