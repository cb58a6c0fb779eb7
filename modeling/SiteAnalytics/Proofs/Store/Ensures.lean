import SiteAnalytics.Proofs.Store.Answer
import SiteAnalytics.Proofs.Store.Run

/-!
# What every run of a task ensures

`Ensures t Q` says of a task, for whatever store and whatever that was asked before: the run adds
some requests to the log and has a result, and the two satisfy `Q`.  There is one rule for each way
of building a task.  `Ensures.bind` is the rule for one task after another: a failure of the first
must be fine by itself, and what the second asks is added to what the first has asked.

The log is a trace of effects, so this is how statements about effects are proved: `OnlyReads`
bounds what a task can ask, and `Fetches` also how it can fail.
-/

namespace SiteAnalytics

/-- The failure is one of the request and not one behind the scenes. -/
def EngineError.IsRefusal : EngineError → Prop
  | .validation _ | .notFound _ => True
  | .unavailable _ | .outOfCalendar => False

namespace StoreTask

variable {α β : Type}

/-- Every run of the task adds requests to the log that, with the result, satisfy `Q`. -/
def Ensures (t : StoreTask α) (Q : List StoreRequest → Except EngineError α → Prop) : Prop :=
  ∀ s log, ∃ asked, (t.runOn s log).2 = log ++ asked ∧ Q asked (t.runOn s log).1

variable {Q : List StoreRequest → Except EngineError α → Prop}
  {R : List StoreRequest → Except EngineError β → Prop}

/-! ### Rules -/

/-- A run that ensures something ensures what follows from it. -/
theorem Ensures.mono {t : StoreTask α} {Q' : List StoreRequest → Except EngineError α → Prop}
    (ht : t.Ensures Q) (h : ∀ asked r, Q asked r → Q' asked r) : t.Ensures Q' := by
  intro s log
  obtain ⟨asked, hlog, hasked⟩ := ht s log
  exact ⟨asked, hlog, h _ _ hasked⟩

/-- A step that needs no store asks nothing. -/
theorem ensures_result {r : Except EngineError α} (h : Q [] r) : (result r).Ensures Q :=
  fun _ log => ⟨[], (List.append_nil log).symm, h⟩

theorem ensures_pure {a : α} (h : Q [] (.ok a)) : (pure a : StoreTask α).Ensures Q :=
  ensures_result h

/-- A look-up outside the store asks nothing, whether it finds something or not. -/
theorem ensures_orElse {e : EngineError} {o : Option α} (h : Q [] (o.elim (.error e) .ok)) :
    (orElse e o).Ensures Q := by
  cases o with
  | none => exact ensures_result h
  | some a => exact ensures_result h

/-- A fetch asks one query, and rows or a failure of the store come back. -/
theorem ensures_fetch {f : Json → Option α} {q : Query}
    {Q : List StoreRequest → Except EngineError (List α) → Prop}
    (hok : ∀ as, Q [.query q] (.ok as))
    (herror : ∀ reason, Q [.query q] (.error (.unavailable reason))) :
    (fetch f q).Ensures Q := by
  intro s log
  refine ⟨[.query q], rfl, ?_⟩
  rw [runOn_fetch]
  -- the answer can be read, or the store is unavailable
  obtain ⟨as, has⟩ | ⟨reason, hreason⟩ := ofAnswer_ok_or_unavailable f (s.query log q)
  · rw [has]
    exact hok as
  · rw [hreason]
    exact herror reason

/-- A fetch that may fail asks one query and always has rows, if only none. -/
theorem ensures_fetchOrNothing {f : Json → Option α} {q : Query}
    {Q : List StoreRequest → Except EngineError (List α) → Prop} (h : ∀ as, Q [.query q] (.ok as)) :
    (fetchOrNothing f q).Ensures Q :=
  fun _ _ => ⟨[.query q], rfl, h _⟩

/-- One task after the other: the second goes on where the first has left off. -/
theorem Ensures.bind {t : StoreTask α} {f : α → StoreTask β} (ht : t.Ensures Q)
    (herror : ∀ asked e, Q asked (.error e) → R asked (.error e))
    (hok : ∀ asked a, Q asked (.ok a) → (f a).Ensures fun more r => R (asked ++ more) r) :
    (t >>= f).Ensures R := by
  intro s log
  obtain ⟨asked, hlog, hasked⟩ := ht s log
  rw [runOn_bind]
  cases hrun : t.runOn s log with
  | mk r log' =>
    rw [hrun] at hlog hasked
    obtain rfl : log' = log ++ asked := hlog
    -- after an error the second task is never run
    cases r with
    | error e => exact ⟨asked, rfl, herror asked e hasked⟩
    | ok a =>
      obtain ⟨more, hmore, hr⟩ := hok asked a hasked s (log ++ asked)
      exact ⟨asked ++ more, hmore.trans (List.append_assoc ..), hr⟩

/-! ### Reading -/

/-- The task gives the store no command. -/
def OnlyReads (t : StoreTask α) : Prop := t.Ensures fun asked _ => ∀ q, .execute q ∉ asked

theorem onlyReads_result (r : Except EngineError α) : (result r).OnlyReads :=
  ensures_result nofun

theorem onlyReads_pure (a : α) : (pure a : StoreTask α).OnlyReads :=
  onlyReads_result _

/-- Two tasks that only read do so together. -/
theorem OnlyReads.bind {t : StoreTask α} {f : α → StoreTask β} (ht : t.OnlyReads)
    (hf : ∀ a, (f a).OnlyReads) : (t >>= f).OnlyReads := by
  refine Ensures.bind ht (fun _ _ h => h) fun asked a hasked => (hf a).mono fun more _ hmore => ?_
  intro q hq
  rcases List.mem_append.mp hq with hq | hq
  · exact hasked q hq
  · exact hmore q hq

/-! ### Fetching -/

/-- The task gives the store no command, and if it fails, then not by way of a refusal. -/
def Fetches (t : StoreTask α) : Prop :=
  t.Ensures fun asked r => (∀ q, .execute q ∉ asked) ∧ ∀ e, r = .error e → ¬e.IsRefusal

theorem fetches_pure (a : α) : (pure a : StoreTask α).Fetches :=
  ensures_pure ⟨nofun, nofun⟩

/-- A look-up only fetches if its error is no refusal. -/
theorem fetches_orElse {e : EngineError} (he : ¬e.IsRefusal) (o : Option α) :
    (orElse e o).Fetches := by
  refine ensures_orElse ⟨nofun, ?_⟩
  cases o with
  | none =>
    rintro _ ⟨⟩
    exact he
  | some a => nofun

/-- A store that fails does not refuse the request. -/
theorem fetches_fetch (f : Json → Option α) (q : Query) : (fetch f q).Fetches := by
  refine ensures_fetch (fun _ => ⟨by simp, nofun⟩) fun reason => ⟨by simp, ?_⟩
  rintro _ ⟨⟩
  exact id

/-- A fetch that may fail does not fail the task. -/
theorem fetches_fetchOrNothing (f : Json → Option α) (q : Query) :
    (fetchOrNothing f q).Fetches :=
  ensures_fetchOrNothing fun _ => ⟨by simp, nofun⟩

/-- Two tasks that only fetch do so together. -/
theorem Fetches.bind {t : StoreTask α} {f : α → StoreTask β} (ht : t.Fetches)
    (hf : ∀ a, (f a).Fetches) : (t >>= f).Fetches := by
  refine Ensures.bind ht ?_ fun asked a hasked => (hf a).mono fun more r hmore => ⟨?_, hmore.2⟩
  · -- the first task fails as it fails by itself
    rintro asked e ⟨hreads, hfails⟩
    refine ⟨hreads, ?_⟩
    rintro _ ⟨⟩
    exact hfails e rfl
  · intro q hq
    rcases List.mem_append.mp hq with hq | hq
    · exact hasked.1 q hq
    · exact hmore.1 q hq

end StoreTask

end SiteAnalytics
