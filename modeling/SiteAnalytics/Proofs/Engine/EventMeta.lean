import Mathlib.Data.List.Basic
import SiteAnalytics.Proofs.Engine.Chart
import SiteAnalytics.Proofs.Engine.Operation

/-!
# When the metadata of an event are unavailable

The key-value pairs of a custom event are asked for with a fallback: when the store fails, there are
none.  The fallback covers the query for the pairs only.  A request for all time asks for the first
event before that, and where this fails the request fails, too.  `Engine.eventMeta_unavailable_iff`
says that there is no other way for it to fail behind the scenes, and what is answered otherwise.
-/

namespace SiteAnalytics.Engine

open StoreTask

variable {e : Engine} {now : DateTime} {r : Request} {p : Project} {table : EventTable}
  {filter : CompiledFilter} {s : ColumnStore} {log : List StoreRequest}

/-! ### The window -/

/-- The query for the first event fails, or what it gives cannot be read. -/
def FirstEventFails (s : ColumnStore) (log : List StoreRequest) (pid : String)
    (table : EventTable) : Prop :=
  ∀ rows, ¬ReadsAs FirstEventRow.ofJson? (s.query log (.firstEvent pid table)) rows

theorem runOn_window_of_firstEventFails (hall : r.isAllTime = true)
    (hfails : FirstEventFails s log r.pid table) :
    ∃ reason, (e.window now r p table).runOn s log =
      (.error (.unavailable reason), log ++ [.query (.firstEvent r.pid table)]) := by
  obtain ⟨reason, hreason⟩ := ofAnswer_eq_error hfails
  have hfetch : (StoreTask.fetch FirstEventRow.ofJson? (.firstEvent r.pid table)).runOn s log =
      (.error (.unavailable reason), log ++ [.query (.firstEvent r.pid table)]) := by
    rw [runOn_fetch, hreason]
  refine ⟨reason, ?_⟩
  rw [window, runOn_bind_of_error]
  rw [timeframe, if_pos hall, runOn_bind_of_error hfetch]

/-- What is wrong with a timeframe is never behind the scenes. -/
theorem mapError_coe_ne_unavailable (w : Except WindowError Window) (reason : String) :
    (w.mapError Coe.coe : Except EngineError Window) ≠ .error (.unavailable reason) := by
  intro h
  rcases w with (cause | -) | w <;> cases h

theorem allTimeFrame_ne_unavailable (zones : ZoneSource) (frame : Timeframe) (first now : DateTime)
    (reason : String) : allTimeFrame zones frame first now ≠ .error (.unavailable reason) := by
  intro h
  rw [allTimeFrame] at h
  cases hfirst : (Zone.parse frame.timezone zones).utcToLocal? first with
  | none =>
    rw [hfirst] at h
    cases h
  | some start =>
    cases hnow : (Zone.parse frame.timezone zones).utcToLocal? now with
    | none =>
      rw [hfirst, hnow] at h
      cases h
    | some stop =>
      simp only [hfirst, hnow, Option.elim_some, bind, Except.bind, pure, Except.pure] at h
      split at h <;> cases h

/-- The window fails behind the scenes only by way of its own query. -/
theorem window_ne_unavailable (h : ¬(r.isAllTime = true ∧ FirstEventFails s log r.pid table))
    (reason : String) :
    ((e.window now r p table).runOn s log).1 ≠ .error (.unavailable reason) := by
  cases hall : r.isAllTime with
  | false =>
    rw [runOn_window hall]
    exact mapError_coe_ne_unavailable _ reason
  | true =>
    obtain ⟨rows, hrows⟩ : ∃ rows, ReadsAs FirstEventRow.ofJson?
        (s.query log (.firstEvent r.pid table)) rows :=
      Classical.not_forall_not.mp fun hfails => h ⟨hall, hfails⟩
    have hfetch : (StoreTask.fetch FirstEventRow.ofJson? (.firstEvent r.pid table)).runOn s log =
        (.ok rows, log ++ [.query (.firstEvent r.pid table)]) := by
      rw [runOn_fetch, ofAnswer_eq_ok_iff.mpr hrows]
    have hframe : ((e.timeframe now r p table).runOn s log).1 ≠ .error (.unavailable reason) := by
      rw [timeframe, if_pos hall, runOn_bind_of_ok hfetch]
      split
      · exact allTimeFrame_ne_unavailable _ _ _ _ reason
      · intro herr
        cases herr
    rw [window, runOn_bind]
    cases hrun : (e.timeframe now r p table).runOn s log with
    | mk result log' =>
      rw [hrun] at hframe
      cases result with
      | error err =>
        intro herr
        exact hframe (congrArg Except.error (Except.error.inj herr))
      | ok frame => exact mapError_coe_ne_unavailable _ reason

/-! ### The pairs -/

theorem runOn_eventMeta (hp : e.registry.project? r.pid = some p)
    (hfilter : Filter.compile r.filters .customEvents false = .ok filter) (event : String) :
    (e.eventMeta now r event).runOn s log =
      (e.window now r p .customEvents >>= fun w =>
        StoreTask.fetchOrNothing EventMetaRow.ofJson? (.eventMeta r.pid event w filter)).runOn s
          log := by
  have hcompile : (StoreTask.of (Filter.compile r.filters .customEvents false)).runOn s log =
      (.ok filter, log) := runOn_of_ok hfilter
  rw [eventMeta, runOn_bind_of_ok (runOn_project hp s log), runOn_bind_of_ok hcompile]

/-- Failures of the store do not keep a request from having a window otherwise. -/
def HasWindow (e : Engine) (now : DateTime) (r : Request) (p : Project) (table : EventTable)
    (s : ColumnStore) (log : List StoreRequest) : Prop :=
  ∀ err, ((e.window now r p table).runOn s log).1 = .error err →
    ∃ reason, err = .unavailable reason

/-- **The metadata of an event are unavailable exactly when all time is asked for and the query for
the first event fails.** In all other cases they are answered, with the pairs that the store gives,
and with none if the store fails or gives something else.

The project must exist, the filters must compile, and the timeframe must be valid. -/
theorem eventMeta_unavailable_iff (hp : e.registry.project? r.pid = some p)
    (hfilter : Filter.compile r.filters .customEvents false = .ok filter)
    (hwindow : e.HasWindow now r p .customEvents s log) (event : String) :
    let run := (e.eventMeta now r event).runOn s log
    ((∃ reason, run.1 = .error (.unavailable reason)) ↔
      r.isAllTime = true ∧ FirstEventFails s log r.pid .customEvents) ∧
    (¬(r.isAllTime = true ∧ FirstEventFails s log r.pid .customEvents) →
      ∃ w log', (e.window now r p .customEvents).runOn s log = (.ok w, log') ∧
        let answer := s.query log' (.eventMeta r.pid event w filter)
        (∀ rows, ReadsAs EventMetaRow.ofJson? answer rows → run.1 = .ok rows) ∧
        ((∀ rows, ¬ReadsAs EventMetaRow.ofJson? answer rows) → run.1 = .ok [])) := by
  intro run
  have hrun : run = _ := runOn_eventMeta hp hfilter event
  by_cases hfails : r.isAllTime = true ∧ FirstEventFails s log r.pid .customEvents
  · obtain ⟨reason, hreason⟩ : ∃ reason, (e.window now r p .customEvents).runOn s log =
        (.error (.unavailable reason), log ++ [.query (.firstEvent r.pid .customEvents)]) :=
      runOn_window_of_firstEventFails hfails.1 hfails.2
    rw [runOn_bind_of_error hreason] at hrun
    exact ⟨iff_of_true ⟨reason, by rw [hrun]⟩ hfails, fun hnot => absurd hfails hnot⟩
  · cases hw : (e.window now r p .customEvents).runOn s log with
    | mk result log' =>
      cases result with
      | error err =>
        obtain ⟨reason, rfl⟩ := hwindow err (by rw [hw])
        exact absurd (by rw [hw]) (window_ne_unavailable hfails reason)
      | ok w =>
        rw [runOn_bind_of_ok hw, runOn_fetchOrNothing] at hrun
        refine ⟨iff_of_false ?_ hfails, fun _ => ⟨w, log', rfl, ?_, ?_⟩⟩
        · rintro ⟨reason, hreason⟩
          rw [hrun] at hreason
          contradiction
        · intro rows hrows
          rw [hrun, ofAnswer_eq_ok_iff.mpr hrows]
        · intro hnot
          obtain ⟨reason, hreason⟩ := ofAnswer_eq_error hnot
          rw [hrun, hreason]

/-- The metadata for all time of a project without events, on a store that answers once. -/
theorem eventMeta_unavailable_iff_lostPairs :
    let e : Engine := ⟨.standard, Registry.empty.addProject (.bare "abcdefghijkl"), .listed⟩
    let r : Request := ⟨"abcdefghijkl", some "all", none, none, none, none, none⟩
    let now := DateTime.ofSecond 1710510330
    let s : ColumnStore :=
      { query := fun log _ => if log.isEmpty then .ok [] else .error "connection refused"
        execute := fun _ _ => .error "connection refused" }
    e.registry.project? r.pid = some (.bare "abcdefghijkl") ∧
      (∃ filter, Filter.compile r.filters .customEvents false = .ok filter) ∧
      e.HasWindow now r (.bare "abcdefghijkl") .customEvents s [] ∧
      ((e.eventMeta now r "signup").runOn s []).1 = .ok [] := by
  intro e r now s
  have hp : e.registry.project? r.pid = some (.bare "abcdefghijkl") := rfl
  obtain ⟨filter, hfilter⟩ :
    ∃ filter, Filter.compile r.filters .customEvents false = .ok filter := ⟨_, rfl⟩
  have hok : ((e.window now r (.bare "abcdefghijkl") .customEvents).runOn s []).1.isOk = true := by
    decide +kernel
  have hwindow : e.HasWindow now r (.bare "abcdefghijkl") .customEvents s [] := by
    intro err herr
    rw [herr] at hok
    contradiction
  have hreads : ReadsAs FirstEventRow.ofJson? (s.query [] (.firstEvent r.pid .customEvents)) [] :=
    ⟨[], rfl, rfl⟩
  obtain ⟨-, hanswered⟩ := eventMeta_unavailable_iff hp hfilter hwindow "signup"
  obtain ⟨w, log', hrun, -, hnone⟩ := hanswered fun hfails => hfails.2 [] hreads
  refine ⟨hp, ⟨filter, hfilter⟩, hwindow, hnone ?_⟩
  -- the store has been asked before, so that the second answer is lost
  have hasked : (((e.window now r (.bare "abcdefghijkl") .customEvents).runOn s []).2).isEmpty =
      false := by
    decide +kernel
  rw [hrun] at hasked
  rintro rows ⟨answer, hanswer, -⟩
  simp [s, hasked] at hanswer

/-- The fallback does not cover the query for the first event: the same request is answered with
nothing by a store that has no events, and not answered by a store that is down. -/
theorem eventMeta_allTime_unavailable :
    let e : Engine := ⟨.standard, Registry.empty.addProject (.bare "abcdefghijkl"), .listed⟩
    let r : Request := ⟨"abcdefghijkl", some "all", none, none, none, none, none⟩
    let now := DateTime.ofSecond 1710510330
    let idle : ColumnStore := { query := fun _ _ => .ok [], execute := fun _ _ => .ok () }
    let down : ColumnStore :=
      { query := fun _ _ => .error "connection refused"
        execute := fun _ _ => .error "connection refused" }
    ((e.eventMeta now r "signup").runOn idle []).1 = .ok [] ∧
      e.HasWindow now r (.bare "abcdefghijkl") .customEvents down [] ∧
      ((e.eventMeta now r "signup").runOn down []).1 =
        .error (.unavailable "connection refused") := by
  intro e r now idle down
  refine ⟨by decide +kernel, ?_, by decide +kernel⟩
  intro err herr
  have hdown : ((e.window now r (.bare "abcdefghijkl") .customEvents).runOn down []).1 =
      .error (.unavailable "connection refused") := by
    decide +kernel
  exact ⟨_, Except.error.inj (herr.symm.trans hdown)⟩

end SiteAnalytics.Engine
