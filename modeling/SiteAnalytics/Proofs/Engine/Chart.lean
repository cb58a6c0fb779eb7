import SiteAnalytics.Engine
import SiteAnalytics.Proofs.Store.Run

/-!
# What a chart asks the column store

A chart for a window that does not depend on the data asks the store at most once.  `runOn_chart`
lists how such a request can end: it is refused before the store is asked, by its filters or by its
timeframe, or it leaves the calendar, or the one query of the chart is sent.
-/

namespace SiteAnalytics.Engine

open StoreTask

variable {e : Engine} {r : Request} {p : Project}

/-! ### Steps before the query -/

theorem runOn_project (hp : e.registry.project? r.pid = some p) (s : ColumnStore)
    (log : List StoreRequest) : (e.project r.pid).runOn s log = (.ok p, log) :=
  runOn_orElse_some hp

/-- The window of a request that is not for all time needs no store. -/
theorem runOn_window (hall : r.isAllTime = false) (now : DateTime) (table : EventTable)
    (s : ColumnStore) (log : List StoreRequest) : (e.window now r p table).runOn s log =
      (((r.timeframe (e.timezone r p)).resolve now e.zones).mapError Coe.coe, log) := by
  have hframe : (e.timeframe now r p table).runOn s log =
      (.ok (r.timeframe (e.timezone r p)), log) := by
    rw [timeframe, if_neg (by simp [hall]), runOn_pure]
  rw [window, runOn_bind_of_ok hframe, runOn_of]

/-! ### The query -/

/-- The series of a chart are made of the answer to one query. -/
theorem runOn_chartSeries (kind : MetricKind) (options : ChartOptions) (axis : Axis) (q : Query)
    (s : ColumnStore) (log : List StoreRequest) :
    ((chartSeries kind options axis q).runOn s log).2 = log ++ [.query q] := by
  rw [chartSeries]
  split
  · rw [runOn_bind_pure, runOn_fetch]
  · rw [runOn_bind_pure, runOn_fetch]

/-- How the request for a chart can end, if it is not for all time. -/
theorem runOn_chart (hp : e.registry.project? r.pid = some p) (hall : r.isAllTime = false)
    (now : DateTime) (kind : MetricKind) (options : ChartOptions) (s : ColumnStore)
    (log : List StoreRequest) :
    (∃ cause, Filter.compile r.filters kind false = .error cause ∧
      (e.chart now r kind options).runOn s log = (.error (.validation cause), log)) ∨
    (∃ filter err, Filter.compile r.filters kind false = .ok filter ∧
      (r.timeframe (e.timezone r p)).resolve now e.zones = .error err ∧
      (e.chart now r kind options).runOn s log = (.error (Coe.coe err), log)) ∨
    ∃ filter w, Filter.compile r.filters kind false = .ok filter ∧
      (r.timeframe (e.timezone r p)).resolve now e.zones = .ok w ∧
      (Axis.ofWindow? w = none ∧
        (e.chart now r kind options).runOn s log = (.error .outOfCalendar, log) ∨
      (Axis.ofWindow? w).isSome ∧ ((e.chart now r kind options).runOn s log).2 =
        log ++ [.query (Query.chart r.pid kind w filter options)]) := by
  have hproject := runOn_project hp s log
  cases hfilter : Filter.compile r.filters kind false with
  | error cause =>
    refine .inl ⟨cause, rfl, ?_⟩
    rw [chart, runOn_bind_of_ok hproject, hfilter]
    rfl
  | ok filter =>
    have hcompile : (StoreTask.of (Filter.compile r.filters kind false)).runOn s log =
        (.ok filter, log) := runOn_of_ok hfilter
    have hwindow : (e.window now r p (kind.table filter)).runOn s log = _ :=
      runOn_window hall now (kind.table filter) s log
    cases hresolve : (r.timeframe (e.timezone r p)).resolve now e.zones with
    | error err =>
      refine .inr (.inl ⟨filter, err, rfl, rfl, ?_⟩)
      rw [hresolve] at hwindow
      rw [chart, runOn_bind_of_ok hproject, runOn_bind_of_ok hcompile, runOn_bind_of_error hwindow]
    | ok w =>
      refine .inr (.inr ⟨filter, w, rfl, rfl, ?_⟩)
      rw [hresolve] at hwindow
      rw [chart, runOn_bind_of_ok hproject, runOn_bind_of_ok hcompile, runOn_bind_of_ok hwindow]
      cases haxis : Axis.ofWindow? w with
      | none => exact .inl ⟨rfl, rfl⟩
      | some axis =>
        refine .inr ⟨rfl, ?_⟩
        have hgiven : (StoreTask.orElse EngineError.outOfCalendar (some axis)).runOn s log =
            (.ok axis, log) := rfl
        rw [runOn_bind_of_ok hgiven, runOn_bind_pure, runOn_chartSeries]

end SiteAnalytics.Engine
