import SiteAnalytics.CommandLine.Basic
import SiteAnalytics.Proofs.Dict
import SiteAnalytics.Proofs.Engine.Chart
import SiteAnalytics.Proofs.Window.Axis

/-!
# Explanations and charts

`explain` and `chart` come to the query of a chart in two ways.  An explanation resolves the window
first and compiles the filters after; the chart looks its project up, compiles the filters first,
and lays its axis out before it asks the store.  `runOn_explain_chart` says that they agree: what is
explained is the one query that the chart sends, and where nothing can be explained the chart asks
for nothing.

The axis is where the chart could stop short of its query.  It does not, because every window that
can be resolved has one (`Timeframe.exists_axis_of_resolveIn`).
-/

namespace SiteAnalytics

/-- What is found in an object that was built of members with different names. -/
theorem Json.get?_ofMembers {members : List (String × Json)}
    (h : (members.map Prod.fst).Nodup) (name : String) :
    (Json.ofMembers members).get? name = members.lookup name :=
  Dict.get?_ofList h name

namespace Explanation

/-- An explanation shows the text of its query and the parameters. -/
theorem get?_toJson (x : Explanation) :
    x.toJson.get? "sql" = some (.string x.query.sql.render) ∧
      x.toJson.get? "params" = some (Params.toJson x.query.params) := by
  have hnodup : ["range", "filter", "sql", "params"].Nodup := by decide
  rw [toJson, Json.get?_ofMembers, Json.get?_ofMembers]
  · exact ⟨rfl, rfl⟩
  · exact hnodup
  · exact hnodup

/-- An explanation has a window and a filter, and the query of their chart. -/
theorem of_eq_ok {zones : ZoneSource} {config : Config} {now : DateTime} {file : RequestFile}
    {w : Window} {filter : CompiledFilter}
    (hwindow : (file.request.timeframe (file.request.timezone.getD config.timezone)).resolve now
      zones = .ok w)
    (hfilter : Filter.compile file.request.filters file.kind false = .ok filter) :
    of zones config now file =
      .ok ⟨w, filter, Query.chart file.request.pid file.kind w filter file.options⟩ := by
  rw [of, hwindow, hfilter]
  rfl

theorem of_eq_error_of_window {zones : ZoneSource} {config : Config} {now : DateTime}
    {file : RequestFile} {e : WindowError}
    (hwindow : (file.request.timeframe (file.request.timezone.getD config.timezone)).resolve now
      zones = .error e) : of zones config now file = .error (Coe.coe e) := by
  rw [of, hwindow]
  rfl

theorem of_eq_error_of_filter {zones : ZoneSource} {config : Config} {now : DateTime}
    {file : RequestFile} {w : Window} {cause : ValidationError}
    (hwindow : (file.request.timeframe (file.request.timezone.getD config.timezone)).resolve now
      zones = .ok w)
    (hfilter : Filter.compile file.request.filters file.kind false = .error cause) :
    of zones config now file = .error (.validation cause) := by
  rw [of, hwindow, hfilter]
  rfl

end Explanation

namespace Command

open DateTime StoreTask

variable (zones : ZoneSource) (config : Config) (now : DateTime) (file : RequestFile)
  (s : ColumnStore) (log : List StoreRequest)

/-! ### The engine of a file -/

/-- The project of a request is there, and nothing but its id is known. -/
theorem project?_engine :
    (engine zones config file).registry.project? file.request.pid =
      some (.bare file.request.pid) := by
  rw [engine]
  dsimp only
  rw [List.foldl_concat]
  exact Dict.get?_insert_self _ _ _

/-- A project of which only the id is known does not bear on the zone. -/
theorem timezone_engine :
    (engine zones config file).timezone file.request (.bare file.request.pid) =
      file.request.timezone.getD config.timezone := by
  rw [Engine.timezone, Project.bare, Option.or_none]
  rfl

/-! ### Runs -/

theorem runOn_explain : (explain.run zones config now file).runOn s log =
    ((Explanation.of zones config now file).map Explanation.toJson, log) := by
  rw [run, runOn_bind_pure, runOn_result]

theorem runOn_chart : (chart.run zones config now file).runOn s log =
    ((((engine zones config file).chart now file.request file.kind file.options).runOn s log).1.map
        Chart.toJson,
      (((engine zones config file).chart now file.request file.kind file.options).runOn
        s log).2) := by
  rw [run, runOn_bind_pure]

variable {now file}

/-- Either there is an explanation and the chart sends its query, or there is none and the chart
fails without a query, too. -/
theorem runOn_chart_cases (hnow : now.Valid) (hall : file.request.isAllTime = false) :
    (∃ x, Explanation.of zones config now file = .ok x ∧
      ((chart.run zones config now file).runOn s log).2 = log ++ [.query x.query]) ∨
    ∃ e e', Explanation.of zones config now file = .error e ∧
      (chart.run zones config now file).runOn s log = (.error e', log) ∧
      ((∃ cause, e' = .validation cause) ∧ ((∃ cause, e = .validation cause) ∨ e = .outOfCalendar) ∨
        e' = .outOfCalendar ∧ e = .outOfCalendar) := by
  have hcases := Engine.runOn_chart (project?_engine zones config file) hall now file.kind
    file.options s log
  rw [runOn_chart]
  rw [timezone_engine] at hcases
  obtain ⟨cause, hfilter, hrun⟩ | ⟨filter, err, hfilter, hresolve, hrun⟩ |
    ⟨filter, w, hfilter, hresolve, ⟨haxis, -⟩ | ⟨-, hrun⟩⟩ := hcases
  · rw [hrun]
    right
    cases hresolve : (file.request.timeframe
      (file.request.timezone.getD config.timezone)).resolve now zones with
    | error err =>
      refine ⟨_, _, Explanation.of_eq_error_of_window hresolve, rfl, .inl ⟨⟨cause, rfl⟩, ?_⟩⟩
      cases err with
      | invalid cause' => exact .inl ⟨cause', rfl⟩
      | outOfCalendar => exact .inr rfl
    | ok w =>
      exact ⟨_, _, Explanation.of_eq_error_of_filter hresolve hfilter, rfl,
        .inl ⟨⟨cause, rfl⟩, .inl ⟨cause, rfl⟩⟩⟩
  · rw [hrun]
    refine .inr ⟨_, _, Explanation.of_eq_error_of_window hresolve, rfl, ?_⟩
    cases err with
    | invalid cause => exact .inl ⟨⟨cause, rfl⟩, .inl ⟨cause, rfl⟩⟩
    | outOfCalendar => exact .inr ⟨rfl, rfl⟩
  · -- a window that was resolved has an axis
    rw [Timeframe.resolve_eq_resolveIn] at hresolve
    obtain ⟨axis, hsome⟩ := Timeframe.exists_axis_of_resolveIn (Zone.sound_parse _ _)
      (Zone.settles_parse _ _) hnow hresolve
    rw [hsome] at haxis
    contradiction
  · exact .inl ⟨_, Explanation.of_eq_ok hresolve hfilter, hrun⟩

end Command

end SiteAnalytics
