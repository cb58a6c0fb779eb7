import SiteAnalytics.Proofs.Filter.Column
import SiteAnalytics.Proofs.Filter.Group
import SiteAnalytics.Proofs.Sql.Token
import SiteAnalytics.Query.Breakdown
import SiteAnalytics.Query.Chart

/-!
# Where conditions on events run

Names of events are in the table of custom events only.  A query puts its filters behind one
selection from one table (`FiltersOn`), and charts and breakdowns select from the table of the kind
(`filtersOn_chart`, `filtersOn_breakdown`, `table_pick`).  That is the table of custom events as
soon as a clause is on a column of events (`eventConditions_filtersOn`), except for timings and
errors, which have a table of their own whatever the filters ask for
(`eventConditions_performance`).
-/

namespace SiteAnalytics

open Sql

/-! ### Filters behind a selection -/

/-- The events of a table in scope that the filters accept. -/
def selection (table : EventTable) (f : CompiledFilter) : Sql :=
  "FROM " ++ table.name ++ " WHERE " ++ Scope.condition ++ f.text

/-- The filters of the text are conditions on the events of the table, and on nothing else: what
stands around the selection is the same for all filters that agree with `f` on whether they look at
custom events. -/
def FiltersOn (table : EventTable) (f : CompiledFilter) (text : CompiledFilter → Sql) : Prop :=
  ∃ before after : String, ∀ g : CompiledFilter, g.customEvents = f.customEvents →
    (text g).render = before ++ (selection table g).render ++ after

namespace FiltersOn

variable {table : EventTable} {f : CompiledFilter} {text : CompiledFilter → Sql}

theorem left (h : FiltersOn table f text) (x : Sql) : FiltersOn table f fun g => x ++ text g := by
  obtain ⟨before, after, htext⟩ := h
  refine ⟨x.render ++ before, after, fun g hg => ?_⟩
  rw [render_append, htext g hg]
  simp only [String.append_assoc]

theorem right (h : FiltersOn table f text) (y : Sql) : FiltersOn table f fun g => text g ++ y := by
  obtain ⟨before, after, htext⟩ := h
  refine ⟨before, after ++ y.render, fun g hg => ?_⟩
  rw [render_append, htext g hg]
  simp only [String.append_assoc]

theorem congr {text' : CompiledFilter → Sql} (h : FiltersOn table f text')
    (heq : ∀ g, g.customEvents = f.customEvents → text g = text' g) : FiltersOn table f text := by
  obtain ⟨before, after, htext⟩ := h
  refine ⟨before, after, fun g hg => ?_⟩
  rw [heq g hg, htext g hg]

end FiltersOn

/-! ### Charts and breakdowns -/

theorem table_congr (kind : MetricKind) {f g : CompiledFilter}
    (h : g.customEvents = f.customEvents) : kind.table g = kind.table f := by
  cases kind <;> simp [MetricKind.table, h]

theorem table_pick (kind : MetricKind) (f : CompiledFilter) (pageInclusive : Bool) :
    (BreakdownShape.pick kind f pageInclusive).table = kind.table f := by
  cases kind <;> cases pageInclusive <;> cases hf : f.customEvents <;>
    simp [BreakdownShape.pick, BreakdownShape.table, MetricKind.table, hf]

namespace FiltersOn

variable {table : EventTable} {f : CompiledFilter}

/-- A text that ends with `FROM` and goes on with the table and the conditions. -/
theorem of_from {start : String} (s : String) (hstart : start = s ++ "FROM ") (x : Sql) :
    FiltersOn table f fun g =>
      x ++ start ++ table.name ++ " WHERE " ++ Scope.condition ++ g.text := by
  refine ⟨x.render ++ s, "", fun g _ => ?_⟩
  have hrender : (ofString start).render = s ++ (ofString "FROM ").render := by
    rw [hstart, ← String.toList_inj, String.toList_append, toList_render, toList_render,
      chars_ofString, chars_ofString, String.toList_append]
  simp only [selection, render_append, hrender, String.append_assoc, String.append_empty]

theorem events (columns : String) (table : EventTable) :
    FiltersOn table f fun g => Query.Chart.events columns table g :=
  of_from " " rfl _

variable {text : CompiledFilter → Sql}

theorem inMode (h : FiltersOn table f text) (mode : RenderMode) (group : String)
    (summed kept : List String) (partitionBy : Option String) :
    FiltersOn table f fun g => Query.Chart.inMode mode (text g) group summed kept partitionBy := by
  cases mode with
  | periodical => exact (h.right _).right _
  | cumulative => exact ((h.left _).right _).right _

end FiltersOn

theorem filtersOn_traffic (f : CompiledFilter) (bucket : Bucket) (mode : RenderMode) :
    FiltersOn (MetricKind.traffic.table f) f fun g => Query.Chart.traffic bucket g mode := by
  have hevents (columns : String) :=
    FiltersOn.events (f := f) columns (MetricKind.traffic.table f)
  -- which columns are selected depends on the table, which is the same for all these filters
  apply FiltersOn.congr
  case heq =>
    intro g hg
    rw [Query.Chart.traffic, table_congr .traffic hg]
  split
  exact ((((((hevents _).left _).right _).right _).right _).right _).inMode ..

theorem filtersOn_sessions (f : CompiledFilter) (bucket : Bucket) (mode : RenderMode) :
    FiltersOn (MetricKind.sessions.table f) f fun g => Query.Chart.sessions bucket g mode := by
  have hevents := FiltersOn.events (f := f) "psid" (MetricKind.sessions.table f)
  apply FiltersOn.congr
  case heq =>
    intro g hg
    rw [Query.Chart.sessions, table_congr .sessions hg]
  exact (((((hevents.left _).right _).right _).right _).right _).inMode ..

/-- A chart puts the filters behind the table of its kind. -/
theorem filtersOn_chart (kind : MetricKind) (f : CompiledFilter) (bucket : Bucket)
    (options : ChartOptions) :
    FiltersOn (kind.table f) f fun g => Query.Chart.sql kind bucket g options := by
  cases kind with
  | traffic => exact filtersOn_traffic f bucket options.mode
  | sessions => exact filtersOn_sessions f bucket options.mode
  | customEvents =>
    have hevents := FiltersOn.events (f := f) "ev" .customEvents
    exact ((((hevents.left _).right _).right _).right _).inMode ..
  | performance =>
    have hevents := FiltersOn.events (f := f) (", ".intercalate Query.Chart.timings) .performance
    exact ((((hevents.left _).right _).right _).right _).right _
  | errors =>
    have hevents := FiltersOn.events (f := f) "eid" .errors
    exact (((((((hevents.left _).right _).right _).right _).right _).right _).right _).inMode ..

theorem pick_congr (kind : MetricKind) {f g : CompiledFilter}
    (h : g.customEvents = f.customEvents) (pageInclusive : Bool) :
    BreakdownShape.pick kind g pageInclusive = BreakdownShape.pick kind f pageInclusive := by
  cases kind <;> simp [BreakdownShape.pick, h]

/-- A breakdown does so as well, by whatever column. -/
theorem filtersOn_breakdown (kind : MetricKind) (f : CompiledFilter) (pid column : String)
    (w : Window) (pageInclusive : Bool) :
    FiltersOn (kind.table f) f fun g =>
      (Query.breakdown pid column kind w g pageInclusive).sql := by
  have hfrom : " AS name, count() AS count FROM " = " AS name, count() AS count " ++ "FROM " := by
    decide +kernel
  have hselection : FiltersOn (kind.table f) f _ := .of_from _ hfrom ("SELECT " ++ column)
  apply FiltersOn.congr
  case heq =>
    intro g hg
    rw [Query.breakdown, pick_congr kind hg]
  simp only [table_pick]
  exact (((((hselection.right _).right _).right _).right _).right _).right _

/-! ### Conditions on events -/

/-- The condition is one of the filters', made of a clause with the parameters for its place. -/
def CompiledFilter.StemsFrom (f : CompiledFilter) (cond : Condition) (c : Clause) : Prop :=
  (∃ conds ∈ f.predicate, cond ∈ conds) ∧ ∃ g i, ∃ members,
    (Filter.groupByColumn f.clauses)[g]? = some (c.column, members) ∧ members[i]? = some c ∧
      Filter.condition? (ColumnClass.ofColumn c.column) c (Filter.valueParam g i)
        (Filter.keyParam g) = some cond

theorem CompiledFilter.StemsFrom.mem {f : CompiledFilter} {cond : Condition} {c : Clause}
    (h : f.StemsFrom cond c) : c ∈ f.clauses := by
  obtain ⟨-, g, i, members, hgroup, hc, -⟩ := h
  have hmembers := (Filter.mem_groupByColumn_iff.mp (List.mem_of_getElem? hgroup)).2
  have hmem := List.mem_of_getElem? hc
  rw [hmembers] at hmem
  exact List.mem_of_mem_filter hmem

/-- Filters with a clause on a column of events look at custom events. -/
theorem customEvents_of_mem {kind : MetricKind} {clauses : List Clause} {c : Clause}
    (hc : c ∈ clauses) (hevents : NamesEvents c.column) :
    (Filter.compileClauses kind clauses).customEvents = true := by
  have htarget (cls : ColumnClass) (h : cls.isEventColumn = true) :
      cls.targetsCustomEvents = true := by
    cases cls with
    | plain => contradiction
    | eventName => rfl
    | metaKey scope => cases scope <;> first | rfl | contradiction
    | metaValue scope => cases scope <;> first | rfl | contradiction
    | metaLookup scope => rfl
  have hgroup : (c.column, clauses.filter fun d => d.column = c.column) ∈
      Filter.groupByColumn clauses := Filter.mem_groupByColumn_iff.mpr ⟨⟨c, hc, rfl⟩, rfl⟩
  exact List.any_eq_true.mpr
    ⟨_, hgroup, htarget _ (ColumnClass.isEventColumn_ofColumn_iff.mpr hevents)⟩

/-- Filters with a condition on events look at custom events. -/
theorem CompiledFilter.StemsFrom.customEvents {f : CompiledFilter} {cond : Condition} {c : Clause}
    (h : f.StemsFrom cond c) (hf : f.Compiles) (hevents : NamesEvents c.column) :
    f.customEvents = true := by
  obtain ⟨kind, -, heq⟩ := hf.exists_eq
  rw [heq]
  exact customEvents_of_mem h.mem hevents

/-- **Conditions on events run on the table of custom events.** The filters of a chart and of a
breakdown are conditions on the events of one table, that of the kind.  For timings and for errors
this is a table of their own, whatever the filters ask for.  For all other kinds it is the table of
custom events as soon as a condition stems from a clause on a column of events. -/
theorem eventConditions_filtersOn {raw : Option String} {kind : MetricKind} {ignoreEvents : Bool}
    {f : CompiledFilter} (h : Filter.compile raw kind ignoreEvents = .ok f) (pid column : String)
    (w : Window) (options : ChartOptions) (pageInclusive : Bool) :
    let ReadFrom (table : EventTable) : Prop :=
      kind.table f = table ∧
        FiltersOn table f (fun g => (Query.chart pid kind w g options).sql) ∧
        FiltersOn table f fun g => (Query.breakdown pid column kind w g pageInclusive).sql
    ReadFrom (kind.table f) ∧
      match kind with
      | .performance => ReadFrom .performance
      | .errors => ReadFrom .errors
      | .traffic | .sessions | .customEvents =>
        ∀ cond c, f.StemsFrom cond c → NamesEvents c.column → ReadFrom .customEvents := by
  intro ReadFrom
  have hread : ReadFrom (kind.table f) :=
    ⟨rfl, filtersOn_chart kind f w.bucket options,
      filtersOn_breakdown kind f pid column w pageInclusive⟩
  have hcompiles : f.Compiles := ⟨raw, kind, ignoreEvents, h⟩
  refine ⟨hread, ?_⟩
  cases kind with
  | performance | errors => exact hread
  | traffic | sessions | customEvents =>
    intro cond c hstems hevents
    have hcustom := hstems.customEvents hcompiles hevents
    -- the table of these kinds is told by whether the filters look at custom events
    simpa [MetricKind.table, hcustom] using hread

/-- The second of two values under one key, among visits. -/
theorem eventConditions_filtersOn_planFilter :
    let f := Filter.compileClauses .sessions Filter.planClauses
    let w : Window := ⟨.ofSecond 0, .ofSecond 86399, .ofSecond 0, .ofSecond 86399, .hour,
      Zone.fallback⟩
    Filter.compile (some Filter.planFilter) .sessions false = .ok f ∧
      f.StemsFrom ⟨.lookup "qf_0_k" "qf_0_1", false⟩ ⟨"ev:key:plan", some "team", false⟩ ∧
      NamesEvents "ev:key:plan" ∧ MetricKind.sessions.table f = .customEvents ∧
      FiltersOn .customEvents f (fun g =>
        (Query.chart "one" .sessions w g ChartOptions.standard).sql) ∧
      FiltersOn .customEvents f fun g => (Query.breakdown "one" "cc" .sessions w g false).sql := by
  intro f w
  have hcompile : Filter.compile (some Filter.planFilter) .sessions false = .ok f := by
    have hselect : Filter.select .sessions false Filter.planClauses = .ok Filter.planClauses := by
      decide +kernel
    exact Filter.compile_of_select Filter.parseList_planFilter hselect
  have hstems : f.StemsFrom ⟨.lookup "qf_0_k" "qf_0_1", false⟩
      ⟨"ev:key:plan", some "team", false⟩ := by
    refine ⟨?_, 0, 1, _, rfl, rfl, ?_⟩
    · decide +kernel
    · decide +kernel
  have hevents : NamesEvents "ev:key:plan" := by decide
  obtain ⟨-, hread⟩ :=
    eventConditions_filtersOn hcompile "one" "cc" w ChartOptions.standard false
  exact ⟨hcompile, hstems, hevents, hread _ _ hstems hevents⟩

/-- One event is asked for. -/
def signupFilter : String := "[\x7b\"column\": \"ev\", \"filter\": \"signup\"\x7d]"

/-- Timings are filtered by the name of an event, which their table does not have. -/
theorem eventConditions_performance :
    ∃ f, Filter.compile (some signupFilter) .performance false = .ok f ∧
      f.StemsFrom ⟨.equal "ev" "qf_0_0", false⟩ ⟨"ev", some "signup", false⟩ ∧ NamesEvents "ev" ∧
      MetricKind.performance.table f = .performance ∧
      ∀ pid w options, FiltersOn .performance f fun g =>
        (Query.chart pid .performance w g options).sql := by
  have hparse : Clause.parseList (some signupFilter) = .ok [⟨"ev", some "signup", false⟩] := by
    decide +kernel
  have hselect : Filter.select .performance false [⟨"ev", some "signup", false⟩] =
      .ok [⟨"ev", some "signup", false⟩] := by
    decide +kernel
  refine ⟨_, Filter.compile_of_select hparse hselect, ⟨?_, 0, 0, _, rfl, rfl, ?_⟩, by decide, rfl,
    fun pid w options => filtersOn_chart .performance _ w.bucket options⟩
  · decide +kernel
  · decide +kernel

end SiteAnalytics
