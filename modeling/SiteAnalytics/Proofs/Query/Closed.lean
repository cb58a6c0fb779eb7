import SiteAnalytics.Proofs.Filter.Closed
import SiteAnalytics.Proofs.Query.Call

/-!
# Queries are closed and bound to their own values

The parameters of a query are what its call binds by itself together with what its filters bind
(`get?_params`), and no name belongs to both, since filters bind generated names only. So no filter
changes the project, the window or any other value of the call.

The main result, `bound_and_closed`, adds that every placeholder in the text of a query is one of
its parameters.  Columns of breakdowns have to be on the list of their kind for that: any other one
becomes part of the text unseen (`breakdown_not_closed`).
-/

namespace SiteAnalytics

open Sql

namespace QueryCall

/-- What the filters of a call bind. -/
def generated (call : QueryCall) : List (String × ParamValue) :=
  match call.filter? with
  | some f => Filter.paramsFrom 0 (Filter.groupByColumn f.clauses)
  | none => []

/-- The parameters that the filters of a call bind. -/
def filterParams (call : QueryCall) : Params :=
  match call.filter? with
  | some f => f.params
  | none => ∅

/-! ### Steps of a funnel -/

theorem toList_stepParam (i : Nat) :
    (Query.stepParam i).toList = "step_".toList ++ Nat.toDigits 10 i := by
  simp [Query.stepParam]

/-- Different steps have different names. -/
theorem stepParam_inj {i j : Nat} : Query.stepParam i = Query.stepParam j ↔ i = j := by
  constructor
  · intro h
    have hchars := congrArg String.toList h
    rw [toList_stepParam, toList_stepParam, List.append_cancel_left_eq] at hchars
    exact Filter.toDigits_injective hchars
  · rintro rfl
    rfl

theorem ne_stepParam {name : String} (h : ¬"step_".toList <+: name.toList) (i : Nat) :
    name ≠ Query.stepParam i := by
  rintro rfl
  rw [toList_stepParam] at h
  exact h (List.prefix_append _ _)

/-- Names of steps are not among those generated for filters. -/
theorem not_isGenerated_stepParam (i : Nat) : ¬Filter.IsGenerated (Query.stepParam i) := by
  rw [Filter.IsGenerated, toList_stepParam]
  simp

/-- A step is bound to its text, under the number it has in the list. -/
theorem mem_stepParams_iff {index : Nat} {steps : List String} {e : String × ParamValue} :
    e ∈ Query.stepParams index steps ↔
      ∃ i step, steps[i]? = some step ∧ e = (Query.stepParam (index + i), .text step) := by
  induction steps generalizing index with
  | nil => simp [Query.stepParams]
  | cons step rest ih =>
    rw [Query.stepParams, List.mem_cons, ih]
    constructor
    · rintro (rfl | ⟨i, step', hi, rfl⟩)
      · exact ⟨0, step, rfl, rfl⟩
      · refine ⟨i + 1, step', hi, ?_⟩
        rw [Nat.add_right_comm, Nat.add_assoc]
    · rintro ⟨i, step', hi, rfl⟩
      cases i with
      | zero =>
        obtain rfl : step = step' := by simpa using hi
        exact .inl rfl
      | succ i =>
        refine .inr ⟨i, step', hi, ?_⟩
        rw [Nat.add_right_comm, Nat.add_assoc]

/-- No name of a step is given twice. -/
theorem nodup_stepParams (index : Nat) (steps : List String) :
    ((Query.stepParams index steps).map Prod.fst).Nodup := by
  induction steps generalizing index with
  | nil => simp [Query.stepParams]
  | cons step rest ih =>
    rw [Query.stepParams, List.map_cons, List.nodup_cons]
    refine ⟨?_, ih (index + 1)⟩
    -- later steps have larger numbers
    intro hmem
    obtain ⟨e, he, heq⟩ := List.mem_map.mp hmem
    obtain ⟨i, step', -, rfl⟩ := mem_stepParams_iff.mp he
    have := stepParam_inj.mp heq
    omega

/-! ### Names -/

/-- The names that a call binds by itself are not repeated. -/
theorem nodup_own (call : QueryCall) : (call.own.map Prod.fst).Nodup := by
  cases call with
  | funnel pid steps w span =>
    rw [own, List.map_append, List.nodup_append]
    refine ⟨nodup_stepParams 0 steps, by simp [ownWindow], ?_⟩
    intro name hname name' hname'
    obtain ⟨e, he, rfl⟩ := List.mem_map.mp hname
    obtain ⟨i, step, -, rfl⟩ := mem_stepParams_iff.mp he
    simp only [ownWindow, List.map_cons, List.map_nil, List.mem_cons, List.not_mem_nil,
      or_false] at hname'
    -- no name of the window begins like that of a step
    rcases hname' with rfl | rfl | rfl <;> exact (ne_stepParam (by decide) _).symm
  | summary pid w f previous =>
    cases previous <;> simp [own, ownScope, ownWindow]
  | _ => simp [own, ownScope, ownWindow]

/-- The names that calls bind by themselves, apart from steps. -/
def systemNames : List String :=
  ["pid", "groupFrom", "groupTo", "timezone", "event", "take", "skip", "eid", "status",
    "groupFromPrev", "groupToPrev"]

/-- A call binds system names by itself, and the names of its steps. -/
theorem name_of_mem_own {call : QueryCall} {name : String} (h : name ∈ call.own.map Prod.fst) :
    name ∈ systemNames ∨ ∃ i, name = Query.stepParam i := by
  cases call with
  | funnel pid steps w span =>
    rw [own, List.map_append, List.mem_append] at h
    -- a name is that of a step, or one of the three of the window
    rcases h with h | h
    · obtain ⟨e, he, rfl⟩ := List.mem_map.mp h
      obtain ⟨i, step, -, rfl⟩ := mem_stepParams_iff.mp he
      exact .inr ⟨0 + i, rfl⟩
    · left
      revert h
      simp only [ownWindow, systemNames, List.map_cons, List.map_nil, List.mem_cons]
      tauto
  | summary pid w f previous =>
    left
    cases previous <;> simp [own, ownScope, ownWindow] at h <;> simp [systemNames] <;> tauto
  | _ =>
    left
    simp [own, ownScope, ownWindow] at h
    simp [systemNames]
    tauto

/-- What a call binds by itself never has a generated name. -/
theorem not_isGenerated_of_mem_own {call : QueryCall} {name : String}
    (h : name ∈ call.own.map Prod.fst) : ¬Filter.IsGenerated name := by
  have hsystem : ∀ name ∈ systemNames, ¬Filter.IsGenerated name := by decide
  rcases name_of_mem_own h with hname | ⟨i, rfl⟩
  · exact hsystem name hname
  · exact not_isGenerated_stepParam i

theorem lookup_own_eq_none (call : QueryCall) {name : String} (h : Filter.IsGenerated name) :
    call.own.lookup name = none := by
  rw [List.lookup_eq_none_iff]
  intro e he
  rw [bne_iff_ne]
  rintro rfl
  exact not_isGenerated_of_mem_own (List.mem_map_of_mem he) h

/-! ### Parameters -/

theorem get?_windowParams (pid : String) (w : Window) (k : String) :
    (Scope.windowParams pid w).get? k = (ownWindow pid w).lookup k := by
  rw [Scope.windowParams, Params.ofTexts, Dict.get?_ofList (by simp)]
  rfl

/-- A query over a window is bound to project, window and zone before its filters. -/
theorem get?_scopeParams (pid : String) (w : Window) {f : CompiledFilter} (hf : f.Compiles)
    (k : String) :
    (Scope.params pid w f).get? k = ((ownScope pid w).lookup k).or (f.params.get? k) := by
  have hown : ((Scope.windowParams pid w).insert "timezone" (.text w.zone.name)).get? k =
      (ownScope pid w).lookup k := by
    rw [Dict.get?_insert, get?_windowParams, ownScope, Dict.lookup_cons]
  rw [Scope.params, Dict.get?_union, hown]
  cases hk : f.params.get? k with
  | none => rw [Option.none_or, Option.or_none]
  | some v =>
    -- what a filter binds has a generated name, so it takes nothing away from the scope
    have hnone : (ownScope pid w).lookup k = none :=
      (flow pid w f).lookup_own_eq_none (hf.isGenerated_of_get? hk)
    rw [hnone, Option.none_or, Option.some_or]

theorem get?_ofTexts {entries : List (String × String)} (hnodup : (entries.map Prod.fst).Nodup)
    (k : String) :
    (Params.ofTexts entries).get? k =
      (entries.map fun e => (e.1, ParamValue.text e.2)).lookup k := by
  rw [Params.ofTexts, Dict.get?_ofList]
  rwa [List.map_map]

/-- A query has the parameters that its call binds by itself, and those of its filters. -/
theorem get?_params (call : QueryCall) (h : call.Compiles) (k : String) :
    call.query.params.get? k = (call.own.lookup k).or (call.filterParams.get? k) := by
  cases call with
  | chart pid kind w f options => exact get?_scopeParams pid w (h f rfl) k
  | breakdown pid column kind w f pageInclusive => exact get?_scopeParams pid w (h f rfl) k
  | flow pid w f => exact get?_scopeParams pid w (h f rfl) k
  | funnel pid steps w span =>
    have hempty : (funnel pid steps w span).filterParams.get? k = none := rfl
    rw [query, Query.funnel, Dict.get?_union, Dict.get?_ofList (nodup_stepParams 0 steps),
      get?_windowParams, own, List.lookup_append, hempty, Option.or_none]
  -- these three add names of their own in front of the scope
  | eventMeta pid event w f =>
    have hscope := get?_scopeParams pid w (h f rfl) k
    simp only [query, Query.eventMeta, own, filterParams, filter?, Dict.get?_insert, hscope,
      Dict.lookup_cons]
    split_ifs <;> simp
  | summary pid w f previous =>
    have hscope := get?_scopeParams pid w (h f rfl) k
    cases previous with
    | none => exact hscope
    | some bounds =>
      simp only [query, Query.summary, own, filterParams, filter?, Dict.get?_insert, hscope,
        Dict.lookup_cons]
      split_ifs <;> simp
  | errors pid w f options =>
    have hscope := get?_scopeParams pid w (h f rfl) k
    simp only [query, Query.errors, own, filterParams, filter?, Dict.get?_insert, hscope,
      Dict.lookup_cons]
    split_ifs <;> simp
  -- without a filter there is nothing behind what the call binds
  | errorExists pid eid =>
    have hempty : (errorExists pid eid).filterParams.get? k = none := rfl
    rw [query, Query.errorExists, get?_ofTexts (by simp), hempty, Option.or_none]
    rfl
  | insertStatus pid eid status =>
    have hempty : (insertStatus pid eid status).filterParams.get? k = none := rfl
    rw [query, Query.insertStatus, get?_ofTexts (by simp), hempty, Option.or_none]
    rfl
  | firstEvent pid table =>
    have hempty : (firstEvent pid table).filterParams.get? k = none := rfl
    rw [query, Query.firstEvent, get?_ofTexts (by simp), hempty, Option.or_none]
    rfl

/-- The parameters of the filters are those generated for their clauses. -/
theorem get?_filterParams_eq_some_iff {call : QueryCall} (h : call.Compiles)
    {name : String} {v : ParamValue} :
    call.filterParams.get? name = some v ↔ (name, v) ∈ call.generated := by
  unfold filterParams generated
  cases hf : call.filter? with
  | none => exact iff_of_false (by rintro ⟨⟩) (by simp)
  | some f => exact (h f hf).get?_eq_some_iff

/-- Filters bind generated names only. -/
theorem isGenerated_of_mem_generated {call : QueryCall} {e : String × ParamValue}
    (h : e ∈ call.generated) : Filter.IsGenerated e.1 := by
  unfold generated at h
  cases hf : call.filter? with
  | none => simp [hf] at h
  | some f =>
    rw [hf] at h
    exact Filter.isGenerated_of_mem_paramsFrom h

/-- A query binds what its call binds by itself and what is generated for its filters, and nothing
else. -/
theorem get?_params_eq_some_iff {call : QueryCall} (h : call.Compiles)
    {name : String} {v : ParamValue} : call.query.params.get? name = some v ↔
      (name, v) ∈ call.own ∨ (name, v) ∈ call.generated := by
  rw [get?_params call h, Option.or_eq_some_iff, Dict.lookup_eq_some_iff_mem (nodup_own call),
    get?_filterParams_eq_some_iff h]
  constructor
  · rintro (hown | ⟨-, hgenerated⟩)
    · exact .inl hown
    · exact .inr hgenerated
  · rintro (hown | hgenerated)
    · exact .inl hown
    · -- a generated name is not among the call's own, so the filters decide
      exact .inr ⟨call.lookup_own_eq_none (isGenerated_of_mem_generated hgenerated), hgenerated⟩

/-! ### Parts of texts -/

section Parts

variable {params : Params} {f : CompiledFilter}

/-- The condition on the project refers to the project alone. -/
theorem closed_projectCondition (hpid : (bind "pid").Closed params) :
    Scope.projectCondition.Closed params := by
  simp only [Scope.projectCondition, closed_append]
  exact ⟨closed_literal _ rfl, hpid⟩

/-- The condition on the window refers to the project and to the two bounds. -/
theorem closed_windowCondition (hpid : (bind "pid").Closed params) {start stop : String}
    (hstart : (bind start).Closed params) (hstop : (bind stop).Closed params) :
    (Scope.windowCondition start stop).Closed params := by
  have hproject := closed_projectCondition hpid
  -- each piece is closed by what is known of it, or is fixed text
  simp only [Scope.windowCondition, closed_append]
  and_intros <;> first | with_reducible assumption | exact closed_literal _ rfl

theorem closed_sessionDurations (hpid : (bind "pid").Closed params) :
    Scope.sessionDurations.Closed params := by
  have hproject := closed_projectCondition hpid
  simp only [Scope.sessionDurations, closed_append]
  and_intros <;> first | with_reducible assumption | exact closed_literal _ rfl

theorem closed_errorStatuses (hpid : (bind "pid").Closed params) :
    Scope.errorStatuses.Closed params := by
  have hproject := closed_projectCondition hpid
  simp only [Scope.errorStatuses, closed_append]
  and_intros <;> first | with_reducible assumption | exact closed_literal _ rfl

theorem closed_table (table : EventTable) : (ofString table.name).Closed params := by
  cases table <;> exact closed_literal _ rfl

theorem closed_statusCondition (showResolved : Bool) :
    (ofString (Query.Chart.statusCondition showResolved)).Closed params := by
  cases showResolved <;> exact closed_literal _ rfl

theorem noBrace_groupColumns (bucket : Bucket) : ∀ column ∈ bucket.groupColumns,
    '\x7b' ∉ column.toList ∧ '\x7b' ∉ (Bucket.groupFunction column).toList := by
  cases bucket <;> decide

/-- Columns of groups are fixed, and so is how they are written. -/
theorem closed_groupSelect (bucket : Bucket) : (ofString bucket.groupSelect).Closed params := by
  apply closed_intercalate (by decide)
  intro s hs
  -- an item is made of a column and of the function that cuts time to it
  obtain ⟨column, hcolumn, rfl⟩ := List.mem_map.mp hs
  simp [noBrace_groupColumns bucket column hcolumn]

theorem closed_groupList (bucket : Bucket) : (ofString bucket.groupList).Closed params :=
  closed_intercalate (by decide) fun column hcolumn =>
    (noBrace_groupColumns bucket column hcolumn).1

theorem noBrace_timings : ∀ c ∈ Query.Chart.timings, '\x7b' ∉ c.toList := by decide

/-- Timings are measured by fixed functions on fixed columns. -/
theorem closed_measures (measure : PerfMeasure) :
    (ofString (", ".intercalate (Query.Chart.timings.map fun c =>
      measure.function ++ "(" ++ c ++ ") AS " ++ c))).Closed params := by
  have hfunction : '\x7b' ∉ measure.function.toList := by cases measure <;> decide
  apply closed_intercalate (by decide)
  intro s hs
  obtain ⟨column, hcolumn, rfl⟩ := List.mem_map.mp hs
  simp [noBrace_timings column hcolumn, hfunction]

/-- Both modes of a chart are closed if the grouped query is. -/
theorem closed_inMode {base : Sql} {group : String} {summed kept : List String}
    {partitionBy : Option String} (mode : RenderMode) (hbase : base.Closed params)
    (hgroup : (ofString group).Closed params) (hsummed : ∀ c ∈ summed, '\x7b' ∉ c.toList)
    (hkept : ∀ c ∈ kept, '\x7b' ∉ c.toList) (hpartition : ∀ c ∈ partitionBy, '\x7b' ∉ c.toList) :
    (Query.Chart.inMode mode base group summed kept partitionBy).Closed params := by
  have hbrace := closed_ofString.mp hgroup
  cases mode with
  | periodical =>
    simp only [Query.Chart.inMode, closed_append]
    exact ⟨⟨hbase, closed_literal _ rfl⟩, hgroup⟩
  | cumulative =>
    simp only [Query.Chart.inMode, Query.Chart.runningSums, closed_append]
    refine ⟨⟨⟨⟨⟨closed_literal _ rfl, closed_intercalate (by decide) ?_⟩, closed_literal _ rfl⟩,
      hbase⟩, closed_literal _ rfl⟩, hgroup⟩
    intro s hs
    simp only [List.mem_append, List.mem_singleton, List.mem_map] at hs
    -- the group, the columns kept and the columns summed
    rcases hs with (rfl | hs) | ⟨c, hc, rfl⟩
    · exact hbrace
    · exact hkept s hs
    · cases partitionBy with
      | none => simp [hsummed c hc, hbrace]
      | some column => simp [hsummed c hc, hbrace, hpartition column rfl]

end Parts

/-! ### Queries over a window -/

/-- What every query over a window may rely on. -/
structure ScopeBound (params : Params) (f : CompiledFilter) : Prop where
  pid : (bind "pid").Closed params
  groupFrom : (bind "groupFrom").Closed params
  groupTo : (bind "groupTo").Closed params
  timezone : (bind "timezone").Closed params
  filter : f.text.Closed params

namespace ScopeBound

variable {params : Params} {f : CompiledFilter}

/-- The condition of the scope is closed for whoever binds the scope. -/
theorem closed_condition (h : ScopeBound params f) : Scope.condition.Closed params :=
  closed_windowCondition h.pid h.groupFrom h.groupTo

/-- The events of a table in scope, on the wall clock and with the filters. -/
theorem closed_events (h : ScopeBound params f) (columns : String)
    (hcolumns : (ofString columns).Closed params) (table : EventTable) :
    (Query.Chart.events columns table f).Closed params := by
  have hcondition := h.closed_condition
  have hfilter := h.filter
  have htimezone := h.timezone
  have htable : (ofString table.name).Closed params := closed_table table
  simp only [Query.Chart.events, Query.Chart.wallClock, closed_append]
  and_intros <;> first | with_reducible assumption | exact closed_literal _ rfl

theorem closed_chart (h : ScopeBound params f) (kind : MetricKind) (bucket : Bucket)
    (options : ChartOptions) : (Query.Chart.sql kind bucket f options).Closed params := by
  have hgroup : (ofString bucket.groupList).Closed params := closed_groupList bucket
  have hselect : (ofString bucket.groupSelect).Closed params := closed_groupSelect bucket
  have hdurations := closed_sessionDurations h.pid
  have hstatuses := closed_errorStatuses h.pid
  obtain ⟨mode, measure, showResolved⟩ := options
  -- every kind has a text of its own around the events; what is known of the events and of the
  -- fixed parts closes it
  cases kind with
  | traffic =>
    have hboth := h.closed_events "psid, unique" (closed_literal _ rfl)
      (MetricKind.traffic.table f)
    have hone := h.closed_events "psid" (closed_literal _ rfl)
      (MetricKind.traffic.table f)
    simp only [Query.Chart.sql, Query.Chart.traffic]
    apply closed_inMode mode _ hgroup (by decide) (by decide) (by simp)
    -- whether sessions or custom events are counted changes the columns, not their shape
    split_ifs <;> simp only [closed_append] <;> and_intros <;>
      first | with_reducible assumption | exact closed_literal _ rfl
  | customEvents =>
    have hevents := h.closed_events "ev" (closed_literal _ rfl) .customEvents
    simp only [Query.Chart.sql, Query.Chart.customEvents]
    apply closed_inMode mode _ hgroup (by decide) (by decide) (by decide)
    simp only [closed_append]
    and_intros <;> first | with_reducible assumption | exact closed_literal _ rfl
  | performance =>
    have hcolumns : (ofString (", ".intercalate Query.Chart.timings)).Closed params :=
      closed_intercalate (by decide) noBrace_timings
    have hevents := h.closed_events _ hcolumns .performance
    have hmeasures : (ofString _).Closed params := closed_measures measure
    simp only [Query.Chart.sql, Query.Chart.performance, closed_append]
    and_intros <;> first | with_reducible assumption | exact closed_literal _ rfl
  | errors =>
    have hevents := h.closed_events "eid" (closed_literal _ rfl) .errors
    have hstatus : (ofString _).Closed params := closed_statusCondition showResolved
    simp only [Query.Chart.sql, Query.Chart.errors]
    apply closed_inMode mode _ hgroup (by decide) (by decide) (by simp)
    simp only [closed_append]
    and_intros <;> first | with_reducible assumption | exact closed_literal _ rfl
  | sessions =>
    have hevents := h.closed_events "psid" (closed_literal _ rfl)
      (MetricKind.sessions.table f)
    simp only [Query.Chart.sql, Query.Chart.sessions]
    apply closed_inMode mode _ hgroup (by decide) (by decide) (by simp)
    simp only [closed_append]
    and_intros <;> first | with_reducible assumption | exact closed_literal _ rfl

/-- Either half of a summary, whatever names its bounds have. -/
theorem closed_summaryHalf (h : ScopeBound params f) (tag : Nat) {start stop : String}
    (hstart : (bind start).Closed params) (hstop : (bind stop).Closed params) :
    (Query.summaryHalf tag start stop f).Closed params := by
  have hwindow := closed_windowCondition h.pid hstart hstop
  have hdurations := closed_sessionDurations h.pid
  have hfilter := h.filter
  have htag : (ofString _).Closed params := closed_toString tag
  have htable : (ofString _).Closed params := closed_table (MetricKind.traffic.table f)
  simp only [Query.summaryHalf]
  split_ifs <;> simp only [closed_append] <;> and_intros <;>
    first | with_reducible assumption | exact closed_literal _ rfl

/-- A breakdown by a column of its kind: such a column is a name without braces. -/
theorem closed_breakdown (h : ScopeBound params f) (pid : String) {column : String}
    {kind : MetricKind} (hallowed : kind.allows column = true) (w : Window)
    (pageInclusive : Bool) :
    (Query.breakdown pid column kind w f pageInclusive).sql.Closed params := by
  have hcondition := h.closed_condition
  have hfilter := h.filter
  have hname := (Filter.columns_named kind column (List.contains_iff_mem.mp hallowed)).1
  have hcolumn : (ofString column).Closed params := closed_ofString.mpr (hname.notMem (by decide))
  -- the shape adds fixed text, if any
  have hshape : (ofString ((BreakdownShape.pick kind f pageInclusive).condition column)).Closed
      params := by
    unfold BreakdownShape.condition
    split
    · split_ifs <;> exact closed_literal _ rfl
    · exact closed_literal _ rfl
  have htable : (ofString (BreakdownShape.pick kind f pageInclusive).table.name).Closed params :=
    closed_table _
  simp only [Query.breakdown, closed_append]
  and_intros <;> first | with_reducible assumption | exact closed_literal _ rfl

theorem closed_flow (h : ScopeBound params f) (pid : String) (w : Window) :
    (Query.flow pid w f).sql.Closed params := by
  have hcondition := h.closed_condition
  have hfilter := h.filter
  simp only [Query.flow, closed_append]
  and_intros <;> first | with_reducible assumption | exact closed_literal _ rfl

theorem closed_eventMeta (h : ScopeBound params f) (hevent : (bind "event").Closed params)
    (pid event : String) (w : Window) : (Query.eventMeta pid event w f).sql.Closed params := by
  have hcondition := h.closed_condition
  have hfilter := h.filter
  simp only [Query.eventMeta, closed_append]
  and_intros <;> first | with_reducible assumption | exact closed_literal _ rfl

theorem closed_errors (h : ScopeBound params f) (pid : String) (w : Window)
    (options : ErrorListOptions) (htake : (bindCount "take").Closed params)
    (hskip : (bindCount "skip").Closed params) :
    (Query.errors pid w f options).sql.Closed params := by
  have hcondition := h.closed_condition
  have hfilter := h.filter
  have hstatuses := closed_errorStatuses h.pid
  have hstatus : (ofString (Query.Chart.statusCondition options.showResolved)).Closed params :=
    closed_statusCondition _
  simp only [Query.errors, closed_append]
  and_intros <;> first | with_reducible assumption | exact closed_literal _ rfl

theorem closed_summary_none (h : ScopeBound params f) (pid : String) (w : Window) :
    (Query.summary pid w f none).sql.Closed params :=
  h.closed_summaryHalf Query.currentTag h.groupFrom h.groupTo

theorem closed_summary_some (h : ScopeBound params f) (pid : String) (w : Window)
    (bounds : DateTime × DateTime) (hfrom : (bind "groupFromPrev").Closed params)
    (hto : (bind "groupToPrev").Closed params) :
    (Query.summary pid w f (some bounds)).sql.Closed params := by
  have hcurrent := h.closed_summaryHalf Query.currentTag h.groupFrom h.groupTo
  have hprevious := h.closed_summaryHalf Query.previousTag hfrom hto
  simp only [Query.summary, closed_append]
  exact ⟨⟨hcurrent, closed_literal _ rfl⟩, hprevious⟩

end ScopeBound

/-! ### Every query -/

/-- A name that a call binds by itself has no marks in it. -/
theorem notMem_of_mem_own {call : QueryCall} {name : String} (h : name ∈ call.own.map Prod.fst) :
    '\x7b' ∉ name.toList ∧ ':' ∉ name.toList := by
  have hsystem : ∀ name ∈ systemNames, '\x7b' ∉ name.toList ∧ ':' ∉ name.toList := by decide
  rcases name_of_mem_own h with hname | ⟨i, rfl⟩
  · exact hsystem name hname
  · rw [toList_stepParam, List.mem_append, List.mem_append, not_or, not_or]
    exact ⟨⟨by decide, Filter.notMem_toDigits (by decide) i⟩, by decide,
      Filter.notMem_toDigits (by decide) i⟩

theorem closed_bind_of_mem_own {call : QueryCall} (h : call.Compiles)
    {name : String} {v : ParamValue} (hname : (name, v) ∈ call.own) :
    (bind name).Closed call.query.params ∧ (bindCount name).Closed call.query.params := by
  obtain ⟨hbrace, hcolon⟩ := notMem_of_mem_own (List.mem_map.mpr ⟨(name, v), hname, rfl⟩)
  have hbound := (get?_params_eq_some_iff h).mpr (.inl hname)
  rw [closed_bind, closed_bindCount]
  exact ⟨⟨hbrace, hcolon, v, hbound⟩, hbrace, hcolon, v, hbound⟩

/-- A query over a window and with a filter can rely on both. -/
theorem scopeBound {call : QueryCall} (h : call.Compiles) {f : CompiledFilter}
    (hf : f ∈ call.filter?) (pid : String) (w : Window) (hscope : ownScope pid w ⊆ call.own) :
    ScopeBound call.query.params f := by
  have hbound {name : String} {v : ParamValue} (hname : (name, v) ∈ ownScope pid w) :
      (bind name).Closed call.query.params := (closed_bind_of_mem_own h (hscope hname)).1
  refine ⟨hbound (v := .text pid) ?_, hbound (v := .text w.startText) ?_,
    hbound (v := .text w.stopText) ?_, hbound (v := .text w.zone.name) ?_, ?_⟩
  · simp [ownScope, ownWindow]
  · simp [ownScope, ownWindow]
  · simp [ownScope, ownWindow]
  · simp [ownScope, ownWindow]
  · -- what the filters refer to is bound by them, and stays bound beside the rest
    apply (h f hf).closed_text.mono
    intro name v hv
    have hgenerated : (name, v) ∈ call.generated := by
      rw [generated, Option.mem_def.mp hf]
      exact (h f hf).get?_eq_some_iff.mp hv
    exact ⟨v, (get?_params_eq_some_iff h).mpr (.inr hgenerated)⟩

/-- The conditions on the steps are closed if every step is bound. -/
theorem closed_stepConditions {params : Params} {count : Nat}
    (h : ∀ i < count, (bind (Query.stepParam i)).Closed params) :
    (Query.stepConditions count).Closed params := by
  apply closed_join (by decide)
  intro item hitem
  obtain ⟨i, hi, rfl⟩ := List.mem_map.mp hitem
  rw [closed_append]
  exact ⟨closed_literal _ rfl, h i (List.mem_range.mp hi)⟩

/-- A funnel is closed if its window and its steps are bound; the span is a number in the text. -/
theorem closed_funnel {params : Params} (hwindow : Scope.condition.Closed params)
    (pid : String) {steps : List String}
    (hsteps : ∀ i < steps.length, (bind (Query.stepParam i)).Closed params) (w : Window)
    (span : Nat) : (Query.funnel pid steps w span).sql.Closed params := by
  have hconditions := closed_stepConditions hsteps
  have hspan : (ofString (toString span)).Closed params := closed_toString span
  simp only [Query.funnel, closed_append]
  and_intros <;> first | with_reducible assumption | exact closed_literal _ rfl

/-- The text of a query is closed under its parameters. -/
theorem closed_sql {call : QueryCall} (h : call.Compiles) (hallowed : call.ColumnAllowed) :
    call.query.sql.Closed call.query.params := by
  have hown {name : String} {v : ParamValue} (hname : (name, v) ∈ call.own) :=
    closed_bind_of_mem_own h hname
  have hscope {f : CompiledFilter} (hf : f ∈ call.filter?) (pid : String) (w : Window) :=
    scopeBound h hf pid w
  -- what is bound is all that matters about the parameters
  generalize call.query.params = params at hown hscope ⊢
  cases call with
  | chart pid kind w f options =>
    have hbound := hscope rfl pid w (List.Subset.refl _)
    exact hbound.closed_chart kind w.bucket options
  -- this is the one place that needs the column to be of the kind
  | breakdown pid column kind w f pageInclusive =>
    have hbound := hscope rfl pid w (List.Subset.refl _)
    exact hbound.closed_breakdown pid hallowed w pageInclusive
  | flow pid w f =>
    have hbound := hscope rfl pid w (List.Subset.refl _)
    exact hbound.closed_flow pid w
  | eventMeta pid event w f =>
    have hbound := hscope rfl pid w (List.subset_cons_self _ _)
    have hevent : (bind "event").Closed params := (hown (v := .text event) (by simp [own])).1
    exact hbound.closed_eventMeta hevent pid event w
  | summary pid w f previous =>
    cases previous with
    | none =>
      have hbound := hscope rfl pid w (List.Subset.refl _)
      exact hbound.closed_summary_none pid w
    | some bounds =>
      have hbound := hscope rfl pid w fun e he =>
        List.mem_cons_of_mem _ (List.mem_cons_of_mem _ he)
      have hfrom : (bind "groupFromPrev").Closed params :=
        (hown (v := .text (bounds.1.format Pattern.dateTime)) (by simp [own])).1
      have hto : (bind "groupToPrev").Closed params :=
        (hown (v := .text (bounds.2.format Pattern.dateTime)) (by simp [own])).1
      exact hbound.closed_summary_some pid w bounds hfrom hto
  | errors pid w f options =>
    have hbound := hscope rfl pid w fun e he =>
      List.mem_cons_of_mem _ (List.mem_cons_of_mem _ he)
    have htake : (bindCount "take").Closed params :=
      (hown (v := .int options.take) (by simp [own])).2
    have hskip : (bindCount "skip").Closed params :=
      (hown (v := .int options.skip) (by simp [own])).2
    exact hbound.closed_errors pid w options htake hskip
  | funnel pid steps w span =>
    have hwindow : Scope.condition.Closed params :=
      closed_windowCondition (hown (v := .text pid) (by simp [own, ownWindow])).1
        (hown (v := .text w.startText) (by simp [own, ownWindow])).1
        (hown (v := .text w.stopText) (by simp [own, ownWindow])).1
    apply closed_funnel hwindow
    intro i hi
    have hstep : (Query.stepParam i, .text steps[i]) ∈ (funnel pid steps w span).own := by
      rw [own, List.mem_append, mem_stepParams_iff]
      exact .inl ⟨i, steps[i], List.getElem?_eq_getElem hi, by rw [Nat.zero_add]⟩
    exact (hown hstep).1
  | errorExists pid eid =>
    have hpid := closed_projectCondition (hown (v := .text pid) (by simp [own])).1
    have heid : (bind "eid").Closed params := (hown (v := .text eid) (by simp [own])).1
    simp only [query, Query.errorExists, closed_append]
    and_intros <;> first | with_reducible assumption | exact closed_literal _ rfl
  | insertStatus pid eid status =>
    have hpid : (bind "pid").Closed params := (hown (v := .text pid) (by simp [own])).1
    have heid : (bind "eid").Closed params := (hown (v := .text eid) (by simp [own])).1
    have hstatus : (bind "status").Closed params :=
      (hown (v := .text status.name) (by simp [own])).1
    simp only [query, Query.insertStatus, closed_append]
    and_intros <;> first | with_reducible assumption | exact closed_literal _ rfl
  | firstEvent pid table =>
    have hpid := closed_projectCondition (hown (v := .text pid) (by simp [own])).1
    have htable : (ofString table.name).Closed params := closed_table table
    simp only [query, Query.firstEvent, closed_append]
    and_intros <;> first | with_reducible assumption | exact closed_literal _ rfl

/-- No name is bound twice, by a call and its filters together. -/
theorem nodup_names (call : QueryCall) : ((call.own ++ call.generated).map Prod.fst).Nodup := by
  rw [List.map_append, List.nodup_append]
  refine ⟨nodup_own call, ?_, ?_⟩
  · unfold generated
    cases call.filter? with
    | none => exact List.nodup_nil
    | some f => exact Filter.nodup_paramsFrom 0 _
  · -- a name on both sides would be generated and not generated
    intro name hname name' hname' heq
    obtain ⟨e, he, rfl⟩ := List.mem_map.mp hname'
    rw [heq] at hname
    exact not_isGenerated_of_mem_own hname (isGenerated_of_mem_generated he)

/-- **Queries are bound to their own values, and closed.** Whatever the arguments of a call, a name
is bound to what the call or a clause of its filters gives it, and to nothing else, and all these
names are different.  If a breakdown is by a column of its kind, every name that the text of the
query refers to is bound.  The columns of a kind are those that the engine breaks down by. -/
theorem bound_and_closed (call : QueryCall) (h : call.Compiles) :
    (∀ name v, call.query.params.get? name = some v ↔
      (name, v) ∈ call.own ∨ (name, v) ∈ call.generated) ∧
    ((call.own ++ call.generated).map Prod.fst).Nodup ∧
    (call.ColumnAllowed → ∀ name, RefersTo call.query.sql.render name →
      ∃ v, call.query.params.get? name = some v) ∧
    (call.ColumnAllowed ↔ call.FromEngine) := by
  refine ⟨?_, nodup_names call, ?_, columnAllowed_iff_fromEngine call⟩
  · intro name v
    exact get?_params_eq_some_iff h
  · intro hallowed name hname
    exact (closed_sql h hallowed).get?_of_refersTo hname

/-- A breakdown by a column of its kind, with a filter of three clauses. -/
theorem bound_and_closed_breakdown :
    let w : Window := ⟨.ofSecond 0, .ofSecond 86399, .ofSecond 0, .ofSecond 86399, .hour,
      Zone.fallback⟩
    let call := breakdown "one" "ref" .traffic w
      (Filter.compileClauses .traffic Filter.planClauses) false
    call.Compiles ∧ call.ColumnAllowed ∧ call.query.params.get? "pid" = some (.text "one") ∧
      ∀ name, RefersTo call.query.sql.render name →
        ∃ v, call.query.params.get? name = some v := by
  intro w call
  have hcompiles : call.Compiles := by
    rintro f ⟨⟩
    exact ⟨_, _, _, Filter.compile_planFilter⟩
  have hallowed : call.ColumnAllowed := (by decide : MetricKind.traffic.allows "ref" = true)
  obtain ⟨hbound, -, hclosed, -⟩ := bound_and_closed call hcompiles
  refine ⟨hcompiles, hallowed, (hbound "pid" (.text "one")).mpr (.inl ?_), hclosed hallowed⟩
  simp [call, own, ownScope, ownWindow]

/-- A column that is not of the kind becomes part of the text as it is, with a placeholder in it
that nothing is bound to.  The builder does not refuse it. -/
theorem breakdown_not_closed :
    let w : Window := ⟨.ofSecond 0, .ofSecond 86399, .ofSecond 0, .ofSecond 86399, .hour,
      Zone.fallback⟩
    let call := breakdown "one" "\x7bevil:String\x7d" .traffic w
      (Filter.compileClauses .traffic []) false
    call.Compiles ∧ ¬call.ColumnAllowed ∧ RefersTo call.query.sql.render "evil" ∧
      call.query.params.get? "evil" = none := by
  intro w call
  have hcompiles : call.Compiles := by
    rintro f ⟨⟩
    exact ⟨none, .traffic, false, rfl⟩
  have hallowed : ¬call.ColumnAllowed := by
    show ¬MetricKind.traffic.allows "\x7bevil:String\x7d" = true
    decide
  have hrefers : RefersTo call.query.sql.render "evil" := by
    -- the column stands right behind the first word of the text
    refine ⟨by decide, "SELECT ".toList, call.query.sql.chars.drop 13, ?_⟩
    rw [toList_render]
    decide +kernel
  refine ⟨hcompiles, hallowed, hrefers, ?_⟩
  rw [get?_params call hcompiles]
  decide +kernel

end QueryCall

end SiteAnalytics
