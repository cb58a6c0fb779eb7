import SiteAnalytics.Proofs.Filter.Shape
import SiteAnalytics.Proofs.Query.Call

/-!
# The shape of calls

Two calls have one shape if they agree on what decides the text of a query: the builder and its
options, the bucket, the column of a breakdown, the number of steps and the span of a funnel,
whether there is a window before, and the shape of the filters. Projects, windows, zones, steps,
names of events, error ids, statuses, pages of a listing, and values and keys of filters are free.

The main result, `render_eq_of_sameShape`, says that such calls have one text, so that what users
write reaches a query as a parameter only.
-/

namespace SiteAnalytics

/-- The filters compile and have clauses of one shape. -/
structure CompiledFilter.SameShape (f f' : CompiledFilter) : Prop where
  left : f.Compiles
  right : f'.Compiles
  clauses : Filter.SameShape f.clauses f'.clauses

namespace CompiledFilter.SameShape

variable {f f' : CompiledFilter}

theorem predicate_eq (h : f.SameShape f') : f.predicate = f'.predicate := by
  obtain ⟨kind, -, hf⟩ := h.left.exists_eq
  obtain ⟨kind', -, hf'⟩ := h.right.exists_eq
  rw [hf, hf']
  exact (h.clauses.compileClauses kind kind').1

theorem text_eq (h : f.SameShape f') : f.text = f'.text := by
  rw [text, text, h.predicate_eq]

theorem customEvents_eq (h : f.SameShape f') : f.customEvents = f'.customEvents := by
  obtain ⟨kind, -, hf⟩ := h.left.exists_eq
  obtain ⟨kind', -, hf'⟩ := h.right.exists_eq
  rw [hf, hf']
  exact (h.clauses.compileClauses kind kind').2

theorem table_eq (h : f.SameShape f') (kind : MetricKind) : kind.table f = kind.table f' := by
  cases kind <;> simp [MetricKind.table, h.customEvents_eq]

end CompiledFilter.SameShape

namespace QueryCall

/-- The calls agree on what decides the text of a query. -/
def SameShape : QueryCall → QueryCall → Prop
  | chart _ kind w f options, chart _ kind' w' f' options' =>
    kind = kind' ∧ w.bucket = w'.bucket ∧ options = options' ∧ f.SameShape f'
  | breakdown _ column kind _ f pageInclusive, breakdown _ column' kind' _ f' pageInclusive' =>
    column = column' ∧ kind = kind' ∧ pageInclusive = pageInclusive' ∧ f.SameShape f'
  | funnel _ steps _ span, funnel _ steps' _ span' => steps.length = steps'.length ∧ span = span'
  | flow _ _ f, flow _ _ f' => f.SameShape f'
  | eventMeta _ _ _ f, eventMeta _ _ _ f' => f.SameShape f'
  | summary _ _ f previous, summary _ _ f' previous' =>
    previous.isSome = previous'.isSome ∧ f.SameShape f'
  | errors _ _ f options, errors _ _ f' options' =>
    options.showResolved = options'.showResolved ∧ f.SameShape f'
  | errorExists .., errorExists .. => True
  | insertStatus .., insertStatus .. => True
  | firstEvent _ table, firstEvent _ table' => table = table'
  | _, _ => False

/-! ### Parts of queries -/

section Parts

variable {f f' : CompiledFilter} (h : f.SameShape f')

include h

theorem events_eq (columns : String) (table : EventTable) :
    Query.Chart.events columns table f = Query.Chart.events columns table f' := by
  rw [Query.Chart.events, Query.Chart.events, h.text_eq]

theorem chart_sql_eq (kind : MetricKind) (bucket : Bucket) (options : ChartOptions) :
    Query.Chart.sql kind bucket f options = Query.Chart.sql kind bucket f' options := by
  cases kind with
  | traffic =>
    simp only [Query.Chart.sql, Query.Chart.traffic, h.table_eq, events_eq h]
  | customEvents => simp only [Query.Chart.sql, Query.Chart.customEvents, events_eq h]
  | performance => simp only [Query.Chart.sql, Query.Chart.performance, events_eq h]
  | errors => simp only [Query.Chart.sql, Query.Chart.errors, events_eq h]
  | sessions => simp only [Query.Chart.sql, Query.Chart.sessions, h.table_eq, events_eq h]

theorem summaryHalf_eq (tag : Nat) (start stop : String) :
    Query.summaryHalf tag start stop f = Query.summaryHalf tag start stop f' := by
  simp only [Query.summaryHalf, h.table_eq, h.text_eq]

theorem pick_eq (kind : MetricKind) (pageInclusive : Bool) :
    BreakdownShape.pick kind f pageInclusive = BreakdownShape.pick kind f' pageInclusive := by
  cases kind <;> simp [BreakdownShape.pick, h.customEvents_eq]

end Parts

/-! ### Queries -/

theorem summary_sql_eq {f f' : CompiledFilter} (h : f.SameShape f') {pid pid' : String}
    {w w' : Window} {previous previous' : Option (DateTime × DateTime)}
    (hprevious : previous.isSome = previous'.isSome) :
    (Query.summary pid w f previous).sql = (Query.summary pid' w' f' previous').sql := by
  cases previous <;> cases previous' <;> simp at hprevious <;>
    simp only [Query.summary, summaryHalf_eq h]

theorem sql_eq_of_sameShape {call other : QueryCall} (h : call.SameShape other) :
    call.query.sql = other.query.sql := by
  -- calls of different builders have no shape in common
  cases call <;> cases other <;> try exact h.elim
  case chart.chart pid kind w f options pid' kind' w' f' options' =>
    obtain ⟨rfl, hbucket, rfl, hf⟩ := h
    simp only [query, Query.chart, hbucket, chart_sql_eq hf]
  case breakdown.breakdown pid column kind w f incl pid' column' kind' w' f' incl' =>
    obtain ⟨rfl, rfl, rfl, hf⟩ := h
    simp only [query, Query.breakdown, pick_eq hf, hf.text_eq]
  case funnel.funnel pid steps w span pid' steps' w' span' =>
    obtain ⟨hsteps, rfl⟩ := h
    simp only [query, Query.funnel, hsteps]
  case flow.flow pid w f pid' w' f' =>
    have hf : f.SameShape f' := h
    simp only [query, Query.flow, hf.text_eq]
  case eventMeta.eventMeta pid event w f pid' event' w' f' =>
    have hf : f.SameShape f' := h
    simp only [query, Query.eventMeta, hf.text_eq]
  case summary.summary pid w f previous pid' w' f' previous' =>
    exact summary_sql_eq h.2 h.1
  case errors.errors pid w f options pid' w' f' options' =>
    obtain ⟨hresolved, hf⟩ := h
    simp only [query, Query.errors, hresolved, hf.text_eq]
  case errorExists.errorExists => rfl
  case insertStatus.insertStatus => rfl
  case firstEvent.firstEvent pid table pid' table' =>
    obtain rfl : table = table' := h
    rfl

/-- Calls of one shape have one text, whatever users have written. -/
theorem render_eq_of_sameShape (call other : QueryCall) (h : call.SameShape other) :
    call.query.sql.render = other.query.sql.render := by
  rw [sql_eq_of_sameShape h]

/-- Clauses of the shape of `planFilter`, with a value that tries to be text of the query. -/
def hostileClauses : List Clause :=
  [⟨"tag:key:a)", some "' OR 1 = 1", false⟩, ⟨"tag:key:a)", some "\x7bpid:String\x7d", false⟩,
    ⟨"ref", none, true⟩]

/-- The text of `hostileClauses` in a request. -/
def hostileFilter : String :=
  "[\x7b\"column\": \"tag:key:a)\", \"filter\": [\"' OR 1 = 1\", \"\x7bpid:String\x7d\"]\x7d, " ++
    "\x7b\"column\": \"ref\", \"isExclusive\": true\x7d]"

theorem compile_hostileFilter : Filter.compile (some hostileFilter) .traffic false =
    .ok (Filter.compileClauses .traffic hostileClauses) := by
  have hparse : Clause.parseList (some hostileFilter) = .ok hostileClauses := by decide +kernel
  have hselect : Filter.select .traffic false hostileClauses = .ok hostileClauses := by
    decide +kernel
  exact Filter.compile_of_select hparse hselect

/-- A chart for one project and a chart for another with a filter that is an attack. -/
theorem render_chart_hostileFilter :
    let f := Filter.compileClauses .traffic Filter.planClauses
    let f' := Filter.compileClauses .traffic hostileClauses
    let w : Window := ⟨.ofSecond 0, .ofSecond 86399, .ofSecond 0, .ofSecond 86399, .hour,
      Zone.fallback⟩
    let w' : Window := ⟨.ofSecond 3600, .ofSecond 7199, .ofSecond 0, .ofSecond 3599, .hour,
      ⟨"Europe/Vienna", .constant 3600, false⟩⟩
    let call := chart "one" .traffic w f .standard
    let other := chart "two' --" .traffic w' f' .standard
    call.SameShape other ∧ call.query.sql.render = other.query.sql.render := by
  intro f f' w w' call other
  have hclauses : Filter.SameShape Filter.planClauses hostileClauses := by
    refine ⟨?_, ?_⟩
    · refine .cons ⟨?_, ?_, ?_⟩ (.cons ⟨?_, ?_, ?_⟩ (.cons ⟨?_, ?_, ?_⟩ .nil)) <;> decide +kernel
    · decide +kernel
  have hf : f.SameShape f' :=
    ⟨⟨_, _, _, Filter.compile_planFilter⟩, ⟨_, _, _, compile_hostileFilter⟩, hclauses⟩
  have hcall : call.SameShape other := ⟨rfl, rfl, rfl, hf⟩
  exact ⟨hcall, render_eq_of_sameShape call other hcall⟩

end QueryCall

end SiteAnalytics
