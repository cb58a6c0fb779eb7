import SiteAnalytics.Chart
import SiteAnalytics.Flow
import SiteAnalytics.Project
import SiteAnalytics.Query.Breakdown
import SiteAnalytics.Query.Errors
import SiteAnalytics.Query.EventMeta
import SiteAnalytics.Query.Flow
import SiteAnalytics.Query.Funnel
import SiteAnalytics.Request
import SiteAnalytics.Session
import SiteAnalytics.Store.Task
import SiteAnalytics.Summary
import SiteAnalytics.Window.AllTime

/-!
# The engine

The engine answers requests. It knows projects, settings and the clocks of zones, and every answer
is a task on the column store: first the request is checked, then its window is resolved, and only
then the data is asked for. A request that is refused has therefore not been seen by the store,
apart from the one query that all time needs to find the first event.

The status of an error is the only thing the engine ever writes, and only after it has made sure
that the error exists.
-/

namespace SiteAnalytics

/-- The number of occurrences of an error, as the column store reports it. -/
def occurrencesOfJson? (j : Json) : Option Nat := do
  let field ← j.record? ["c"]
  (field "c").required Json.nat64?

/-- What requests are answered with. -/
structure Engine where
  config : Config
  registry : Registry
  /-- Where the clocks of zones come from. -/
  zones : ZoneSource := .listed

namespace Engine

/-! ### Projects and windows -/

/-- The project with an id. -/
def project (e : Engine) (pid : String) : StoreTask Project :=
  .orElse (.notFound "Project") (e.registry.project? pid)

/-- The zone of a request: its own, then that of the project, then the configured one. -/
def timezone (e : Engine) (r : Request) (p : Project) : String :=
  (r.timezone.or p.timezone).getD e.config.timezone

/-- A timeframe for all time since `first`, both times in UTC. -/
def allTimeFrame (zones : ZoneSource) (frame : Timeframe) (first now : DateTime) :
    Except EngineError Timeframe := do
  let zone := Zone.parse frame.timezone zones
  let inCalendar (t : Option DateTime) : Except EngineError DateTime :=
    t.elim (.error .outOfCalendar) .ok
  let first ← inCalendar (zone.utcToLocal? first)
  let now ← inCalendar (zone.utcToLocal? now)
  match Bucket.allTime first now with
  | .error cause => .error (.validation cause)
  | .ok (bucket, count) =>
    return { frame with bucket := some bucket, allTimeCount := some count }

/-- The timeframe of a request, with bucket and length of all time if the request asks for it. They
follow from the first event in `table`. -/
def timeframe (e : Engine) (now : DateTime) (r : Request) (p : Project) (table : EventTable) :
    StoreTask Timeframe := do
  let frame := r.timeframe (e.timezone r p)
  if r.isAllTime then
    let rows ← StoreTask.fetch FirstEventRow.ofJson? (Query.firstEvent r.pid table)
    match rows.head?.bind FirstEventRow.instant? with
    | some first => StoreTask.result (allTimeFrame e.zones frame first now)
    | none => return { frame with bucket := none }
  else return frame

/-- The window of a request. -/
def window (e : Engine) (now : DateTime) (r : Request) (p : Project) (table : EventTable) :
    StoreTask Window := do
  StoreTask.of ((← e.timeframe now r p table).resolve now e.zones)

/-! ### Charts -/

/-- Asks for the rows of a chart and makes its series of them. -/
def chartSeries (kind : MetricKind) (options : ChartOptions) (axis : Axis) (q : Query) :
    StoreTask (Dict SeriesValues) := do
  if kind = .performance && options.measure = .quantiles then
    let rows ← StoreTask.fetch ChartRow.quantiles? q
    return (Chart.quantileSeries axis rows).mapValues fun _ => .quantiles
  else
    let rows ← StoreTask.fetch (ChartRow.scalar? kind) q
    return (Chart.scalarSeries axis kind options.mode rows).mapValues fun _ => .scalar

/-- A chart of the events of a window. -/
def chart (e : Engine) (now : DateTime) (r : Request) (kind : MetricKind)
    (options : ChartOptions) : StoreTask Chart := do
  let project ← e.project r.pid
  let filter ← StoreTask.of (Filter.compile r.filters kind false)
  let window ← e.window now r project (kind.table filter)
  let axis ← StoreTask.orElse .outOfCalendar (Axis.ofWindow? window)
  let series ← chartSeries kind options axis (Query.chart r.pid kind window filter options)
  return {
    kind, axis, series
    mode := kind.chartMode options.mode
    clauses := filter.clauses
    customEvents := filter.customEvents }

/-! ### Funnels and flows -/

/-- A funnel with the given steps. -/
def funnel (e : Engine) (now : DateTime) (r : Request) (steps : List String) :
    StoreTask (List FunnelStep) := do
  StoreTask.of (Funnel.check steps)
  let project ← e.project r.pid
  let window ← e.window now r project .analytics
  let rows ← StoreTask.fetch FunnelLevel.ofJson?
    (Query.funnel r.pid steps window e.config.funnelSpan)
  return Funnel.ofLevels rows steps

/-- A funnel that was saved for the project. -/
def savedFunnel (e : Engine) (now : DateTime) (r : Request) (id : String) :
    StoreTask (List FunnelStep) := do
  let saved ← StoreTask.orElse (.notFound "Funnel") (e.registry.funnel? r.pid id)
  e.funnel now r saved.steps

/-- The ways of visitors from page to page. -/
def userFlow (e : Engine) (now : DateTime) (r : Request) : StoreTask UserFlow := do
  let project ← e.project r.pid
  let filter ← StoreTask.of (Filter.compile r.filters .traffic true)
  let window ← e.window now r project .analytics
  let edges ← StoreTask.fetch FlowEdge.ofJson? (Query.flow r.pid window filter)
  return UserFlow.ofEdges edges

/-! ### Summaries -/

/-- The window before `w`, unless all time is asked for. -/
def previousWindow (w : Window) (allTime : Bool) : StoreTask (Option (DateTime × DateTime)) :=
  if allTime then return none
  else return some (← StoreTask.orElse .outOfCalendar w.previous?)

/-- The summary of one project. -/
def summaryOf (e : Engine) (now : DateTime) (r : Request) (filter : CompiledFilter)
    (pid : String) : StoreTask PeriodComparison := do
  let project ← e.project pid
  let r := { r with pid }
  let window ← e.window now r project (MetricKind.traffic.table filter)
  let previous ← previousWindow window r.isAllTime
  let rows ← StoreTask.fetch SummaryRow.ofJson? (Query.summary pid window filter previous)
  return PeriodComparison.ofRows rows filter.customEvents r.isAllTime

/-- The summaries of projects, one after the other. -/
def summariesOf (e : Engine) (now : DateTime) (r : Request) (filter : CompiledFilter) :
    List String → StoreTask (List (String × PeriodComparison))
  | [] => return []
  | pid :: rest => do
    let summary ← e.summaryOf now r filter pid
    return (pid, summary) :: (← e.summariesOf now r filter rest)

/-- The summaries of the projects `pids`. The project of the request itself does not matter. -/
def summary (e : Engine) (now : DateTime) (r : Request) (pids : List String) :
    StoreTask (Dict PeriodComparison) := do
  let filter ← StoreTask.of (Filter.compile r.filters .traffic false)
  return Dict.ofList (← e.summariesOf now r filter pids)

/-! ### Breakdowns -/

/-- The columns to break down by: all that the kind has, unless some are asked for. -/
def breakdownColumns (kind : MetricKind) :
    Option (List String) → Except ValidationError (List String)
  | none => .ok kind.columns
  | some columns =>
    match columns.find? fun column => !kind.allows column with
    | some column => .error (.unsupportedFilter column)
    | none => .ok columns

/-- The counts by the values of every column, one column after the other. -/
def breakdownsBy (pid : String) (kind : MetricKind) (w : Window) (filter : CompiledFilter) :
    List String → StoreTask (List (String × List BreakdownEntry))
  | [] => return []
  | column :: rest => do
    let entries ← StoreTask.fetch BreakdownEntry.ofJson?
      (Query.breakdown pid column kind w filter filter.pageInclusive)
    return (column, entries) :: (← breakdownsBy pid kind w filter rest)

/-- The events of a window by the values of columns. -/
def breakdown (e : Engine) (now : DateTime) (r : Request) (kind : MetricKind)
    (columns : Option (List String)) : StoreTask (Dict (List BreakdownEntry)) := do
  let columns ← StoreTask.of (breakdownColumns kind columns)
  let project ← e.project r.pid
  let filter ← StoreTask.of (Filter.compile r.filters kind false)
  let window ← e.window now r project (kind.table filter)
  return Dict.ofList (← breakdownsBy r.pid kind window filter columns)

/-! ### Errors -/

/-- A page of the errors of a window. -/
def errors (e : Engine) (now : DateTime) (r : Request) (options : ErrorListOptions) :
    StoreTask (List ErrorListing) := do
  let project ← e.project r.pid
  let filter ← StoreTask.of (Filter.compile r.filters .errors false)
  let window ← e.window now r project .errors
  StoreTask.fetch ErrorListing.ofJson? (Query.errors r.pid window filter options)

/-- Accepts an error id. -/
def checkErrorId (eid : String) : Except ValidationError Unit :=
  if isErrorId eid then .ok () else .error (.invalidErrorId eid)

/-- Gives an error of a project a new status. -/
def setErrorStatus (e : Engine) (pid eid : String) (status : ErrorStatus) : StoreTask Unit := do
  StoreTask.of (checkErrorId eid)
  let _ ← e.project pid
  let counts ← StoreTask.fetch occurrencesOfJson? (Query.errorExists pid eid)
  StoreTask.orElse (.notFound "Error") (counts.head?.filter (0 < ·)) >>= fun _ =>
    StoreTask.command (Query.insertStatus pid eid status)

/-! ### Custom events -/

/-- The key-value pairs of a custom event; none if they cannot be had. -/
def eventMeta (e : Engine) (now : DateTime) (r : Request) (event : String) :
    StoreTask (List EventMetaRow) := do
  let project ← e.project r.pid
  let filter ← StoreTask.of (Filter.compile r.filters .customEvents false)
  let window ← e.window now r project .customEvents
  StoreTask.fetchOrNothing EventMetaRow.ofJson? (Query.eventMeta r.pid event window filter)

/-! ### Live visitors -/

/-- The number of live visitors of a project at time `now`. It is the cache that knows. -/
def live (e : Engine) (cache : CacheService) (now : Nat) (pid : String) :
    Except EngineError Nat × CacheService :=
  match e.registry.project? pid with
  | none => (.error (.notFound "Project"), cache)
  | some _ =>
    let (count, cache) := cache.run now (Session.live pid)
    (count.mapError .unavailable, cache)

end Engine

end SiteAnalytics
