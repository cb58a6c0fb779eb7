import SiteAnalytics.Query.Scope

/-!
# Chart queries

A chart query groups events by the calendar fields of the bucket, on the wall clock of the request.
All kinds of metric select the same group columns, so that their rows fit one axis. In cumulative
mode the grouped query is wrapped into running sums over the group columns. Timings do not add up,
so performance charts have no cumulative mode.
-/

namespace SiteAnalytics

/-! ### Options -/

/-- A chart shows the values of each bucket, or running totals. -/
inductive RenderMode
  | periodical | cumulative
  deriving DecidableEq, Repr

/-- What is shown of the timings in a bucket. -/
inductive PerfMeasure
  | average | median | p95 | quantiles
  deriving DecidableEq, Repr

/-- How a chart is drawn. -/
structure ChartOptions where
  mode : RenderMode
  measure : PerfMeasure
  /-- Errors that are resolved count as well. -/
  showResolved : Bool
  deriving DecidableEq, Repr

namespace RenderMode

/-- The name of a mode. -/
def name : RenderMode → String
  | periodical => "periodical"
  | cumulative => "cumulative"

/-- The mode with a name. -/
def ofName? (s : String) : Option RenderMode :=
  [periodical, cumulative].find? fun m => m.name == s

/-- Reads a mode. -/
def ofJson? : Json → Option RenderMode := Json.name? ofName? Json.isNull

end RenderMode

namespace PerfMeasure

/-- The name of a measure. -/
def name : PerfMeasure → String
  | average => "average"
  | median => "median"
  | p95 => "p95"
  | quantiles => "quantiles"

/-- The measure with a name. -/
def ofName? (s : String) : Option PerfMeasure :=
  [average, median, p95, quantiles].find? fun m => m.name == s

/-- Reads a measure. -/
def ofJson? : Json → Option PerfMeasure := Json.name? ofName? Json.isNull

/-- The aggregate function of the column store. -/
def function : PerfMeasure → String
  | average => "avg"
  | median => "median"
  | p95 => "quantileExact(0.95)"
  | quantiles => "quantilesExact(0.5, 0.75, 0.95)"

end PerfMeasure

namespace ChartOptions

/-- The options of a request that names none. -/
def standard : ChartOptions := ⟨.periodical, .median, false⟩

/-- The fields of the options. -/
def fields : List String := ["mode", "measure", "showResolved"]

/-- Reads options. -/
def ofJson? (j : Json) : Option ChartOptions := do
  let field ← j.record? fields
  let mode ← (field "mode").defaulted RenderMode.ofJson? standard.mode
  let measure ← (field "measure").defaulted PerfMeasure.ofJson? standard.measure
  let showResolved ← (field "showResolved").defaulted Json.bool? standard.showResolved
  return ⟨mode, measure, showResolved⟩

/-- The options as JSON. -/
def toJson (o : ChartOptions) : Json :=
  .ofMembers
    [("mode", .string o.mode.name), ("measure", .string o.measure.name),
      ("showResolved", .bool o.showResolved)]

end ChartOptions

/-! ### Group columns -/

namespace Bucket

/-- The calendar fields by which the events of a bucket are grouped, coarsest first. -/
def groupColumns : Bucket → List String
  | year => ["year"]
  | month => ["year", "month"]
  | day => ["year", "month", "day"]
  | hour => ["year", "month", "day", "hour"]
  | minute => ["year", "month", "day", "hour", "minute"]

/-- The function of the column store that computes a calendar field. -/
def groupFunction : String → String
  | "year" => "toYear"
  | "month" => "toMonth"
  | "day" => "toDayOfMonth"
  | "hour" => "toHour"
  | _ => "toMinute"

/-- The selected group columns of a bucket. -/
def groupSelect (b : Bucket) : String :=
  ", ".intercalate (b.groupColumns.map fun column =>
    groupFunction column ++ "(tz_created) AS " ++ column)

/-- The list of the group columns of a bucket. -/
def groupList (b : Bucket) : String := ", ".intercalate b.groupColumns

end Bucket

/-! ### Queries -/

namespace Query.Chart

/-- The timings of a performance event. -/
def timings : List String := ["dns", "tls", "conn", "response", "render", "domLoad", "ttfb"]

/-- The time of an event on the wall clock of the request. -/
def wallClock : Sql := "toTimeZone(created, " ++ Sql.bind "timezone" ++ ") AS tz_created"

/-- The mean duration of the sessions in a bucket. -/
def sessionDuration : String := "avgOrNullIf(sd.duration, sd.duration > 0) AS sdur"

/-- The events of a table in scope, with the given columns and their time on the wall clock. -/
def events (columns : String) (table : EventTable) (filter : CompiledFilter) : Sql :=
  "SELECT " ++ columns ++ ", " ++ wallClock ++ " FROM " ++ table.name ++ " WHERE " ++
    Scope.condition ++ filter.text

/-- The errors that are not resolved, unless resolved ones count as well. -/
def statusCondition (showResolved : Bool) : String :=
  if showResolved then "" else " WHERE s.status != 'resolved'"

/-- Running sums of the columns `summed` over the group columns; the columns `kept` pass through. -/
def runningSums (base : Sql) (group : String) (summed kept : List String)
    (partitionBy : Option String) : Sql :=
  let frame :=
    match partitionBy with
    | some column => "OVER (PARTITION BY " ++ column ++ " ORDER BY " ++ group ++ ")"
    | none => "OVER (ORDER BY " ++ group ++ ")"
  let sums := summed.map fun c => "sum(" ++ c ++ ") " ++ frame ++ " AS " ++ c
  "SELECT " ++ ", ".intercalate ([group] ++ kept ++ sums) ++ " FROM (" ++ base ++ ") ORDER BY " ++
    group

/-- A grouped query in the mode of the chart. -/
def inMode (mode : RenderMode) (base : Sql) (group : String) (summed kept : List String)
    (partitionBy : Option String) : Sql :=
  match mode with
  | .periodical => base ++ " ORDER BY " ++ group
  | .cumulative => runningSums base group summed kept partitionBy

/-- Pageviews, unique visitors and session durations. -/
def traffic (bucket : Bucket) (filter : CompiledFilter) (mode : RenderMode) : Sql :=
  let table := MetricKind.traffic.table filter
  let group := bucket.groupList
  let (columns, uniques) :=
    if table = .analytics then ("psid, unique", "sum(a.unique)") else ("psid", "uniqExact(a.psid)")
  let base : Sql :=
    "SELECT " ++ bucket.groupSelect ++ ", count() AS pageviews, " ++ uniques ++ " AS uniques, " ++
      sessionDuration ++ " FROM (" ++ events columns table filter ++ ") AS a LEFT JOIN (" ++
      Scope.sessionDurations ++ ") AS sd ON a.psid = sd.psid GROUP BY " ++ group
  inMode mode base group ["pageviews", "uniques"] ["sdur"] none

/-- Sessions and their durations. -/
def sessions (bucket : Bucket) (filter : CompiledFilter) (mode : RenderMode) : Sql :=
  let group := bucket.groupList
  let base : Sql :=
    "SELECT " ++ bucket.groupSelect ++ ", uniqExact(a.psid) AS sessions, " ++ sessionDuration ++
      " FROM (" ++ events "psid" (MetricKind.sessions.table filter) filter ++
      ") AS a LEFT JOIN (" ++ Scope.sessionDurations ++
      ") AS sd ON a.psid = sd.psid GROUP BY " ++ group
  inMode mode base group ["sessions"] ["sdur"] none

/-- Custom events by name. -/
def customEvents (bucket : Bucket) (filter : CompiledFilter) (mode : RenderMode) : Sql :=
  let group := bucket.groupList
  let base : Sql :=
    "SELECT " ++ bucket.groupSelect ++ ", ev, count() AS count FROM (" ++
      events "ev" .customEvents filter ++ ") GROUP BY " ++ group ++ ", ev"
  inMode mode base group ["count"] ["ev"] (some "ev")

/-- The timings in a measure. -/
def performance (bucket : Bucket) (filter : CompiledFilter) (measure : PerfMeasure) : Sql :=
  let group := bucket.groupList
  let measures :=
    ", ".intercalate (timings.map fun c => measure.function ++ "(" ++ c ++ ") AS " ++ c)
  "SELECT " ++ bucket.groupSelect ++ ", " ++ measures ++ " FROM (" ++
    events (", ".intercalate timings) .performance filter ++ ") GROUP BY " ++ group ++
    " ORDER BY " ++ group

/-- Occurrences of errors. -/
def errors (bucket : Bucket) (filter : CompiledFilter) (mode : RenderMode) (showResolved : Bool) :
    Sql :=
  let group := bucket.groupList
  let base : Sql :=
    "SELECT " ++ bucket.groupSelect ++ ", count() AS count FROM (" ++
      events "eid" .errors filter ++ ") AS e LEFT JOIN (" ++ Scope.errorStatuses ++
      ") AS s ON e.eid = s.eid" ++ statusCondition showResolved ++ " GROUP BY " ++ group
  inMode mode base group ["count"] [] none

/-- The text of a chart query. -/
def sql (kind : MetricKind) (bucket : Bucket) (filter : CompiledFilter) (options : ChartOptions) :
    Sql :=
  match kind with
  | .traffic => traffic bucket filter options.mode
  | .sessions => sessions bucket filter options.mode
  | .customEvents => customEvents bucket filter options.mode
  | .performance => performance bucket filter options.measure
  | .errors => errors bucket filter options.mode options.showResolved

end Query.Chart

/-- The grouped query of a chart. -/
def Query.chart (pid : String) (kind : MetricKind) (w : Window) (filter : CompiledFilter)
    (options : ChartOptions) : Query :=
  { sql := Query.Chart.sql kind w.bucket filter options
    params := Scope.params pid w filter }

end SiteAnalytics
