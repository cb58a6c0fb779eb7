import SiteAnalytics.Axis.Series
import SiteAnalytics.Number.Share
import SiteAnalytics.Query.Chart

/-!
# Charts

The rows of a chart query are scattered over an axis: every row carries the key of its bucket and
values for one or several series. Rows off the axis are dropped. Durations and timings are rounded
to two places and are zero when they are missing.

In cumulative mode the column store returns running totals, and only for buckets with rows. The
totals are carried forward to the buckets without rows; durations are no totals and stay as they
are.
-/

namespace SiteAnalytics

/-! ### Rows -/

/-- A row of a chart: values for some series at one bucket. -/
structure ChartRow (α : Type) where
  key : BucketKey
  values : List (String × α)

namespace ChartRow

/-- A number that may be missing, to two places. -/
def rounded (x : Option Float) : Float := Share.twoPlaces (x.getD 0)

/-- The three numbers that are first in a list, to two places. -/
def quantiles (xs : Option (List Float)) : Float × Float × Float :=
  let at? (i : Nat) : Float := rounded ((xs.getD [])[i]?)
  (at? 0, at? 1, at? 2)

/-- Reads a row with the fields of a key. Rows are objects, never arrays. -/
def ofJsonWith? {α : Type} (values : (String → Json.Found) → Option (List (String × α))) :
    Json → Option (ChartRow α)
  | .object members => do
    let row := Json.object members
    let field ← row.record? []
    return ⟨← BucketKey.ofJson? row, ← values field⟩
  | _ => none

/-- Reads a row of pageviews. -/
def traffic? : Json → Option (ChartRow Float) :=
  ofJsonWith? fun field => do
    let views ← (field "pageviews").required Json.float?
    let visitors ← (field "uniques").required Json.float?
    let duration ← (field "sdur").optional Json.float?
    return [("visits", views), ("uniques", visitors), ("sdur", rounded duration)]

/-- Reads a row of sessions. -/
def sessions? : Json → Option (ChartRow Float) :=
  ofJsonWith? fun field => do
    let sessions ← (field "sessions").required Json.float?
    let duration ← (field "sdur").optional Json.float?
    return [("sessions", sessions), ("sdur", rounded duration)]

/-- Reads a row of custom events: the series is named after the event. -/
def customEvents? : Json → Option (ChartRow Float) :=
  ofJsonWith? fun field => do
    let event ← (field "ev").required Json.string?
    let count ← (field "count").required Json.float?
    return [(event, count)]

/-- Reads a row of errors. -/
def errors? : Json → Option (ChartRow Float) :=
  ofJsonWith? fun field => do
    let count ← (field "count").required Json.float?
    return [("occurrences", count)]

/-- Reads a row of timings. -/
def timings? {α β : Type} (f : Json → Option α) (value : Option α → β) :
    Json → Option (ChartRow β) :=
  ofJsonWith? fun field =>
    Query.Chart.timings.mapM fun name => do
      return (name, value (← (field name).optional f))

/-- Reads a row in which the series are single numbers. -/
def scalar? : MetricKind → Json → Option (ChartRow Float)
  | .traffic => traffic?
  | .sessions => sessions?
  | .customEvents => customEvents?
  | .errors => errors?
  | .performance => timings? Json.float? rounded

/-- Reads a row in which the series are quantiles. -/
def quantiles? : Json → Option (ChartRow (Float × Float × Float)) :=
  timings? (Json.list? Json.float?) quantiles

end ChartRow

/-! ### Series -/

/-- The values of one series. -/
inductive SeriesValues
  | scalar (values : List Float)
  /-- The median and the quantiles at 75 and 95 percent. -/
  | quantiles (values : List (Float × Float × Float))

/-- The values as JSON. -/
def SeriesValues.toJson : SeriesValues → Json
  | scalar values => .list .float values
  | quantiles values => .list (fun (a, b, c) => .array [.float a, .float b, .float c]) values

namespace MetricKind

/-- The series that a chart has even without rows. -/
def seriesNames : MetricKind → List String
  | traffic => ["visits", "uniques", "sdur"]
  | sessions => ["sessions", "sdur"]
  | customEvents => []
  | errors => ["occurrences"]
  | performance => Query.Chart.timings

/-- The mode in which charts of a kind are drawn when `mode` is asked for. -/
def chartMode (kind : MetricKind) (mode : RenderMode) : RenderMode :=
  if kind = .performance then .periodical else mode

/-- The series that are running totals in cumulative mode: some of them, or all. -/
def totals : MetricKind → Option (List String)
  | traffic => some ["visits", "uniques"]
  | sessions => some ["sessions"]
  | customEvents | errors => none
  | performance => some []

end MetricKind

/-- Puts the values of rows into their series. -/
def SeriesSet.scatter {α : Type} (s : SeriesSet α) (rows : List (ChartRow α)) : SeriesSet α :=
  rows.foldl
    (fun s row => row.values.foldl (fun s e => (s.put row.key e.1 e.2).1) s) s

namespace Chart

/-- The series of a chart whose rows hold single numbers. -/
def scalarSeries (axis : Axis) (kind : MetricKind) (mode : RenderMode)
    (rows : List (ChartRow Float)) : Dict (List Float) :=
  let s := ((SeriesSet.ofAxis axis 0).withAll kind.seriesNames).scatter rows
  match kind.chartMode mode with
  | .periodical => s.values
  | .cumulative => (s.carryForward kind.totals).values

/-- The series of a chart of timings in quantiles. -/
def quantileSeries (axis : Axis) (rows : List (ChartRow (Float × Float × Float))) :
    Dict (List (Float × Float × Float)) :=
  (((SeriesSet.ofAxis axis (0, 0, 0)).withAll MetricKind.performance.seriesNames).scatter
    rows).values

end Chart

/-! ### Results -/

/-- A chart with all that is needed to draw it. -/
structure Chart where
  kind : MetricKind
  mode : RenderMode
  axis : Axis
  series : Dict SeriesValues
  /-- The clauses that were applied. -/
  clauses : List Clause
  /-- The filters ask for custom events. -/
  customEvents : Bool

/-- The chart as JSON. -/
def Chart.toJson (c : Chart) : Json :=
  .ofMembers
    [("kind", .string c.kind.name), ("timeBucket", .string c.axis.bucket.name),
      ("mode", .string c.mode.name), ("x", .strings c.axis.labels),
      ("xUtc", .strings c.axis.utcLabels), ("series", .dict SeriesValues.toJson c.series),
      ("appliedFilters", .list Clause.toJson c.clauses),
      ("customEventFilterApplied", .bool c.customEvents)]

end SiteAnalytics
