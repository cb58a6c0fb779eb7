import SiteAnalytics.Json.Decode

/-!
# Metric kinds

A request aggregates over one of five streams of events. The kind of metric decides by which plain
columns its events may be filtered and broken down.
-/

namespace SiteAnalytics

/-- The stream of events a request aggregates over. -/
inductive MetricKind
  | traffic | customEvents | performance | errors | sessions
  deriving DecidableEq, Repr

namespace MetricKind

/-- All kinds. -/
def all : List MetricKind := [traffic, customEvents, performance, errors, sessions]

/-- The name of a kind. -/
def name : MetricKind → String
  | traffic => "traffic"
  | customEvents => "custom_events"
  | performance => "performance"
  | errors => "errors"
  | sessions => "sessions"

/-- The kind with a name. -/
def ofName? (s : String) : Option MetricKind := all.find? fun k => k.name == s

/-- Reads a kind. -/
def ofJson? : Json → Option MetricKind := Json.name? ofName? Json.isNull

/-! ### Columns -/

/-- The columns of pageviews, and of custom events and sessions with them. -/
def trafficColumns : List String :=
  ["host", "cc", "rg", "ct", "pg", "lc", "ref", "dv", "br", "brv", "os", "osv", "so", "me", "ca",
    "te", "co"]

/-- The columns of performance timings. -/
def performanceColumns : List String := ["host", "cc", "rg", "ct", "pg", "dv", "br", "brv"]

/-- The columns of errors. -/
def errorColumns : List String :=
  ["host", "cc", "rg", "ct", "pg", "lc", "dv", "br", "brv", "os", "osv", "name", "message"]

/-- The plain columns by which events of a kind may be filtered and broken down. -/
def columns : MetricKind → List String
  | traffic | customEvents | sessions => trafficColumns
  | performance => performanceColumns
  | errors => errorColumns

/-- The column is one of the kind's. -/
def allows (kind : MetricKind) (column : String) : Bool := kind.columns.contains column

end MetricKind

end SiteAnalytics
