import SiteAnalytics.Filter.Compile
import SiteAnalytics.Window.Basic

/-!
# The scope of a query

Every query reads one event table and is restricted to one project, and nearly every one to a
window and to the filters of the request. This module holds those parts: the tables, the conditions
on project and window, the parameters they refer to, and two subqueries that several queries join.

The names `pid`, `groupFrom`, `groupTo` and `timezone` belong to the scope. Filters bind names of
another form, so they cannot change what the scope says.
-/

namespace SiteAnalytics

/-- A table of events. -/
inductive EventTable
  | analytics | customEvents | performance | errors
  deriving DecidableEq, Repr

/-- The name of a table in the column store. -/
def EventTable.name : EventTable → String
  | analytics => "analytics"
  | customEvents => "customEV"
  | performance => "performance"
  | errors => "errors"

/-- The table that a kind of metric reads. Pageviews and sessions are read from the custom events
when the filters look at those. -/
def MetricKind.table (kind : MetricKind) (filter : CompiledFilter) : EventTable :=
  match kind with
  | customEvents => .customEvents
  | performance => .performance
  | errors => .errors
  | traffic | sessions => if filter.customEvents then .customEvents else .analytics

namespace Scope

/-! ### Conditions -/

/-- The event belongs to the project. -/
def projectCondition : Sql := "pid = " ++ Sql.bind "pid"

/-- The event belongs to the project and to the window between two parameters. -/
def windowCondition (start stop : String) : Sql :=
  projectCondition ++ " AND created BETWEEN " ++ Sql.bind start ++ " AND " ++ Sql.bind stop

/-- The event belongs to the project and to the window of the request. -/
def condition : Sql := windowCondition "groupFrom" "groupTo"

/-! ### Joined subqueries -/

/-- The mean duration of every session. -/
def sessionDurations : Sql :=
  "SELECT psid, avg(duration) AS duration FROM session_durations WHERE " ++ projectCondition ++
    " GROUP BY psid"

/-- The latest status of every error. -/
def errorStatuses : Sql :=
  "SELECT eid, argMax(status, created) AS status FROM error_statuses WHERE " ++
    projectCondition ++ " GROUP BY eid"

/-! ### Parameters -/

/-- The parameters of project and window. -/
def windowParams (pid : String) (w : Window) : Params :=
  Params.ofTexts [("pid", pid), ("groupFrom", w.startText), ("groupTo", w.stopText)]

/-- The parameters of project, window and zone, and those of the filters. -/
def params (pid : String) (w : Window) (filter : CompiledFilter) : Params :=
  ((windowParams pid w).insert "timezone" (.text w.zone.name)).union filter.params

end Scope

namespace Query

/-- The earliest event of a project. -/
def firstEvent (pid : String) (table : EventTable) : Query :=
  { sql :=
      "SELECT formatDateTime(minOrNull(created), '%Y-%m-%d %H:%i:%S', 'UTC') AS first_event FROM "
        ++ table.name ++ " WHERE " ++ Scope.projectCondition
    params := Params.ofTexts [("pid", pid)] }

end Query

/-- The answer to `Query.firstEvent`. -/
structure FirstEventRow where
  /-- The instant in UTC as text; null without events. -/
  text : Option String
  deriving DecidableEq, Repr

namespace FirstEventRow

/-- The fields of a row. -/
def fields : List String := ["first_event"]

/-- Reads a row. -/
def ofJson? (j : Json) : Option FirstEventRow := do
  let field ← j.record? fields
  return ⟨← (field "first_event").optional Json.string?⟩

/-- The instant of the first event. Text that is no date-time counts as none. -/
def instant? (row : FirstEventRow) : Option DateTime :=
  row.text.bind fun s => Pattern.dateTime.read? s.toList

end FirstEventRow

end SiteAnalytics
