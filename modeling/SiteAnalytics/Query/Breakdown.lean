import SiteAnalytics.Query.Scope

/-!
# Breakdown queries

A breakdown counts events by the value of one column, largest first, and never reports null. Which
events count depends on kind and filters: pageviews count once per visitor, unless the breakdown is
by page or the filters ask for a page; custom events, timings and errors count each time.
-/

namespace SiteAnalytics

/-- Which events a breakdown counts. -/
inductive BreakdownShape
  /-- The custom events that the filters ask for. -/
  | customEvents
  /-- Every pageview, because the filters ask for a page. -/
  | pageInclusive
  /-- Every event of a stream of its own. -/
  | stream (table : EventTable)
  /-- The first pageview of every visitor. -/
  | uniqueAnalytics
  deriving DecidableEq, Repr

namespace BreakdownShape

/-- The shape for a kind and its filters. -/
def pick (kind : MetricKind) (filter : CompiledFilter) (pageInclusive : Bool) : BreakdownShape :=
  match kind with
  | .performance => stream .performance
  | .errors => stream .errors
  | .customEvents => customEvents
  | .traffic | .sessions =>
    if filter.customEvents then customEvents
    else if pageInclusive then BreakdownShape.pageInclusive
    else uniqueAnalytics

/-- The table a shape reads. -/
def table : BreakdownShape → EventTable
  | customEvents => .customEvents
  | stream table => table
  | pageInclusive | uniqueAnalytics => .analytics

/-- The condition a shape adds. -/
def condition (shape : BreakdownShape) (column : String) : String :=
  match shape with
  | uniqueAnalytics => if column = "pg" then "" else " AND unique = 1"
  | _ => ""

/-- The name of a shape. -/
def name : BreakdownShape → String
  | customEvents => "customEvents"
  | pageInclusive => "pageInclusive"
  | stream table => "stream:" ++ table.name
  | uniqueAnalytics => "uniqueAnalytics"

end BreakdownShape

/-- A value of the column with the number of its events. -/
structure BreakdownEntry where
  name : String
  count : Int
  deriving DecidableEq, Repr

namespace BreakdownEntry

/-- The fields of an entry. -/
def fields : List String := ["name", "count"]

/-- Reads an entry. -/
def ofJson? (j : Json) : Option BreakdownEntry := do
  let field ← j.record? fields
  let name ← (field "name").required Json.string?
  let count ← (field "count").required Json.int64?
  return ⟨name, count⟩

/-- The entry as JSON. -/
def toJson (e : BreakdownEntry) : Json :=
  .ofMembers [("name", .string e.name), ("count", .int e.count)]

end BreakdownEntry

/-- The counts by the value of `column`, which must be a column of the kind. -/
def Query.breakdown (pid column : String) (kind : MetricKind) (w : Window)
    (filter : CompiledFilter) (pageInclusive : Bool) : Query :=
  let shape := BreakdownShape.pick kind filter pageInclusive
  { sql :=
      "SELECT " ++ column ++ " AS name, count() AS count FROM " ++ shape.table.name ++ " WHERE " ++
        Scope.condition ++ filter.text ++ shape.condition column ++ " AND " ++ column ++
        " IS NOT NULL GROUP BY " ++ column ++ " ORDER BY count DESC"
    params := Scope.params pid w filter }

end SiteAnalytics
