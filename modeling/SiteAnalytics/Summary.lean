import SiteAnalytics.Number.Count
import SiteAnalytics.Number.Share
import SiteAnalytics.Query.Summary

/-!
# Summaries

A summary compares the totals of a window with those of the window before it. All time has no
window before it and is compared with nothing at all.

The bounce rate is the share of unique visitors in the views. It says nothing when the filters ask
for custom events, and is then zero. A falling bounce rate counts as a positive change.
-/

namespace SiteAnalytics

/-- The totals of one window, as the column store reports them. -/
structure SummaryRow where
  /-- Tells the current window from the previous one. -/
  tag : Nat
  views : Int
  visitors : Int
  /-- The mean duration of the sessions, if any was recorded. -/
  duration : Option Float

namespace SummaryRow

/-- The fields of a row. -/
def fields : List String := ["sortOrder", "all", "unique", "sdur"]

/-- Reads a row. -/
def ofJson? (j : Json) : Option SummaryRow := do
  let field ← j.record? fields
  let tag ← (field "sortOrder").required (Json.nat? 255)
  let views ← (field "all").required Json.int64?
  let visitors ← (field "unique").required Json.int64?
  let duration ← (field "sdur").defaulted (Json.option? Json.float?) none
  return ⟨tag, views, visitors, duration⟩

/-- Keeps a row if it is the first one of the current window, or of the previous window. -/
def keepFirst (found : Option SummaryRow × Option SummaryRow) (row : SummaryRow) :
    Option SummaryRow × Option SummaryRow :=
  if row.tag = Query.currentTag && found.1.isNone then (some row, found.2)
  else if row.tag = Query.previousTag && found.2.isNone then (found.1, some row)
  else found

/-- The rows of the current and of the previous window. Rows are sorted by their tags, and stay in
the order they came in where the tags are the same. -/
def pick (rows : List SummaryRow) : Option SummaryRow × Option SummaryRow :=
  (rows.mergeSort fun a b => a.tag ≤ b.tag).foldl keepFirst (none, none)

end SummaryRow

/-- The figures of one window. -/
structure PeriodMetrics where
  views : Int
  visitors : Int
  duration : Float
  bounceRate : Float

namespace PeriodMetrics

/-- The figures of a window without events. -/
def zero : PeriodMetrics := ⟨0, 0, 0, 0⟩

/-- The percentage of visitors in the views, to one place. -/
def bounce (views visitors : Int) (customEvents : Bool) : Float :=
  if views ≤ 0 || customEvents then 0 else Share.tenths visitors views

/-- The figures of a window from its row, if there is one. -/
def ofRow (row : Option SummaryRow) (customEvents : Bool) : PeriodMetrics :=
  match row with
  | none => zero
  | some row =>
    { views := row.views
      visitors := row.visitors
      duration := (row.duration.filter Float.isFinite).getD 0
      bounceRate := bounce row.views row.visitors customEvents }

/-- The figures as JSON. -/
def toJson (m : PeriodMetrics) : Json :=
  .ofMembers
    [("all", .int m.views), ("unique", .int m.visitors), ("sdur", .float m.duration),
      ("bounceRate", .float m.bounceRate)]

end PeriodMetrics

/-- The figures of a window beside those of the window before it. -/
structure PeriodComparison where
  current : PeriodMetrics
  previous : PeriodMetrics
  viewsChange : Int
  visitorsChange : Int
  bounceRateChange : Float
  durationChange : Float
  /-- The change of the views as a percentage of the previous ones. -/
  viewsChangePercent : Float

namespace PeriodComparison

/-- The change from `previous` to `current` in percent. From nothing to something is 100. -/
def changePercent (current previous : Int) : Float :=
  if previous = 0 then if 0 < current then 100 else 0
  else Share.hundredths (Count.sub current previous) previous

/-- Compares two windows. -/
def compare (current previous : PeriodMetrics) : PeriodComparison :=
  { current, previous
    viewsChange := Count.sub current.views previous.views
    visitorsChange := Count.sub current.visitors previous.visitors
    bounceRateChange := (current.bounceRate - previous.bounceRate) * -1
    durationChange := current.duration - previous.duration
    viewsChangePercent := changePercent current.views previous.views }

/-- Compares the rows of a summary; `allTime` if there is no previous window. -/
def ofRows (rows : List SummaryRow) (customEvents allTime : Bool) : PeriodComparison :=
  let (current, previous) := SummaryRow.pick rows
  compare (.ofRow current customEvents) (if allTime then .zero else .ofRow previous customEvents)

/-- The comparison as JSON. -/
def toJson (c : PeriodComparison) : Json :=
  .ofMembers
    [("current", c.current.toJson), ("previous", c.previous.toJson),
      ("change", .int c.viewsChange), ("uniqueChange", .int c.visitorsChange),
      ("bounceRateChange", .float c.bounceRateChange), ("sdurChange", .float c.durationChange),
      ("changePct", .float c.viewsChangePercent)]

end PeriodComparison

end SiteAnalytics
