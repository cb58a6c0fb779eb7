import SiteAnalytics.Query.Chart

/-!
# Summary queries

A summary counts the events of a window, and in the same query those of the window before it. Each
half tags its row with a number, because the column store may return the rows in any order.
-/

namespace SiteAnalytics.Query

/-- The tag of the row of the current window. -/
def currentTag : Nat := 1

/-- The tag of the row of the previous window. -/
def previousTag : Nat := 2

/-- The half of a summary for the window between two parameters. -/
def summaryHalf (tag : Nat) (start stop : String) (filter : CompiledFilter) : Sql :=
  let table := MetricKind.traffic.table filter
  let (columns, uniques) :=
    if table = .analytics then ("psid, unique", "sum(a.unique)") else ("psid", "uniqExact(a.psid)")
  "SELECT " ++ toString tag ++ " AS sortOrder, count() AS `all`, " ++ uniques ++
    " AS `unique`, " ++ Chart.sessionDuration ++ " FROM (SELECT " ++ columns ++ " FROM " ++
    table.name ++ " WHERE " ++ Scope.windowCondition start stop ++ filter.text ++
    ") AS a LEFT JOIN (" ++ Scope.sessionDurations ++ ") AS sd ON a.psid = sd.psid"

/-- The totals of a window and, if one is given, of the window before it. -/
def summary (pid : String) (w : Window) (filter : CompiledFilter)
    (previous : Option (DateTime × DateTime)) : Query :=
  let current := summaryHalf currentTag "groupFrom" "groupTo" filter
  let params := Scope.params pid w filter
  match previous with
  | none => ⟨current, params⟩
  | some (start, stop) =>
    { sql :=
        current ++ " UNION ALL " ++
          summaryHalf previousTag "groupFromPrev" "groupToPrev" filter
      params :=
        (params.insert "groupFromPrev" (.text (start.format Pattern.dateTime))).insert
          "groupToPrev" (.text (stop.format Pattern.dateTime)) }

end SiteAnalytics.Query
