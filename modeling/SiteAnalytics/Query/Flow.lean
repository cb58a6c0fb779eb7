import SiteAnalytics.Query.Scope

/-!
# Flow queries

A flow query counts the steps from one page to the next within sessions, most frequent first. A
reload of the same page is no step. Filters are compiled without the columns of custom events, as
only pageviews take part.
-/

namespace SiteAnalytics

/-- The steps from page to page. -/
def Query.flow (pid : String) (w : Window) (filter : CompiledFilter) : Query :=
  { sql :=
      "SELECT source, target, count() AS value FROM (SELECT pg AS source, leadInFrame(pg) OVER " ++
        "(PARTITION BY psid ORDER BY created ROWS BETWEEN CURRENT ROW AND 1 FOLLOWING) AS target" ++
        " FROM analytics WHERE " ++ Scope.condition ++ filter.text ++
        ") WHERE target != '' AND source != target GROUP BY source, target ORDER BY value DESC"
    params := Scope.params pid w filter }

end SiteAnalytics
