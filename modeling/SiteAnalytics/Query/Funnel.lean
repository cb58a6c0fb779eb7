import SiteAnalytics.Query.Scope

/-!
# Funnel queries

A funnel query asks how far each session got: it counts sessions by the level they reached, which
is the number of steps they matched in order within a time span. A step matches the page of a
pageview or the name of a custom event. Step `i` is bound to `step_i`; the span is a number from
the configuration and part of the text, since the column store takes it as a literal only.
-/

namespace SiteAnalytics.Query

/-- The parameter of a step. -/
def stepParam (index : Nat) : String := "step_" ++ toString index

/-- The conditions of `count` steps. -/
def stepConditions (count : Nat) : Sql :=
  Sql.join ", " ((List.range count).map fun i => "value = " ++ Sql.bind (stepParam i))

/-- The parameters of the steps, of which the first has the number `index`. -/
def stepParams : Nat → List String → List (String × ParamValue)
  | _, [] => []
  | index, step :: rest => (stepParam index, .text step) :: stepParams (index + 1) rest

/-- The sessions by the level they reached. -/
def funnel (pid : String) (steps : List String) (w : Window) (span : Nat) : Query :=
  { sql :=
      "SELECT level, count() AS c FROM (SELECT psid, windowFunnel(" ++ toString span ++
        ")(created, " ++ stepConditions steps.length ++
        ") AS level FROM (SELECT psid, pg AS value, created FROM analytics WHERE " ++
        Scope.condition ++
        " UNION ALL SELECT psid, ev AS value, created FROM customEV WHERE " ++ Scope.condition ++
        ") GROUP BY psid) WHERE level > 0 GROUP BY level ORDER BY level"
    params := (Scope.windowParams pid w).union (Dict.ofList (stepParams 0 steps)) }

end SiteAnalytics.Query
