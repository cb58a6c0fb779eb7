import SiteAnalytics.Query.Sql

/-!
# Conditions

What filters become in a query: a conjunction of groups, one per column, each a disjunction of
conditions. A condition tests one row against the parameters it names, and may be negated. The
predicate is written so that it can be appended to the conditions of a query.
-/

namespace SiteAnalytics

/-- A test of a row. -/
inductive RowTest
  /-- The column is null. -/
  | null (column : String)
  /-- The column equals a parameter. -/
  | equal (column param : String)
  /-- Some key equals a parameter. -/
  | hasKey (param : String)
  /-- Some value equals a parameter. -/
  | hasValue (param : String)
  /-- The value under the first key that equals `keyParam` equals `param`. -/
  | lookup (keyParam param : String)
  deriving DecidableEq, Repr

/-- A test, or its negation. -/
structure Condition where
  test : RowTest
  negated : Bool
  deriving DecidableEq, Repr

/-- Conditions in groups: all groups must hold, and of a group one condition. No group is empty. -/
abbrev Predicate := List (List Condition)

/-- The text of a test that is not negated by an operator of its own. -/
def RowTest.arrayText : RowTest → Sql
  | null column => column ++ " IS NULL"
  | equal column param => column ++ " = " ++ Sql.bind param
  | hasKey param => "has(meta.key, " ++ Sql.bind param ++ ")"
  | hasValue param => "has(meta.value, " ++ Sql.bind param ++ ")"
  | lookup keyParam param =>
    "indexOf(meta.key, " ++ Sql.bind keyParam ++ ") > 0 AND meta.value[indexOf(meta.key, " ++
      Sql.bind keyParam ++ ")] = " ++ Sql.bind param

/-- The text of a condition. -/
def Condition.text (c : Condition) : Sql :=
  match c.test, c.negated with
  | .null column, true => column ++ " IS NOT NULL"
  | .null column, false => column ++ " IS NULL"
  | .equal column param, true => column ++ " != " ++ Sql.bind param
  | .equal column param, false => column ++ " = " ++ Sql.bind param
  | test, true => "NOT (" ++ test.arrayText ++ ")"
  | test, false => test.arrayText

/-- The text of a predicate, ready to be appended to other conditions. -/
def Predicate.text (p : Predicate) : Sql :=
  p.foldl (fun acc group => acc ++ " AND (" ++ Sql.join " OR " (group.map Condition.text) ++ ")")
    Sql.nothing

end SiteAnalytics
