import SiteAnalytics.Filter.Clause
import SiteAnalytics.Filter.Column
import SiteAnalytics.Filter.Condition
import SiteAnalytics.Metric

/-!
# Compiled filters

The filters of a request are compiled once and used by every query made for it. Clauses are grouped
by column in the order in which columns first appear. Group `g` binds the value of its `i`-th clause
to `qf_g_i` and the key of a lookup to `qf_g_k`, so that no value becomes part of a query's text.

Plain columns must be among those of the metric kind; the others are accepted for every kind. A
clause that asks an array for null has no condition, though it keeps its place in the numbering.
-/

namespace SiteAnalytics

/-- The filters of a request, compiled. -/
structure CompiledFilter where
  predicate : Predicate
  params : Params
  /-- The clauses that were compiled. -/
  clauses : List Clause
  /-- Some clause looks at custom events instead of pageviews. -/
  customEvents : Bool
  /-- Some clause asks for a page, so that every view counts and not only first ones. -/
  pageInclusive : Bool

namespace CompiledFilter

/-- No filters. -/
def none : CompiledFilter := ⟨[], ∅, [], false, false⟩

/-- The text of the conditions, ready to be appended to others. -/
def text (f : CompiledFilter) : Sql := f.predicate.text

/-- There are no conditions. -/
def isEmpty (f : CompiledFilter) : Bool := f.predicate.isEmpty

/-- The filter as JSON. -/
def toJson (f : CompiledFilter) : Json :=
  .ofMembers
    [("predicate", .string f.text.render), ("params", Params.toJson f.params),
      ("normalizedClauses", .list Clause.toJson f.clauses),
      ("customEventFilterApplied", .bool f.customEvents),
      ("pageInclusive", .bool f.pageInclusive)]

end CompiledFilter

namespace Filter

/-! ### Selecting clauses -/

/-- The clauses to compile: all of them, or all but those on columns of custom events. A plain
column that the kind does not have is refused, the first one in the list. -/
def select (kind : MetricKind) (ignoreEvents : Bool) :
    List Clause → Except ValidationError (List Clause)
  | [] => .ok []
  | clause :: rest =>
    match ColumnClass.ofColumn clause.column with
    | .plain column =>
      if kind.allows column then (select kind ignoreEvents rest).map (clause :: ·)
      else .error (.unsupportedFilter column)
    | other =>
      if ignoreEvents && other.isEventColumn then select kind ignoreEvents rest
      else (select kind ignoreEvents rest).map (clause :: ·)

/-! ### Grouping -/

/-- Adds a clause to the group of its column, or as a new group at the end. -/
def addToGroups (clause : Clause) : List (String × List Clause) → List (String × List Clause)
  | [] => [(clause.column, [clause])]
  | (column, members) :: rest =>
    if column = clause.column then (column, members ++ [clause]) :: rest
    else (column, members) :: addToGroups clause rest

/-- The clauses by column, in the order in which the columns first appear. -/
def groupByColumn (clauses : List Clause) : List (String × List Clause) :=
  clauses.foldl (fun groups clause => addToGroups clause groups) []

/-! ### Conditions -/

/-- The parameter for the value of a clause. -/
def valueParam (group index : Nat) : String :=
  "qf_" ++ toString group ++ "_" ++ toString index

/-- The parameter for the key of a lookup. -/
def keyParam (group : Nat) : String := "qf_" ++ toString group ++ "_k"

/-- The column of a test on a plain column or an event name. -/
def testedColumn : ColumnClass → String
  | .plain column => column
  | _ => "ev"

/-- The condition of a clause, with the parameters for its value and for its key. -/
def condition? (cls : ColumnClass) (clause : Clause) (param keyParam : String) :
    Option Condition :=
  match clause.value with
  | none =>
    if cls.isArrayBacked then none else some ⟨.null (testedColumn cls), clause.exclusive⟩
  | some _ =>
    match cls with
    | .plain _ | .eventName => some ⟨.equal (testedColumn cls) param, clause.exclusive⟩
    | .metaKey _ => some ⟨.hasKey param, clause.exclusive⟩
    | .metaValue _ => some ⟨.hasValue param, clause.exclusive⟩
    | .metaLookup _ _ => some ⟨.lookup keyParam param, clause.exclusive⟩

/-- The conditions of the clauses of group `group`, of which the first has the number `index`. -/
def groupConditions (cls : ColumnClass) (group : Nat) :
    Nat → List Clause → List Condition
  | _, [] => []
  | index, clause :: rest =>
    (condition? cls clause (valueParam group index) (keyParam group)).toList ++
      groupConditions cls group (index + 1) rest

/-- The parameters of the clauses of group `group`, of which the first has the number `index`. -/
def groupValues (group : Nat) : Nat → List Clause → List (String × ParamValue)
  | _, [] => []
  | index, clause :: rest =>
    (clause.value.map fun v => (valueParam group index, .text v)).toList ++
      groupValues group (index + 1) rest

/-- The parameters of a group: the key of a lookup and the values of the clauses. -/
def groupParams (group : Nat) (column : String) (members : List Clause) :
    List (String × ParamValue) :=
  (match ColumnClass.ofColumn column with
    | .metaLookup _ key => [(keyParam group, .text key)]
    | _ => []) ++ groupValues group 0 members

/-- The groups of conditions, of which the first has the number `group`. Groups without conditions
are left out, though they keep their number. -/
def predicateFrom : Nat → List (String × List Clause) → Predicate
  | _, [] => []
  | group, (column, members) :: rest =>
    let conditions := groupConditions (ColumnClass.ofColumn column) group 0 members
    if conditions.isEmpty then predicateFrom (group + 1) rest
    else conditions :: predicateFrom (group + 1) rest

/-- The parameters of the groups, of which the first has the number `group`. -/
def paramsFrom : Nat → List (String × List Clause) → List (String × ParamValue)
  | _, [] => []
  | group, (column, members) :: rest =>
    groupParams group column members ++ paramsFrom (group + 1) rest

/-! ### Compilation -/

/-- A clause asks for a page. -/
def asksForPage (c : Clause) : Bool := c.column == "pg" && !c.exclusive

/-- Compiles clauses that were selected. -/
def compileClauses (kind : MetricKind) (clauses : List Clause) : CompiledFilter :=
  let groups := groupByColumn clauses
  { predicate := predicateFrom 0 groups
    params := Dict.ofList (paramsFrom 0 groups)
    clauses
    customEvents := groups.any fun g => (ColumnClass.ofColumn g.1).targetsCustomEvents
    pageInclusive := kind != .performance && clauses.any asksForPage }

/-- Compiles the filters of a request. With `ignoreEvents`, clauses on columns of custom events are
left out, for queries that look at pageviews only. -/
def compile (raw : Option String) (kind : MetricKind) (ignoreEvents : Bool) :
    Except ValidationError CompiledFilter := do
  let clauses ← Clause.parseList raw
  return compileClauses kind (← select kind ignoreEvents clauses)

end Filter

end SiteAnalytics
