import SiteAnalytics.Engine
import SiteAnalytics.Proofs.Filter.Group

/-!
# Calls of the query builders

A `QueryCall` is a builder with all its arguments, so that statements about every query can be made
at once. `QueryCall.own` lists what a call binds by itself, apart from its filters.
-/

namespace SiteAnalytics

/-- A query builder with its arguments. -/
inductive QueryCall
  | chart (pid : String) (kind : MetricKind) (w : Window) (f : CompiledFilter)
      (options : ChartOptions)
  | breakdown (pid column : String) (kind : MetricKind) (w : Window) (f : CompiledFilter)
      (pageInclusive : Bool)
  | funnel (pid : String) (steps : List String) (w : Window) (span : Nat)
  | flow (pid : String) (w : Window) (f : CompiledFilter)
  | eventMeta (pid event : String) (w : Window) (f : CompiledFilter)
  | summary (pid : String) (w : Window) (f : CompiledFilter)
      (previous : Option (DateTime × DateTime))
  | errors (pid : String) (w : Window) (f : CompiledFilter) (options : ErrorListOptions)
  | errorExists (pid eid : String)
  | insertStatus (pid eid : String) (status : ErrorStatus)
  | firstEvent (pid : String) (table : EventTable)

namespace QueryCall

/-- The query that is built. -/
def query : QueryCall → Query
  | chart pid kind w f options => .chart pid kind w f options
  | breakdown pid column kind w f pageInclusive => .breakdown pid column kind w f pageInclusive
  | funnel pid steps w span => .funnel pid steps w span
  | flow pid w f => .flow pid w f
  | eventMeta pid event w f => .eventMeta pid event w f
  | summary pid w f previous => .summary pid w f previous
  | errors pid w f options => .errors pid w f options
  | errorExists pid eid => .errorExists pid eid
  | insertStatus pid eid status => .insertStatus pid eid status
  | firstEvent pid table => .firstEvent pid table

/-- The filter of a call, if its query has one. -/
def filter? : QueryCall → Option CompiledFilter
  | chart _ _ _ f _ | breakdown _ _ _ _ f _ | flow _ _ f | eventMeta _ _ _ f | summary _ _ f _
  | errors _ _ f _ => some f
  | funnel .. | errorExists .. | insertStatus .. | firstEvent .. => none

/-- The filters of a call are those of a request. -/
def Compiles (call : QueryCall) : Prop := ∀ f ∈ call.filter?, f.Compiles

/-- A breakdown is by a column of its kind, which is left to its callers. -/
def ColumnAllowed : QueryCall → Prop
  | breakdown _ column kind _ _ _ => kind.allows column = true
  | _ => True

/-- A breakdown is by one of the columns that the engine breaks down by. -/
def FromEngine : QueryCall → Prop
  | breakdown _ column kind _ _ _ =>
    ∃ asked columns, Engine.breakdownColumns kind asked = .ok columns ∧ column ∈ columns
  | _ => True

/-- The columns that the engine breaks down by are all of the kind. -/
theorem allows_of_breakdownColumns {kind : MetricKind} {asked : Option (List String)}
    {columns : List String} (h : Engine.breakdownColumns kind asked = .ok columns) {column : String}
    (hcolumn : column ∈ columns) : kind.allows column = true := by
  cases asked with
  | none =>
    obtain rfl := Except.ok.inj h
    exact List.contains_iff_mem.mpr hcolumn
  | some asked =>
    rw [Engine.breakdownColumns] at h
    cases hfind : asked.find? fun column => !kind.allows column with
    | some other => simp [hfind] at h
    | none =>
      -- nothing was found that the kind does not have
      rw [hfind] at h
      obtain rfl := Except.ok.inj h
      simpa using List.find?_eq_none.mp hfind column hcolumn

/-- The columns of a kind are those that the engine breaks down by. -/
theorem columnAllowed_iff_fromEngine (call : QueryCall) : call.ColumnAllowed ↔ call.FromEngine := by
  cases call with
  | breakdown pid column kind w f pageInclusive =>
    show kind.allows column = true ↔ ∃ asked columns, _
    constructor
    · intro h
      exact ⟨none, kind.columns, rfl, List.contains_iff_mem.mp h⟩
    · rintro ⟨asked, columns, hcolumns, hcolumn⟩
      exact allows_of_breakdownColumns hcolumns hcolumn
  | _ => exact Iff.rfl

/-! ### What a call binds by itself -/

/-- Project and window. -/
def ownWindow (pid : String) (w : Window) : List (String × ParamValue) :=
  [("pid", .text pid), ("groupFrom", .text w.startText), ("groupTo", .text w.stopText)]

/-- Project, window and zone. -/
def ownScope (pid : String) (w : Window) : List (String × ParamValue) :=
  ("timezone", .text w.zone.name) :: ownWindow pid w

/-- The parameters of a call that are no part of its filters, with the values the caller gave. -/
def own : QueryCall → List (String × ParamValue)
  | chart pid _ w _ _ | breakdown pid _ _ w _ _ | flow pid w _ => ownScope pid w
  | funnel pid steps w _ => Query.stepParams 0 steps ++ ownWindow pid w
  | eventMeta pid event w _ => ("event", .text event) :: ownScope pid w
  | summary pid w _ none => ownScope pid w
  | summary pid w _ (some (start, stop)) =>
    ("groupToPrev", .text (stop.format Pattern.dateTime)) ::
      ("groupFromPrev", .text (start.format Pattern.dateTime)) :: ownScope pid w
  | errors pid w _ options =>
    ("skip", .int options.skip) :: ("take", .int options.take) :: ownScope pid w
  | errorExists pid eid => [("pid", .text pid), ("eid", .text eid)]
  | insertStatus pid eid status =>
    [("eid", .text eid), ("pid", .text pid), ("status", .text status.name)]
  | firstEvent pid _ => [("pid", .text pid)]

end QueryCall

end SiteAnalytics
