import SiteAnalytics.Proofs.Axis.Series
import SiteAnalytics.Proofs.Chart.Row

/-!
# Rows scattered over an axis

Rows are scattered by the calls that put their values (`scatter_eq_afterAll`).  So the history of a
series is the list of the values the rows have for it, each at the point with the label of its row
(`putsInto_of_mapM`), and the last value put at a point is that of the last row of its label
(`lastAt?_putsInto`).  What a chart shows depends on these histories alone (`get?_scalarSeries`).
-/

namespace SiteAnalytics

variable {axis : Axis} {kind : MetricKind} {js : List Json} {rows : List (ChartRow Float)}

/-! ### Rows as calls -/

namespace ChartRow

variable {α : Type}

/-- The calls by which the values of a row are put into their series. -/
def puts (row : ChartRow α) : List (SeriesCall α) :=
  row.values.map fun e => .put row.key e.1 e.2

end ChartRow

namespace SeriesSet

variable {α : Type}

/-- Scattering rows is making their calls in order. -/
theorem scatter_eq_afterAll (s : SeriesSet α) (rows : List (ChartRow α)) :
    s.scatter rows = s.afterAll (rows.flatMap ChartRow.puts) := by
  rw [afterAll, List.foldl_flatMap, scatter]
  simp only [ChartRow.puts, List.foldl_map]
  rfl

/-- Every row puts its value for a series at the point with its label. -/
theorem putsInto_flatMap_puts {rows : List (ChartRow α)}
    (hnodup : ∀ row ∈ rows, (row.values.map Prod.fst).Nodup) (name : String) :
    putsInto axis name (rows.flatMap ChartRow.puts) = rows.filterMap fun row =>
      (row.values.lookup name).bind fun value =>
        (axis.position? row.key.label).map fun i => (i, value) := by
  rw [putsInto, List.filterMap_flatMap, List.filterMap_eq_flatMap_toList]
  refine List.flatMap_congr fun row hrow => ?_
  rw [ChartRow.puts, List.filterMap_map]
  exact Dict.filterMap_eq_toList_lookup (hnodup row hrow) name fun value =>
    (axis.position? row.key.label).map fun i => (i, value)

/-- The last value at a place is that of the last element that has the place. -/
theorem lastAt?_filterMap {β : Type} (f : β → Option α) (place : β → Option Nat) (l : List β)
    (i : Nat) : lastAt? (l.filterMap fun x => (f x).bind fun v => (place x).map fun j => (j, v)) i =
      (l.filterMap fun x => if place x = some i then f x else none).getLast? := by
  rw [lastAt?, ← List.getLast?_map, ← List.filterMap_eq_filter, List.filterMap_filterMap,
    List.map_filterMap]
  congr 1
  refine List.filterMap_congr fun x _ => ?_
  -- an element without a value or a place puts nothing
  cases f x with
  | none => simp
  | some v =>
    cases place x with
    | none => simp
    | some j => by_cases hj : j = i <;> simp [hj]

end SeriesSet

open SeriesSet

/-! ### The last row of a label -/

namespace ChartRow

/-- The bucket of the row is on the axis. -/
def onAxis (axis : Axis) (j : Json) : Bool := (label? j).any fun label => axis.labels.contains label

theorem onAxis_iff {j : Json} :
    onAxis axis j = true ↔ ((label? j).bind axis.position?).isSome = true := by
  rw [onAxis]
  cases label? j with
  | none => simp
  | some label => simp [Axis.isSome_position?_iff]

/-- If all rows can be read, none is left out. -/
theorem eq_filterMap_of_mapM (hjs : js.mapM (scalar? kind) = some rows) :
    rows = js.filterMap (scalar? kind) := by
  rw [← Function.id_comp (scalar? kind), ← List.filterMap_map, Axis.mapM_eq_some_iff.mp hjs,
    List.filterMap_map, Function.id_comp, List.filterMap_some]

theorem exists_of_mapM (hjs : js.mapM (scalar? kind) = some rows) {j : Json} (hj : j ∈ js) :
    ∃ row, scalar? kind j = some row := by
  obtain ⟨row, -, hrow⟩ := List.mem_map.mp (Axis.mapM_eq_some_iff.mp hjs ▸ List.mem_map_of_mem hj)
  exact ⟨row, hrow.symm⟩

end ChartRow

namespace Chart

open ChartRow

/-- The value of a series in the last of the rows whose key has the label. -/
def lastValue? (kind : MetricKind) (js : List Json) (name label : String) : Option Float :=
  (js.filterMap fun j => if label? j = some label then cell? kind j name else none).getLast?

/-- The value of a series in the last of the rows that belong to the point `i`. -/
def valueAt? (axis : Axis) (kind : MetricKind) (js : List Json) (name : String) (i : Nat) :
    Option Float :=
  axis.labels[i]?.bind (lastValue? kind js name)

/-- The rows put their values for a series, one after the other, at the points with their labels. -/
theorem putsInto_of_mapM (axis : Axis) (hjs : js.mapM (scalar? kind) = some rows) (name : String) :
    putsInto axis name (rows.flatMap puts) = js.filterMap fun j =>
      (cell? kind j name).bind fun value =>
        ((label? j).bind axis.position?).map fun i => (i, value) := by
  have hnodup : ∀ row ∈ rows, (row.values.map Prod.fst).Nodup := by
    intro row hrow
    rw [eq_filterMap_of_mapM hjs] at hrow
    obtain ⟨j, -, hj⟩ := List.mem_filterMap.mp hrow
    exact nodup_keys_of_scalar? hj
  rw [putsInto_flatMap_puts hnodup, eq_filterMap_of_mapM hjs, List.filterMap_filterMap]
  refine List.filterMap_congr fun j hj => ?_
  obtain ⟨row, hrow⟩ := exists_of_mapM hjs hj
  rw [hrow, cell?_of_scalar? hrow, label?_of_scalar? hrow]
  rfl

/-- The last value that was put at a point is that of the last row with its label. -/
theorem lastAt?_putsInto (hlabels : axis.labels.Nodup) (hjs : js.mapM (scalar? kind) = some rows)
    (name : String) : lastAt? (putsInto axis name (rows.flatMap puts)) =
      valueAt? axis kind js name := by
  funext i
  rw [putsInto_of_mapM axis hjs, lastAt?_filterMap, valueAt?]
  have hplace (j : Json) : (label? j).bind axis.position? = some i ↔
      ∃ label, axis.labels[i]? = some label ∧ label? j = some label := by
    simp only [Option.bind_eq_some_iff, Axis.position?_eq_some_iff hlabels, and_comm]
  -- past the axis there is no label, and no row puts anything there
  cases hi : axis.labels[i]? with
  | none =>
    rw [Option.bind_none, List.getLast?_eq_none_iff, List.filterMap_eq_nil_iff]
    exact fun j _ => if_neg (by simp [hplace, hi])
  | some label =>
    rw [Option.bind_some, lastValue?]
    congr 1
    refine List.filterMap_congr fun j _ => ?_
    simp only [hplace, hi, Option.some.injEq, exists_eq_left']

theorem putsInto_ne_nil_iff (hjs : js.mapM (scalar? kind) = some rows) (name : String) :
    putsInto axis name (rows.flatMap puts) ≠ [] ↔
      ∃ j ∈ js, onAxis axis j = true ∧ (cell? kind j name).isSome = true := by
  rw [putsInto_of_mapM axis hjs, ne_eq, List.filterMap_eq_nil_iff, not_forall]
  refine exists_congr fun j => ?_
  rw [onAxis_iff]
  cases cell? kind j name <;> cases (label? j).bind axis.position? <;> simp

/-! ### Series of a chart -/

/-- A series shows its history: the last values, or in a cumulative chart the nearest ones before.
-/
theorem get?_scalarSeries (axis : Axis) (kind : MetricKind) (mode : RenderMode)
    (rows : List (ChartRow Float)) (name : String) :
    let history := putsInto axis name (rows.flatMap puts)
    (scalarSeries axis kind mode rows).get? name =
      if name ∈ kind.seriesNames ∨ history ≠ [] then
        some (dense 0 axis.size
          (if kind.chartMode mode = .cumulative ∧ kind.totals.all (fun l => l.contains name) then
            nearest? (lastAt? history)
          else lastAt? history))
      else none := by
  intro history
  have hrun := records_afterAll axis (0 : Float) kind.seriesNames (rows.flatMap puts)
  have hputs : ∀ call ∈ rows.flatMap puts, call.fills name = false := by
    intro call hcall
    obtain ⟨row, -, hrow⟩ := List.mem_flatMap.mp hcall
    obtain ⟨e, -, rfl⟩ := List.mem_map.mp hrow
    rfl
  rw [scalarSeries, scatter_eq_afterAll]
  -- a series is shown if its kind has it or if a row has put into it
  by_cases hname : name ∈ kind.seriesNames ∨ history ≠ []
  · rw [if_pos hname]
    cases kind.chartMode mode with
    | periodical =>
      rw [if_neg (by simp)]
      exact get?_values_of_unfilled hputs hname
    | cumulative =>
      -- not every series of a cumulative chart is a total
      by_cases hcovered : kind.totals.all (fun l => l.contains name) = true
      · rw [if_pos ⟨rfl, hcovered⟩]
        exact hrun.get?_values_carryForward ((hrun.contains_iff name).mpr hname) hcovered
      · rw [if_neg fun h => hcovered h.2]
        exact (get?_values_carryForward_of_not_covered _ hcovered).trans
          (get?_values_of_unfilled hputs hname)
  · rw [if_neg hname]
    have hnot := mt (hrun.contains_iff name).mp hname
    cases kind.chartMode mode with
    | periodical => exact (get?_values _ name).trans (if_neg hnot)
    | cumulative =>
      rw [← contains_carryForward _ kind.totals] at hnot
      exact (get?_values _ name).trans (if_neg hnot)

end Chart

end SiteAnalytics
