import SiteAnalytics.Chart
import SiteAnalytics.Proofs.Axis.Points
import SiteAnalytics.Proofs.Dict

/-!
# What a row of a chart says

`ChartRow.cells` lists, for every kind of chart, the series of which a row has values, with the
members these are taken from.  A row that can be read has a key and just these values
(`label?_of_scalar?`, `cells_of_scalar?`), and no two of them are of one series.
-/

namespace SiteAnalytics

/-- The number that is the member of an object with a name. -/
def Json.number? (j : Json) (name : String) : Option Float := (j.get? name).bind Json.float?

/-- That number, or zero if there is none, to two places: its hundredfold is rounded. -/
def Json.twoPlaces (j : Json) (name : String) : Float :=
  ((j.number? name).getD 0 * 100).round / 100

namespace ChartRow

/-- The label of the bucket of a row. -/
def label? (j : Json) : Option String := (BucketKey.ofJson? j).map BucketKey.label

/-- The values a row has for the series of a chart. Durations and timings are given to two places,
and as zero where they are missing. -/
def cells (kind : MetricKind) (j : Json) : List (String × Option Float) :=
  match kind with
  | .traffic =>
    [("visits", j.number? "pageviews"), ("uniques", j.number? "uniques"),
      ("sdur", some (j.twoPlaces "sdur"))]
  | .sessions => [("sessions", j.number? "sessions"), ("sdur", some (j.twoPlaces "sdur"))]
  | .customEvents =>
    match (j.get? "ev").bind Json.string? with
    | some event => [(event, j.number? "count")]
    | none => []
  | .errors => [("occurrences", j.number? "count")]
  | .performance => Query.Chart.timings.map fun name => (name, some (j.twoPlaces name))

/-- The value a row has for one series. -/
def cell? (kind : MetricKind) (j : Json) (name : String) : Option Float :=
  ((cells kind j).lookup name).join

/-- The series of the rows of a kind, if they do not name it themselves. -/
theorem keys_cells {kind : MetricKind} (h : kind ≠ .customEvents) (j : Json) :
    (cells kind j).map Prod.fst = kind.seriesNames := by
  cases kind with
  | customEvents => contradiction
  | traffic | sessions | errors | performance => rfl

/-- No row has two values for one series. -/
theorem nodup_keys_cells (kind : MetricKind) (j : Json) : ((cells kind j).map Prod.fst).Nodup := by
  cases kind with
  | customEvents =>
    rw [cells]
    split
    · exact List.nodup_singleton _
    · exact List.nodup_nil
  | traffic | sessions | errors | performance =>
    rw [keys_cells (by decide)]
    decide

/-! ### Reading -/

section Reading

variable {α : Type}

/-- A member of an object as a field of a record. -/
def memberOf (j : Json) (name : String) : Json.Found := (j.get? name).elim .missing .value

/-- A field that must be there is read from its member. -/
theorem required_memberOf (f : Json → Option α) (j : Json) (name : String) :
    (memberOf j name).required f = (j.get? name).bind f := by
  rw [memberOf]
  cases j.get? name <;> rfl

theorem required_float_memberOf (j : Json) (name : String) :
    (memberOf j name).required Json.float? = j.number? name :=
  required_memberOf Json.float? j name

/-- A number that may be missing is rounded, and a missing one is zero. -/
theorem rounded_of_optional {j : Json} {name : String} {x : Option Float}
    (h : (memberOf j name).optional Json.float? = some x) : rounded x = j.twoPlaces name := by
  suffices hx : x = j.number? name by rw [rounded, hx, Share.twoPlaces, Json.twoPlaces]
  rw [memberOf] at h
  rw [Json.number?]
  -- missing or null is zero, and a number is itself
  cases hj : j.get? name with
  | none =>
    rw [hj] at h
    exact (Option.some.inj h).symm
  | some v =>
    rw [hj] at h
    cases v with
    | null => exact (Option.some.inj h).symm
    | number n => cases n <;> exact (Option.some.inj h).symm
    | bool | string | array | object => contradiction

/-- A row is read as its key and its values. -/
theorem of_ofJsonWith? {values : (String → Json.Found) → Option (List (String × α))} {j : Json}
    {row : ChartRow α} (h : ofJsonWith? values j = some row) :
    BucketKey.ofJson? j = some row.key ∧ values (memberOf j) = some row.values := by
  cases j with
  | object members =>
    simp only [ofJsonWith?, Option.bind_eq_bind, Option.bind_eq_some_iff, Option.pure_def] at h
    obtain ⟨field, hfield, key, hkey, vs, hvs, hrow⟩ := h
    obtain rfl := Option.some.inj hfield
    obtain rfl := Option.some.inj hrow
    exact ⟨hkey, hvs⟩
  | null | number | bool | string | array => contradiction

end Reading

theorem label?_of_scalar? {kind : MetricKind} {j : Json} {row : ChartRow Float}
    (h : scalar? kind j = some row) : label? j = some row.key.label := by
  have hkey : BucketKey.ofJson? j = some row.key := by
    cases kind with
    | traffic | sessions | customEvents | errors | performance => exact (of_ofJsonWith? h).1
  rw [label?, hkey, Option.map_some]

/-- A row that can be read has all the values it should have. -/
theorem cells_of_scalar? {kind : MetricKind} {j : Json} {row : ChartRow Float}
    (h : scalar? kind j = some row) : cells kind j = row.values.map fun e => (e.1, some e.2) := by
  -- each kind has fields of its own, and what was read of them are the values
  cases kind with
  | traffic =>
    obtain ⟨-, hvalues⟩ := of_ofJsonWith? h
    simp only [required_float_memberOf, Option.bind_eq_bind, Option.bind_eq_some_iff] at hvalues
    obtain ⟨views, hviews, visitors, hvisitors, duration, hduration, hrow⟩ := hvalues
    rw [cells, hviews, hvisitors, ← rounded_of_optional hduration, ← Option.some.inj hrow]
    rfl
  | sessions =>
    obtain ⟨-, hvalues⟩ := of_ofJsonWith? h
    simp only [required_float_memberOf, Option.bind_eq_bind, Option.bind_eq_some_iff] at hvalues
    obtain ⟨sessions, hsessions, duration, hduration, hrow⟩ := hvalues
    rw [cells, hsessions, ← rounded_of_optional hduration, ← Option.some.inj hrow]
    rfl
  | customEvents =>
    obtain ⟨-, hvalues⟩ := of_ofJsonWith? h
    rw [required_memberOf, required_float_memberOf] at hvalues
    obtain ⟨event, hevent, hvalues⟩ := Option.bind_eq_some_iff.mp hvalues
    obtain ⟨count, hcount, hrow⟩ := Option.bind_eq_some_iff.mp hvalues
    rw [cells, hevent, hcount, ← Option.some.inj hrow]
    rfl
  | errors =>
    obtain ⟨-, hvalues⟩ := of_ofJsonWith? h
    simp only [required_float_memberOf, Option.bind_eq_bind, Option.bind_eq_some_iff] at hvalues
    obtain ⟨count, hcount, hrow⟩ := hvalues
    rw [cells, hcount, ← Option.some.inj hrow]
    rfl
  | performance =>
    obtain ⟨-, hvalues⟩ := of_ofJsonWith? h
    rw [Axis.mapM_eq_some_iff] at hvalues
    have hrow : Query.Chart.timings.map (fun name => (name, j.twoPlaces name)) = row.values := by
      apply List.map_injective_iff.mpr fun _ _ => Option.some.inj
      rw [← hvalues, List.map_map]
      refine List.map_congr_left fun name hname => ?_
      obtain ⟨e, -, he⟩ := List.mem_map.mp (hvalues ▸ List.mem_map_of_mem hname)
      rw [← he]
      obtain ⟨x, hx, hex⟩ := Option.bind_eq_some_iff.mp he.symm
      rw [← Option.some.inj hex, rounded_of_optional hx]
      rfl
    rw [← hrow, List.map_map]
    rfl

/-- The value of a row for a series is the one that was read. -/
theorem cell?_of_scalar? {kind : MetricKind} {j : Json} {row : ChartRow Float}
    (h : scalar? kind j = some row) (name : String) :
    cell? kind j name = row.values.lookup name := by
  rw [cell?, cells_of_scalar? h]
  induction row.values with
  | nil => rfl
  | cons e rest ih =>
    obtain ⟨n, value⟩ := e
    rw [List.map_cons, Dict.lookup_cons, Dict.lookup_cons]
    split_ifs
    · rfl
    · exact ih

theorem isSome_cell?_iff {kind : MetricKind} {j : Json} {row : ChartRow Float}
    (h : scalar? kind j = some row) {name : String} :
    (cell? kind j name).isSome = true ↔ name ∈ (cells kind j).map Prod.fst := by
  rw [cell?_of_scalar? h, cells_of_scalar? h, List.map_map, Option.isSome_iff_ne_none, ne_eq,
    Dict.lookup_eq_none_iff, not_not]
  rfl

theorem nodup_keys_of_scalar? {kind : MetricKind} {j : Json} {row : ChartRow Float}
    (h : scalar? kind j = some row) : (row.values.map Prod.fst).Nodup := by
  have hkeys := nodup_keys_cells kind j
  rw [cells_of_scalar? h, List.map_map] at hkeys
  exact hkeys

end ChartRow

end SiteAnalytics
