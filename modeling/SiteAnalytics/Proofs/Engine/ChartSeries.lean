import SiteAnalytics.Proofs.Chart.Scatter
import SiteAnalytics.Proofs.Engine.Chart
import SiteAnalytics.Proofs.Store.Answer

/-!
# The series of a chart

What the series of a chart are, told from the rows of the answer alone.  `chartSeries_of_rows` says
which series there are, and what they show at every point of the axis.  Rows off the axis make no
difference, and neither does the order of rows that are apart: at every label at most one of them
has a value for a series.
-/

namespace SiteAnalytics

open ChartRow SeriesSet

variable {axis : Axis} {kind : MetricKind} {mode : RenderMode} {name : String}

/-- In cumulative mode the series holds running totals. -/
def MetricKind.accumulates : MetricKind → String → Bool
  | traffic, name | sessions, name => name != "sdur"
  | customEvents, _ | errors, _ => true
  | performance, _ => false

namespace Chart

/-- The chart has a series: one that charts of the kind always have, or one of events of which a
row is on the axis. -/
def HasSeries (axis : Axis) (kind : MetricKind) (js : List Json) (name : String) : Prop :=
  name ∈ kind.seriesNames ∨
    kind = .customEvents ∧
      ∃ j ∈ js, onAxis axis j = true ∧ (j.get? "ev").bind Json.string? = some name

/-- What a series shows at a point, if anything. -/
def shown? (axis : Axis) (kind : MetricKind) (mode : RenderMode) (js : List Json) (name : String) :
    Nat → Option Float :=
  if mode = .cumulative ∧ kind.accumulates name = true then nearest? (valueAt? axis kind js name)
  else valueAt? axis kind js name

/-- Two rows are of different buckets, or have no values for the same series. -/
def Apart (kind : MetricKind) (j j' : Json) : Prop :=
  label? j = label? j' → ∀ name, cell? kind j name = none ∨ cell? kind j' name = none

theorem Apart.symm {j j' : Json} (h : Apart kind j j') : Apart kind j' j :=
  fun hlabel name => (h hlabel.symm name).symm

section Rows

variable {js js' : List Json} {rows rows' : List (ChartRow Float)}

/-! ### Which series there are -/

theorem hasSeries_iff (hjs : js.mapM (scalar? kind) = some rows) :
    HasSeries axis kind js name ↔
      name ∈ kind.seriesNames ∨ putsInto axis name (rows.flatMap puts) ≠ [] := by
  rw [putsInto_ne_nil_iff hjs, HasSeries]
  by_cases hkind : kind = .customEvents
  · subst hkind
    rw [and_iff_right rfl]
    refine or_congr_right (exists_congr fun j => and_congr_right fun hj => ?_)
    refine and_congr_right fun _ => ?_
    obtain ⟨row, hrow⟩ := exists_of_mapM hjs hj
    rw [isSome_cell?_iff hrow, cells]
    cases (j.get? "ev").bind Json.string? with
    | none => simp
    | some event => rw [List.map_singleton, List.mem_singleton, Option.some.injEq, eq_comm]
  · -- the rows have no series but those that are always there
    constructor
    · rintro (hname | ⟨hevents, -⟩)
      · exact .inl hname
      · contradiction
    · rintro (hname | ⟨j, hj, -, hcell⟩)
      · exact .inl hname
      · obtain ⟨row, hrow⟩ := exists_of_mapM hjs hj
        rw [isSome_cell?_iff hrow, keys_cells hkind] at hcell
        exact .inl hcell

theorem totals_iff (h : HasSeries axis kind js name) :
    (kind.chartMode mode = .cumulative ∧ kind.totals.all (fun l => l.contains name) = true) ↔
      mode = .cumulative ∧ kind.accumulates name = true := by
  cases kind with
  | traffic | sessions =>
    have hname := h.resolve_right fun hevents => by simp at hevents
    refine and_congr_right fun _ => ?_
    clear h
    revert name
    decide
  | customEvents | errors => rfl
  | performance => simp [MetricKind.chartMode, MetricKind.accumulates]

theorem contains_scalarSeries_iff (hjs : js.mapM (scalar? kind) = some rows) :
    (scalarSeries axis kind mode rows).contains name = true ↔ HasSeries axis kind js name := by
  rw [hasSeries_iff hjs, Dict.contains, get?_scalarSeries]
  split_ifs with h <;> simp [h]

theorem eq_dense_of_get?_scalarSeries (hlabels : axis.labels.Nodup)
    (hjs : js.mapM (scalar? kind) = some rows) {values : List Float}
    (h : (scalarSeries axis kind mode rows).get? name = some values) :
    values = dense 0 axis.size (shown? axis kind mode js name) := by
  rw [get?_scalarSeries] at h
  split_ifs at h with hname hmode
  · rw [totals_iff ((hasSeries_iff hjs).mpr hname)] at hmode
    rw [← Option.some.inj h, shown?, if_pos hmode, lastAt?_putsInto hlabels hjs]
  · rw [totals_iff ((hasSeries_iff hjs).mpr hname)] at hmode
    rw [← Option.some.inj h, shown?, if_neg hmode, lastAt?_putsInto hlabels hjs]

/-! ### Rows that make no difference -/

theorem scalarSeries_congr
    (h : ∀ name, let history := putsInto axis name (rows.flatMap puts)
      let history' := putsInto axis name (rows'.flatMap puts)
      (history' = [] ↔ history = []) ∧ lastAt? history' = lastAt? history) :
    scalarSeries axis kind mode rows' = scalarSeries axis kind mode rows := by
  refine Dict.ext_get? fun name => ?_
  obtain ⟨hnil, hlast⟩ := h name
  simp only [get?_scalarSeries, ne_eq, hnil, hlast]

/-- Rows off the axis make no difference. -/
theorem scalarSeries_filter_onAxis (hjs : js.mapM (scalar? kind) = some rows)
    (hjs' : (js.filter (onAxis axis)).mapM (scalar? kind) = some rows') :
    scalarSeries axis kind mode rows' = scalarSeries axis kind mode rows := by
  refine scalarSeries_congr fun name => ?_
  have hsame : putsInto axis name (rows'.flatMap puts) =
      putsInto axis name (rows.flatMap puts) := by
    rw [putsInto_of_mapM axis hjs, putsInto_of_mapM axis hjs', List.filterMap_filter]
    refine List.filterMap_congr fun j _ => ?_
    split_ifs with hon
    · rfl
    · rw [onAxis_iff, Option.not_isSome_iff_eq_none] at hon
      cases cell? kind j name with
      | none => rfl
      | some value => rw [Option.bind_some, hon, Option.map_none]
  rw [hsame]
  exact ⟨Iff.rfl, rfl⟩

theorem lastValue?_perm (hperm : js'.Perm js) (hapart : js.Pairwise (Apart kind))
    (name label : String) : lastValue? kind js' name label = lastValue? kind js name label := by
  let value? (j : Json) : Option Float := if label? j = some label then cell? kind j name else none
  -- of two rows that are apart at most one has a value here
  have hone {js : List Json} (h : js.Pairwise (Apart kind)) :
      (js.filterMap value?).Pairwise fun _ _ => False := by
    refine List.pairwise_filterMap.mpr (h.imp fun {j j'} hj v hv v' hv' => ?_)
    obtain ⟨hlabel, hcell⟩ := Option.ite_none_right_eq_some.mp hv
    obtain ⟨hlabel', hcell'⟩ := Option.ite_none_right_eq_some.mp hv'
    rcases hj (hlabel.trans hlabel'.symm) name with hnone | hnone
    · rw [hnone] at hcell
      contradiction
    · rw [hnone] at hcell'
      contradiction
  have hapart' : js'.Pairwise (Apart kind) := (hperm.pairwise_iff Apart.symm).mpr hapart
  have hsame : js'.filterMap value? = js.filterMap value? :=
    (hperm.filterMap value?).eq_of_pairwise (fun _ _ _ _ hab => hab.elim) (hone hapart')
      (hone hapart)
  rw [lastValue?, lastValue?, hsame]

/-- The order of rows that are apart makes no difference. -/
theorem scalarSeries_perm (hlabels : axis.labels.Nodup) (hjs : js.mapM (scalar? kind) = some rows)
    (hjs' : js'.mapM (scalar? kind) = some rows') (hperm : js'.Perm js)
    (hapart : js.Pairwise (Apart kind)) :
    scalarSeries axis kind mode rows' = scalarSeries axis kind mode rows := by
  refine scalarSeries_congr fun name => ⟨?_, ?_⟩
  · rw [putsInto_of_mapM axis hjs, putsInto_of_mapM axis hjs', ← List.length_eq_zero_iff,
      (hperm.filterMap _).length_eq, List.length_eq_zero_iff]
  · rw [lastAt?_putsInto hlabels hjs, lastAt?_putsInto hlabels hjs']
    funext i
    simp only [valueAt?, lastValue?_perm hperm hapart]

end Rows

end Chart

/-! ### The answer of the store -/

namespace Engine

open Chart StoreTask

variable {options : ChartOptions} {q : Query}

theorem runOn_chartSeries_of_rows
    (hscalar : ¬(kind = .performance ∧ options.measure = .quantiles)) {js : List Json}
    {rows : List (ChartRow Float)} (hjs : js.mapM (scalar? kind) = some rows) {s : ColumnStore}
    {log : List StoreRequest} (hanswer : s.query log q = .ok js) :
    (chartSeries kind options axis q).runOn s log =
      (.ok ((scalarSeries axis kind options.mode rows).mapValues fun _ => .scalar),
        log ++ [.query q]) := by
  have hread : ofAnswer (scalar? kind) (s.query log q) = .ok rows :=
    ofAnswer_eq_ok_iff.mpr ⟨js, hanswer, hjs⟩
  rw [chartSeries, if_neg (by simpa using hscalar), runOn_bind_pure, runOn_fetch, hread]
  rfl

/-- The series of a chart whose rows can be read.  A series shows at a label the value of the last
row of the label that has one, and zero without such a row; running totals are held until the next
row. Rows off the axis make no difference, and neither does the order of rows that are apart. -/
theorem chartSeries_of_rows {b : Bucket} {start stop : DateTime} {zone : Zone}
    (haxis : Axis.generate? b start stop zone = some axis)
    (hscalar : ¬(kind = .performance ∧ options.measure = .quantiles)) {js : List Json}
    (hjs : ∀ j ∈ js, (scalar? kind j).isSome = true) (q : Query) :
    ∃ d : Dict (List Float),
      let Answers (js : List Json) : Prop :=
        ∀ (s : ColumnStore) (log : List StoreRequest), s.query log q = .ok js →
          (chartSeries kind options axis q).runOn s log =
            (.ok (d.mapValues fun _ => .scalar), log ++ [.query q])
      Answers js ∧
        (∀ name, d.contains name = true ↔ HasSeries axis kind js name) ∧
        (∀ name values, d.get? name = some values →
          values = dense 0 axis.size (shown? axis kind options.mode js name)) ∧
        Answers (js.filter (onAxis axis)) ∧
        (js.Pairwise (Apart kind) → ∀ js', js'.Perm js → Answers js') := by
  have hlabels := Axis.nodup_labels haxis
  obtain ⟨rows, hrows⟩ := Axis.exists_mapM_eq_some hjs
  refine ⟨scalarSeries axis kind options.mode rows, fun s log hanswer => ?_,
    fun name => contains_scalarSeries_iff hrows,
    fun name values => eq_dense_of_get?_scalarSeries hlabels hrows,
    fun s log hanswer => ?_, fun hapart js' hperm s log hanswer => ?_⟩
  · exact runOn_chartSeries_of_rows hscalar hrows hanswer
  · obtain ⟨rows', hrows'⟩ :=
      Axis.exists_mapM_eq_some fun j hj => hjs j (List.mem_of_mem_filter hj)
    rw [runOn_chartSeries_of_rows hscalar hrows' hanswer, scalarSeries_filter_onAxis hrows hrows']
  · obtain ⟨rows', hrows'⟩ := Axis.exists_mapM_eq_some fun j hj => hjs j (hperm.mem_iff.mp hj)
    rw [runOn_chartSeries_of_rows hscalar hrows' hanswer,
      scalarSeries_perm hlabels hrows hrows' hperm hapart]

/-- Two rows of sessions in cumulative mode, and one off the axis, in two orders. -/
theorem chartSeries_of_rows_sessions :
    let start := DateTime.ofSecond 1704067200
    let stop := DateTime.ofSecond 1704326400
    let axis : Axis :=
      ⟨.day, ["2024-01-01", "2024-01-02", "2024-01-03", "2024-01-04"],
        ["2024-01-01", "2024-01-02", "2024-01-03", "2024-01-04"]⟩
    let int (n : Int) : Json := .number (.int n)
    let row (day sessions : Int) (duration : Json) : Json :=
      .object [("year", int 2024), ("month", int 1), ("day", int day),
        ("sessions", int sessions), ("sdur", duration)]
    let js := [row 2 2 (int 30), row 9 7 (int 10), row 4 5 .null]
    let options : ChartOptions := ⟨.cumulative, .median, false⟩
    let q : Query := ⟨"", ∅⟩
    let answering (js : List Json) : ColumnStore := ⟨fun _ _ => .ok js, fun _ _ => .ok ()⟩
    Axis.generate? .day start stop (Zone.parse none) = some axis ∧
      ∃ d : Dict (List Float),
        (chartSeries .sessions options axis q).runOn (answering js) [] =
          (.ok (d.mapValues fun _ => .scalar), [.query q]) ∧
        (chartSeries .sessions options axis q).runOn (answering js.reverse) [] =
          (.ok (d.mapValues fun _ => .scalar), [.query q]) ∧
        d.get? "sessions" = some [0, Float.ofInt 2, Float.ofInt 2, Float.ofInt 5] ∧
        d.get? "sdur" =
          some [0, (Float.ofInt 30 * 100).round / 100, 0, ((0 : Float) * 100).round / 100] := by
  intro start stop axis int row js options q answering
  have haxis : Axis.generate? .day start stop (Zone.parse none) = some axis := by decide +kernel
  have hjs : ∀ j ∈ js, (scalar? .sessions j).isSome = true := by decide +kernel
  have hscalar : ¬(MetricKind.sessions = .performance ∧ options.measure = .quantiles) := by decide
  obtain ⟨d, hanswers, hhas, hvalues, -, hperm⟩ := chartSeries_of_rows haxis hscalar hjs q
  have hlabels : (js.map label?).Nodup := by decide +kernel
  have hapart : js.Pairwise (Apart .sessions) :=
    (List.pairwise_map.mp hlabels).imp fun hne hlabel => absurd hlabel hne
  have hshown {name : String} (hname : name ∈ MetricKind.sessions.seriesNames) :
      d.get? name = some (dense 0 axis.size (shown? axis .sessions .cumulative js name)) := by
    obtain ⟨values, hget⟩ := Option.isSome_iff_exists.mp ((hhas name).mpr (.inl hname))
    rw [hget, hvalues name values hget]
  refine ⟨haxis, d, hanswers _ _ rfl, hperm hapart _ js.reverse_perm _ _ rfl, ?_, ?_⟩
  · exact (hshown (by decide)).trans rfl
  · exact (hshown (by decide)).trans rfl

end Engine

end SiteAnalytics
