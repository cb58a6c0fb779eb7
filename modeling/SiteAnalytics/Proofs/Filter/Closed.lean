import SiteAnalytics.Proofs.Filter.Meaning
import SiteAnalytics.Proofs.Sql.Placeholder

/-!
# Filters bind what they name

Every placeholder in the text of a compiled filter is bound by the filter itself
(`closed_text`), and all that a filter binds has a generated name
(`isGenerated_of_get?`).
-/

namespace SiteAnalytics

open Sql

theorem Sql.IsName.notMem {s : String} (h : IsName s) {c : Char} (hc : CharClass.of c ≠ .word) :
    c ∉ s.toList :=
  fun hmem => hc (allWord_iff.mp h.2.1 c hmem)

/-! ### Conditions -/

/-- The parameters in the text of a test. -/
def RowTest.params : RowTest → List String
  | null _ => []
  | equal _ p | hasKey p | hasValue p => [p]
  | lookup keyParam p => [keyParam, p]

theorem RowTest.closed_arrayText {test : RowTest} {params : Params}
    (hnames : ∀ s ∈ test.names, IsName s)
    (hbound : ∀ p ∈ test.params, ∃ v, params.get? p = some v) : test.arrayText.Closed params := by
  have hbrace (s : String) (hs : s ∈ test.names) : '\x7b' ∉ s.toList :=
    (hnames s hs).notMem (by decide)
  have hcolon (s : String) (hs : s ∈ test.names) : ':' ∉ s.toList :=
    (hnames s hs).notMem (by decide)
  cases test <;> simp_all [RowTest.arrayText, RowTest.names, RowTest.params]

theorem Condition.closed_text {c : Condition} {params : Params}
    (hnames : ∀ s ∈ c.test.names, IsName s)
    (hbound : ∀ p ∈ c.test.params, ∃ v, params.get? p = some v) : c.text.Closed params := by
  obtain ⟨test, negated⟩ := c
  have htest := RowTest.closed_arrayText hnames hbound
  cases test <;> cases negated <;> simp_all [Condition.text, RowTest.arrayText]

theorem Predicate.closed_text {p : Predicate} {params : Params}
    (h : ∀ group ∈ p, ∀ c ∈ group, c.text.Closed params) : p.text.Closed params := by
  have hrun (acc : Sql) (hacc : acc.Closed params) : (p.foldl (fun acc group =>
      acc ++ " AND (" ++ Sql.join " OR " (group.map Condition.text) ++ ")") acc).Closed params := by
    induction p generalizing acc with
    | nil => exact hacc
    | cons group rest ih =>
      obtain ⟨hgroup, hrest⟩ := List.forall_mem_cons.mp h
      rw [List.foldl_cons]
      apply ih hrest
      have hjoin : (Sql.join " OR " (group.map Condition.text)).Closed params := by
        apply closed_join (by decide)
        intro item hitem
        obtain ⟨c, hc, rfl⟩ := List.mem_map.mp hitem
        exact hgroup c hc
      simp [hacc, hjoin]
  exact hrun nothing closed_nothing

/-! ### Compiled filters -/

namespace Filter

/-- The parameters in the condition of a clause are bound by the clause. -/
theorem bound_of_condition {clauses members : List Clause} {clause : Clause} {g i : Nat}
    {c : Condition} (hg : (groupByColumn clauses)[g]? = some (clause.column, members))
    (hi : members[i]? = some clause)
    (hcondition : condition? (ColumnClass.ofColumn clause.column) clause (valueParam g i)
      (keyParam g) = some c) {p : String} (hp : p ∈ c.test.params) :
    ∃ v, (Dict.ofList (paramsFrom 0 (groupByColumn clauses))).get? p = some v := by
  have hgroup {e : String × ParamValue} (he : e ∈ groupParams g clause.column members) :
      (Dict.ofList (paramsFrom 0 (groupByColumn clauses))).get? e.1 = some e.2 := by
    apply get?_of_mem_paramsFrom
    rw [mem_paramsFrom_iff]
    exact ⟨g, clause.column, members, hg, by rwa [Nat.zero_add]⟩
  have hvalue {v : String} (hv : clause.value = some v) :
      ∃ v, (Dict.ofList (paramsFrom 0 (groupByColumn clauses))).get? (valueParam g i) = some v := by
    refine ⟨.text v, hgroup (e := (valueParam g i, .text v)) ?_⟩
    rw [mem_groupParams_iff, mem_groupValues_iff]
    exact .inr ⟨i, clause, v, hi, hv, by rw [Nat.zero_add]⟩
  have hkey {scope : MetaScope} {key : String}
      (hcls : ColumnClass.ofColumn clause.column = .metaLookup scope key) :
      ∃ v, (Dict.ofList (paramsFrom 0 (groupByColumn clauses))).get? (keyParam g) = some v := by
    refine ⟨.text key, hgroup (e := (keyParam g, .text key)) ?_⟩
    rw [mem_groupParams_iff]
    exact .inl ⟨scope, key, hcls, rfl⟩
  unfold condition? at hcondition
  cases hv : clause.value <;> cases hcls : ColumnClass.ofColumn clause.column <;>
    simp [hv, hcls, ColumnClass.isArrayBacked] at hcondition <;> subst hcondition <;>
    simp [RowTest.params] at hp
  case some.plain => exact hp ▸ hvalue hv
  case some.eventName => exact hp ▸ hvalue hv
  case some.metaKey => exact hp ▸ hvalue hv
  case some.metaValue => exact hp ▸ hvalue hv
  case some.metaLookup =>
    -- a look-up has a parameter for its key as well
    rcases hp with rfl | rfl
    · exact hkey hcls
    · exact hvalue hv

end Filter

namespace CompiledFilter.Compiles

variable {f : CompiledFilter}

/-- The text of a filter is closed under what the filter binds. -/
theorem closed_text (h : f.Compiles) : f.text.Closed f.params := by
  obtain ⟨kind, hallowed, hf⟩ := h.exists_eq
  rw [hf]
  apply Predicate.closed_text
  intro conds hconds c hc
  obtain ⟨clause, -, g, i, members, hg, hi, hcondition⟩ :=
    Filter.exists_of_mem_predicate hconds hc
  apply Condition.closed_text
  · exact Filter.isName_compileClauses hallowed conds hconds c hc
  · intro p hp
    exact Filter.bound_of_condition hg hi hcondition hp

/-- A filter binds exactly what is generated for its clauses. -/
theorem get?_eq_some_iff (h : f.Compiles) {name : String} {v : ParamValue} :
    f.params.get? name = some v ↔
      (name, v) ∈ Filter.paramsFrom 0 (Filter.groupByColumn f.clauses) := by
  obtain ⟨kind, -, hf⟩ := h.exists_eq
  have hparams : f.params = Dict.ofList (Filter.paramsFrom 0 (Filter.groupByColumn f.clauses)) := by
    rw [hf]
    rfl
  rw [hparams, Dict.get?_ofList (Filter.nodup_paramsFrom 0 _),
    Dict.lookup_eq_some_iff_mem (Filter.nodup_paramsFrom 0 _)]

theorem isGenerated_of_get? (h : f.Compiles) {name : String} {v : ParamValue}
    (hname : f.params.get? name = some v) : Filter.IsGenerated name :=
  Filter.isGenerated_of_mem_paramsFrom (h.get?_eq_some_iff.mp hname)

end CompiledFilter.Compiles

end SiteAnalytics
