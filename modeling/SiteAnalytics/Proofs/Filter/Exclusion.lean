import SiteAnalytics.Proofs.Filter.Column
import SiteAnalytics.Proofs.Filter.Meaning
import SiteAnalytics.Proofs.Filter.Reported

/-!
# Exclusions

An exclusion is one clause among those of its column, and of these one has to accept a row.  So a
row with the excluded value is kept out iff all clauses of the column refuse the value, or those of
some other column refuse the row: this is `excluded_iff`.  Excluding one value is enough if nothing
else is said of the column.  Excluding two excludes neither, since each exclusion accepts what the
other one names (`holds?_neitherCountry`).
-/

namespace SiteAnalytics

open Sql

/-- The clause, one on a dimension or on the names of events, refuses the value: it excludes just
this value, or it asks for another one or for null. -/
def Clause.Refuses (v : String) (c : Clause) : Prop :=
  c.exclusive = true ↔ c.value = some v

instance (v : String) (c : Clause) : Decidable (c.Refuses v) :=
  inferInstanceAs (Decidable (_ ↔ _))

namespace Filter

/-- Some clause on the column applies, and none that does accepts the row. -/
def RefusedBy (row : Row) (clauses : List Clause) (column : String) : Prop :=
  (∃ c ∈ clauses, c.column = column ∧ c.isApplicable = true) ∧
    ∀ c ∈ clauses, c.column = column → c.isApplicable = true → c.accepts row = false

/-! ### Columns with one value -/

theorem isApplicable_of_not_isArrayBacked {c : Clause}
    (h : (ColumnClass.ofColumn c.column).isArrayBacked = false) : c.isApplicable = true := by
  rw [Clause.isApplicable, h]
  exact Bool.or_true _

/-- A dimension and the names of events are single values. -/
theorem not_isArrayBacked_ofColumn {column : String} (h : ¬IsMeta column ∨ column = "ev") :
    (ColumnClass.ofColumn column).isArrayBacked = false := by
  rcases h with hplain | rfl
  · rw [ColumnClass.ofColumn_eq_plain_iff.mpr hplain]
    rfl
  · rfl

/-- A value is refused if it is the one excluded, or if it is not the one asked for. -/
theorem acceptsValue_eq_false_iff (exclusive : Bool) (asked : Option String) (v : String) :
    Clause.acceptsValue exclusive asked (some v) = false ↔
      (exclusive = true ↔ asked = some v) := by
  cases asked with
  | none => cases exclusive <;> simp [Clause.acceptsValue, Clause.verdict]
  | some s =>
    -- the value is the one asked for, or another one
    by_cases hv : v = s
    · subst hv
      cases exclusive <;> simp [Clause.acceptsValue, Clause.verdict]
    · cases exclusive <;> simp [Clause.acceptsValue, Clause.verdict, hv, Ne.symm hv]

/-- What a clause makes of a row depends on the row's value in the column only. -/
theorem accepts_eq_false_iff {c : Clause} (h : ¬IsMeta c.column ∨ c.column = "ev") {row : Row}
    {v : String} (hrow : row.column c.column = some v) :
    c.accepts row = false ↔ c.Refuses v := by
  rw [Clause.Refuses, ← acceptsValue_eq_false_iff, ← hrow]
  rcases h with hplain | hev
  · rw [Clause.accepts, ColumnClass.ofColumn_eq_plain_iff.mpr hplain]
  · rw [Clause.accepts, ColumnClass.ofColumn_eq_eventName_iff.mpr hev, hev]

/-! ### Columns that refuse a row -/

/-- Every column with a clause that applies accepts the row, unless some column refuses it. -/
theorem accepted_iff {row : Row} {clauses : List Clause} :
    (∀ c ∈ clauses, c.isApplicable = true → ∃ c' ∈ clauses,
        c'.column = c.column ∧ c'.isApplicable = true ∧ c'.accepts row = true) ↔
      ¬∃ column, RefusedBy row clauses column := by
  constructor
  · rintro h ⟨-, ⟨c, hc, rfl, happ⟩, hall⟩
    obtain ⟨c', hc', hcolumn, happ', haccepts⟩ := h c hc happ
    rw [hall c' hc' hcolumn happ'] at haccepts
    contradiction
  · intro h c hc happ
    -- a column without a clause that accepts the row refuses it
    by_contra hnone
    refine h ⟨c.column, ⟨c, hc, rfl, happ⟩, fun c' hc' hcolumn happ' => ?_⟩
    exact Bool.eq_false_iff.mpr fun haccepts => hnone ⟨c', hc', hcolumn, happ', haccepts⟩

/-- A column of one value refuses a row iff all its clauses refuse the value. -/
theorem refusedBy_iff {row : Row} {clauses : List Clause} {c : Clause} (hc : c ∈ clauses)
    (hcolumn : ¬IsMeta c.column ∨ c.column = "ev") {v : String}
    (hrow : row.column c.column = some v) :
    RefusedBy row clauses c.column ↔ ∀ d ∈ clauses, d.column = c.column → d.Refuses v := by
  have hone (d : Clause) (hd : d.column = c.column) :
      d.isApplicable = true ∧ (d.accepts row = false ↔ d.Refuses v) := by
    rw [← hd] at hcolumn hrow
    exact ⟨isApplicable_of_not_isArrayBacked (not_isArrayBacked_ofColumn hcolumn),
      accepts_eq_false_iff hcolumn hrow⟩
  constructor
  · intro h d hd hdcolumn
    exact (hone d hdcolumn).2.mp (h.2 d hd hdcolumn (hone d hdcolumn).1)
  · intro h
    refine ⟨⟨c, hc, rfl, (hone c rfl).1⟩, fun d hd hdcolumn _ => ?_⟩
    exact (hone d hdcolumn).2.mpr (h d hd hdcolumn)

/-! ### Rows that are kept out -/

/-- A row with a value in the column of some clause is kept out iff all clauses on the column refuse
the value, or those on some other column refuse the row. -/
theorem exists_holds?_eq_false_iff {f : CompiledFilter} (h : f.Compiles) {c : Clause}
    (hc : c ∈ f.clauses) (hcolumn : ¬IsMeta c.column ∨ c.column = "ev") {row : Row} {v : String}
    (hrow : row.column c.column = some v) :
    ∃ truth, holds? f.params row ("1 = 1" ++ f.text : Sql).render = some truth ∧
      (truth = false ↔ (∀ d ∈ f.clauses, d.column = c.column → d.Refuses v) ∨
        ∃ column, column ≠ c.column ∧ RefusedBy row f.clauses column) := by
  obtain ⟨kind, hallowed, hf⟩ := h.exists_eq
  obtain ⟨truth, htruth, hiff⟩ := holds?_compileClauses hallowed row
  rw [← hf] at htruth
  refine ⟨truth, htruth, ?_⟩
  have hrefused : truth = false ↔ ∃ column, RefusedBy row f.clauses column := by
    rw [← Bool.not_eq_true, hiff, accepted_iff, not_not]
  rw [hrefused, ← refusedBy_iff hc hcolumn hrow]
  constructor
  · rintro ⟨column, hcol⟩
    -- the column that refuses the row is that of the clause, or another one
    by_cases heq : column = c.column
    · exact .inl (heq ▸ hcol)
    · exact .inr ⟨column, heq, hcol⟩
  · rintro (hcol | ⟨column, -, hcol⟩)
    · exact ⟨_, hcol⟩
    · exact ⟨column, hcol⟩

/-- The exclusion of a value keeps a row that has it out iff the other clauses on the column all
refuse the value as well, or those on some other column refuse the row. -/
theorem excluded_iff {raw : Option String} {kind : MetricKind} {ignoreEvents : Bool}
    {f : CompiledFilter} (h : compile raw kind ignoreEvents = .ok f) {c : Clause}
    (hc : c ∈ f.clauses) (hexclusive : c.exclusive = true) {v : String} (hvalue : c.value = some v)
    (hcolumn : ¬IsMeta c.column ∨ c.column = "ev") {row : Row}
    (hrow : row.column c.column = some v) :
    ∃ truth, holds? f.params row ("1 = 1" ++ f.text : Sql).render = some truth ∧
      (truth = false ↔ (∀ d ∈ f.clauses, d ≠ c → d.column = c.column → d.Refuses v) ∨
        ∃ column, column ≠ c.column ∧ RefusedBy row f.clauses column) := by
  obtain ⟨truth, htruth, hiff⟩ :=
    exists_holds?_eq_false_iff ⟨raw, kind, ignoreEvents, h⟩ hc hcolumn hrow
  -- the exclusion itself refuses the value, so only the others matter
  have hothers : (∀ d ∈ f.clauses, d.column = c.column → d.Refuses v) ↔
      ∀ d ∈ f.clauses, d ≠ c → d.column = c.column → d.Refuses v := by
    refine forall₂_congr fun d _ => ⟨fun hd _ => hd, fun hd => ?_⟩
    by_cases heq : d = c
    · rintro -
      rw [heq]
      exact iff_of_true hexclusive hvalue
    · exact hd heq
  exact ⟨truth, htruth, hiff.trans (or_congr_left hothers)⟩

/-- A row from Bulgaria, referred by a search. -/
def bulgarianRow : Row :=
  { column := fun name => [("cc", "BG"), ("ref", "search")].lookup name
    entries := [] }

/-- Bulgaria is excluded and Britain asked for, in two clauses, and two referrers are asked for. -/
def notBulgaria : List Clause :=
  [⟨"cc", some "BG", true⟩, ⟨"ref", some "news", false⟩, ⟨"ref", some "search", false⟩,
    ⟨"cc", some "GB", false⟩]

theorem excluded_iff_notBulgaria :
    ∃ f, compile (some (Json.list Clause.toJson notBulgaria).render) .traffic false = .ok f ∧
      ⟨"cc", some "BG", true⟩ ∈ f.clauses ∧ ¬IsMeta "cc" ∧ bulgarianRow.column "cc" = some "BG" ∧
      holds? f.params bulgarianRow ("1 = 1" ++ f.text : Sql).render = some false := by
  have hselect : select .traffic false notBulgaria = .ok notBulgaria := by decide +kernel
  have hcompile := compile_of_select (Clause.parseList_render notBulgaria) hselect
  have hmem : ⟨"cc", some "BG", true⟩ ∈ (compileClauses .traffic notBulgaria).clauses :=
    List.mem_cons_self
  have hrow : bulgarianRow.column "cc" = some "BG" := rfl
  refine ⟨_, hcompile, hmem, by decide, hrow, ?_⟩
  obtain ⟨truth, htruth, hiff⟩ :=
    excluded_iff hcompile hmem rfl rfl (.inl (by decide)) hrow
  rw [htruth, hiff.mpr (.inl (by decide))]

/-- Bulgaria and Britain are excluded in one clause. -/
def neitherCountry : String :=
  "[\x7b\"column\": \"cc\", \"filter\": [\"BG\", \"GB\"], \"isExclusive\": true\x7d]"

/-- The clauses of `neitherCountry`. -/
def neitherCountryClauses : List Clause := [⟨"cc", some "BG", true⟩, ⟨"cc", some "GB", true⟩]

/-- Of two excluded values neither is excluded: a row that has the one is accepted. -/
theorem holds?_neitherCountry :
    ∃ f, compile (some neitherCountry) .traffic false = .ok f ∧
      ⟨"cc", some "BG", true⟩ ∈ f.clauses ∧ ¬IsMeta "cc" ∧ bulgarianRow.column "cc" = some "BG" ∧
      holds? f.params bulgarianRow ("1 = 1" ++ f.text : Sql).render = some true := by
  have hparse : Clause.parseList (some neitherCountry) = .ok neitherCountryClauses := by
    decide +kernel
  have hselect : select .traffic false neitherCountryClauses = .ok neitherCountryClauses := by
    decide +kernel
  refine ⟨_, compile_of_select hparse hselect, List.mem_cons_self, by decide, rfl, ?_⟩
  obtain ⟨truth, htruth, hiff⟩ :=
    holds?_compileClauses (of_select_eq_ok hselect).1 bulgarianRow
  rw [htruth, hiff.mpr (by decide +kernel)]

end Filter

end SiteAnalytics
