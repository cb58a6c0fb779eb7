import SiteAnalytics.Filter.Compile
import SiteAnalytics.Proofs.Filter.Column
import Mathlib.Data.List.Basic

/-!
# Selecting and grouping clauses

`of_select_eq_ok` and `select_eq_ok` say which clauses are compiled, and `mem_groupByColumn_iff`
which clauses a group has: all those of its column, in their order. Groups are built clause by
clause; `Grouped` is what holds of the groups of the clauses seen so far.

Columns are grouped as texts, and read as classes.  Nothing is lost in between, since a class is
written in one way only (`ofColumn_column_grouped`).
-/

namespace SiteAnalytics.Filter

/-! ### Selecting -/

/-- The clause is left out when the columns of custom events are. -/
def isIgnored (ignoreEvents : Bool) (clause : Clause) : Bool :=
  ignoreEvents && (ColumnClass.ofColumn clause.column).isEventColumn

/-- A plain column is one of the kind's. -/
def IsAllowed (kind : MetricKind) (column : String) : Prop :=
  ∀ name, ColumnClass.ofColumn column = .plain name → kind.allows name = true

theorem map_eq_ok {α β : Type} {f : α → β} {x : Except ValidationError α} {y : β}
    (h : x.map f = .ok y) : ∃ a, x = .ok a ∧ f a = y := by
  cases x with
  | error e => cases h
  | ok a => exact ⟨a, rfl, Except.ok.inj h⟩

/-- Where selection succeeds, the kind has all plain columns, and only what is ignored is left
out. -/
theorem of_select_eq_ok {kind : MetricKind} {ignoreEvents : Bool} {clauses kept : List Clause}
    (h : select kind ignoreEvents clauses = .ok kept) :
    (∀ c ∈ clauses, IsAllowed kind c.column) ∧
      kept = clauses.filter fun c => !isIgnored ignoreEvents c := by
  induction clauses generalizing kept with
  | nil => simpa [select, eq_comm] using h
  | cons clause rest ih =>
    rw [List.forall_mem_cons]
    unfold select at h
    split at h
    · -- a plain column is kept if the kind has it, or else nothing is selected
      rename_i column hcol
      split_ifs at h with hallowed
      obtain ⟨more, hmore, rfl⟩ := map_eq_ok h
      obtain ⟨hrest, rfl⟩ := ih hmore
      refine ⟨⟨?_, hrest⟩, ?_⟩
      · intro name hname
        obtain rfl : column = name := by simpa [hcol] using hname
        exact hallowed
      · simp [isIgnored, hcol, ColumnClass.isEventColumn]
    · -- any other column is allowed, and its clause kept or ignored
      rename_i hplain
      have hallowed : IsAllowed kind clause.column := fun name hname => absurd hname (hplain name)
      split_ifs at h with hignored
      · obtain ⟨hrest, rfl⟩ := ih h
        refine ⟨⟨hallowed, hrest⟩, ?_⟩
        rw [List.filter_cons_of_neg]
        rw [isIgnored, hignored, Bool.not_true]
        exact Bool.false_ne_true
      · obtain ⟨more, hmore, rfl⟩ := map_eq_ok h
        obtain ⟨hrest, rfl⟩ := ih hmore
        refine ⟨⟨hallowed, hrest⟩, ?_⟩
        rw [List.filter_cons_of_pos]
        rw [isIgnored, Bool.eq_false_iff.mpr hignored, Bool.not_false]

/-- Where the kind has all plain columns, selection succeeds. -/
theorem select_eq_ok {kind : MetricKind} {ignoreEvents : Bool} {clauses : List Clause}
    (h : ∀ c ∈ clauses, IsAllowed kind c.column) :
    select kind ignoreEvents clauses =
      .ok (clauses.filter fun c => !isIgnored ignoreEvents c) := by
  induction clauses with
  | nil => rfl
  | cons clause rest ih =>
    obtain ⟨hclause, hrest⟩ := List.forall_mem_cons.mp h
    have hmore := ih hrest
    unfold select
    split
    · rename_i column hcol
      have hkept : isIgnored ignoreEvents clause = false := by
        simp [isIgnored, hcol, ColumnClass.isEventColumn]
      rw [if_pos (hclause column hcol), hmore, List.filter_cons_of_pos (by simp [hkept])]
      rfl
    · rw [← isIgnored]
      cases hignored : isIgnored ignoreEvents clause with
      | true => rw [if_pos rfl, hmore, List.filter_cons_of_neg (by simp [hignored])]
      | false =>
        rw [if_neg Bool.false_ne_true, hmore, List.filter_cons_of_pos (by simp [hignored])]
        rfl

/-- A filter that compiles is made of the clauses that are selected from those of the request. -/
theorem of_compile_eq_ok {raw : Option String} {kind : MetricKind} {ignoreEvents : Bool}
    {f : CompiledFilter} (h : compile raw kind ignoreEvents = .ok f) :
    ∃ clauses, Clause.parseList raw = .ok clauses ∧
      (∀ c ∈ clauses, IsAllowed kind c.column) ∧
      f = compileClauses kind (clauses.filter fun c => !isIgnored ignoreEvents c) := by
  unfold compile at h
  cases hparse : Clause.parseList raw with
  | error e =>
    rw [hparse] at h
    cases h
  | ok clauses =>
    rw [hparse] at h
    cases hselect : select kind ignoreEvents clauses with
    | error e =>
      change (select kind ignoreEvents clauses).map (compileClauses kind) = .ok f at h
      rw [hselect] at h
      cases h
    | ok kept =>
      change (select kind ignoreEvents clauses).map (compileClauses kind) = .ok f at h
      rw [hselect] at h
      obtain ⟨hallowed, rfl⟩ := of_select_eq_ok hselect
      exact ⟨clauses, rfl, hallowed, (Except.ok.inj h).symm⟩

/-- What is read and selected is compiled. -/
theorem compile_of_select {raw : Option String} {kind : MetricKind} {ignoreEvents : Bool}
    {clauses kept : List Clause} (hparse : Clause.parseList raw = .ok clauses)
    (hselect : select kind ignoreEvents clauses = .ok kept) :
    compile raw kind ignoreEvents = .ok (compileClauses kind kept) := by
  rw [compile, hparse]
  exact congrArg (Except.map _) hselect

/-- Clauses of which the kind has all plain columns compile. -/
theorem compile_eq_ok {raw : Option String} {kind : MetricKind} {ignoreEvents : Bool}
    {clauses : List Clause} (hparse : Clause.parseList raw = .ok clauses)
    (hallowed : ∀ c ∈ clauses, IsAllowed kind c.column) :
    compile raw kind ignoreEvents =
      .ok (compileClauses kind (clauses.filter fun c => !isIgnored ignoreEvents c)) :=
  compile_of_select hparse (select_eq_ok hallowed)

end Filter

/-- The filter is one that a request can have. -/
def CompiledFilter.Compiles (f : CompiledFilter) : Prop :=
  ∃ raw kind ignoreEvents, Filter.compile raw kind ignoreEvents = .ok f

/-- A filter that compiles is what its clauses compile to, and the kind has their columns. -/
theorem CompiledFilter.Compiles.exists_eq {f : CompiledFilter} (h : f.Compiles) :
    ∃ kind, (∀ c ∈ f.clauses, Filter.IsAllowed kind c.column) ∧
      f = Filter.compileClauses kind f.clauses := by
  obtain ⟨raw, kind, ignoreEvents, hcompile⟩ := h
  obtain ⟨clauses, -, hallowed, rfl⟩ := Filter.of_compile_eq_ok hcompile
  exact ⟨kind, fun c hc => hallowed c (List.mem_of_mem_filter hc), rfl⟩

namespace Filter

/-! ### A filter of three clauses -/

/-- Two values under one key, and a column that is not null. -/
def planFilter : String :=
  "[\x7b\"column\": \"ev:key:plan\", \"filter\": [\"pro\", \"team\"]\x7d, " ++
    "\x7b\"column\": \"ref\", \"isExclusive\": true\x7d]"

/-- The clauses of `planFilter`. -/
def planClauses : List Clause :=
  [⟨"ev:key:plan", some "pro", false⟩, ⟨"ev:key:plan", some "team", false⟩, ⟨"ref", none, true⟩]

theorem parseList_planFilter : Clause.parseList (some planFilter) = .ok planClauses := by
  decide +kernel

theorem compile_planFilter :
    compile (some planFilter) .traffic false = .ok (compileClauses .traffic planClauses) := by
  have hselect : select .traffic false planClauses = .ok planClauses := by decide +kernel
  exact compile_of_select parseList_planFilter hselect

/-! ### Grouping -/

/-- The groups are those of the clauses `seen`: no column twice, every column that was seen, and
each with all its clauses. -/
structure Grouped (seen : List Clause) (groups : List (String × List Clause)) : Prop where
  nodup : (groups.map Prod.fst).Nodup
  columns : ∀ c ∈ seen, c.column ∈ groups.map Prod.fst
  members : ∀ g ∈ groups, g.2 ≠ [] ∧ g.2 = seen.filter fun c => c.column = g.1

theorem addToGroups_of_notMem {clause : Clause} {groups : List (String × List Clause)}
    (h : clause.column ∉ groups.map Prod.fst) :
    addToGroups clause groups = groups ++ [(clause.column, [clause])] := by
  induction groups with
  | nil => rfl
  | cons head rest ih =>
    obtain ⟨column, members⟩ := head
    rw [List.map_cons, List.mem_cons, not_or] at h
    rw [addToGroups, if_neg (Ne.symm h.1), ih h.2, List.cons_append]

theorem addToGroups_of_mem {clause : Clause} {groups : List (String × List Clause)}
    (hnodup : (groups.map Prod.fst).Nodup) (h : clause.column ∈ groups.map Prod.fst) :
    addToGroups clause groups =
      groups.map fun g => (g.1, if g.1 = clause.column then g.2 ++ [clause] else g.2) := by
  induction groups with
  | nil => contradiction
  | cons head rest ih =>
    obtain ⟨column, members⟩ := head
    rw [List.map_cons, List.nodup_cons] at hnodup
    rw [addToGroups, List.map_cons]
    by_cases hcol : column = clause.column
    · -- the column occurs nowhere else
      have hrest : rest.map (fun g => (g.1, if g.1 = clause.column then g.2 ++ [clause] else g.2)) =
          rest := by
        refine (List.map_congr_left fun g hg => ?_).trans (List.map_id rest)
        have hne : g.1 ≠ clause.column := by
          rintro heq
          apply hnodup.1
          rw [hcol, ← heq]
          exact List.mem_map.mpr ⟨g, hg, rfl⟩
        rw [if_neg hne]
        rfl
      rw [if_pos hcol, if_pos hcol, hrest]
    · rw [List.map_cons, List.mem_cons] at h
      rw [if_neg hcol, if_neg hcol, ih hnodup.2 (h.resolve_left (Ne.symm hcol))]

theorem Grouped.add {seen : List Clause} {groups : List (String × List Clause)}
    (h : Grouped seen groups) (clause : Clause) :
    Grouped (seen ++ [clause]) (addToGroups clause groups) := by
  by_cases hmem : clause.column ∈ groups.map Prod.fst
  · have hcolumns : (addToGroups clause groups).map Prod.fst = groups.map Prod.fst := by
      rw [addToGroups_of_mem h.nodup hmem, List.map_map]
      rfl
    refine ⟨by rw [hcolumns]; exact h.nodup, ?_, ?_⟩
    · intro c hc
      rw [hcolumns]
      rcases List.mem_append.mp hc with hc | hc
      · exact h.columns c hc
      · rwa [List.mem_singleton.mp hc]
    · intro g' hg'
      rw [addToGroups_of_mem h.nodup hmem] at hg'
      obtain ⟨g, hg, rfl⟩ := List.mem_map.mp hg'
      obtain ⟨hne, hmembers⟩ := h.members g hg
      by_cases hcol : g.1 = clause.column
      · simp [hcol, hmembers, List.filter_append]
      · simp [hcol, Ne.symm hcol, hne, ← hmembers, List.filter_append]
  · rw [addToGroups_of_notMem hmem]
    refine ⟨?_, ?_, ?_⟩
    · rw [List.map_append, List.nodup_append]
      refine ⟨h.nodup, by simp, ?_⟩
      intro column hcolumn column' hcolumn' heq
      obtain rfl : column' = clause.column := by simpa using hcolumn'
      rw [heq] at hcolumn
      exact hmem hcolumn
    · intro c hc
      rw [List.map_append, List.mem_append]
      rcases List.mem_append.mp hc with hc | hc
      · exact .inl (h.columns c hc)
      · rw [List.mem_singleton.mp hc]
        exact .inr (by simp)
    · intro g hg
      rcases List.mem_append.mp hg with hg | hg
      · obtain ⟨hne, hmembers⟩ := h.members g hg
        have hcol : clause.column ≠ g.1 := by
          intro heq
          rw [heq] at hmem
          exact hmem (List.mem_map_of_mem hg)
        simp [hcol, hne, ← hmembers, List.filter_append]
      · -- the column is new, so no clause seen before has it
        rw [List.mem_singleton.mp hg]
        have hnone : seen.filter (fun c => c.column = clause.column) = [] := by
          rw [List.filter_eq_nil_iff]
          intro c hc heq
          rw [← of_decide_eq_true heq] at hmem
          exact hmem (h.columns c hc)
        simp [hnone, List.filter_append]

theorem grouped_groupByColumn (clauses : List Clause) :
    Grouped clauses (groupByColumn clauses) := by
  have hrun (seen rest : List Clause) (groups : List (String × List Clause))
      (h : Grouped seen groups) :
      Grouped (seen ++ rest) (rest.foldl (fun groups c => addToGroups c groups) groups) := by
    induction rest generalizing seen groups with
    | nil => simpa using h
    | cons clause rest ih =>
      rw [List.foldl_cons, List.append_cons]
      exact ih (seen ++ [clause]) _ (h.add clause)
  exact hrun [] clauses [] ⟨by simp, by simp, by simp⟩

/-- The groups are the columns of the clauses, each with all clauses that have it. -/
theorem mem_groupByColumn_iff {clauses : List Clause} {column : String} {members : List Clause} :
    (column, members) ∈ groupByColumn clauses ↔
      (∃ c ∈ clauses, c.column = column) ∧
        members = clauses.filter fun c => c.column = column := by
  have h := grouped_groupByColumn clauses
  constructor
  · intro hg
    have hmembers : members = clauses.filter fun c => c.column = column := (h.members _ hg).2
    refine ⟨?_, hmembers⟩
    obtain ⟨c, hc⟩ := List.exists_mem_of_ne_nil members (h.members _ hg).1
    rw [hmembers, List.mem_filter, decide_eq_true_eq] at hc
    exact ⟨c, hc⟩
  · rintro ⟨⟨c, hc, rfl⟩, rfl⟩
    obtain ⟨g, hg, hcol⟩ := List.mem_map.mp (h.columns c hc)
    rw [← hcol, ← (h.members g hg).2]
    exact hg

/-- Two clauses are in one group iff they have one column. -/
theorem exists_group_iff {clauses : List Clause} {c d : Clause} (hc : c ∈ clauses)
    (hd : d ∈ clauses) :
    (∃ g ∈ groupByColumn clauses, c ∈ g.2 ∧ d ∈ g.2) ↔ c.column = d.column := by
  constructor
  · rintro ⟨⟨column, members⟩, hg, hcg, hdg⟩
    obtain ⟨-, rfl⟩ := mem_groupByColumn_iff.mp hg
    rw [of_decide_eq_true (List.mem_filter.mp hcg).2, of_decide_eq_true (List.mem_filter.mp hdg).2]
  · intro h
    refine ⟨_, mem_groupByColumn_iff.mpr ⟨⟨c, hc, rfl⟩, rfl⟩, ?_, ?_⟩
    · exact List.mem_filter.mpr ⟨hc, decide_eq_true rfl⟩
    · exact List.mem_filter.mpr ⟨hd, decide_eq_true h.symm⟩

/-! ### Classes and columns -/

/-- Classes and columns correspond to each other.  Every column is what its class is written as; a
look-up is read off what it is written as, whatever its key looks like; and a column is that of a
dimension iff its text has none of the special forms.  So the groups are those of the classes. -/
theorem ofColumn_column_grouped :
    (∀ s, (ColumnClass.ofColumn s).column = s) ∧
      (∀ scope key, key ≠ "" → ColumnClass.ofColumn (ColumnClass.metaLookup scope key).column =
        .metaLookup scope key) ∧
      (∀ s, (∃ name, ColumnClass.ofColumn s = .plain name) ↔ ¬IsMeta s) ∧
      ∀ clauses : List Clause, ∀ c ∈ clauses, ∀ d ∈ clauses,
        (∃ g ∈ groupByColumn clauses, c ∈ g.2 ∧ d ∈ g.2) ↔
          ColumnClass.ofColumn c.column = ColumnClass.ofColumn d.column := by
  refine ⟨ColumnClass.column_ofColumn, fun scope key => ColumnClass.ofColumn_metaLookup scope,
    fun s => ?_, fun clauses c hc d hd => ?_⟩
  · rw [← ColumnClass.ofColumn_eq_plain_iff]
    constructor
    · rintro ⟨name, hname⟩
      -- the dimension has the name that was read
      have hcolumn := ColumnClass.column_ofColumn s
      rw [hname] at hcolumn
      rwa [show name = s from hcolumn] at hname
    · intro h
      exact ⟨s, h⟩
  · rw [exists_group_iff hc hd, ColumnClass.ofColumn_injective.eq_iff]

/-- Look-ups under keys that look like columns, and a column of a look-up without a key. -/
def lookalikeClauses : List Clause :=
  [⟨"ev:key:tag:key:", some "a", false⟩, ⟨"ev:key:", some "a", false⟩,
    ⟨"tag:key:tag:key:", some "a", false⟩, ⟨"ev:key:tag:key:", none, true⟩]

theorem ofColumn_column_grouped_lookalikes :
    let lookup := ColumnClass.metaLookup .event "tag:key:"
    "tag:key:" ≠ "" ∧ ColumnClass.ofColumn lookup.column = lookup ∧
      (∃ name, ColumnClass.ofColumn "ev:key:" = .plain name) ∧
      (∃ g ∈ groupByColumn lookalikeClauses, ⟨"ev:key:tag:key:", some "a", false⟩ ∈ g.2 ∧
        ⟨"ev:key:tag:key:", none, true⟩ ∈ g.2) ∧
      ¬∃ g ∈ groupByColumn lookalikeClauses, ⟨"ev:key:tag:key:", some "a", false⟩ ∈ g.2 ∧
        ⟨"tag:key:tag:key:", some "a", false⟩ ∈ g.2 := by
  obtain ⟨-, hlookup, hplain, hgroup⟩ := ofColumn_column_grouped
  refine ⟨by decide, hlookup .event "tag:key:" (by decide), (hplain "ev:key:").mpr (by decide),
    (hgroup lookalikeClauses _ (by decide) _ (by decide)).mpr rfl, ?_⟩
  rw [hgroup lookalikeClauses _ (by decide) _ (by decide)]
  decide

end SiteAnalytics.Filter
