import SiteAnalytics.Proofs.Filter.Group
import SiteAnalytics.Proofs.Filter.Name
import SiteAnalytics.Proofs.Filter.Text

/-!
# The meaning of filters

`Clause.accepts` says what a clause asks of a row, without text and parameters. The main result,
`holds?_compile`, is that the text of a compiled filter under its own parameters asks the same: for
every column with a clause that applies, some such clause accepts the row.

The proof goes from the inside out: a condition means its clause (`isTrue_condition`), the
conditions of a group mean the clauses of its column (`forall₂_groupConditions`), and the predicate
means all groups (`exists_truths_predicateFrom`).
-/

namespace SiteAnalytics

open Sql

/-! ### What clauses ask -/

namespace Clause

/-- The clause has a condition: arrays have no elements that are null. -/
def isApplicable (c : Clause) : Bool :=
  c.value.isSome || !(ColumnClass.ofColumn c.column).isArrayBacked

/-- Whether a row is accepted that is as described, or is not: an exclusion accepts the others. -/
def verdict (exclusive asDescribed : Bool) : Bool :=
  if exclusive then !asDescribed else asDescribed

/-- A value that may be null is accepted. Null neither equals a value nor differs from it. -/
def acceptsValue (exclusive : Bool) (asked found : Option String) : Bool :=
  match asked, found with
  | none, found => verdict exclusive found.isNone
  | some _, none => false
  | some v, some s => verdict exclusive (s == v)

/-- The clause accepts the row. -/
def accepts (row : Row) (c : Clause) : Bool :=
  match ColumnClass.ofColumn c.column, c.value with
  | .plain column, asked => acceptsValue c.exclusive asked (row.column column)
  | .eventName, asked => acceptsValue c.exclusive asked (row.column "ev")
  | .metaKey _, some v => verdict c.exclusive (row.keys.contains v)
  | .metaValue _, some v => verdict c.exclusive (row.values.contains v)
  | .metaLookup _ key, some v => verdict c.exclusive (row.entries.lookup key == some v)
  | _, none => false

end Clause

/-! ### Look-ups by place -/

theorem Sql.Value.position_cons_self (s : String) (ss : List String) :
    position s (s :: ss) = 1 := by
  simp [position, List.idxOf?_cons]

/-- Behind another element a place is one more, and none stays none. -/
theorem Sql.Value.position_cons_of_ne {s t : String} (h : s ≠ t) (ss : List String) :
    position s (t :: ss) = if position s ss = 0 then 0 else position s ss + 1 := by
  unfold position
  rw [List.idxOf?_cons, beq_eq_false_iff_ne.mpr (Ne.symm h)]
  cases ss.idxOf? s <;> simp

/-- The first entry under a key is found by the place of the key. -/
theorem lookup_eq_textAt (entries : List (String × String)) (key : String) :
    entries.lookup key =
      if 0 < Value.position key (entries.map Prod.fst) then
        some (Value.textAt (entries.map Prod.snd) (Value.position key (entries.map Prod.fst)))
      else none := by
  -- on the entries, whose keys and values are two arrays
  induction entries with
  | nil => simp [Value.position]
  | cons e rest ih =>
    obtain ⟨k, v⟩ := e
    rw [List.map_cons, List.map_cons]
    by_cases hk : key = k
    · subst hk
      rw [Dict.lookup_entry_self, Value.position_cons_self]
      rfl
    · rw [Dict.lookup_entry_of_ne hk, ih, Value.position_cons_of_ne hk]
      -- a place behind the first element is one more than that in the rest
      cases Value.position key (rest.map Prod.fst) <;> simp [Value.textAt]

namespace Filter

/-! ### One clause -/

section Clause

variable {params : Params}

/-- A placeholder has the value of its parameter. -/
theorem eval?_bound (row : Row) {p v : String} (h : params.get? p = some (.text v)) :
    (Expr.bound p).eval? params row = some (.text v) := by
  simp [Expr.bound, Expr.eval?, h, Value.ofParam?, SqlType.name]

theorem eval?_place (row : Row) {p key : String} (h : params.get? p = some (.text key)) :
    (RowTest.place p).eval? params row = some (.number (Value.position key row.keys)) := by
  simp [RowTest.place, Expr.eval?, eval?_bound row h, Row.get, Value.call?]

/-- A column that is no array is read as it is, or as null. -/
theorem get_column (row : Row) {name : String} (hkey : name ≠ "meta.key")
    (hvalue : name ≠ "meta.value") :
    row.get name = (row.column name).elim .null .text := by
  rw [Row.get, if_neg hkey, if_neg hvalue]
  cases row.column name <;> rfl

variable {row : Row}

/-- The test of a column for null means what is asked of its value. -/
theorem isTrue_null {name : String} (hkey : name ≠ "meta.key") (hvalue : name ≠ "meta.value")
    (exclusive : Bool) :
    (Condition.expr ⟨.null name, exclusive⟩).IsTrue params row
      (Clause.acceptsValue exclusive none (row.column name)) := by
  have hget := get_column row hkey hvalue
  -- included or excluded, null or not
  cases exclusive <;> cases hc : row.column name <;>
    simp [Condition.expr, RowTest.expr, Expr.IsTrue, Expr.eval?, hget, hc, Clause.acceptsValue,
      Clause.verdict]

/-- The comparison of a column with a value means what is asked of it. -/
theorem isTrue_equal {name : String} (hkey : name ≠ "meta.key") (hvalue : name ≠ "meta.value")
    (exclusive : Bool) {p v : String} (hbound : params.get? p = some (.text v)) :
    (Condition.expr ⟨.equal name p, exclusive⟩).IsTrue params row
      (Clause.acceptsValue exclusive (some v) (row.column name)) := by
  have hget := get_column row hkey hvalue
  -- an excluded value is tested by inequality, and null passes neither test
  cases exclusive <;> cases hc : row.column name <;>
    simp [Condition.expr, RowTest.expr, Expr.IsTrue, Expr.eval?, hget, hc, Clause.acceptsValue,
      Clause.verdict, eval?_bound row hbound, Comparison.holds?, bne]

/-- An exclusion negates its whole test. -/
theorem isTrue_verdict {test : RowTest} {b : Bool} (h : test.expr.IsTrue params row b)
    (hnegated : Condition.expr ⟨test, true⟩ = .not (.group test.expr)) (exclusive : Bool) :
    (Condition.expr ⟨test, exclusive⟩).IsTrue params row (Clause.verdict exclusive b) := by
  cases exclusive with
  | false =>
    have hplain : Condition.expr ⟨test, false⟩ = test.expr := by cases test <;> rfl
    rw [hplain]
    exact h
  | true =>
    rw [hnegated]
    exact h.group.not

theorem isTrue_hasKey {p v : String} (hbound : params.get? p = some (.text v)) :
    (RowTest.hasKey p).expr.IsTrue params row (row.keys.contains v) := by
  simp [RowTest.expr, Expr.IsTrue, Expr.eval?, Row.get, eval?_bound row hbound, Value.call?]

theorem isTrue_hasValue {p v : String} (hbound : params.get? p = some (.text v)) :
    (RowTest.hasValue p).expr.IsTrue params row (row.values.contains v) := by
  simp [RowTest.expr, Expr.IsTrue, Expr.eval?, Row.get, eval?_bound row hbound, Value.call?]

/-- The comparison at the place of a key, behind the test that there is one, is a look-up. -/
theorem isTrue_lookup {keyParam p key v : String} (hkey : params.get? keyParam = some (.text key))
    (hbound : params.get? p = some (.text v)) :
    (RowTest.lookup keyParam p).expr.IsTrue params row (row.entries.lookup key == some v) := by
  rw [lookup_eq_textAt]
  have hplace := eval?_place row hkey
  have hsome : (Expr.compare .greater (RowTest.place keyParam) (.number 0)).IsTrue params row
      (0 < Value.position key row.keys) := by
    simp [Expr.IsTrue, Expr.eval?, hplace, Comparison.holds?]
  have hsame : (Expr.compare .equal (.element "meta.value" (RowTest.place keyParam))
      (.bound p)).IsTrue params row
        (Value.textAt row.values (Value.position key row.keys) == v) := by
    simp [Expr.IsTrue, Expr.eval?, hplace, eval?_bound row hbound, Row.get, Value.element?,
      Comparison.holds?]
  -- without the key the element is the empty text, which must not count
  have hboth : ((if 0 < Value.position key row.keys then
      some (Value.textAt row.values (Value.position key row.keys)) else none) == some v) =
      (decide (0 < Value.position key row.keys) &&
        Value.textAt row.values (Value.position key row.keys) == v) := by
    split_ifs with hpos <;> simp [hpos]
  have h := hsome.and hsame
  rw [← hboth] at h
  exact h

/-- The parameters hold what the filters bind for a group. -/
def Binds (params : Params) (entries : List (String × ParamValue)) : Prop :=
  ∀ e ∈ entries, params.get? e.1 = some e.2

/-- Plain columns are neither of the two arrays. -/
def NoArray (column : String) : Prop :=
  ∀ name, ColumnClass.ofColumn column = .plain name → name ≠ "meta.key" ∧ name ≠ "meta.value"

/-- A clause has a condition iff it applies. -/
theorem isSome_condition? (clause : Clause) (p keyParam : String) :
    (condition? (ColumnClass.ofColumn clause.column) clause p keyParam).isSome =
      clause.isApplicable := by
  unfold condition? Clause.isApplicable
  cases hv : clause.value <;> cases hc : ColumnClass.ofColumn clause.column <;>
    simp [ColumnClass.isArrayBacked]

/-- The condition of a clause means the clause. -/
theorem isTrue_condition {clause : Clause} {p keyParam : String} {c : Condition}
    (h : condition? (ColumnClass.ofColumn clause.column) clause p keyParam = some c)
    (harray : NoArray clause.column)
    (hvalue : ∀ v, clause.value = some v → params.get? p = some (.text v))
    (hkey : ∀ scope key, ColumnClass.ofColumn clause.column = .metaLookup scope key →
      params.get? keyParam = some (.text key)) :
    c.expr.IsTrue params row (clause.accepts row) := by
  unfold condition? at h
  unfold Clause.accepts
  -- null can be asked of plain columns only, a value of every class
  cases hv : clause.value with
  | none =>
    cases hc : ColumnClass.ofColumn clause.column with
    | plain name =>
      obtain rfl : _ = c := by simpa [hv, hc, ColumnClass.isArrayBacked] using h
      exact isTrue_null (harray name hc).1 (harray name hc).2 clause.exclusive
    | eventName =>
      obtain rfl : _ = c := by simpa [hv, hc, ColumnClass.isArrayBacked] using h
      exact isTrue_null (by decide) (by decide) clause.exclusive
    | metaKey scope => simp [hv, hc, ColumnClass.isArrayBacked] at h
    | metaValue scope => simp [hv, hc, ColumnClass.isArrayBacked] at h
    | metaLookup scope key => simp [hv, hc, ColumnClass.isArrayBacked] at h
  | some v =>
    have hbound := hvalue v hv
    cases hc : ColumnClass.ofColumn clause.column with
    | plain name =>
      obtain rfl : _ = c := by simpa [hv, hc] using h
      exact isTrue_equal (harray name hc).1 (harray name hc).2 clause.exclusive hbound
    | eventName =>
      obtain rfl : _ = c := by simpa [hv, hc] using h
      exact isTrue_equal (by decide) (by decide) clause.exclusive hbound
    | metaKey scope =>
      obtain rfl : _ = c := by simpa [hv, hc] using h
      exact isTrue_verdict (isTrue_hasKey hbound) rfl clause.exclusive
    | metaValue scope =>
      obtain rfl : _ = c := by simpa [hv, hc] using h
      exact isTrue_verdict (isTrue_hasValue hbound) rfl clause.exclusive
    | metaLookup scope key =>
      obtain rfl : _ = c := by simpa [hv, hc] using h
      exact isTrue_verdict (isTrue_lookup (hkey scope key hc) hbound) rfl clause.exclusive

/-- The condition of a clause names its column and its parameters. -/
theorem isName_of_condition {clause : Clause} {p keyParam : String} {c : Condition}
    (h : condition? (ColumnClass.ofColumn clause.column) clause p keyParam = some c)
    (hcolumn : ∀ name, ColumnClass.ofColumn clause.column = .plain name → IsName name)
    (hp : IsName p) (hkeyParam : IsName keyParam) : ∀ s ∈ c.test.names, IsName s := by
  have htested : IsName (testedColumn (ColumnClass.ofColumn clause.column)) := by
    cases hc : ColumnClass.ofColumn clause.column with
    | plain name => exact hcolumn name hc
    | _ => exact (by decide : IsName "ev")
  unfold condition? at h
  generalize ColumnClass.ofColumn clause.column = cls at h htested
  cases hv : clause.value <;> cases cls <;> simp [hv, ColumnClass.isArrayBacked] at h <;>
    subst h <;> simp [RowTest.names, hp, hkeyParam, htested]

end Clause

/-! ### All clauses -/

section Groups

variable {params : Params} {row : Row}

/-- The conditions of a group mean those of its clauses that apply. -/
theorem forall₂_groupConditions {cls : ColumnClass} {group index : Nat} {members : List Clause}
    (hcls : ∀ c ∈ members, ColumnClass.ofColumn c.column = cls)
    (harray : ∀ c ∈ members, NoArray c.column)
    (hvalues : Binds params (groupValues group index members))
    (hkey : ∀ scope key, cls = .metaLookup scope key →
      params.get? (keyParam group) = some (.text key)) :
    List.Forall₂ (Expr.IsTrue params row)
      ((groupConditions cls group index members).map Condition.expr)
      ((members.filter Clause.isApplicable).map (Clause.accepts row)) := by
  -- on the members of the group, for the place of the first one
  induction members generalizing index with
  | nil => exact .nil
  | cons clause rest ih =>
    obtain ⟨hclause, hrest⟩ := List.forall_mem_cons.mp hcls
    obtain ⟨hnoArray, harray⟩ := List.forall_mem_cons.mp harray
    have hlaterValues : Binds params (groupValues group (index + 1) rest) :=
      fun e he => hvalues e (List.mem_append_right _ he)
    have hlater := ih hrest harray hlaterValues
    have hvalue (v : String) (hv : clause.value = some v) :
        params.get? (valueParam group index) = some (.text v) := by
      apply hvalues (valueParam group index, .text v)
      simp [groupValues, hv]
    have hsome := isSome_condition? clause (valueParam group index) (keyParam group)
    rw [groupConditions]
    subst hclause
    cases hc : condition? (ColumnClass.ofColumn clause.column) clause (valueParam group index)
        (keyParam group) with
    | none =>
      rw [hc, Option.isSome_none] at hsome
      rw [List.filter_cons_of_neg (by simp [← hsome])]
      simpa using hlater
    | some c =>
      rw [hc, Option.isSome_some] at hsome
      rw [List.filter_cons_of_pos hsome.symm]
      exact .cons (isTrue_condition hc hnoArray hvalue hkey) hlater

/-- The groups of a predicate mean the groups of clauses that have one that applies. -/
theorem exists_truths_predicateFrom {group : Nat} {groups : List (String × List Clause)}
    (hcolumns : ∀ g ∈ groups, ∀ c ∈ g.2, c.column = g.1)
    (harray : ∀ g ∈ groups, NoArray g.1) (hbinds : Binds params (paramsFrom group groups)) :
    ∃ truths, List.Forall₂ (Expr.IsTrue params row) (predicateFrom group groups).exprs truths ∧
      (truths.all id = true ↔ ∀ g ∈ groups, g.2.filter Clause.isApplicable ≠ [] →
        ∃ c ∈ g.2.filter Clause.isApplicable, c.accepts row = true) := by
  -- on the groups, for the number of the first one
  induction groups generalizing group with
  | nil => exact ⟨[], .nil, by simp⟩
  | cons head rest ih =>
    obtain ⟨column, members⟩ := head
    obtain ⟨hmembers, hrest⟩ := List.forall_mem_cons.mp hcolumns
    obtain ⟨hnoArray, harray⟩ := List.forall_mem_cons.mp harray
    have hlaterBinds : Binds params (paramsFrom (group + 1) rest) :=
      fun e he => hbinds e (List.mem_append_right _ he)
    obtain ⟨truths, hlater, hiff⟩ := ih hrest harray hlaterBinds
    have hgroup : List.Forall₂ (Expr.IsTrue params row)
        ((groupConditions (ColumnClass.ofColumn column) group 0 members).map Condition.expr)
        ((members.filter Clause.isApplicable).map (Clause.accepts row)) := by
      apply forall₂_groupConditions
      · intro c hc
        rw [hmembers c hc]
      · intro c hc
        rw [hmembers c hc]
        exact hnoArray
      · intro e he
        exact hbinds e (List.mem_append_left _ (mem_groupParams_iff.mpr (.inr he)))
      · intro scope key hcls
        apply hbinds (keyParam group, .text key)
        exact List.mem_append_left _ (mem_groupParams_iff.mpr (.inl ⟨scope, key, hcls, rfl⟩))
    rw [predicateFrom, List.forall_mem_cons]
    cases hconds : groupConditions (ColumnClass.ofColumn column) group 0 members with
    | nil =>
      -- no clause of the column applies
      rw [hconds, List.map_nil, List.forall₂_nil_left_iff, List.map_eq_nil_iff] at hgroup
      refine ⟨truths, hlater, ?_⟩
      simp [hiff, hgroup]
    | cons d ds =>
      rw [hconds, List.map_cons] at hgroup
      obtain ⟨b, bs, -, -, htruths⟩ := List.forall₂_cons_left_iff.mp hgroup
      rw [htruths] at hgroup
      refine ⟨(b :: bs).any id :: truths, ?_, ?_⟩
      · -- the brackets around the group are part of the text
        exact .cons (Expr.IsTrue.anyOf hgroup).group hlater
      · have hany : (b :: bs).any id = true ↔
            ∃ c ∈ members.filter Clause.isApplicable, c.accepts row = true := by
          rw [← htruths, List.any_map, List.any_eq_true]
          rfl
        have hne : members.filter Clause.isApplicable ≠ [] := by
          rintro hnil
          simp [hnil] at htruths
        rw [List.all_cons, Bool.and_eq_true, hiff, id, hany]
        simp only [hne, ne_eq, not_false_eq_true, true_implies]

end Groups

/-! ### Compiled filters -/

/-- The names of the plain columns can be read in query text, and none is an array. -/
theorem columns_named (kind : MetricKind) : ∀ name ∈ kind.columns,
    IsName name ∧ name ≠ "meta.key" ∧ name ≠ "meta.value" := by
  cases kind <;> decide

/-- Groups without conditions are left out. -/
theorem nil_notMem_predicateFrom (group : Nat) (groups : List (String × List Clause)) :
    [] ∉ predicateFrom group groups := by
  -- a group without conditions is skipped
  induction groups generalizing group with
  | nil => simp [predicateFrom]
  | cons head rest ih =>
    obtain ⟨column, members⟩ := head
    rw [predicateFrom]
    cases groupConditions (ColumnClass.ofColumn column) group 0 members with
    | nil => exact ih (group + 1)
    | cons d ds => simpa using ih (group + 1)

/-- Every condition of a group is that of a clause, with the parameters for its place. -/
theorem exists_of_mem_groupConditions {cls : ColumnClass} {group index : Nat}
    {members : List Clause} {c : Condition} (h : c ∈ groupConditions cls group index members) :
    ∃ i clause, members[i]? = some clause ∧
      condition? cls clause (valueParam group (index + i)) (keyParam group) = some c := by
  induction members generalizing index with
  | nil => simp [groupConditions] at h
  | cons clause rest ih =>
    rw [groupConditions, List.mem_append, Option.mem_toList] at h
    rcases h with h | h
    · exact ⟨0, clause, rfl, h⟩
    · obtain ⟨i, clause', hi, hcondition⟩ := ih h
      refine ⟨i + 1, clause', hi, ?_⟩
      rwa [← Nat.add_assoc, Nat.add_right_comm]

/-- Every group of conditions is that of a group of clauses, with its number. -/
theorem exists_of_mem_predicateFrom {group : Nat} {groups : List (String × List Clause)}
    {conds : List Condition} (h : conds ∈ predicateFrom group groups) :
    ∃ g column members, groups[g]? = some (column, members) ∧
      conds = groupConditions (ColumnClass.ofColumn column) (group + g) 0 members := by
  induction groups generalizing group with
  | nil => simp [predicateFrom] at h
  | cons head rest ih =>
    obtain ⟨column, members⟩ := head
    have hlater (h : conds ∈ predicateFrom (group + 1) rest) :
        ∃ g column' members', ((column, members) :: rest)[g]? = some (column', members') ∧
          conds = groupConditions (ColumnClass.ofColumn column') (group + g) 0 members' := by
      obtain ⟨g, column', members', hg, hconds⟩ := ih h
      refine ⟨g + 1, column', members', hg, ?_⟩
      rwa [← Nat.add_assoc, Nat.add_right_comm]
    rw [predicateFrom] at h
    split_ifs at h
    · exact hlater h
    · rcases List.mem_cons.mp h with h | h
      · exact ⟨0, column, members, rfl, h⟩
      · exact hlater h

/-- Every condition of a filter is that of a clause, with the parameters for its place. -/
theorem exists_of_mem_predicate {kind : MetricKind} {clauses : List Clause}
    {conds : List Condition} (hconds : conds ∈ (compileClauses kind clauses).predicate)
    {c : Condition} (hc : c ∈ conds) :
    ∃ clause ∈ clauses, ∃ g i, ∃ members,
      (groupByColumn clauses)[g]? = some (clause.column, members) ∧ members[i]? = some clause ∧
      condition? (ColumnClass.ofColumn clause.column) clause (valueParam g i) (keyParam g) =
        some c := by
  obtain ⟨g, column, members, hg, rfl⟩ := exists_of_mem_predicateFrom hconds
  obtain ⟨i, clause, hi, hcondition⟩ := exists_of_mem_groupConditions hc
  have hmem := List.mem_of_getElem? hi
  rw [(mem_groupByColumn_iff.mp (List.mem_of_getElem? hg)).2, List.mem_filter,
    decide_eq_true_eq] at hmem
  obtain ⟨hclause, rfl⟩ := hmem
  rw [Nat.zero_add, Nat.zero_add] at hcondition
  exact ⟨clause, hclause, g, i, members, hg, hi, hcondition⟩

theorem NoArray.of_isAllowed {kind : MetricKind} {column : String}
    (h : IsAllowed kind column) : NoArray column := by
  intro name hname
  exact (columns_named kind name (List.contains_iff_mem.mp (h name hname))).2

/-- The predicate of clauses on allowed columns means what the clauses ask. -/
theorem isTrue_compileClauses {kind : MetricKind} {clauses : List Clause}
    (hallowed : ∀ c ∈ clauses, IsAllowed kind c.column) (row : Row) :
    ∃ truth, (compileClauses kind clauses).predicate.expr.IsTrue
        (compileClauses kind clauses).params row truth ∧
      (truth = true ↔ ∀ c ∈ clauses, c.isApplicable = true → ∃ c' ∈ clauses,
        c'.column = c.column ∧ c'.isApplicable = true ∧ c'.accepts row = true) := by
  have hgroup : ∀ g ∈ groupByColumn clauses, (∃ c ∈ clauses, c.column = g.1) ∧
      g.2 = clauses.filter fun c => c.column = g.1 := fun g hg => mem_groupByColumn_iff.mp hg
  have hcolumns : ∀ g ∈ groupByColumn clauses, ∀ c ∈ g.2, c.column = g.1 := by
    intro g hg c hc
    rw [(hgroup g hg).2, List.mem_filter, decide_eq_true_eq] at hc
    exact hc.2
  have harray : ∀ g ∈ groupByColumn clauses, NoArray g.1 := by
    intro g hg
    obtain ⟨⟨c, hc, hcol⟩, -⟩ := hgroup g hg
    rw [← hcol]
    exact .of_isAllowed (hallowed c hc)
  have hbinds : Binds (compileClauses kind clauses).params (paramsFrom 0 (groupByColumn clauses)) :=
    fun e he => get?_of_mem_paramsFrom he
  obtain ⟨truths, htruths, hiff⟩ := exists_truths_predicateFrom hcolumns harray hbinds
  have hone : Expr.IsTrue (compileClauses kind clauses).params row
      (.compare .equal (.number 1) (.number 1)) true := rfl
  refine ⟨(true :: truths).all id, Expr.IsTrue.allOf (.cons hone htruths), ?_⟩
  rw [List.all_cons, id, Bool.true_and, hiff]
  -- a clause that applies is in the group of its column, and so are those that may stand in for it
  constructor
  · intro h c hc happ
    have hmem : c ∈ (clauses.filter fun d => d.column = c.column).filter Clause.isApplicable := by
      simp [hc, happ]
    obtain ⟨c', hc', haccepts⟩ := h (c.column, clauses.filter fun d => d.column = c.column)
      (mem_groupByColumn_iff.mpr ⟨⟨c, hc, rfl⟩, rfl⟩) (List.ne_nil_of_mem hmem)
    simp only [List.mem_filter, decide_eq_true_eq] at hc'
    exact ⟨c', hc'.1.1, hc'.1.2, hc'.2, haccepts⟩
  · intro h g hg hne
    obtain ⟨c, hc⟩ := List.exists_mem_of_ne_nil _ hne
    rw [(hgroup g hg).2] at hc ⊢
    simp only [List.mem_filter, decide_eq_true_eq] at hc
    obtain ⟨c', hc', hcol, happ, haccepts⟩ := h c hc.1.1 hc.2
    refine ⟨c', ?_, haccepts⟩
    simp [hc', hcol, hc.1.2, happ]

theorem isName_compileClauses {kind : MetricKind} {clauses : List Clause}
    (hallowed : ∀ c ∈ clauses, IsAllowed kind c.column) :
    ∀ conds ∈ (compileClauses kind clauses).predicate, ∀ c ∈ conds, ∀ s ∈ c.test.names,
      IsName s := by
  intro conds hconds c hc
  obtain ⟨clause, hclause, g, i, -, -, -, hcondition⟩ := exists_of_mem_predicate hconds hc
  refine isName_of_condition hcondition ?_ (isName_valueParam g i) (isName_keyParam g)
  intro name hname
  have hallows := hallowed clause hclause name hname
  exact (columns_named kind name (List.contains_iff_mem.mp hallows)).1

/-- The text of compiled clauses under their parameters asks of a row what the clauses ask. -/
theorem holds?_compileClauses {kind : MetricKind} {clauses : List Clause}
    (hallowed : ∀ c ∈ clauses, IsAllowed kind c.column) (row : Row) :
    ∃ truth, holds? (compileClauses kind clauses).params row
        ("1 = 1" ++ (compileClauses kind clauses).text : Sql).render = some truth ∧
      (truth = true ↔ ∀ c ∈ clauses, c.isApplicable = true → ∃ c' ∈ clauses,
        c'.column = c.column ∧ c'.isApplicable = true ∧ c'.accepts row = true) := by
  obtain ⟨truth, htruth, hiff⟩ := isTrue_compileClauses hallowed row
  refine ⟨truth, holds?_render (Predicate.tokens_text ?_ ?_) (Predicate.fits_expr _) htruth, hiff⟩
  · exact nil_notMem_predicateFrom 0 _
  · exact isName_compileClauses hallowed

/-- The text of a compiled filter under its own parameters asks of a row what the clauses ask: for
every column with a clause that applies, some such clause accepts the row. The clauses are those of
the request, without the ones that are ignored. -/
theorem holds?_compile {raw : Option String} {kind : MetricKind} {ignoreEvents : Bool}
    {f : CompiledFilter} (h : compile raw kind ignoreEvents = .ok f) :
    (∃ clauses, Clause.parseList raw = .ok clauses ∧
      f.clauses = clauses.filter fun c => !isIgnored ignoreEvents c) ∧
    ∀ row : Row, ∃ truth, holds? f.params row ("1 = 1" ++ f.text : Sql).render = some truth ∧
      (truth = true ↔ ∀ c ∈ f.clauses, c.isApplicable = true → ∃ c' ∈ f.clauses,
        c'.column = c.column ∧ c'.isApplicable = true ∧ c'.accepts row = true) := by
  obtain ⟨clauses, hparse, hallowed, rfl⟩ := of_compile_eq_ok h
  have hkept : ∀ c ∈ clauses.filter (fun c => !isIgnored ignoreEvents c), IsAllowed kind c.column :=
    fun c hc => hallowed c (List.mem_of_mem_filter hc)
  exact ⟨⟨clauses, hparse, rfl⟩, holds?_compileClauses hkept⟩

/-- A row with two values under the key, of which the first counts. -/
def planRow : Row :=
  { column := fun name => if name = "ref" then some "news" else none
    entries := [("size", "5"), ("plan", "team"), ("plan", "free")] }

theorem holds?_compile_planFilter : ∃ f, compile (some planFilter) .traffic false = .ok f ∧
    holds? f.params planRow ("1 = 1" ++ f.text : Sql).render = some true := by
  refine ⟨_, compile_planFilter, ?_⟩
  obtain ⟨truth, htruth, hiff⟩ := (holds?_compile compile_planFilter).2 planRow
  rw [htruth, hiff.mpr (by decide +kernel)]

end Filter

end SiteAnalytics
