import SiteAnalytics.Proofs.Filter.Column
import SiteAnalytics.Proofs.Filter.Grammar
import SiteAnalytics.Proofs.Filter.Reported

/-!
# Filters without the clauses on events

A query for pageviews leaves out the clauses on events.  That has nothing to do with the refusal of
a column: the first refused clause decides about the whole list, wherever it stands among clauses on
events (`select_eq_error`), and which clauses are left out matters to nothing but the rest.  So the
filters fail alike with and without these clauses (`compile_eq_error_iff`), and what is compiled
without them is what the other clauses compile to by themselves.  Both are in
`compile_ignoreEvents`.
-/

namespace SiteAnalytics.Filter

/-- The kind has no such column: it is that of a dimension, and not among those of the kind. -/
def IsRefused (kind : MetricKind) (column : String) : Prop :=
  ¬IsMeta column ∧ kind.allows column = false

instance (kind : MetricKind) (column : String) : Decidable (IsRefused kind column) :=
  inferInstanceAs (Decidable (¬IsMeta column ∧ _))

/-- The clauses that are not on columns of events. -/
def withoutEvents (clauses : List Clause) : List Clause :=
  clauses.filter fun c => !decide (NamesEvents c.column)

theorem isAllowed_iff {kind : MetricKind} {column : String} :
    IsAllowed kind column ↔ ¬IsRefused kind column := by
  rw [IsAllowed, IsRefused, ← ColumnClass.ofColumn_eq_plain_iff]
  have hcolumn := ColumnClass.column_ofColumn column
  cases hcls : ColumnClass.ofColumn column with
  | plain name =>
    rw [hcls] at hcolumn
    obtain rfl : name = column := hcolumn
    simp
  | _ => simp

theorem isIgnored_true (c : Clause) : isIgnored true c = decide (NamesEvents c.column) := by
  rw [isIgnored, Bool.true_and, Bool.eq_iff_iff, ColumnClass.isEventColumn_ofColumn_iff,
    decide_eq_true_iff]

theorem filter_not_isIgnored_false (clauses : List Clause) :
    clauses.filter (fun c => !isIgnored false c) = clauses :=
  List.filter_eq_self.mpr fun _ _ => rfl

theorem filter_not_isIgnored_true (clauses : List Clause) :
    clauses.filter (fun c => !isIgnored true c) = withoutEvents clauses :=
  List.filter_congr fun c _ => by rw [isIgnored_true]

/-- No column of events is refused. -/
theorem not_isRefused_of_namesEvents {kind : MetricKind} {column : String}
    (h : NamesEvents column) : ¬IsRefused kind column :=
  fun hrefused => hrefused.1 (.inl h)

/-! ### Refusals -/

/-- The first clause that is refused is the one reported, whatever is left out around it. -/
theorem select_eq_error {kind : MetricKind} (ignoreEvents : Bool) {before after : List Clause}
    {c : Clause} (hbefore : ∀ d ∈ before, ¬IsRefused kind d.column)
    (hc : IsRefused kind c.column) :
    select kind ignoreEvents (before ++ c :: after) = .error (.unsupportedFilter c.column) := by
  induction before with
  | nil =>
    rw [List.nil_append, select, ColumnClass.ofColumn_eq_plain_iff.mpr hc.1]
    simp only [hc.2, Bool.false_eq_true, if_false]
  | cons d before ih =>
    obtain ⟨hd, hbefore⟩ := List.forall_mem_cons.mp hbefore
    rw [List.cons_append, select, ih hbefore]
    -- the clause in front is not refused, so that the error behind it is passed on
    cases hcls : ColumnClass.ofColumn d.column with
    | plain name =>
      have hallows := isAllowed_iff.mpr hd name hcls
      simp only [hallows, if_true]
      rfl
    | _ => cases ignoreEvents <;> simp only <;> split_ifs <;> rfl

theorem exists_first_isRefused {kind : MetricKind} {clauses : List Clause}
    (h : ¬∀ c ∈ clauses, ¬IsRefused kind c.column) :
    ∃ before c after, clauses = before ++ c :: after ∧
      (∀ d ∈ before, ¬IsRefused kind d.column) ∧ IsRefused kind c.column := by
  classical
  have hfind : (clauses.find? fun c => IsRefused kind c.column).isSome := by
    simpa [List.find?_isSome] using h
  obtain ⟨c, hc⟩ := Option.isSome_iff_exists.mp hfind
  obtain ⟨hrefused, before, after, hclauses, hbefore⟩ := List.find?_eq_some_iff_append.mp hc
  exact ⟨before, c, after, hclauses, by simpa using hbefore, by simpa using hrefused⟩

theorem select_eq_error_iff {kind : MetricKind} {ignoreEvents : Bool} {clauses : List Clause}
    {e : ValidationError} : select kind ignoreEvents clauses = .error e ↔
      ∃ before c after, clauses = before ++ c :: after ∧
        (∀ d ∈ before, ¬IsRefused kind d.column) ∧ IsRefused kind c.column ∧
          e = .unsupportedFilter c.column := by
  constructor
  · intro h
    have hrefused : ¬∀ c ∈ clauses, ¬IsRefused kind c.column := by
      intro hall
      rw [select_eq_ok fun c hc => isAllowed_iff.mpr (hall c hc)] at h
      contradiction
    obtain ⟨before, c, after, rfl, hbefore, hc⟩ := exists_first_isRefused hrefused
    rw [select_eq_error ignoreEvents hbefore hc] at h
    exact ⟨before, c, after, rfl, hbefore, hc, (Except.error.inj h).symm⟩
  · rintro ⟨before, c, after, rfl, hbefore, hc, rfl⟩
    exact select_eq_error ignoreEvents hbefore hc

/-- Selecting without the clauses on events is selecting from the other clauses. -/
theorem select_withoutEvents (kind : MetricKind) (clauses : List Clause) :
    select kind true clauses = select kind false (withoutEvents clauses) := by
  by_cases hall : ∀ c ∈ clauses, ¬IsRefused kind c.column
  · have hkept : ∀ c ∈ withoutEvents clauses, IsAllowed kind c.column :=
      fun c hc => isAllowed_iff.mpr (hall c (List.mem_of_mem_filter hc))
    rw [select_eq_ok fun c hc => isAllowed_iff.mpr (hall c hc), select_eq_ok hkept,
      filter_not_isIgnored_true, filter_not_isIgnored_false]
  · obtain ⟨before, c, after, rfl, hbefore, hc⟩ := exists_first_isRefused hall
    have hevents : ¬NamesEvents c.column := fun h => not_isRefused_of_namesEvents h hc
    have hkept : withoutEvents (before ++ c :: after) =
        withoutEvents before ++ c :: withoutEvents after := by
      simp [withoutEvents, hevents]
    have hfront : ∀ d ∈ withoutEvents before, ¬IsRefused kind d.column :=
      fun d hd => hbefore d (List.mem_of_mem_filter hd)
    rw [hkept, select_eq_error true hbefore hc, select_eq_error false hfront hc]

/-! ### Compiled filters -/

theorem compile_of_parseList {raw : Option String} {clauses : List Clause}
    (h : Clause.parseList raw = .ok clauses) (kind : MetricKind) (ignoreEvents : Bool) :
    compile raw kind ignoreEvents =
      (select kind ignoreEvents clauses).map (compileClauses kind) := by
  rw [compile, h]
  rfl

/-- Filters fail for their shape, or for the first clause whose column is refused. -/
theorem compile_eq_error_iff {raw : Option String} {kind : MetricKind} {ignoreEvents : Bool}
    {e : ValidationError} : compile raw kind ignoreEvents = .error e ↔
      ((∃ e', Clause.parseList raw = .error e') ∧ e = .invalidFilterShape) ∨
        ∃ before c after, Clause.parseList raw = .ok (before ++ c :: after) ∧
          (∀ d ∈ before, ¬IsRefused kind d.column) ∧ IsRefused kind c.column ∧
            e = .unsupportedFilter c.column := by
  cases hparse : Clause.parseList raw with
  | error e' =>
    have hcompile : compile raw kind ignoreEvents = .error e' := by
      rw [compile, hparse]
      rfl
    rw [hcompile, Clause.parseList_eq_error hparse]
    simp [eq_comm]
  | ok clauses =>
    have hmap : compile raw kind ignoreEvents = .error e ↔
        select kind ignoreEvents clauses = .error e := by
      rw [compile_of_parseList hparse]
      cases select kind ignoreEvents clauses <;> simp [Except.map]
    rw [hmap, select_eq_error_iff]
    simp

/-- The clauses that are compiled are those of the request, or those of them that are not on columns
of events. -/
theorem clauses_of_compile {raw : Option String} {kind : MetricKind} {ignoreEvents : Bool}
    {f : CompiledFilter} (h : compile raw kind ignoreEvents = .ok f) {clauses : List Clause}
    (hparse : Clause.parseList raw = .ok clauses) :
    f.clauses = if ignoreEvents then withoutEvents clauses else clauses := by
  obtain ⟨clauses', hparse', -, rfl⟩ := of_compile_eq_ok h
  obtain rfl : clauses = clauses' := Except.ok.inj (hparse.symm.trans hparse')
  cases ignoreEvents with
  | true => exact filter_not_isIgnored_true clauses
  | false => exact filter_not_isIgnored_false clauses

/-- **Leaving out the clauses on events and refusing columns do not interfere.** With and without
these clauses the filters of a request fail alike: for their shape if they are no list of clauses,
and otherwise for the first clause whose column is neither a meta column nor one of the kind's.  The
clauses that are compiled are those of the request, without those on events if these are left out.
And what the request compiles to without them is what its other clauses compile to, in whatever text
they are written. -/
theorem compile_ignoreEvents (raw : Option String) (kind : MetricKind) :
    (∀ e, compile raw kind true = .error e ↔ compile raw kind false = .error e) ∧
    (∀ ignoreEvents e, compile raw kind ignoreEvents = .error e ↔
      ((∃ e', Clause.parseList raw = .error e') ∧ e = .invalidFilterShape) ∨
        ∃ before c after, Clause.parseList raw = .ok (before ++ c :: after) ∧
          (∀ d ∈ before, ¬IsRefused kind d.column) ∧ IsRefused kind c.column ∧
            e = .unsupportedFilter c.column) ∧
    ∀ clauses, Clause.parseList raw = .ok clauses →
      (∀ ignoreEvents f, compile raw kind ignoreEvents = .ok f →
        f.clauses = if ignoreEvents then withoutEvents clauses else clauses) ∧
      (∃ others, Clause.parseList others = .ok (withoutEvents clauses)) ∧
      ∀ others, Clause.parseList others = .ok (withoutEvents clauses) →
        compile raw kind true = compile others kind false := by
  refine ⟨?_, ?_, ?_⟩
  · intro e
    rw [compile_eq_error_iff, compile_eq_error_iff]
  · intro ignoreEvents e
    exact compile_eq_error_iff
  · intro clauses hparse
    refine ⟨fun ignoreEvents f hf => clauses_of_compile hf hparse,
      ⟨_, Clause.parseList_render (withoutEvents clauses)⟩, ?_⟩
    intro others hothers
    rw [compile_of_parseList hparse, compile_of_parseList hothers, select_withoutEvents]

/-- The pages and the referrer of `mixedFilter` are compiled as they are without the event, and for
timings both are refused for the column of the referrer, although the event stands before it. -/
theorem compile_ignoreEvents_mixedFilter :
    let clauses := mixedClauses.insertIdx 2 ⟨"ev", some "signup", false⟩
    let others := some (Json.list Clause.toJson mixedClauses).render
    Clause.parseList (some mixedFilter) = .ok clauses ∧
      Clause.parseList others = .ok (withoutEvents clauses) ∧
      compile (some mixedFilter) .traffic true = compile others .traffic false ∧
      ∀ ignoreEvents, compile (some mixedFilter) .performance ignoreEvents =
        .error (.unsupportedFilter "ref") := by
  have hothers : Clause.parseList (some (Json.list Clause.toJson mixedClauses).render) =
      .ok (withoutEvents (mixedClauses.insertIdx 2 ⟨"ev", some "signup", false⟩)) := by
    rw [Clause.parseList_render]
    exact congrArg Except.ok (by decide)
  refine ⟨parseList_mixedFilter, hothers, ?_, ?_⟩
  · exact ((compile_ignoreEvents _ .traffic).2.2 _ parseList_mixedFilter).2.2 _ hothers
  · intro ignoreEvents
    refine ((compile_ignoreEvents _ .performance).2.1 ignoreEvents _).mpr (.inr ?_)
    exact ⟨(mixedClauses.insertIdx 2 ⟨"ev", some "signup", false⟩).take 3, ⟨"ref", none, true⟩, [],
      parseList_mixedFilter, by decide, by decide, rfl⟩

end SiteAnalytics.Filter
