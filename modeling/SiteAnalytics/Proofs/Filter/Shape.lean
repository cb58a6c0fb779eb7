import SiteAnalytics.Proofs.Filter.Column
import SiteAnalytics.Proofs.Filter.Group
import Mathlib.Data.List.Forall2

/-!
# The shape of filters

Two lists of clauses have one shape if they can be told apart by values and keys of look-ups only:
clause by clause their columns are of one class, they agree on whether there is a value and on
exclusion, and two clauses share a column in the one list iff they do in the other.

`SameShape.compileClauses` says that filters of one shape compile to one predicate and look at the
same events, so that values and keys make no difference to a query beside its parameters. The
proof runs the grouping of both lists side by side.
-/

namespace SiteAnalytics

/-- The class of a column without the look-up's key. The scope of a look-up says nothing either:
look-ups read the same pairs in both. -/
def ColumnClass.shape : ColumnClass → ColumnClass
  | metaLookup _ _ => metaLookup .event ""
  | cls => cls

/-- The clauses differ in the value asked for and in the key looked up at most. -/
structure Clause.SameShape (c d : Clause) : Prop where
  shape : (ColumnClass.ofColumn c.column).shape = (ColumnClass.ofColumn d.column).shape
  value : c.value.isSome = d.value.isSome
  exclusive : c.exclusive = d.exclusive

namespace Filter

/-- The lists agree clause by clause and in which clauses share a column. -/
structure SameShape (clauses others : List Clause) : Prop where
  forall₂ : List.Forall₂ Clause.SameShape clauses others
  column_iff : ∀ p ∈ clauses.zip others, ∀ q ∈ clauses.zip others,
    p.1.column = q.1.column ↔ p.2.column = q.2.column

/-! ### Conditions -/

theorem targetsCustomEvents_shape (cls : ColumnClass) :
    cls.shape.targetsCustomEvents = cls.targetsCustomEvents := by
  cases cls <;> rfl

/-- The condition of a clause shows its shape only. -/
theorem condition?_eq {cls other : ColumnClass} {c d : Clause} (hcls : cls.shape = other.shape)
    (h : c.SameShape d) (p keyParam : String) :
    condition? cls c p keyParam = condition? other d p keyParam := by
  -- a condition does not show the key of a look-up, only the name it is bound to
  have hshape (cls : ColumnClass) (clause : Clause) :
      condition? cls clause p keyParam = condition? cls.shape clause p keyParam := by
    cases cls <;> rfl
  rw [hshape cls, hshape other, hcls]
  unfold condition?
  have hvalue := h.value
  cases hc : c.value <;> cases hd : d.value <;> simp [hc, hd] at hvalue <;> simp [h.exclusive]

theorem groupConditions_eq {cls other : ColumnClass} (hcls : cls.shape = other.shape)
    {members others : List Clause} (h : List.Forall₂ Clause.SameShape members others)
    (group index : Nat) :
    groupConditions cls group index members = groupConditions other group index others := by
  induction h generalizing index with
  | nil => rfl
  | cons hhead _ ih => rw [groupConditions, groupConditions, condition?_eq hcls hhead, ih]

/-! ### Groups side by side -/

/-- Two groups stem from clauses at the same places of the lists that `pairs` joins. -/
structure SameGroup (pairs : List (Clause × Clause)) (g h : String × List Clause) : Prop where
  column : ∃ p ∈ pairs, p.1.column = g.1 ∧ p.2.column = h.1 ∧ p.1.SameShape p.2
  members : List.Forall₂ Clause.SameShape g.2 h.2

theorem SameGroup.shape {pairs : List (Clause × Clause)} {g h : String × List Clause}
    (hgroup : SameGroup pairs g h) :
    (ColumnClass.ofColumn g.1).shape = (ColumnClass.ofColumn h.1).shape := by
  obtain ⟨p, -, hg, hh, hshape⟩ := hgroup.column
  rw [← hg, ← hh, hshape.shape]

/-- Clauses at one place are added to groups at one place. -/
theorem forall₂_addToGroups {pairs : List (Clause × Clause)}
    (hpairs : ∀ p ∈ pairs, ∀ q ∈ pairs, p.1.column = q.1.column ↔ p.2.column = q.2.column)
    {c d : Clause} (hmem : (c, d) ∈ pairs) (hshape : c.SameShape d)
    {groups others : List (String × List Clause)}
    (h : List.Forall₂ (SameGroup pairs) groups others) :
    List.Forall₂ (SameGroup pairs) (addToGroups c groups) (addToGroups d others) := by
  induction h with
  | nil =>
    rw [addToGroups, addToGroups]
    exact .cons ⟨⟨(c, d), hmem, rfl, rfl, hshape⟩, .cons hshape .nil⟩ .nil
  | @cons g g' rest rest' hgroup hrest ih =>
    obtain ⟨p, hp, hg, hg', hpshape⟩ := hgroup.column
    -- the clause has the column of the one group iff it has that of the other
    have hcol : g.1 = c.column ↔ g'.1 = d.column := by
      rw [← hg, ← hg']
      exact hpairs p hp (c, d) hmem
    rw [addToGroups, addToGroups]
    by_cases hc : g.1 = c.column
    · rw [if_pos hc, if_pos (hcol.mp hc)]
      refine .cons ⟨hgroup.column, ?_⟩ hrest
      exact List.rel_append hgroup.members (.cons hshape .nil)
    · rw [if_neg hc, if_neg (hc ∘ hcol.mpr)]
      exact .cons hgroup ih

theorem SameShape.forall₂_groupByColumn {clauses others : List Clause}
    (h : SameShape clauses others) :
    List.Forall₂ (SameGroup (clauses.zip others)) (groupByColumn clauses)
      (groupByColumn others) := by
  -- along the lists, the groups so far correspond
  have hrun (rest rest' : List Clause) (hrest : List.Forall₂ Clause.SameShape rest rest')
      (hmem : rest.zip rest' ⊆ clauses.zip others) (groups groups' : List (String × List Clause))
      (hgroups : List.Forall₂ (SameGroup (clauses.zip others)) groups groups') :
      List.Forall₂ (SameGroup (clauses.zip others))
        (rest.foldl (fun groups c => addToGroups c groups) groups)
        (rest'.foldl (fun groups c => addToGroups c groups) groups') := by
    induction hrest generalizing groups groups' with
    | nil => exact hgroups
    | cons hhead _ ih =>
      rw [List.zip_cons_cons, List.cons_subset] at hmem
      exact ih hmem.2 _ _ (forall₂_addToGroups h.column_iff hmem.1 hhead hgroups)
  exact hrun clauses others h.forall₂ (List.Subset.refl _) [] [] .nil

/-! ### Predicates -/

theorem predicateFrom_eq {pairs : List (Clause × Clause)}
    {groups others : List (String × List Clause)}
    (h : List.Forall₂ (SameGroup pairs) groups others) (group : Nat) :
    predicateFrom group groups = predicateFrom group others := by
  induction h generalizing group with
  | nil => rfl
  | cons hhead _ ih =>
    rw [predicateFrom, predicateFrom, groupConditions_eq hhead.shape hhead.members, ih]

theorem any_targetsCustomEvents_eq {pairs : List (Clause × Clause)}
    {groups others : List (String × List Clause)}
    (h : List.Forall₂ (SameGroup pairs) groups others) :
    (groups.any fun g => (ColumnClass.ofColumn g.1).targetsCustomEvents) =
      others.any fun g => (ColumnClass.ofColumn g.1).targetsCustomEvents := by
  induction h with
  | nil => rfl
  | cons hhead _ ih =>
    rw [List.any_cons, List.any_cons, ih, ← targetsCustomEvents_shape, hhead.shape,
      targetsCustomEvents_shape]

/-- Filters of one shape have one predicate and look at the same events. -/
theorem SameShape.compileClauses {clauses others : List Clause} (h : SameShape clauses others)
    (kind kind' : MetricKind) :
    (compileClauses kind clauses).predicate = (Filter.compileClauses kind' others).predicate ∧
      (Filter.compileClauses kind clauses).customEvents =
        (Filter.compileClauses kind' others).customEvents :=
  ⟨predicateFrom_eq h.forall₂_groupByColumn 0, any_targetsCustomEvents_eq h.forall₂_groupByColumn⟩

end Filter

end SiteAnalytics
