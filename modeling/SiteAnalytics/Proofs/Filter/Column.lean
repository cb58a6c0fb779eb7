import SiteAnalytics.Filter.Column
import Mathlib.Data.List.Basic

/-!
# Column classes as text

Which columns have which class.  A class that was read off a column is written as that column again
(`column_ofColumn`), and a look-up under a key is read off what it is written as
(`ofColumn_metaLookup`).  So the two questions that filters ask about a column are questions about
its text: whether it is one of events (`isEventColumn_ofColumn_iff`), and whether it is that of a
dimension (`ofColumn_eq_plain_iff`).
-/

namespace SiteAnalytics

/-! ### Columns by their text -/

/-- The column refers to key-value pairs: to all keys, to all values, or to the value under one
key, which is not empty. -/
def NamesPairs (lead column : String) : Prop :=
  column = lead ++ "key" ∨ column = lead ++ "value" ∨
    ∃ key, key ≠ "" ∧ column = lead ++ "key:" ++ key

/-- The column is that of the names of events, or refers to key-value pairs of events. -/
def NamesEvents (column : String) : Prop := column = "ev" ∨ NamesPairs "ev:" column

/-- The column refers to events or to key-value pairs of pageviews. -/
def IsMeta (column : String) : Prop := NamesEvents column ∨ NamesPairs "tag:" column

namespace ColumnClass

/-! ### Reading a class -/

/-- What comes after a lead is the rest of the text. -/
theorem after?_eq_some_iff {lead cs rest : List Char} :
    after? lead cs = some rest ↔ cs = lead ++ rest := by
  rw [after?]
  constructor
  · intro h
    split_ifs at h with hlead
    obtain ⟨tail, rfl⟩ := List.isPrefixOf_iff_prefix.mp hlead
    obtain rfl := Option.some.inj h
    rw [List.drop_left]
  · rintro rfl
    rw [if_pos (List.isPrefixOf_iff_prefix.mpr (List.prefix_append lead rest)), List.drop_left]

/-- A class in a scope is that of all keys, of all values, or of what is under one key. -/
theorem of_ofScoped? {scope : MetaScope} {rest : List Char} {cls : ColumnClass}
    (h : ofScoped? scope rest = some cls) :
    (cls = metaKey scope ∧ rest = "key".toList) ∨ (cls = metaValue scope ∧ rest = "value".toList) ∨
      ∃ key, key ≠ "" ∧ cls = metaLookup scope key ∧ rest = "key:".toList ++ key.toList := by
  unfold ofScoped? at h
  split at h
  · rename_i c cs hafter
    obtain rfl := Option.some.inj h
    refine .inr (.inr ⟨String.ofList (c :: cs), ?_, rfl, ?_⟩)
    · simp
    · rw [after?_eq_some_iff.mp hafter, String.toList_ofList (l := c :: cs)]
  · split_ifs at h with hkey hvalue
    · exact .inl ⟨(Option.some.inj h).symm, hkey⟩
    · exact .inr (.inl ⟨(Option.some.inj h).symm, hvalue⟩)

/-- A class of a scope is written as the text that it was read off. -/
theorem of_ofScope? {scope : MetaScope} {cs : List Char} {cls : ColumnClass}
    (h : ofScope? scope cs = some cls) :
    (cls = metaKey scope ∨ cls = metaValue scope ∨ ∃ key, key ≠ "" ∧ cls = metaLookup scope key) ∧
      cls.column = String.ofList cs := by
  obtain ⟨rest, hrest, hcls⟩ := Option.bind_eq_some_iff.mp h
  rw [after?_eq_some_iff.mp hrest]
  rcases of_ofScoped? hcls with ⟨rfl, rfl⟩ | ⟨rfl, rfl⟩ | ⟨key, hkey, rfl, rfl⟩
  · exact ⟨.inl rfl, rfl⟩
  · exact ⟨.inr (.inl rfl), rfl⟩
  · exact ⟨.inr (.inr ⟨key, hkey, rfl⟩), by rw [column, List.append_assoc]⟩

/-- How a class can come about: as the last resort it is that of a dimension. -/
theorem ofColumn_cases (s : String) :
    (ofColumn s = eventName ∧ s = "ev") ∨
      (∃ scope, ofScope? scope s.toList = some (ofColumn s)) ∨ ofColumn s = plain s := by
  unfold ofColumn
  simp only
  -- the name of events comes first, then the two scopes, events before pageviews
  split_ifs with hev
  · exact .inl ⟨rfl, String.toList_inj.mp hev⟩
  · split
    · rename_i cls hcls
      exact .inr (.inl ⟨.event, hcls⟩)
    · cases htag : ofScope? .tag s.toList with
      | none => exact .inr (.inr rfl)
      | some cls => exact .inr (.inl ⟨.tag, htag⟩)

/-- A class is written as the column that it was read off. -/
theorem column_ofColumn (s : String) : (ofColumn s).column = s := by
  rcases ofColumn_cases s with ⟨h, rfl⟩ | ⟨scope, h⟩ | h
  · rw [h]
    rfl
  · rw [(of_ofScope? h).2, String.ofList_toList]
  · rw [h]
    rfl

theorem ofColumn_injective : Function.Injective ofColumn :=
  Function.LeftInverse.injective column_ofColumn

/-- No key is empty. -/
theorem ne_empty_of_ofColumn {s key : String} {scope : MetaScope}
    (h : ofColumn s = metaLookup scope key) : key ≠ "" := by
  rcases ofColumn_cases s with ⟨h', -⟩ | ⟨scope', h'⟩ | h'
  · rw [h] at h'
    contradiction
  · rw [h] at h'
    rcases (of_ofScope? h').1 with h' | h' | ⟨key', hne, h'⟩
    · contradiction
    · contradiction
    · rwa [(metaLookup.inj h').2]
  · rw [h] at h'
    contradiction

/-! ### Writing a class -/

/-- A look-up under a key is read within its scope. -/
theorem ofScope?_metaLookup (scope : MetaScope) {key : String} (h : key ≠ "") :
    ofScope? scope (metaLookup scope key).column.toList = some (metaLookup scope key) := by
  have hafter : after? scope.lead (metaLookup scope key).column.toList =
      some ("key:".toList ++ key.toList) := by
    rw [after?_eq_some_iff, column, String.toList_ofList, List.append_assoc]
  have hkey : after? "key:".toList ("key:".toList ++ key.toList) = some key.toList :=
    after?_eq_some_iff.mpr rfl
  obtain ⟨c, cs, hcs⟩ :=
    List.exists_cons_of_ne_nil (fun hnil => h (String.toList_eq_nil_iff.mp hnil))
  rw [ofScope?, hafter, Option.bind_some, ofScoped?, hkey, hcs]
  simp only
  rw [← hcs, String.ofList_toList]

/-- A look-up under a key that is not empty is read off what it is written as. -/
theorem ofColumn_metaLookup (scope : MetaScope) {key : String} (h : key ≠ "") :
    ofColumn (metaLookup scope key).column = metaLookup scope key := by
  have hscope := ofScope?_metaLookup scope h
  unfold ofColumn
  -- the scope of events is tried first, and its lead is not that of the other
  cases scope with
  | event =>
    have hne : (metaLookup .event key).column.toList ≠ "ev".toList := by
      simp [column, MetaScope.lead]
    simp only [if_neg hne, hscope]
  | tag =>
    have hne : (metaLookup .tag key).column.toList ≠ "ev".toList := by
      simp [column, MetaScope.lead]
    have hevent : ofScope? .event (metaLookup .tag key).column.toList = none := by
      simp [ofScope?, after?, column, MetaScope.lead]
    simp only [if_neg hne, hevent, hscope, Option.getD_some]

/-! ### The questions of filters -/

/-- A class has a scope iff its text begins with the lead of that scope and refers to pairs. -/
theorem scope?_ofColumn_iff (scope : MetaScope) {s : String} :
    (ofColumn s).scope? = some scope ↔ NamesPairs (String.ofList scope.lead) s := by
  have hlookup (key : String) : (metaLookup scope key).column =
      String.ofList scope.lead ++ "key:" ++ key := by
    rw [column, String.ofList_append, String.ofList_append, String.ofList_toList,
      String.ofList_toList]
  constructor
  · intro h
    rw [← column_ofColumn s]
    -- three classes have a scope
    cases hcls : ofColumn s <;> rw [hcls] at h <;> simp [scope?] at h <;> subst h
    case metaKey => exact .inl String.ofList_append
    case metaValue => exact .inr (.inl String.ofList_append)
    case metaLookup key => exact .inr (.inr ⟨key, ne_empty_of_ofColumn hcls, hlookup key⟩)
  · rintro (rfl | rfl | ⟨key, hkey, rfl⟩)
    · cases scope <;> decide
    · cases scope <;> decide
    · rw [← hlookup, ofColumn_metaLookup scope hkey]
      rfl

theorem ofColumn_eq_eventName_iff {s : String} : ofColumn s = eventName ↔ s = "ev" := by
  constructor
  · intro h
    rw [← column_ofColumn s, h]
    rfl
  · rintro rfl
    rfl

/-- Columns of events are told by their text. -/
theorem isEventColumn_ofColumn_iff {s : String} :
    (ofColumn s).isEventColumn = true ↔ NamesEvents s := by
  have hscope : NamesPairs "ev:" s ↔ (ofColumn s).scope? = some .event :=
    (scope?_ofColumn_iff .event).symm
  rw [NamesEvents, hscope, ← ofColumn_eq_eventName_iff]
  cases ofColumn s with
  | plain => simp [isEventColumn, scope?]
  | eventName => simp [isEventColumn]
  | metaKey scope => cases scope <;> simp [isEventColumn, scope?]
  | metaValue scope => cases scope <;> simp [isEventColumn, scope?]
  | metaLookup scope => cases scope <;> simp [isEventColumn, scope?]

/-- Every column is that of a dimension, unless its text has one of the special forms. -/
theorem ofColumn_eq_plain_iff {s : String} : ofColumn s = plain s ↔ ¬IsMeta s := by
  have hscope : NamesPairs "tag:" s ↔ (ofColumn s).scope? = some .tag :=
    (scope?_ofColumn_iff .tag).symm
  have hcolumn := column_ofColumn s
  rw [IsMeta, ← isEventColumn_ofColumn_iff, hscope]
  -- only a plain class is neither one of events nor in a scope
  cases hcls : ofColumn s with
  | plain column =>
    rw [hcls] at hcolumn
    obtain rfl : column = s := hcolumn
    simp [isEventColumn, scope?]
  | eventName => simp [isEventColumn]
  | metaKey scope => cases scope <;> simp [isEventColumn, scope?]
  | metaValue scope => cases scope <;> simp [isEventColumn, scope?]
  | metaLookup scope => cases scope <;> simp [isEventColumn, scope?]

end ColumnClass

instance (column : String) : Decidable (NamesEvents column) :=
  decidable_of_iff _ ColumnClass.isEventColumn_ofColumn_iff

instance (column : String) : Decidable (IsMeta column) :=
  decidable_of_iff (¬ColumnClass.ofColumn column = .plain column)
    (not_iff_comm.mp ColumnClass.ofColumn_eq_plain_iff.symm)

end SiteAnalytics
