import SiteAnalytics.Filter.Compile
import SiteAnalytics.Proofs.Dict
import SiteAnalytics.Proofs.Sql.Token
import Mathlib.Data.List.Basic

/-!
# Generated names

The names under which a filter binds its values. They are made of two numbers, so it has to be seen
that different numbers give different names: `valueParam_inj`, `keyParam_inj` and
`valueParam_ne_keyParam`. It follows that the entries of `paramsFrom` have different names
(`nodup_paramsFrom`), so that each is what the compiled parameters hold under its name
(`get?_of_mem_paramsFrom`).

Generated names are names of query text, and begin with `qf_`, which no name of the scope does.
-/

namespace SiteAnalytics.Filter

open Sql

/-! ### Numbers in names -/

theorem toDigits_injective {m n : Nat} (h : Nat.toDigits 10 m = Nat.toDigits 10 n) : m = n := by
  rw [← Nat.ofDigitChars_ten_toDigits (n := m), h, Nat.ofDigitChars_ten_toDigits]

theorem notMem_toDigits {c : Char} (hc : c.isDigit = false) (n : Nat) :
    c ∉ Nat.toDigits 10 n := by
  intro h
  have hdigit := Nat.isDigit_of_mem_toDigits (by decide) (by decide) h
  rw [hc] at hdigit
  contradiction

/-- The characters of the name of a value: its group, an underscore and its place. -/
theorem toList_valueParam (group index : Nat) : (valueParam group index).toList =
    "qf_".toList ++ (Nat.toDigits 10 group ++ '_' :: Nat.toDigits 10 index) := by
  simp [valueParam]

/-- The characters of the name of a key: its group and a `k`. -/
theorem toList_keyParam (group : Nat) : (keyParam group).toList =
    "qf_".toList ++ (Nat.toDigits 10 group ++ ['_', 'k']) := by
  simp [keyParam]

/-- The number in front of the last underscore and what follows it can be told apart. -/
theorem digits_underscore_inj {m n : Nat} {tail tail' : List Char} (h : '_' ∉ tail) :
    Nat.toDigits 10 m ++ '_' :: tail = Nat.toDigits 10 n ++ '_' :: tail' ↔
      m = n ∧ tail = tail' := by
  rw [List.append_cons_inj_of_notMem (notMem_toDigits rfl m) h]
  constructor
  · rintro ⟨hdigits, -, htail⟩
    exact ⟨toDigits_injective hdigits, htail⟩
  · rintro ⟨rfl, rfl⟩
    exact ⟨rfl, rfl, rfl⟩

/-! ### Different numbers, different names -/

/-- Names of values are different for different groups or places. -/
theorem valueParam_inj {group index group' index' : Nat} :
    valueParam group index = valueParam group' index' ↔ group = group' ∧ index = index' := by
  constructor
  · intro h
    have hchars := congrArg String.toList h
    rw [toList_valueParam, toList_valueParam, List.append_cancel_left_eq,
      digits_underscore_inj (notMem_toDigits rfl index)] at hchars
    exact ⟨hchars.1, toDigits_injective hchars.2⟩
  · rintro ⟨rfl, rfl⟩
    rfl

theorem keyParam_inj {group group' : Nat} : keyParam group = keyParam group' ↔ group = group' := by
  constructor
  · intro h
    have hchars := congrArg String.toList h
    rw [toList_keyParam, toList_keyParam, List.append_cancel_left_eq,
      digits_underscore_inj (by decide)] at hchars
    exact hchars.1
  · rintro rfl
    rfl

/-- No value has the name of a key. -/
theorem valueParam_ne_keyParam (group index group' : Nat) :
    valueParam group index ≠ keyParam group' := by
  intro h
  have hchars := congrArg String.toList h
  rw [toList_valueParam, toList_keyParam, List.append_cancel_left_eq,
    digits_underscore_inj (notMem_toDigits rfl index)] at hchars
  -- behind the last underscore stands a number in the one name and `k` in the other
  have hk : 'k' ∉ Nat.toDigits 10 index := notMem_toDigits rfl index
  rw [hchars.2] at hk
  simp at hk

/-! ### Names of query text -/

/-- The name is one that filters generate. -/
def IsGenerated (name : String) : Prop := "qf_".toList <+: name.toList

instance (name : String) : Decidable (IsGenerated name) :=
  inferInstanceAs (Decidable ("qf_".toList <+: name.toList))

theorem isGenerated_valueParam (group index : Nat) : IsGenerated (valueParam group index) := by
  rw [IsGenerated, toList_valueParam]
  exact List.prefix_append _ _

theorem isGenerated_keyParam (group : Nat) : IsGenerated (keyParam group) := by
  rw [IsGenerated, toList_keyParam]
  exact List.prefix_append _ _

theorem allWord_toDigits (n : Nat) : allWord (Nat.toDigits 10 n) = true := by
  rw [allWord_iff]
  intro c hc
  have hdigit := Nat.isDigit_of_mem_toDigits (by decide) (by decide) hc
  have hblank : c ≠ ' ' := by
    rintro rfl
    contradiction
  simp [CharClass.of, hblank, Char.isAlphanum, hdigit]

/-- A generated word is a name, neither a keyword nor a number. -/
theorem IsGenerated.isName {name : String} (h : IsGenerated name)
    (hword : allWord name.toList = true) : IsName name := by
  obtain ⟨tail, htail⟩ := h
  have hkeyword : Token.keywords.lookup name = none := by
    rw [List.lookup_eq_none_iff]
    intro e he
    rw [bne_iff_ne]
    rintro rfl
    -- no keyword begins like that
    rw [Token.keywords] at he
    simp only [List.mem_cons, List.not_mem_nil, or_false] at he
    rcases he with rfl | rfl | rfl | rfl | rfl <;> simp at htail
  have hdigits : name.toList.all Char.isDigit = false := by simp [← htail]
  refine ⟨by simp [← htail], hword, ?_⟩
  simp only [Token.ofWord, String.ofList_toList, hkeyword, hdigits, Bool.false_eq_true, if_false]

/-- The name of a value is a name of query text. -/
theorem isName_valueParam (group index : Nat) : IsName (valueParam group index) := by
  apply (isGenerated_valueParam group index).isName
  rw [toList_valueParam, allWord_append, allWord_append, allWord_cons, allWord_toDigits,
    allWord_toDigits]
  decide

theorem isName_keyParam (group : Nat) : IsName (keyParam group) := by
  apply (isGenerated_keyParam group).isName
  rw [toList_keyParam, allWord_append, allWord_append, allWord_toDigits]
  decide

/-! ### The names of a filter -/

/-- The values of a group are those of its members that are not null, each under its place. -/
theorem mem_groupValues_iff {group index : Nat} {members : List Clause}
    {e : String × ParamValue} :
    e ∈ groupValues group index members ↔ ∃ i clause v, members[i]? = some clause ∧
      clause.value = some v ∧ e = (valueParam group (index + i), .text v) := by
  -- on the members, for the place that the first of them takes
  induction members generalizing index with
  | nil => simp [groupValues]
  | cons clause rest ih =>
    rw [groupValues, List.mem_append, ih]
    constructor
    · rintro (he | ⟨i, clause', v, hi, hv, rfl⟩)
      · cases hv : clause.value with
        | none => simp [hv] at he
        | some v =>
          refine ⟨0, clause, v, rfl, hv, ?_⟩
          simpa [hv] using he
      · refine ⟨i + 1, clause', v, hi, hv, ?_⟩
        rw [Nat.add_right_comm, Nat.add_assoc]
    · rintro ⟨i, clause', v, hi, hv, rfl⟩
      cases i with
      | zero =>
        obtain rfl : clause = clause' := by simpa using hi
        exact .inl (by simp [hv])
      | succ i =>
        refine .inr ⟨i, clause', v, hi, hv, ?_⟩
        rw [Nat.add_right_comm, Nat.add_assoc]

/-- A group binds a key, if its column looks one up, and its values. -/
theorem mem_groupParams_iff {group : Nat} {column : String} {members : List Clause}
    {e : String × ParamValue} :
    e ∈ groupParams group column members ↔
      (∃ scope key, ColumnClass.ofColumn column = .metaLookup scope key ∧
        e = (keyParam group, .text key)) ∨ e ∈ groupValues group 0 members := by
  rw [groupParams, List.mem_append]
  apply or_congr_left
  cases ColumnClass.ofColumn column <;> simp

/-- Parameters are bound group by group, under the numbers of the groups. -/
theorem mem_paramsFrom_iff {group : Nat} {groups : List (String × List Clause)}
    {e : String × ParamValue} :
    e ∈ paramsFrom group groups ↔ ∃ g column members, groups[g]? = some (column, members) ∧
      e ∈ groupParams (group + g) column members := by
  -- on the groups, for the number that the first of them takes
  induction groups generalizing group with
  | nil => simp [paramsFrom]
  | cons head rest ih =>
    obtain ⟨column, members⟩ := head
    rw [paramsFrom, List.mem_append, ih]
    constructor
    · rintro (he | ⟨g, column', members', hg, he⟩)
      · exact ⟨0, column, members, rfl, he⟩
      · refine ⟨g + 1, column', members', hg, ?_⟩
        rwa [← Nat.add_assoc, Nat.add_right_comm]
    · rintro ⟨g, column', members', hg, he⟩
      cases g with
      | zero =>
        obtain ⟨rfl, rfl⟩ : column = column' ∧ members = members' := by simpa using hg
        exact .inl he
      | succ g =>
        refine .inr ⟨g, column', members', hg, ?_⟩
        rwa [Nat.add_right_comm, Nat.add_assoc]

/-- A name of a group is that of its key or that of one of its values. -/
theorem name_of_mem_groupParams {group : Nat} {column : String} {members : List Clause}
    {e : String × ParamValue} (h : e ∈ groupParams group column members) :
    e.1 = keyParam group ∨ ∃ index, e.1 = valueParam group index := by
  rcases mem_groupParams_iff.mp h with ⟨scope, key, -, rfl⟩ | h
  · exact .inl rfl
  · obtain ⟨i, clause, v, -, -, rfl⟩ := mem_groupValues_iff.mp h
    exact .inr ⟨0 + i, rfl⟩

/-- A name belongs to one group only. -/
theorem group_eq_of_name_eq {group group' : Nat} {column column' : String}
    {members members' : List Clause} {e e' : String × ParamValue}
    (h : e ∈ groupParams group column members) (h' : e' ∈ groupParams group' column' members')
    (heq : e.1 = e'.1) : group = group' := by
  -- both names show the number of their group
  rcases name_of_mem_groupParams h with hk | ⟨i, hi⟩ <;>
    rcases name_of_mem_groupParams h' with hk' | ⟨i', hi'⟩
  · exact keyParam_inj.mp (by rw [← hk, heq, hk'])
  · exact absurd (by rw [← hi', ← heq, hk]) (valueParam_ne_keyParam group' i' group)
  · exact absurd (by rw [← hi, heq, hk']) (valueParam_ne_keyParam group i group')
  · exact (valueParam_inj.mp (by rw [← hi, heq, hi'])).1

/-- The values of a group have different names. -/
theorem nodup_groupValues (group index : Nat) (members : List Clause) :
    ((groupValues group index members).map Prod.fst).Nodup := by
  induction members generalizing index with
  | nil => simp [groupValues]
  | cons clause rest ih =>
    rw [groupValues, List.map_append, List.nodup_append]
    refine ⟨?_, ih (index + 1), ?_⟩
    · cases clause.value <;> simp
    · -- later values have larger numbers
      intro name hname name' hname' heq
      obtain ⟨e, he, rfl⟩ := List.mem_map.mp hname'
      obtain ⟨i, _, _, -, -, rfl⟩ := mem_groupValues_iff.mp he
      cases hv : clause.value with
      | none => simp [hv] at hname
      | some v =>
        obtain rfl : name = valueParam group index := by simpa [hv] using hname
        have := (valueParam_inj.mp heq).2
        omega

theorem nodup_groupParams (group : Nat) (column : String) (members : List Clause) :
    ((groupParams group column members).map Prod.fst).Nodup := by
  have hvalues := nodup_groupValues group 0 members
  unfold groupParams
  cases ColumnClass.ofColumn column with
  | metaLookup scope key =>
    -- the name of the key differs from those of the values
    simp only [List.singleton_append, List.map_cons, List.nodup_cons]
    refine ⟨?_, hvalues⟩
    intro hmem
    obtain ⟨e, he, heq⟩ := List.mem_map.mp hmem
    obtain ⟨i, _, _, -, -, rfl⟩ := mem_groupValues_iff.mp he
    exact valueParam_ne_keyParam group (0 + i) group heq
  | _ => simpa using hvalues

/-- No two parameters of a filter have one name. -/
theorem nodup_paramsFrom (group : Nat) (groups : List (String × List Clause)) :
    ((paramsFrom group groups).map Prod.fst).Nodup := by
  induction groups generalizing group with
  | nil => simp [paramsFrom]
  | cons head rest ih =>
    obtain ⟨column, members⟩ := head
    rw [paramsFrom, List.map_append, List.nodup_append]
    refine ⟨nodup_groupParams group column members, ih (group + 1), ?_⟩
    -- later groups have larger numbers
    intro name hname name' hname' heq
    obtain ⟨e, he, rfl⟩ := List.mem_map.mp hname
    obtain ⟨e', he', rfl⟩ := List.mem_map.mp hname'
    obtain ⟨g, _, _, -, he'⟩ := mem_paramsFrom_iff.mp he'
    have := group_eq_of_name_eq he he' heq
    omega

/-- Each parameter that is generated is what the parameters of the filter hold. -/
theorem get?_of_mem_paramsFrom {groups : List (String × List Clause)} {e : String × ParamValue}
    (h : e ∈ paramsFrom 0 groups) : (Dict.ofList (paramsFrom 0 groups)).get? e.1 = some e.2 :=
  Dict.get?_ofList_of_mem (nodup_paramsFrom 0 groups) h

/-- All names that filters bind are generated. -/
theorem isGenerated_of_mem_paramsFrom {group : Nat} {groups : List (String × List Clause)}
    {e : String × ParamValue} (h : e ∈ paramsFrom group groups) : IsGenerated e.1 := by
  obtain ⟨g, column, members, -, he⟩ := mem_paramsFrom_iff.mp h
  rcases name_of_mem_groupParams he with hk | ⟨i, hi⟩
  · rw [hk]
    exact isGenerated_keyParam (group + g)
  · rw [hi]
    exact isGenerated_valueParam (group + g) i

end SiteAnalytics.Filter
