import SiteAnalytics.Dict
import Mathlib.Data.List.Basic
import Mathlib.Data.List.Induction
import Mathlib.Data.List.Nodup
import Mathlib.Data.List.Perm.Basic

/-!
# Look-ups in dictionaries

What is found in a dictionary that was built from a list or from another dictionary. The last entry
of a key counts: `get?_ofList_of_mem` is the case of a list without repeated keys, and `get?_union`
says that the second dictionary wins.  A list that is in order is kept as it is (`entries_ofList`).
A filter tests what is found under a key (`get?_filter`), and how many entries pass depends on their
keys only (`size_filter_eq`).
-/

namespace SiteAnalytics.Dict

variable {α β : Type}

theorem get?_insert_self (d : Dict α) (key : String) (value : α) :
    (d.insert key value).get? key = some value := by
  rw [get?_insert, if_pos rfl]

theorem get?_insert_of_ne (d : Dict α) {key k : String} (h : k ≠ key) (value : α) :
    (d.insert key value).get? k = d.get? k := by
  rw [get?_insert, if_neg h]

theorem lookup_cons (k' : String) (v : α) (rest : List (String × α)) (k : String) :
    ((k', v) :: rest).lookup k = if k = k' then some v else rest.lookup k := by
  by_cases hk : k = k'
  · rw [if_pos hk, hk, lookup_entry_self]
  · rw [if_neg hk, lookup_entry_of_ne hk]

/-! ### Many entries -/

/-- Entries under other keys change nothing. -/
theorem get?_foldl_insert_of_notMem (d : Dict α) {entries : List (String × α)} {k : String}
    (h : k ∉ entries.map Prod.fst) :
    (entries.foldl (fun d e => d.insert e.1 e.2) d).get? k = d.get? k := by
  -- on the entries, for any dictionary that they are inserted into
  induction entries generalizing d with
  | nil => rfl
  | cons e rest ih =>
    rw [List.map_cons, List.mem_cons, not_or] at h
    rw [List.foldl_cons, ih _ h.2, get?_insert_of_ne d h.1]

/-- Of entries without repeated keys each is found, whatever was there before. -/
theorem get?_foldl_insert_of_mem (d : Dict α) {entries : List (String × α)}
    (hnodup : (entries.map Prod.fst).Nodup) {e : String × α} (he : e ∈ entries) :
    (entries.foldl (fun d e => d.insert e.1 e.2) d).get? e.1 = some e.2 := by
  induction entries generalizing d with
  | nil => contradiction
  | cons e' rest ih =>
    rw [List.map_cons, List.nodup_cons] at hnodup
    rw [List.foldl_cons]
    rcases List.mem_cons.mp he with rfl | he
    · -- the entries behind it have other keys
      rw [get?_foldl_insert_of_notMem _ hnodup.1, get?_insert_self]
    · exact ih _ hnodup.2 he

theorem get?_ofList_of_notMem {entries : List (String × α)} {k : String}
    (h : k ∉ entries.map Prod.fst) : (ofList entries).get? k = none :=
  get?_foldl_insert_of_notMem empty h

theorem get?_ofList_of_mem {entries : List (String × α)} (hnodup : (entries.map Prod.fst).Nodup)
    {e : String × α} (he : e ∈ entries) : (ofList entries).get? e.1 = some e.2 :=
  get?_foldl_insert_of_mem empty hnodup he

theorem lookup_eq_none_iff {entries : List (String × α)} {k : String} :
    entries.lookup k = none ↔ k ∉ entries.map Prod.fst := by
  rw [List.lookup_eq_none_iff]
  simp only [List.mem_map, bne_iff_ne, ne_eq]
  constructor
  · rintro h ⟨e, he, rfl⟩
    exact h e he rfl
  · intro h e he heq
    exact h ⟨e, he, heq.symm⟩

/-- In entries without repeated keys what is found under a key is its entry. -/
theorem lookup_eq_some_iff_mem {entries : List (String × α)}
    (hnodup : (entries.map Prod.fst).Nodup) {k : String} {v : α} :
    entries.lookup k = some v ↔ (k, v) ∈ entries := by
  induction entries with
  | nil => simp
  | cons e rest ih =>
    obtain ⟨k', v'⟩ := e
    rw [List.map_cons, List.nodup_cons] at hnodup
    by_cases hk : k = k'
    · -- the first entry is the only one of its key
      subst hk
      rw [lookup_entry_self, List.mem_cons]
      have hrest : (k, v) ∉ rest := fun hmem => hnodup.1 (List.mem_map.mpr ⟨(k, v), hmem, rfl⟩)
      simp [hrest, eq_comm]
    · rw [lookup_entry_of_ne hk, ih hnodup.2, List.mem_cons]
      simp [hk]

/-- In entries without repeated keys there is nothing under a key but what is found. -/
theorem filterMap_eq_toList_lookup {entries : List (String × α)}
    (hnodup : (entries.map Prod.fst).Nodup) (k : String) (f : α → Option β) :
    entries.filterMap (fun e => if e.1 = k then f e.2 else none) =
      ((entries.lookup k).bind f).toList := by
  induction entries with
  | nil => rfl
  | cons e rest ih =>
    obtain ⟨k', v⟩ := e
    rw [List.map_cons, List.nodup_cons] at hnodup
    by_cases hk : k' = k
    · subst hk
      have hrest : rest.filterMap (fun e => if e.1 = k' then f e.2 else none) = [] := by
        refine List.filterMap_eq_nil_iff.mpr fun e he => if_neg fun heq => hnodup.1 ?_
        exact List.mem_map.mpr ⟨e, he, heq⟩
      rw [List.filterMap_cons, hrest, lookup_entry_self, Option.bind_some]
      dsimp only
      rw [if_pos rfl]
      cases f v <;> rfl
    · rw [List.filterMap_cons, lookup_entry_of_ne (Ne.symm hk), ← ih hnodup.2]
      dsimp only
      rw [if_neg hk]

/-- A dictionary made of entries without repeated keys finds the same as the entries. -/
theorem get?_ofList {entries : List (String × α)} (hnodup : (entries.map Prod.fst).Nodup)
    (k : String) : (ofList entries).get? k = entries.lookup k := by
  cases hlookup : entries.lookup k with
  | none =>
    apply get?_ofList_of_notMem
    intro hmem
    obtain ⟨e, he, rfl⟩ := List.mem_map.mp hmem
    simpa using List.lookup_eq_none_iff.mp hlookup e he
  | some v => exact get?_ofList_of_mem hnodup ((lookup_eq_some_iff_mem hnodup).mp hlookup)

/-- Of several entries with one key the last is found. -/
theorem get?_ofList_eq_lookup_reverse (entries : List (String × α)) (k : String) :
    (ofList entries).get? k = entries.reverse.lookup k := by
  -- from behind, since the last entry is the one that counts
  induction entries using List.reverseRecOn with
  | nil => rfl
  | append_singleton entries e ih =>
    have hlast : ofList (entries ++ [e]) = (ofList entries).insert e.1 e.2 :=
      List.foldl_concat _ _ _ _
    rw [hlast, get?_insert, ih, List.reverse_append, List.reverse_singleton, List.singleton_append,
      lookup_cons]

/-! ### Entries in order -/

theorem mem_of_mem_insertEntry {key : String} {value : α} {entries : List (String × α)}
    {e : String × α} (h : e ∈ insertEntry key value entries) : e = (key, value) ∨ e ∈ entries := by
  induction entries with
  | nil => exact .inl (List.mem_singleton.mp h)
  | cons e' rest ih =>
    unfold insertEntry at h
    split_ifs at h
    · exact List.mem_cons.mp h
    · exact (List.mem_cons.mp h).imp_right (List.mem_cons_of_mem _)
    · rcases List.mem_cons.mp h with rfl | h
      · exact .inr List.mem_cons_self
      · exact (ih h).imp_right (List.mem_cons_of_mem _)

/-- A dictionary made of a list has no entries but those of the list. -/
theorem mem_of_mem_entries_ofList {entries : List (String × α)} {e : String × α}
    (h : e ∈ (ofList entries).entries) : e ∈ entries := by
  -- along the list, every entry is one that was there or one of the list
  have hrun (d : Dict α) (rest : List (String × α))
      (h : e ∈ (rest.foldl (fun d e => d.insert e.1 e.2) d).entries) :
      e ∈ d.entries ∨ e ∈ rest := by
    induction rest generalizing d with
    | nil => exact .inl h
    | cons e' rest ih =>
      rcases ih _ h with h | h
      · exact (mem_of_mem_insertEntry h).elim (fun h => .inr (h ▸ List.mem_cons_self)) .inl
      · exact .inr (List.mem_cons_of_mem _ h)
  rcases hrun empty entries h with h | h
  · contradiction
  · exact h

/-- An entry whose key comes after all others is the last one. -/
theorem insertEntry_of_forall_lt {key : String} {value : α} {entries : List (String × α)}
    (h : ∀ e ∈ entries, e.1 < key) : insertEntry key value entries = entries ++ [(key, value)] := by
  induction entries with
  | nil => rfl
  | cons e rest ih =>
    obtain ⟨hhead, hrest⟩ := List.forall_mem_cons.mp h
    have hne : key ≠ e.1 := fun heq => String.lt_irrefl key (heq ▸ hhead)
    -- the new key goes past the first entry
    have hnlt : ¬key < e.1 := fun hlt => String.lt_irrefl key (String.lt_trans hlt hhead)
    rw [insertEntry, if_neg hnlt, if_neg hne, ih hrest, List.cons_append]

/-- Entries in the order of their keys stay as they are. -/
theorem entries_ofList {entries : List (String × α)}
    (h : entries.Pairwise fun a b => a.1 < b.1) : (ofList entries).entries = entries := by
  -- every entry comes behind those that are there
  have hrun (d : Dict α) (rest : List (String × α))
      (h : (d.entries ++ rest).Pairwise fun a b => a.1 < b.1) :
      (rest.foldl (fun d e => d.insert e.1 e.2) d).entries = d.entries ++ rest := by
    induction rest generalizing d with
    | nil => exact (List.append_nil _).symm
    | cons e rest ih =>
      have hlast : (d.insert e.1 e.2).entries = d.entries ++ [e] :=
        insertEntry_of_forall_lt fun e' he' =>
          (List.pairwise_append.mp h).2.2 e' he' e List.mem_cons_self
      rw [List.foldl_cons, ih _ (by rwa [hlast, ← List.append_cons]), hlast, ← List.append_cons]
  exact hrun empty entries h

/-! ### Keys and union -/

/-- No key is repeated, since keys are in strict order. -/
theorem nodup_keys (d : Dict α) : d.keys.Nodup := by
  rw [keys, List.Nodup, List.pairwise_map]
  apply d.sorted.imp
  intro a b h heq
  rw [heq] at h
  exact String.lt_irrefl b.1 h

/-- What is found is an entry, and every entry is found. -/
theorem get?_eq_some_iff_mem {d : Dict α} {k : String} {v : α} :
    d.get? k = some v ↔ (k, v) ∈ d.entries :=
  lookup_eq_some_iff_mem d.nodup_keys

/-- Dictionaries in which the same is found under every key are the same. -/
theorem ext_get? {d d' : Dict α} (h : ∀ k, d.get? k = d'.get? k) : d = d' := by
  have hnodup (d : Dict α) : d.entries.Nodup := List.Nodup.of_map _ d.nodup_keys
  -- the two have the same entries, and there is but one order for them
  have hperm : d.entries.Perm d'.entries := by
    rw [List.perm_ext_iff_of_nodup (hnodup d) (hnodup d')]
    rintro ⟨k, v⟩
    rw [← get?_eq_some_iff_mem, ← get?_eq_some_iff_mem, h]
  have hentries : d.entries = d'.entries :=
    hperm.eq_of_pairwise (fun a b _ _ hab hba => absurd (String.lt_trans hab hba)
      (String.lt_irrefl _)) d.sorted d'.sorted
  cases d
  cases d'
  rw [Dict.mk.injEq]
  exact hentries

theorem size_pos_of_get? {d : Dict α} {k : String} {v : α} (h : d.get? k = some v) : 0 < d.size :=
  List.length_pos_of_mem (get?_eq_some_iff_mem.mp h)

theorem get?_eq_none_iff {d : Dict α} {k : String} : d.get? k = none ↔ k ∉ d.keys :=
  lookup_eq_none_iff

theorem mem_keys_iff {d : Dict α} {k : String} : k ∈ d.keys ↔ ∃ v, d.get? k = some v := by
  rw [← not_iff_not, ← get?_eq_none_iff, Option.eq_none_iff_forall_ne_some, not_exists]

/-- A dictionary made of entries has their keys. -/
theorem mem_keys_ofList_iff {entries : List (String × α)} {k : String} :
    k ∈ (ofList entries).keys ↔ k ∈ entries.map Prod.fst := by
  rw [← not_iff_not, ← get?_eq_none_iff, get?_ofList_eq_lookup_reverse, lookup_eq_none_iff,
    List.map_reverse, List.mem_reverse]

/-- The entries of the second dictionary count. -/
theorem get?_union (d other : Dict α) (k : String) :
    (d.union other).get? k = (other.get? k).or (d.get? k) := by
  cases hother : other.get? k with
  | none =>
    rw [Option.none_or]
    exact get?_foldl_insert_of_notMem d (get?_eq_none_iff.mp hother)
  | some v =>
    -- keys are not repeated, so that the entry is the last one of its key
    exact get?_foldl_insert_of_mem d other.nodup_keys (get?_eq_some_iff_mem.mp hother)

/-! ### Changed values and filters -/

/-- A changed value is found where the value was. -/
theorem get?_mapValues (f : String → α → β) (d : Dict α) (k : String) :
    (d.mapValues f).get? k = (d.get? k).map (f k) := by
  ext v
  rw [get?_eq_some_iff_mem, Option.map_eq_some_iff]
  simp only [get?_eq_some_iff_mem, mapValues, List.mem_map, Prod.mk.injEq, Prod.exists]
  constructor
  · rintro ⟨_, a, hmem, rfl, rfl⟩
    exact ⟨a, hmem, rfl⟩
  · rintro ⟨a, hmem, rfl⟩
    exact ⟨k, a, hmem, rfl, rfl⟩

/-- A value is found behind a filter if it passes. -/
theorem get?_filter (p : String → α → Bool) (d : Dict α) (k : String) :
    (d.filter p).get? k = (d.get? k).filter (p k) := by
  ext v
  rw [get?_eq_some_iff_mem, Option.filter_eq_some_iff, get?_eq_some_iff_mem]
  exact List.mem_filter

theorem get?_erase (d : Dict α) (key k : String) :
    (d.erase key).get? k = if k = key then none else d.get? k := by
  rw [erase, get?_filter]
  by_cases h : k = key
  · -- no entry of the erased key passes
    subst h
    simp
  · rw [if_neg h]
    cases d.get? k <;> simp [h]

/-- The keys behind a filter are those whose values pass. -/
theorem mem_keys_filter_iff {p : String → α → Bool} {d : Dict α} {k : String} :
    k ∈ (d.filter p).keys ↔ ∃ v, d.get? k = some v ∧ p k v = true := by
  rw [← not_iff_not, ← get?_eq_none_iff, get?_filter, Option.filter_eq_none_iff]
  simp

/-- Two dictionaries with the same keys behind a filter have the same number of entries there. -/
theorem size_filter_eq {p : String → α → Bool} {q : String → β → Bool} {d : Dict α} {d' : Dict β}
    (h : ∀ k, (∃ v, d.get? k = some v ∧ p k v = true) ↔ ∃ v, d'.get? k = some v ∧ q k v = true) :
    (d.filter p).size = (d'.filter q).size := by
  have hperm : (d.filter p).keys.Perm (d'.filter q).keys := by
    rw [List.perm_ext_iff_of_nodup (nodup_keys _) (nodup_keys _)]
    intro k
    rw [mem_keys_filter_iff, mem_keys_filter_iff]
    exact h k
  simpa [size, keys] using hperm.length_eq

end SiteAnalytics.Dict
