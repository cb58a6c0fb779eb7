/-!
# Dictionaries

A `Dict` maps texts to values and lists its entries in the order of their keys. Texts are ordered
by code point, which is the order of their UTF-8 bytes. The entries are kept as a list that is
strictly sorted by key, and the type carries the proof, so that two dictionaries with the same
look-ups are the same list.

`get?_insert` is the law of `insert`; every other operation is built from it.
-/

namespace SiteAnalytics

/-- A finite map from texts, in the order of its keys. -/
structure Dict (α : Type) where
  entries : List (String × α)
  sorted : entries.Pairwise fun a b => a.1 < b.1

namespace Dict

variable {α β : Type}

/-! ### Order of texts -/

theorem lt_of_not_lt_of_ne {a b : String} (h : ¬a < b) (hne : a ≠ b) : b < a := by
  rcases String.le_total a b with hab | hba
  · exact absurd (String.le_antisymm hab (String.not_lt.mp h)) hne
  · exact Classical.byContradiction fun hn =>
      hne (String.le_antisymm (String.not_lt.mp hn) hba)

/-! ### Inserting -/

/-- `entries` with `key` set to `value`, in order. -/
def insertEntry (key : String) (value : α) : List (String × α) → List (String × α)
  | [] => [(key, value)]
  | (k, v) :: rest =>
    if key < k then (key, value) :: (k, v) :: rest
    else if key = k then (key, value) :: rest
    else (k, v) :: insertEntry key value rest

theorem fst_mem_insertEntry {key k : String} {value : α} {entries : List (String × α)}
    (h : k ∈ (insertEntry key value entries).map Prod.fst) :
    k = key ∨ k ∈ entries.map Prod.fst := by
  induction entries with
  | nil => simpa [insertEntry] using h
  | cons e rest ih =>
    obtain ⟨k', v'⟩ := e
    unfold insertEntry at h
    split at h
    · simpa using h
    · split at h
      · rename_i heq
        subst heq
        simp only [List.map_cons, List.mem_cons] at h ⊢
        rcases h with h | h
        · exact .inl h
        · exact .inr (.inr h)
      · simp only [List.map_cons, List.mem_cons] at h ⊢
        rcases h with h | h
        · exact .inr (.inl h)
        · rcases ih h with h | h
          · exact .inl h
          · exact .inr (.inr h)

theorem sorted_insertEntry (key : String) (value : α) {entries : List (String × α)}
    (h : entries.Pairwise fun a b => a.1 < b.1) :
    (insertEntry key value entries).Pairwise fun a b => a.1 < b.1 := by
  induction entries with
  | nil => simp [insertEntry]
  | cons e rest ih =>
    obtain ⟨k, v⟩ := e
    have hrest := (List.pairwise_cons.mp h).2
    have hhead := (List.pairwise_cons.mp h).1
    unfold insertEntry
    split
    · rename_i hlt
      refine List.pairwise_cons.mpr ⟨?_, h⟩
      intro e he
      rcases List.mem_cons.mp he with rfl | he
      · exact hlt
      · exact String.lt_trans hlt (hhead e he)
    · split
      · rename_i heq
        subst heq
        exact List.pairwise_cons.mpr ⟨hhead, hrest⟩
      · rename_i hlt hne
        refine List.pairwise_cons.mpr ⟨?_, ih hrest⟩
        intro e he
        rcases fst_mem_insertEntry (List.mem_map_of_mem he) with hk | hk
        · rw [hk]
          exact lt_of_not_lt_of_ne hlt hne
        · obtain ⟨e', he', hke⟩ := List.mem_map.mp hk
          rw [← hke]
          exact hhead e' he'

/-! ### Operations -/

/-- The dictionary without entries. -/
def empty : Dict α := ⟨[], .nil⟩

instance : EmptyCollection (Dict α) := ⟨empty⟩

/-- The dictionary with `key` set to `value`. -/
def insert (d : Dict α) (key : String) (value : α) : Dict α :=
  ⟨insertEntry key value d.entries, sorted_insertEntry key value d.sorted⟩

/-- The value of a key. -/
def get? (d : Dict α) (key : String) : Option α := d.entries.lookup key

/-- The key has a value. -/
def contains (d : Dict α) (key : String) : Bool := (d.get? key).isSome

/-- The number of entries. -/
def size (d : Dict α) : Nat := d.entries.length

/-- There are no entries. -/
def isEmpty (d : Dict α) : Bool := d.entries.isEmpty

/-- The keys, in order. -/
def keys (d : Dict α) : List String := d.entries.map Prod.fst

/-- The entries of a list; of several with one key the last counts. -/
def ofList (entries : List (String × α)) : Dict α :=
  entries.foldl (fun d e => d.insert e.1 e.2) empty

/-- `d` with every entry of `other` set. -/
def union (d other : Dict α) : Dict α :=
  other.entries.foldl (fun d e => d.insert e.1 e.2) d

/-- The dictionary with every value changed by `f`. -/
def mapValues (f : String → α → β) (d : Dict α) : Dict β :=
  ⟨d.entries.map fun e => (e.1, f e.1 e.2), by
    rw [List.pairwise_map]
    exact d.sorted⟩

/-- The entries that pass a test. -/
def filter (p : String → α → Bool) (d : Dict α) : Dict α :=
  ⟨d.entries.filter fun e => p e.1 e.2, d.sorted.filter _⟩

/-- The dictionary without `key`. -/
def erase (d : Dict α) (key : String) : Dict α := d.filter fun k _ => k != key

/-! ### Laws -/

theorem lookup_entry_self (k : String) (v : α) (rest : List (String × α)) :
    ((k, v) :: rest).lookup k = some v := by
  show (match k == k with | true => some v | false => rest.lookup k) = some v
  rw [beq_self_eq_true]

theorem lookup_entry_of_ne {k k' : String} (h : k ≠ k') (v : α) (rest : List (String × α)) :
    ((k', v) :: rest).lookup k = rest.lookup k := by
  show (match k == k' with | true => some v | false => rest.lookup k) = rest.lookup k
  rw [beq_eq_false_iff_ne.mpr h]

theorem lookup_insertEntry (key k : String) (value : α) (entries : List (String × α)) :
    (insertEntry key value entries).lookup k =
      if k = key then some value else entries.lookup k := by
  induction entries with
  | nil =>
    by_cases hk : k = key
    · subst hk
      rw [if_pos rfl]
      exact lookup_entry_self k value []
    · rw [if_neg hk]
      exact lookup_entry_of_ne hk value []
  | cons e rest ih =>
    obtain ⟨k', v'⟩ := e
    unfold insertEntry
    split
    · by_cases hk : k = key
      · subst hk
        rw [if_pos rfl, lookup_entry_self]
      · rw [if_neg hk, lookup_entry_of_ne hk]
    · split
      · rename_i heq
        subst heq
        by_cases hk : k = key
        · subst hk
          rw [if_pos rfl, lookup_entry_self]
        · rw [if_neg hk, lookup_entry_of_ne hk, lookup_entry_of_ne hk]
      · rename_i hne
        by_cases hk : k = k'
        · subst hk
          rw [if_neg (Ne.symm hne), lookup_entry_self, lookup_entry_self]
        · rw [lookup_entry_of_ne hk, ih, lookup_entry_of_ne hk]

/-- The last value set is the one found. -/
theorem get?_insert (d : Dict α) (key k : String) (value : α) :
    (d.insert key value).get? k = if k = key then some value else d.get? k :=
  lookup_insertEntry key k value d.entries

@[simp] theorem get?_empty (k : String) : (empty : Dict α).get? k = none := rfl

end Dict

end SiteAnalytics
