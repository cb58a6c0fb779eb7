import SiteAnalytics.Cache.Basic
import SiteAnalytics.Proofs.Dict

/-!
# What a cache shows

An entry that has expired may still be held, but it cannot be seen.  `shown?` is what can be seen of
a cache at a time; it is all that its answers depend on, from that time on (`get_fst`,
`count_fst_eq`).  Looking something up and counting leave it as it is (`shown?_get`,
`shown?_count`), and setting a key changes it for that key only (`shown?_set`).
-/

namespace SiteAnalytics.Cache

/-- The entry of a key that can be seen at time `now`. -/
def shown? (c : Cache) (now : Nat) (key : String) : Option CacheEntry :=
  (c.entries.get? key).filter fun e => now < e.expires

@[simp] theorem shown?_empty (now : Nat) (key : String) : empty.shown? now key = none := rfl

theorem shown?_eq_some_iff {c : Cache} {now : Nat} {key : String} {e : CacheEntry} :
    c.shown? now key = some e ↔ c.entries.get? key = some e ∧ now < e.expires := by
  rw [shown?, Option.filter_eq_some_iff, decide_eq_true_iff]

/-- What can be seen later can be seen now. -/
theorem shown?_of_le (c : Cache) {now later : Nat} (h : now ≤ later) (key : String) :
    c.shown? later key = (c.shown? now key).filter fun e => later < e.expires := by
  ext e
  rw [Option.filter_eq_some_iff, decide_eq_true_iff, shown?_eq_some_iff, shown?_eq_some_iff]
  constructor
  · rintro ⟨hfound, hlater⟩
    exact ⟨⟨hfound, by omega⟩, hlater⟩
  · rintro ⟨⟨hfound, -⟩, hlater⟩
    exact ⟨hfound, hlater⟩

theorem shown?_congr {c c' : Cache} {now later : Nat} {key : String} (h : now ≤ later)
    (hshown : c.shown? now key = c'.shown? now key) : c.shown? later key = c'.shown? later key := by
  rw [c.shown?_of_le h, c'.shown?_of_le h, hshown]

variable (c : Cache)

/-! ### Removing what has expired -/

/-- A cache without some entries that have expired shows the same. -/
theorem shown?_filter {kept : String → CacheEntry → Bool} {now : Nat}
    (h : ∀ key e, now < e.expires → kept key e = true) (key : String) :
    (⟨c.entries.filter kept⟩ : Cache).shown? now key = c.shown? now key := by
  ext e
  rw [shown?_eq_some_iff, shown?_eq_some_iff, Dict.get?_filter, Option.filter_eq_some_iff]
  constructor
  · rintro ⟨⟨hfound, -⟩, hexpires⟩
    exact ⟨hfound, hexpires⟩
  · rintro ⟨hfound, hexpires⟩
    exact ⟨⟨hfound, h key e hexpires⟩, hexpires⟩

theorem shown?_sweep {now later : Nat} (h : now ≤ later) (key : String) :
    (c.sweep now).shown? later key = c.shown? later key :=
  shown?_congr h (c.shown?_filter (fun _ _ he => decide_eq_true he) key)

/-! ### Single accesses -/

theorem get_fst (now : Nat) (key : String) :
    (c.get now key).1 = (c.shown? now key).map CacheEntry.value := by
  rw [get, shown?]
  cases c.entries.get? key with
  | none => rfl
  | some e => by_cases h : now < e.expires <;> simp [h, Option.filter_some]

theorem shown?_get {now later : Nat} (h : now ≤ later) (key k : String) :
    (c.get now key).2.shown? later k = c.shown? later k := by
  apply shown?_congr h
  rw [get]
  cases hfound : c.entries.get? key with
  | none => rfl
  | some e =>
    by_cases hlasts : now < e.expires
    · simp only [if_pos hlasts]
    · -- the entry that is removed could not be seen
      simp only [if_neg hlasts, shown?, Dict.get?_erase]
      by_cases hk : k = key
      · subst hk
        simp [hfound, hlasts, Option.filter_some]
      · rw [if_neg hk]

theorem shown?_set {now later : Nat} (h : now ≤ later) (key value : String) (ttl : Nat)
    (k : String) : (c.set now key value ttl).shown? later k =
      if k = key then
        (some ⟨value, now + ttl⟩ : Option CacheEntry).filter fun e => later < e.expires
      else c.shown? later k := by
  rw [set, shown?, Dict.get?_insert]
  by_cases hk : k = key
  · rw [if_pos hk, if_pos hk]
  · rw [if_neg hk, if_neg hk]
    exact c.shown?_sweep h k

theorem shown?_count {now later : Nat} (h : now ≤ later) (pattern k : String) :
    (c.count now pattern).2.shown? later k = c.shown? later k :=
  c.shown?_sweep h k

/-- The keys that are counted are those that can be seen and fit. -/
theorem count_fst_eq {α : Type} (d : Dict α) {p : String → α → Bool} {now : Nat} {pattern : String}
    (h : ∀ key, (∃ a, d.get? key = some a ∧ p key a = true) ↔
      Wildcard.fits pattern key = true ∧ (c.shown? now key).isSome = true) :
    (c.count now pattern).1 = (d.filter p).size := by
  apply Dict.size_filter_eq
  intro key
  rw [h key, Option.isSome_iff_exists]
  simp only [sweep, Dict.get?_filter, shown?]
  constructor
  · rintro ⟨e, hfound, hfits⟩
    exact ⟨hfits, e, hfound⟩
  · rintro ⟨hfits, e, hfound⟩
    exact ⟨e, hfound, hfits⟩

/-- Caches that show the same of the keys that fit a pattern count the same. -/
theorem count_fst_congr {c c' : Cache} {now : Nat} {pattern : String}
    (h : ∀ key, Wildcard.fits pattern key = true → c.shown? now key = c'.shown? now key) :
    (c.count now pattern).1 = (c'.count now pattern).1 := by
  apply c.count_fst_eq (c'.sweep now).entries
  intro key
  simp only [sweep, Dict.get?_filter]
  constructor
  · rintro ⟨e, hfound, hfits⟩
    rw [h key hfits]
    exact ⟨hfits, Option.isSome_of_eq_some hfound⟩
  · rintro ⟨hfits, hsome⟩
    rw [h key hfits] at hsome
    obtain ⟨e, hfound⟩ := Option.isSome_iff_exists.mp hsome
    exact ⟨e, hfound, hfits⟩

theorem count_fst_pos {now : Nat} {pattern key : String} (hfits : Wildcard.fits pattern key = true)
    (hshown : (c.shown? now key).isSome = true) : 0 < (c.count now pattern).1 := by
  obtain ⟨e, he⟩ := Option.isSome_iff_exists.mp hshown
  apply Dict.size_pos_of_get? (k := key) (v := e)
  rw [sweep, Dict.get?_filter, Dict.get?_filter, ← shown?, he, Option.filter_some, if_pos hfits]

end SiteAnalytics.Cache
