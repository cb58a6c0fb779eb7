import SiteAnalytics.Proofs.Cache.Clock

/-!
# Marks

A mark is a key that is set only when it is not there, and then for a fixed span: it is not renewed
while it lasts.  `TimedCache.Marked` says at which times that happened, as far as it still matters.
Looking for the mark and setting it if there is none adds the time of setting, and whether there was
one is found out from the times before (`Marked.settle`).
-/

namespace SiteAnalytics

/-- Looks a key up, and sets it if it is not there. What was found decides on the result. -/
def CacheProgram.settle {α : Type} (key value : String) (ttl : Nat) (result : Option String → α) :
    CacheProgram α :=
  .get key fun found => match found with
    | some _ => .done (result found)
    | none => .set key value ttl (.done (result none))

namespace TimedCache

/-- Looks a key up, and sets it if it is not there. -/
def settle (s : TimedCache) (key value : String) (ttl : Nat) : Option String × TimedCache :=
  match (s.get key).1 with
  | some found => (some found, (s.get key).2)
  | none => (none, (s.get key).2.set key value ttl)

variable {s : TimedCache} {key : String} {At : Nat → Prop} {ttl : Nat}

theorem runOn_settle {α : Type} (s : TimedCache) (key value : String) (ttl : Nat)
    (result : Option String → α) : (CacheProgram.settle key value ttl result).runOn s =
      (result (s.get key).1, (s.settle key value ttl).2) := by
  rw [CacheProgram.settle, CacheProgram.runOn, settle]
  cases (s.get key).1 <;> rfl

theorem get_fst_eq_none_iff : (s.get key).1 = none ↔ (s.cache.shown? s.now key).isSome = false := by
  show (s.cache.get s.now key).1 = none ↔ _
  rw [Cache.get_fst, Option.map_eq_none_iff, Option.isSome_eq_false_iff, Option.isNone_iff_eq_none]

/-- From now on `key` can be seen as long as the span `ttl` since one of the times `At` lasts. -/
def Marked (s : TimedCache) (key : String) (At : Nat → Prop) (ttl : Nat) : Prop :=
  ∀ t, s.now ≤ t → ((s.cache.shown? t key).isSome = true ↔ ∃ w, At w ∧ t < w + ttl)

namespace Marked

theorem get_fst_eq_none_iff (h : s.Marked key At ttl) :
    (s.get key).1 = none ↔ ∀ w, At w → w + ttl ≤ s.now := by
  rw [TimedCache.get_fst_eq_none_iff, ← Bool.not_eq_true, h s.now (Nat.le_refl _)]
  simp only [not_exists, not_and, Nat.not_lt]

theorem congr {At' : Nat → Prop} (h : s.Marked key At ttl) (hat : ∀ w, At w ↔ At' w) :
    s.Marked key At' ttl := by
  obtain rfl : At = At' := funext fun w => propext (hat w)
  exact h

/-- A program that does not set the key leaves its marks as they are. -/
theorem runOn {α : Type} (h : s.Marked key At ttl) (hclock : Monotone s.clock)
    {p : CacheProgram α} (hp : p.Keeps key) : (p.runOn s).2.Marked key At ttl := by
  intro t ht
  rw [hp.shown?_runOn hclock ht]
  exact h t (Nat.le_trans (CacheProgram.now_le_now_runOn hclock p) ht)

/-- A mark that is not there is set, at the second access. -/
theorem settle (h : s.Marked key At ttl) (hclock : Monotone s.clock) (value : String) :
    (s.settle key value ttl).2.Marked key
      (fun w => At w ∨ (s.get key).1 = none ∧ s.clock 1 = w) ttl := by
  have hget : (s.get key).2.Marked key At ttl :=
    h.runOn hclock (p := CacheProgram.lookup key) fun _ => trivial
  intro t ht
  rw [TimedCache.settle] at ht ⊢
  cases hfound : (s.get key).1 with
  | some found =>
    simp only [hfound, reduceCtorEq, false_and, or_false] at ht ⊢
    exact hget t ht
  | none =>
    simp only [hfound, true_and] at ht ⊢
    have htick : Monotone (s.get key).2.clock := monotone_tick hclock _
    have hset : (s.get key).2.now ≤ t := Nat.le_trans (now_le_now_tick htick _) ht
    -- no earlier mark lasts until now, let alone until `t`
    have hexpired := h.get_fst_eq_none_iff.mp hfound
    have hnow : s.now ≤ t := Nat.le_trans (now_le_now_tick hclock _) hset
    show ((Cache.set _ _ key value ttl).shown? t key).isSome = true ↔ _
    rw [Cache.shown?_set _ hset, if_pos rfl, Option.isSome_filter]
    simp only [Option.any_some, decide_eq_true_eq]
    constructor
    · intro hlasts
      exact ⟨s.clock 1, .inr rfl, hlasts⟩
    · rintro ⟨w, hat | rfl, hlasts⟩
      · have := hexpired w hat
        omega
      · exact hlasts

end Marked

end TimedCache

/-- Only that key is set. -/
theorem CacheProgram.keeps_settle {α : Type} {key key' : String} (h : key ≠ key') (value : String)
    (ttl : Nat) (result : Option String → α) : (settle key' value ttl result).Keeps key := by
  rintro (_ | found)
  · exact ⟨h, trivial⟩
  · exact trivial

end SiteAnalytics
