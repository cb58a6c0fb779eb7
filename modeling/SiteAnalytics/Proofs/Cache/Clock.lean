import SiteAnalytics.Cache.Program
import SiteAnalytics.Proofs.Cache.Shown
import Mathlib.Order.Monotone.Basic

/-!
# Programs on a running clock

`CacheProgram.run` makes all accesses of a program at one time.  Here the clock goes on between
them: a `TimedCache` is a cache with the readings of its clock that are still to come, one for each
access, and `CacheProgram.runOn` takes them one after the other.  A clock that stands still is the
case of `run` (`runOn_constant`).

What a program leaves as it is can be read off its text: a key that it never sets shows what it
showed before (`Keeps.shown?_runOn`).
-/

namespace SiteAnalytics

/-- A cache with the readings of its clock at the accesses that are still to come. -/
structure TimedCache where
  cache : Cache
  clock : Nat → Nat

namespace TimedCache

/-- The time of the next access. -/
def now (s : TimedCache) : Nat := s.clock 0

/-- The cache is now `c`, and one access has been made. -/
def tick (s : TimedCache) (c : Cache) : TimedCache := ⟨c, fun n => s.clock (n + 1)⟩

/-- The value of a key, and what follows. -/
def get (s : TimedCache) (key : String) : Option String × TimedCache :=
  (s.cache.get s.now key).map id s.tick

/-- What follows when a key is set. -/
def set (s : TimedCache) (key value : String) (ttl : Nat) : TimedCache :=
  s.tick (s.cache.set s.now key value ttl)

/-- The number of keys that fit a pattern, and what follows. -/
def count (s : TimedCache) (pattern : String) : Nat × TimedCache :=
  (s.cache.count s.now pattern).map id s.tick

variable {s : TimedCache}

theorem monotone_tick (h : Monotone s.clock) (c : Cache) : Monotone (s.tick c).clock :=
  fun _ _ hle => h (Nat.succ_le_succ hle)

theorem now_le_now_tick (h : Monotone s.clock) (c : Cache) : s.now ≤ (s.tick c).now :=
  h (Nat.zero_le 1)

end TimedCache

namespace CacheProgram

variable {α β : Type}

/-- Makes all accesses, each at the next reading of the clock. -/
def runOn (s : TimedCache) : CacheProgram α → α × TimedCache
  | done a => (a, s)
  | get key next => (next (s.get key).1).runOn (s.get key).2
  | set key value ttl next => next.runOn (s.set key value ttl)
  | count pattern next => (next (s.count pattern).1).runOn (s.count pattern).2

/-- On a clock that stands still this is `run`. -/
theorem runOn_constant (now : Nat) (c : Cache) (p : CacheProgram α) :
    p.runOn ⟨c, fun _ => now⟩ = ((p.run now c).1, ⟨(p.run now c).2, fun _ => now⟩) := by
  induction p generalizing c with
  | done a => rfl
  | get key next ih => exact ih _ _
  | set key value ttl next ih => exact ih _
  | count pattern next ih => exact ih _ _

variable (s : TimedCache)

@[simp] theorem runOn_pure (a : α) : (pure a : CacheProgram α).runOn s = (a, s) := rfl

/-- The second program is run on what the first one leaves behind. -/
theorem runOn_bind (p : CacheProgram α) (f : α → CacheProgram β) :
    (p >>= f).runOn s = (f (p.runOn s).1).runOn (p.runOn s).2 := by
  show (p.bind f).runOn s = _
  induction p generalizing s with
  | done a => rfl
  | get key next ih => exact ih _ _
  | set key value ttl next ih => exact ih _
  | count pattern next ih => exact ih _ _

/-! ### What a run leaves as it is -/

/-- The program never sets `key`. -/
def Keeps (key : String) : CacheProgram α → Prop
  | done _ => True
  | get _ next => ∀ found, (next found).Keeps key
  | set key' _ _ next => key ≠ key' ∧ next.Keeps key
  | count _ next => ∀ n, (next n).Keeps key

theorem Keeps.bind {key : String} {p : CacheProgram α} {f : α → CacheProgram β} (hp : p.Keeps key)
    (hf : ∀ a, (f a).Keeps key) : (p >>= f).Keeps key := by
  show (p.bind f).Keeps key
  induction p with
  | done a => exact hf a
  | get key' next ih => exact fun found => ih found (hp found)
  | set key' value ttl next ih => exact ⟨hp.1, ih hp.2⟩
  | count pattern next ih => exact fun n => ih n (hp n)

variable {s}

theorem monotone_runOn (h : Monotone s.clock) (p : CacheProgram α) :
    Monotone (p.runOn s).2.clock := by
  induction p generalizing s with
  | done a => exact h
  | get key next ih => exact ih _ (TimedCache.monotone_tick h _)
  | set key value ttl next ih => exact ih (TimedCache.monotone_tick h _)
  | count pattern next ih => exact ih _ (TimedCache.monotone_tick h _)

theorem now_le_now_runOn (h : Monotone s.clock) (p : CacheProgram α) :
    s.now ≤ (p.runOn s).2.now := by
  induction p generalizing s with
  | done a => exact Nat.le_refl _
  | get key next ih =>
    exact Nat.le_trans (TimedCache.now_le_now_tick h _) (ih _ (TimedCache.monotone_tick h _))
  | set key value ttl next ih =>
    exact Nat.le_trans (TimedCache.now_le_now_tick h _) (ih (TimedCache.monotone_tick h _))
  | count pattern next ih =>
    exact Nat.le_trans (TimedCache.now_le_now_tick h _) (ih _ (TimedCache.monotone_tick h _))

/-- A key that is not set shows what it showed. -/
theorem Keeps.shown?_runOn {key : String} {p : CacheProgram α} (hp : p.Keeps key)
    (h : Monotone s.clock) {t : Nat} (ht : (p.runOn s).2.now ≤ t) :
    (p.runOn s).2.cache.shown? t key = s.cache.shown? t key := by
  induction p generalizing s with
  | done a => rfl
  | get key' next ih =>
    have htick := TimedCache.monotone_tick h (s.cache.get s.now key').2
    have hle : s.now ≤ t := Nat.le_trans (now_le_now_runOn h _) ht
    exact (ih _ (hp _) htick ht).trans (s.cache.shown?_get hle key' key)
  | set key' value ttl next ih =>
    have htick := TimedCache.monotone_tick h (s.cache.set s.now key' value ttl)
    have hle : s.now ≤ t := Nat.le_trans (now_le_now_runOn h _) ht
    refine (ih hp.2 htick ht).trans ?_
    show (s.cache.set s.now key' value ttl).shown? t key = _
    rw [s.cache.shown?_set hle, if_neg hp.1]
  | count pattern next ih =>
    have htick := TimedCache.monotone_tick h (s.cache.count s.now pattern).2
    have hle : s.now ≤ t := Nat.le_trans (now_le_now_runOn h _) ht
    exact (ih _ (hp _) htick ht).trans (s.cache.shown?_count hle pattern key)

theorem Keeps.shown?_run {key : String} {p : CacheProgram α} (hp : p.Keeps key) (c : Cache)
    {now t : Nat} (ht : now ≤ t) : (p.run now c).2.shown? t key = c.shown? t key := by
  have hrun := runOn_constant now c p
  have hkept := hp.shown?_runOn (s := ⟨c, fun _ => now⟩) (t := t) monotone_const
  rw [hrun] at hkept
  exact hkept ht

end CacheProgram

end SiteAnalytics
