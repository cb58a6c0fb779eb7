import SiteAnalytics.Proofs.Cache.Mark

/-!
# Caches that agree but for some keys

Two caches may differ in some keys and agree off them (`AgreeOff`).  A program that never looks one
of these keys up, and never counts them, is blind to them (`CacheProgram.Blind`): it cannot tell the
two caches apart, and they still agree afterwards (`Blind.runOn`).  Setting one of the keys to
different values keeps the agreement, too (`AgreeOff.set_of_mem`).
-/

namespace SiteAnalytics

/-- The clocks are the same, and the caches show the same from now on, but for the keys of `Off`. -/
structure AgreeOff (Off : String → Prop) (s s' : TimedCache) : Prop where
  monotone : Monotone s.clock
  clock_eq : s'.clock = s.clock
  shown?_eq : ∀ key, ¬ Off key → ∀ t, s.now ≤ t → s'.cache.shown? t key = s.cache.shown? t key

namespace AgreeOff

variable {Off : String → Prop} {s s' : TimedCache}

theorem now_eq (h : AgreeOff Off s s') : s'.now = s.now := congrFun h.clock_eq 0

/-- What keeps what is shown in both keeps the agreement. -/
theorem tick (h : AgreeOff Off s s') {c c' : Cache}
    (hshown : ∀ key, ¬ Off key → ∀ t, s.now ≤ t → c'.shown? t key = c.shown? t key) :
    AgreeOff Off (s.tick c) (s'.tick c') where
  monotone := TimedCache.monotone_tick h.monotone c
  clock_eq := funext fun n => congrFun h.clock_eq (n + 1)
  shown?_eq key hkey t ht :=
    hshown key hkey t (Nat.le_trans (TimedCache.now_le_now_tick h.monotone c) ht)

theorem get (h : AgreeOff Off s s') (key : String) :
    AgreeOff Off (s.get key).2 (s'.get key).2 := by
  apply h.tick
  intro k hk t ht
  show (s'.cache.get s'.now key).2.shown? t k = (s.cache.get s.now key).2.shown? t k
  rw [h.now_eq, Cache.shown?_get _ ht, Cache.shown?_get _ ht, h.shown?_eq k hk t ht]

/-- A key off those of `Off` is found alike. -/
theorem get_fst_eq (h : AgreeOff Off s s') {key : String} (hkey : ¬ Off key) :
    (s'.get key).1 = (s.get key).1 := by
  show (s'.cache.get s'.now key).1 = (s.cache.get s.now key).1
  rw [Cache.get_fst, Cache.get_fst, h.now_eq, h.shown?_eq key hkey s.now (Nat.le_refl _)]

theorem set (h : AgreeOff Off s s') (key value : String) (ttl : Nat) :
    AgreeOff Off (s.set key value ttl) (s'.set key value ttl) := by
  apply h.tick
  intro k hk t ht
  rw [h.now_eq, Cache.shown?_set _ ht, Cache.shown?_set _ ht, h.shown?_eq k hk t ht]

/-- A key of `Off` may be set to different values. -/
theorem set_of_mem (h : AgreeOff Off s s') {key : String} (hkey : Off key)
    (value value' : String) (ttl : Nat) :
    AgreeOff Off (s.set key value ttl) (s'.set key value' ttl) := by
  apply h.tick
  intro k hk t ht
  -- the keys off `Off` are others than the one that is set
  have hne : k ≠ key := fun heq => hk (heq ▸ hkey)
  rw [h.now_eq, Cache.shown?_set _ ht, Cache.shown?_set _ ht, if_neg hne, if_neg hne,
    h.shown?_eq k hk t ht]

theorem count (h : AgreeOff Off s s') (pattern : String) :
    AgreeOff Off (s.count pattern).2 (s'.count pattern).2 := by
  apply h.tick
  intro k hk t ht
  show (s'.cache.count s'.now pattern).2.shown? t k = (s.cache.count s.now pattern).2.shown? t k
  rw [h.now_eq, Cache.shown?_count _ ht, Cache.shown?_count _ ht, h.shown?_eq k hk t ht]

/-- What fits a pattern off the keys of `Off` is counted alike. -/
theorem count_fst_eq (h : AgreeOff Off s s') {pattern : String}
    (hpattern : ∀ key, Wildcard.fits pattern key = true → ¬ Off key) :
    (s'.count pattern).1 = (s.count pattern).1 := by
  show (s'.cache.count s'.now pattern).1 = (s.cache.count s.now pattern).1
  rw [h.now_eq]
  apply Cache.count_fst_congr
  intro key hfits
  exact h.shown?_eq key (hpattern key hfits) s.now (Nat.le_refl _)

end AgreeOff

namespace CacheProgram

variable {α β : Type} {Off : String → Prop}

/-- The program never looks up or counts a key of `Off`. -/
def Blind (Off : String → Prop) : CacheProgram α → Prop
  | done _ => True
  | get key next => ¬ Off key ∧ ∀ found, (next found).Blind Off
  | set _ _ _ next => next.Blind Off
  | count pattern next =>
    (∀ key, Wildcard.fits pattern key = true → ¬ Off key) ∧ ∀ n, (next n).Blind Off

/-- Blind programs give the same on caches that agree. -/
theorem Blind.runOn {s s' : TimedCache} {p : CacheProgram α} (hp : p.Blind Off)
    (h : AgreeOff Off s s') :
    (p.runOn s').1 = (p.runOn s).1 ∧ AgreeOff Off (p.runOn s).2 (p.runOn s').2 := by
  -- on the program: both runs find the same, so they go on alike
  induction p generalizing s s' with
  | done a => exact ⟨rfl, h⟩
  | get key next ih =>
    rw [CacheProgram.runOn, CacheProgram.runOn, h.get_fst_eq hp.1]
    exact ih _ (hp.2 _) (h.get key)
  | set key value ttl next ih => exact ih hp (h.set key value ttl)
  | count pattern next ih =>
    rw [CacheProgram.runOn, CacheProgram.runOn, h.count_fst_eq hp.1]
    exact ih _ (hp.2 _) (h.count pattern)

theorem Blind.bind {p : CacheProgram α} {f : α → CacheProgram β} (hp : p.Blind Off)
    (hf : ∀ a, (f a).Blind Off) : (p >>= f).Blind Off := by
  show (p.bind f).Blind Off
  induction p with
  | done a => exact hf a
  | get key next ih => exact ⟨hp.1, fun found => ih found (hp.2 found)⟩
  | set key value ttl next ih => exact ih hp
  | count pattern next ih => exact ⟨hp.1, fun n => ih n (hp.2 n)⟩

/-- Settling a key looks up only that key. -/
theorem blind_settle {key : String} (h : ¬ Off key) (value : String) (ttl : Nat)
    (result : Option String → α) : (settle key value ttl result).Blind Off := by
  refine ⟨h, ?_⟩
  rintro (_ | found) <;> trivial

/-- Whatever the program finds, caches that agree still agree after it. -/
def Respects (Off : String → Prop) (p : CacheProgram α) : Prop :=
  ∀ s s', AgreeOff Off s s' → AgreeOff Off (p.runOn s).2 (p.runOn s').2

theorem Blind.respects {p : CacheProgram α} (hp : p.Blind Off) : p.Respects Off :=
  fun _ _ h => (hp.runOn h).2

/-- What a blind program gives can decide on how to go on. -/
theorem Blind.bind_respects {p : CacheProgram α} {f : α → CacheProgram β} (hp : p.Blind Off)
    (hf : ∀ a, (f a).Respects Off) : (p >>= f).Respects Off := by
  intro s s' h
  obtain ⟨hresult, hagree⟩ := hp.runOn h
  rw [runOn_bind, runOn_bind, hresult]
  exact hf _ _ _ hagree

/-- What is made of a result does not touch the cache. -/
theorem Respects.bind_pure {p : CacheProgram α} (hp : p.Respects Off) (f : α → β) :
    (p >>= fun a => pure (f a)).Respects Off := by
  intro s s' h
  rw [runOn_bind, runOn_bind]
  exact hp s s' h

end CacheProgram

end SiteAnalytics
