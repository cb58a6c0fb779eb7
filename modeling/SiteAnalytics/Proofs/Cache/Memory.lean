import SiteAnalytics.Proofs.Cache.Shown

/-!
# Answers of a cache

A cache removes entries that have expired, at different moments and some of them only.  A
`CacheMemory` removes nothing: it keeps the latest write of every key, with its time and its span,
and finds out at every question whether that write still lasts.  `answers_empty_eq` says that
nobody can tell the two apart, however many calls are made, as long as the clock does not go back.

The invariant is that both show the same at the time of the last call (`answer_eq_of_shown`); it
then holds at every later time, too.
-/

namespace SiteAnalytics

/-! ### Calls and answers -/

/-- A call on a cache. -/
inductive CacheCall
  | get (key : String)
  | set (key value : String) (ttl : Nat)
  | count (pattern : String)
  deriving DecidableEq, Repr

/-- What a call is answered with. -/
inductive CacheAnswer
  | found (value : Option String)
  | stored
  | counted (n : Nat)
  deriving DecidableEq, Repr

/-- Answers a call at time `now`. -/
def Cache.answer (c : Cache) (now : Nat) : CacheCall → CacheAnswer × Cache
  | .get key => ((c.get now key).map .found id)
  | .set key value ttl => (.stored, c.set now key value ttl)
  | .count pattern => (c.count now pattern).map .counted id

/-- The answers to calls, each of which is made at the time that stands with it. -/
def Cache.answers (c : Cache) : List (Nat × CacheCall) → List CacheAnswer
  | [] => []
  | (now, call) :: rest => (c.answer now call).1 :: (c.answer now call).2.answers rest

/-! ### A memory that removes nothing -/

/-- A value that was set, with the time and the span for which it was set. -/
structure CacheWrite where
  value : String
  time : Nat
  span : Nat
  deriving DecidableEq, Repr

/-- The latest write of every key. -/
structure CacheMemory where
  writes : Dict CacheWrite

namespace CacheMemory

/-- A memory without writes. -/
def empty : CacheMemory := ⟨∅⟩

/-- Answers a call at time `now`. A write lasts as long as its span is not over. -/
def answer (m : CacheMemory) (now : Nat) : CacheCall → CacheAnswer × CacheMemory
  | .get key =>
    let lasting := (m.writes.get? key).filter fun w => now < w.time + w.span
    (.found (lasting.map CacheWrite.value), m)
  | .set key value span => (.stored, ⟨m.writes.insert key ⟨value, now, span⟩⟩)
  | .count pattern =>
    let lasting := m.writes.filter fun key w => now < w.time + w.span && Wildcard.fits pattern key
    (.counted lasting.size, m)

/-- The answers to calls, each of which is made at the time that stands with it. -/
def answers (m : CacheMemory) : List (Nat × CacheCall) → List CacheAnswer
  | [] => []
  | (now, call) :: rest => (m.answer now call).1 :: (m.answer now call).2.answers rest

/-- What can be seen of a memory at time `now`. -/
def shown? (m : CacheMemory) (now : Nat) (key : String) : Option CacheEntry :=
  ((m.writes.get? key).map fun w => ⟨w.value, w.time + w.span⟩).filter fun e => now < e.expires

theorem shown?_of_le (m : CacheMemory) {now later : Nat} (h : now ≤ later) (key : String) :
    m.shown? later key = (m.shown? now key).filter fun e => later < e.expires := by
  rw [shown?, shown?, Option.filter_filter]
  congr 1
  funext e
  rw [← Bool.decide_and, decide_eq_decide]
  omega

/-- The memory of what a cache holds. -/
def ofCache (c : Cache) : CacheMemory :=
  ⟨c.entries.mapValues fun _ e => ⟨e.value, 0, e.expires⟩⟩

theorem shown?_ofCache (c : Cache) (now : Nat) (key : String) :
    (ofCache c).shown? now key = c.shown? now key := by
  rw [shown?, ofCache, Dict.get?_mapValues, Cache.shown?]
  cases c.entries.get? key <;> simp

end CacheMemory

/-! ### The two compared -/

namespace Cache

/-- If both show the same, they answer a call with the same, and show the same afterwards. -/
theorem answer_eq_of_shown {c : Cache} {m : CacheMemory} {now : Nat}
    (h : ∀ key, c.shown? now key = m.shown? now key) (call : CacheCall) :
    (c.answer now call).1 = (m.answer now call).1 ∧
      ∀ key, (c.answer now call).2.shown? now key = (m.answer now call).2.shown? now key := by
  cases call with
  | get key =>
    constructor
    · show CacheAnswer.found (c.get now key).1 = _
      rw [get_fst, h key]
      simp only [CacheMemory.answer, CacheMemory.shown?]
      cases m.writes.get? key with
      | none => rfl
      | some w => by_cases hlasts : now < w.time + w.span <;> simp [hlasts, Option.filter_some]
    · intro k
      exact (c.shown?_get (Nat.le_refl _) key k).trans (h k)
  | set key value span =>
    refine ⟨rfl, fun k => ?_⟩
    show (c.set now key value span).shown? now k = _
    rw [shown?_set _ (Nat.le_refl _), CacheMemory.answer, CacheMemory.shown?, Dict.get?_insert]
    by_cases hk : k = key
    · rw [if_pos hk, if_pos hk]
      rfl
    · rw [if_neg hk, if_neg hk]
      exact h k
  | count pattern =>
    constructor
    · show CacheAnswer.counted (c.count now pattern).1 = _
      rw [CacheMemory.answer, c.count_fst_eq m.writes]
      intro key
      rw [h key, CacheMemory.shown?]
      cases m.writes.get? key with
      | none => simp
      | some w => simp [Option.isSome_filter, and_comm]
    · intro k
      exact (c.shown?_count (Nat.le_refl _) pattern k).trans (h k)

/-- Whatever shows what a memory shows answers all later calls as the memory does. -/
theorem answers_eq_of_shown {c : Cache} {m : CacheMemory} {now : Nat}
    (h : ∀ key, c.shown? now key = m.shown? now key) {calls : List (Nat × CacheCall)}
    (hnow : ∀ call ∈ calls, now ≤ call.1) (hsorted : calls.Pairwise fun a b => a.1 ≤ b.1) :
    c.answers calls = m.answers calls := by
  induction calls generalizing c m now with
  | nil => rfl
  | cons call rest ih =>
    obtain ⟨later, call⟩ := call
    have hle : now ≤ later := hnow _ List.mem_cons_self
    have hshown : ∀ key, c.shown? later key = m.shown? later key := fun key => by
      rw [c.shown?_of_le hle, m.shown?_of_le hle, h key]
    obtain ⟨hanswer, hafter⟩ := answer_eq_of_shown hshown call
    rw [answers, CacheMemory.answers, hanswer]
    congr 1
    exact ih hafter (List.pairwise_cons.mp hsorted).1 (List.pairwise_cons.mp hsorted).2

/-- **When entries are removed cannot be seen.** A cache that starts empty answers all calls, at
times that do not go back, as the memory does that removes nothing and remembers of every key the
latest value with its time and its span.  And whichever of the entries that have expired are removed
from a cache, all later answers stay the same. -/
theorem answers_empty_eq {calls : List (Nat × CacheCall)}
    (hsorted : calls.Pairwise fun a b => a.1 ≤ b.1) :
    empty.answers calls = CacheMemory.empty.answers calls ∧
      ∀ (c : Cache) (now : Nat) (kept : String → CacheEntry → Bool),
        (∀ call ∈ calls, now ≤ call.1) → (∀ key e, now < e.expires → kept key e = true) →
        (⟨c.entries.filter kept⟩ : Cache).answers calls = c.answers calls := by
  constructor
  · exact answers_eq_of_shown (fun _ => rfl) (fun _ _ => Nat.zero_le _) hsorted
  · intro c now kept hnow hkept
    -- both are compared with the memory of the whole cache
    have hwhole := fun key => (CacheMemory.shown?_ofCache c now key).symm
    have hpart := fun key => (c.shown?_filter hkept key).trans (hwhole key)
    rw [answers_eq_of_shown hpart hnow hsorted, answers_eq_of_shown hwhole hnow hsorted]

/-- A key is set for ten, looked up while it lasts and at the very time at which it expires, and set
again for no time at all.  The entry `old` has expired before all that. -/
theorem answers_empty_eq_expiring :
    let calls : List (Nat × CacheCall) :=
      [(20, .set "salt" "x" 10), (29, .get "salt"), (30, .get "salt"), (30, .set "salt" "y" 0),
        (30, .get "salt"), (30, .set "ses:1" "1" 5), (34, .count "*"), (35, .count "s*")]
    let swept : Cache := ⟨(empty.set 0 "old" "1" 5).entries.filter fun _ e => 20 < e.expires⟩
    (calls.Pairwise fun a b => a.1 ≤ b.1) ∧
      CacheMemory.empty.answers calls = [.stored, .found (some "x"), .found none, .stored,
        .found none, .stored, .counted 1, .counted 0] ∧
      empty.answers calls = CacheMemory.empty.answers calls ∧
      swept.answers calls = (empty.set 0 "old" "1" 5).answers calls := by
  intro calls swept
  have hsorted : calls.Pairwise fun a b => a.1 ≤ b.1 := by decide
  obtain ⟨hempty, hswept⟩ := answers_empty_eq hsorted
  refine ⟨hsorted, by decide +kernel, hempty, ?_⟩
  exact hswept _ 20 _ (by decide) fun _ _ h => decide_eq_true h

end Cache

end SiteAnalytics
