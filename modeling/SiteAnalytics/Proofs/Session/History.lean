import SiteAnalytics.Proofs.Cache.Mark
import SiteAnalytics.Proofs.Session.Call
import Mathlib.Data.List.Induction

/-!
# Visits in a run of calls

What a run of calls, one after the other, tells about visitors.  The salt and the note that a
visitor was seen are both marks: they are set when they are not there, and not renewed while they
last.  So everything follows from when they were set (`Recorded`, the invariant): a visit gets a new
salt exactly if none of the earlier ones lasts (`Follows.renewed_iff`), and its visitor is new
exactly if no earlier visit at which the visitor was new is still remembered
(`Follows.isNew_iff`).

The clock may go on between the accesses of a call.  Where it stands still during a call, the four
times of a `TrackedVisit` are the time of the call.
-/

namespace SiteAnalytics.Session

open CacheProgram

/-! ### Visits with their circumstances -/

/-- A visit that was tracked, with the salt that was used and the times that matter. -/
structure TrackedVisit where
  /-- The salt to be used if there is none. -/
  fresh : String
  pid : String
  address : String
  agent : String
  /-- The salt that was used. -/
  salt : String
  /-- There was no salt, so that a new one was set. -/
  renewed : Bool
  /-- When the salt was looked up. -/
  saltSought : Nat
  /-- When a new salt was set, if there was none. -/
  saltSet : Nat
  /-- What the call was answered with. -/
  visit : Visit
  /-- When it was looked up whether the visitor had been seen. -/
  markSought : Nat
  /-- When it was noted that the visitor was seen, if it was new. -/
  markSet : Nat

/-- A visit that is tracked next. -/
def trackedVisit (config : Config) (s : TimedCache) (fresh pid address agent : String)
    (now : DateTime) : TrackedVisit :=
  let (salt, salted) := (salt fresh (span config.saltSpan)).runOn s
  { fresh, pid, address, agent, salt
    renewed := (s.get "salt").1.isNone
    saltSought := s.clock 0
    saltSet := s.clock 1
    visit := ((track config fresh pid address agent now).runOn s).1
    markSought := salted.clock 0
    markSet := salted.clock 1 }

/-- The visit of a call, if it is one. -/
def SessionCall.visit? (config : Config) (s : TimedCache) : SessionCall → Option TrackedVisit
  | track fresh pid address agent now => some (trackedVisit config s fresh pid address agent now)
  | _ => none

/-- The visits of calls that are made one after the other. -/
def visits (config : Config) (s : TimedCache) : List SessionCall → List TrackedVisit
  | [] => []
  | call :: rest => (call.visit? config s).toList ++ visits config (call.after config s) rest

/-- What is true of a visit that follows the visits `past`. -/
structure TrackedVisit.Follows (config : Config) (past : List TrackedVisit) (v : TrackedVisit) :
    Prop where
  id_eq : v.visit.id = hash v.pid v.address v.agent v.salt
  /-- A new salt is set exactly if the span of every earlier one is over. -/
  renewed_iff : v.renewed = true ↔
    ∀ u ∈ past, u.renewed = true → u.saltSet + span config.saltSpan ≤ v.saltSought
  salt_of_renewed : v.renewed = true → v.salt = v.fresh
  /-- Otherwise the salt is that of the last visit. -/
  salt_of_not_renewed : v.renewed = false → ∃ u ∈ past.getLast?, u.salt = v.salt
  /-- A visitor is new exactly if the span of every earlier visit as a new one is over. -/
  isNew_iff : v.visit.isNew = true ↔ ∀ u ∈ past, u.visit.id = v.visit.id → u.visit.isNew = true →
    u.markSet + span config.uniqueSpan ≤ v.markSought

/-! ### Programs that set a mark -/

theorem runOn_salt (s : TimedCache) (fresh : String) (ttl : Nat) : (salt fresh ttl).runOn s =
    ((s.get "salt").1.getD fresh, (s.settle "salt" fresh ttl).2) := by
  rw [salt_eq_settle, TimedCache.runOn_settle]

theorem runOn_firstSeen (s : TimedCache) (id : String) (ttl : Nat) : (firstSeen id ttl).runOn s =
    ((s.get (seenKey id)).1.isNone, (s.settle (seenKey id) "1" ttl).2) := by
  rw [firstSeen_eq_settle, TimedCache.runOn_settle]

/-- If there is no salt, one is set at the second access. -/
theorem marked_salt {s : TimedCache} {At : Nat → Prop} {ttl : Nat} (h : s.Marked "salt" At ttl)
    (hclock : Monotone s.clock) (fresh : String) :
    ((salt fresh ttl).runOn s).2.Marked "salt"
      (fun w => At w ∨ (s.get "salt").1.isNone = true ∧ s.clock 1 = w) ttl := by
  rw [runOn_salt]
  apply (h.settle hclock fresh).congr
  intro w
  rw [Option.isNone_iff_eq_none]

/-- If the visitor is new, a note of it is made at the second access. Others are as they were. -/
theorem marked_firstSeen {s : TimedCache} {id : String} {At : Nat → Prop} {ttl : Nat}
    (h : s.Marked (seenKey id) At ttl) (hclock : Monotone s.clock) (id' : String) :
    ((firstSeen id' ttl).runOn s).2.Marked (seenKey id)
      (fun w => At w ∨ (id' = id ∧ ((firstSeen id' ttl).runOn s).1 = true) ∧ s.clock 1 = w)
      ttl := by
  by_cases hid : id' = id
  · subst hid
    rw [runOn_firstSeen]
    apply (h.settle hclock "1").congr
    intro w
    rw [Option.isNone_iff_eq_none, eq_self, true_and]
  · apply (h.runOn hclock (keeps_firstSeen (mt seenKey_inj.mp (Ne.symm hid)) ttl)).congr
    intro w
    simp only [hid, false_and, or_false]

/-! ### The invariant -/

/-- What the cache shows at a time `s` after the visits `past`. -/
structure Recorded (config : Config) (s : TimedCache) (past : List TrackedVisit) : Prop where
  monotone : Monotone s.clock
  /-- The salt lasts since it was set anew. -/
  saltMarked : s.Marked "salt" (fun w => ∃ u ∈ past, u.renewed = true ∧ u.saltSet = w)
    (span config.saltSpan)
  /-- It is the one that the last visit used. -/
  lastSalt : ∀ t, s.now ≤ t → ∀ e, s.cache.shown? t "salt" = some e →
    ∃ u ∈ past.getLast?, u.salt = e.value
  /-- Every visitor is known since it was new. -/
  seenMarked : ∀ id, s.Marked (seenKey id)
    (fun w => ∃ u ∈ past, (u.visit.id = id ∧ u.visit.isNew = true) ∧ u.markSet = w)
    (span config.uniqueSpan)

variable {config : Config} {s : TimedCache} {past : List TrackedVisit}

/-- A program that sets neither salt nor notes keeps the record. -/
theorem Recorded.runOn {α : Type} (h : Recorded config s past) {p : CacheProgram α}
    (hsalt : p.Keeps "salt") (hseen : ∀ id, p.Keeps (seenKey id)) :
    Recorded config (p.runOn s).2 past where
  monotone := monotone_runOn h.monotone p
  saltMarked := h.saltMarked.runOn h.monotone hsalt
  lastSalt t ht e he := by
    rw [hsalt.shown?_runOn h.monotone ht] at he
    exact h.lastSalt t (Nat.le_trans (now_le_now_runOn h.monotone p) ht) e he
  seenMarked id := (h.seenMarked id).runOn h.monotone (hseen id)

/-! ### A visit -/

/-- As long as a salt can be seen after it was asked for, it is the one that was given. -/
theorem value_of_shown?_runOn_salt (hclock : Monotone s.clock) {fresh : String} {ttl t : Nat}
    (ht : ((salt fresh ttl).runOn s).2.now ≤ t) {e : CacheEntry}
    (he : ((salt fresh ttl).runOn s).2.cache.shown? t "salt" = some e) :
    e.value = ((salt fresh ttl).runOn s).1 := by
  rw [runOn_salt, TimedCache.settle] at ht he ⊢
  cases hfound : (s.get "salt").1 with
  | some found =>
    -- what can be seen now could be seen when it was looked up
    simp only [hfound] at ht he
    have hnow : s.now ≤ t := Nat.le_trans (TimedCache.now_le_now_tick hclock _) ht
    have hshown : s.cache.shown? s.now "salt" = some e := by
      rw [TimedCache.get, Prod.map_snd, TimedCache.tick, s.cache.shown?_get hnow] at he
      rw [Cache.shown?_eq_some_iff] at he ⊢
      exact ⟨he.1, by omega⟩
    rw [TimedCache.get, Prod.map_fst, id, Cache.get_fst, hshown] at hfound
    exact Option.some.inj hfound
  | none =>
    simp only [hfound] at ht he
    have htick : Monotone (s.get "salt").2.clock := TimedCache.monotone_tick hclock _
    have hset : (s.get "salt").2.now ≤ t :=
      Nat.le_trans (TimedCache.now_le_now_tick htick _) ht
    rw [TimedCache.set, TimedCache.tick, Cache.shown?_set _ hset, if_pos rfl,
      Option.filter_eq_some_iff] at he
    rw [← Option.some.inj he.1]
    rfl

/-- A visit asks for the salt, notes that the visitor was seen and starts or goes on with the
session. -/
theorem runOn_track (config : Config) (s : TimedCache) (fresh pid address agent : String)
    (now : DateTime) :
    let v := trackedVisit config s fresh pid address agent now
    let salted := (salt fresh (span config.saltSpan)).runOn s
    let noted := (firstSeen v.visit.id (span config.uniqueSpan)).runOn salted.2
    v.salt = salted.1 ∧ v.visit.id = hash pid address agent v.salt ∧ v.visit.isNew = noted.1 ∧
      ((track config fresh pid address agent now).runOn s).2 =
        ((duration pid v.visit.id now (span config.sessionSpan)).runOn noted.2).2 := by
  intro v salted noted
  have hrun : (track config fresh pid address agent now).runOn s =
      let id := hash pid address agent salted.1
      let noted := (firstSeen id (span config.uniqueSpan)).runOn salted.2
      (⟨id, noted.1⟩, ((duration pid id now (span config.sessionSpan)).runOn noted.2).2) := by
    simp only [track, runOn_bind, runOn_pure]
    rfl
  have hid : v.visit.id = hash pid address agent salted.1 :=
    congrArg Visit.id (congrArg Prod.fst hrun)
  refine ⟨rfl, hid, ?_, ?_⟩
  · simp only [noted, hid]
    exact congrArg Visit.isNew (congrArg Prod.fst hrun)
  · simp only [noted, hid]
    exact congrArg Prod.snd hrun

/-- Times at which something was done, with one visit more. -/
theorem exists_mem_concat_iff {v : TrackedVisit} {Did : TrackedVisit → Prop}
    {time : TrackedVisit → Nat} {w : Nat} : (∃ u ∈ past ++ [v], Did u ∧ time u = w) ↔
      (∃ u ∈ past, Did u ∧ time u = w) ∨ Did v ∧ time v = w := by
  simp only [List.mem_append, List.mem_singleton, or_and_right, exists_or, exists_eq_left]

theorem forall_times_iff {Did : TrackedVisit → Prop} {time : TrackedVisit → Nat} {ttl now : Nat} :
    (∀ w, (∃ u ∈ past, Did u ∧ time u = w) → w + ttl ≤ now) ↔
      ∀ u ∈ past, Did u → time u + ttl ≤ now := by
  constructor
  · intro h u hu hdid
    exact h _ ⟨u, hu, hdid, rfl⟩
  · rintro h _ ⟨u, hu, hdid, rfl⟩
    exact h u hu hdid

/-- The cache decides on a visit by the visits before it. -/
theorem Recorded.follows (h : Recorded config s past) (fresh pid address agent : String)
    (now : DateTime) : (trackedVisit config s fresh pid address agent now).Follows config past := by
  obtain ⟨hsalt, hid, hnew, -⟩ := runOn_track config s fresh pid address agent now
  rw [runOn_salt] at hsalt
  constructor
  · exact hid
  · show (s.get "salt").1.isNone = true ↔ _
    rw [Option.isNone_iff_eq_none, h.saltMarked.get_fst_eq_none_iff, forall_times_iff]
    rfl
  · intro hrenewed
    rw [hsalt, Option.isNone_iff_eq_none.mp hrenewed]
    rfl
  · intro hrenewed
    obtain ⟨found, hfound⟩ := Option.isSome_iff_exists.mp (Option.isNone_eq_false_iff.mp hrenewed)
    have hvalue := hfound
    rw [TimedCache.get, Prod.map_fst, id, Cache.get_fst, Option.map_eq_some_iff] at hvalue
    obtain ⟨e, hshown, rfl⟩ := hvalue
    rw [hsalt, hfound]
    exact h.lastSalt s.now (Nat.le_refl _) e hshown
  · have hseen := (h.seenMarked (trackedVisit config s fresh pid address agent now).visit.id).runOn
      h.monotone (keeps_salt (ne_of_keyKind (by simp)) fresh (span config.saltSpan))
    rw [hnew, runOn_firstSeen, Option.isNone_iff_eq_none, hseen.get_fst_eq_none_iff,
      forall_times_iff]
    simp only [and_imp]
    rfl

/-- After a visit it is recorded, too. -/
theorem Recorded.track (h : Recorded config s past) (fresh pid address agent : String)
    (now : DateTime) :
    Recorded config ((track config fresh pid address agent now).runOn s).2
      (past ++ [trackedVisit config s fresh pid address agent now]) := by
  obtain ⟨hsalt, -, hnew, hafter⟩ := runOn_track config s fresh pid address agent now
  let v := trackedVisit config s fresh pid address agent now
  let salted := ((Session.salt fresh (span config.saltSpan)).runOn s).2
  have hmonotone : Monotone salted.clock := monotone_runOn h.monotone _
  have hkeep : (firstSeen v.visit.id (span config.uniqueSpan)).Keeps "salt" :=
    keeps_firstSeen (ne_of_keyKind (by simp)) _
  have hnoted : Recorded config
      ((firstSeen v.visit.id (span config.uniqueSpan)).runOn salted).2 (past ++ [v]) := by
    constructor
    · exact monotone_runOn hmonotone _
    · apply ((marked_salt h.saltMarked h.monotone fresh).runOn hmonotone hkeep).congr
      intro w
      rw [exists_mem_concat_iff]
      rfl
    · intro t ht e he
      refine ⟨v, by simp, ?_⟩
      rw [hkeep.shown?_runOn hmonotone ht] at he
      rw [value_of_shown?_runOn_salt h.monotone (Nat.le_trans (now_le_now_runOn hmonotone _) ht) he]
      exact hsalt
    · intro id
      have hseen := (h.seenMarked id).runOn h.monotone
        (keeps_salt (ne_of_keyKind (by simp)) fresh (span config.saltSpan))
      apply (marked_firstSeen hseen hmonotone v.visit.id).congr
      intro w
      rw [exists_mem_concat_iff, hnew]
      rfl
  rw [hafter]
  exact hnoted.runOn (keeps_duration (ne_of_keyKind (by simp)) _ _)
    fun id => keeps_duration (ne_of_keyKind (by simp)) _ _

/-! ### Runs of calls -/

theorem Recorded.after (h : Recorded config s past) (call : SessionCall) :
    Recorded config (call.after config s) (past ++ (call.visit? config s).toList) := by
  cases call with
  | track fresh pid address agent now =>
    rw [SessionCall.after, SessionCall.program, runOn_bind]
    exact h.track fresh pid address agent now
  | beat pid id now =>
    have hkeep {key : String} (hhb : keyKind key ≠ ['h', 'b']) (hsd : keyKind key ≠ ['s', 'd']) :
        ((SessionCall.beat pid id now).program config).Keeps key :=
      (keeps_beat (ne_of_keyKind (by simpa using hhb)) (ne_of_keyKind (by simpa using hsd)) config
        now).bind fun _ => trivial
    show Recorded config _ (past ++ [])
    rw [List.append_nil]
    exact h.runOn (hkeep (by simp) (by simp)) fun id => hkeep (by simp) (by simp)
  | live pid =>
    show Recorded config _ (past ++ [])
    rw [List.append_nil]
    exact h.runOn ((keeps_live pid).bind fun _ => trivial)
      fun id => (keeps_live pid).bind fun _ => trivial

theorem Recorded.follows_of_visit? (h : Recorded config s past) {call : SessionCall}
    {v : TrackedVisit} (hv : call.visit? config s = some v) : v.Follows config past := by
  cases call with
  | track fresh pid address agent now =>
    obtain rfl := Option.some.inj hv
    exact h.follows fresh pid address agent now
  | beat pid id now => contradiction
  | live pid => contradiction

/-- Every visit of a run follows the visits before it. -/
theorem Recorded.follows_of_visits (h : Recorded config s past) {calls : List SessionCall}
    {before after : List TrackedVisit} {v : TrackedVisit}
    (hvisits : visits config s calls = before ++ v :: after) :
    v.Follows config (past ++ before) := by
  -- the record moves on with the calls, so that `past` grows by what is taken from `before`
  induction calls generalizing s past before with
  | nil => simp [visits] at hvisits
  | cons call rest ih =>
    have hrest := h.after call
    rw [visits] at hvisits
    cases hvisit : call.visit? config s with
    | none =>
      rw [hvisit, Option.toList_none, List.append_nil] at hrest
      rw [hvisit, Option.toList_none, List.nil_append] at hvisits
      exact ih hrest hvisits
    | some u =>
      rw [hvisit, Option.toList_some] at hrest hvisits
      cases before with
      | nil =>
        obtain rfl := (List.cons.inj hvisits).1
        rw [List.append_nil]
        exact h.follows_of_visit? hvisit
      | cons u' before =>
        obtain ⟨rfl, htail⟩ := List.cons.inj hvisits
        rw [List.append_cons]
        exact ih hrest htail

theorem recorded_empty (config : Config) {clock : Nat → Nat} (hclock : Monotone clock) :
    Recorded config ⟨.empty, clock⟩ [] where
  monotone := hclock
  saltMarked t _ := by simp
  lastSalt t _ e he := by simp at he
  seenMarked id t _ := by simp

/-- As long as no new salt is set, the visits use the same. -/
theorem salt_eq_of_forall_follows (config : Config) (earlier : List TrackedVisit)
    {between : List TrackedVisit} {u v : TrackedVisit}
    (hfollows : ∀ before after w, between ++ [v] = before ++ w :: after →
      w.Follows config (earlier ++ u :: before))
    (hsame : ∀ w ∈ between ++ [v], w.renewed = false) : u.salt = v.salt := by
  -- backwards from `v`, since a visit knows the salt of the one before it
  induction between using List.reverseRecOn generalizing v with
  | nil =>
    obtain ⟨u', hlast, hsalt⟩ := (hfollows [] [] v rfl).salt_of_not_renewed (hsame v (by simp))
    obtain rfl : u = u' := by simpa using hlast
    exact hsalt
  | append_singleton between w ih =>
    obtain ⟨w', hlast, hsalt⟩ :=
      (hfollows (between ++ [w]) [] v rfl).salt_of_not_renewed (hsame v (by simp))
    have hw : (earlier ++ u :: (between ++ [w])).getLast? = some w := by
      rw [← List.cons_append, ← List.append_assoc, List.getLast?_concat]
    obtain rfl : w = w' := Option.some.inj (hw.symm.trans hlast)
    rw [← hsalt]
    apply ih
    · intro before after w' hsplit
      exact hfollows before (after ++ [v]) w' (by rw [hsplit]; simp)
    · intro w' hw'
      exact hsame w' (List.mem_append_left _ hw')

/-- **Visitors in a run of calls.** In every run of visits, signs of life and questions, made one
after the other on a cache that starts empty and a clock that never goes back:

* a visit is answered with the digest of project, address, browser and the salt in use; a new salt
  is set exactly if every earlier one was set a whole span ago, and else the salt is that of the
  visit before;
* so visits of the same project, address and browser get the same id, unless a new salt is set in
  between;
* a visitor is new exactly if every earlier visit with the same id that was new was noted a whole
  span ago. -/
theorem visits_follow (config : Config) {clock : Nat → Nat} (hclock : Monotone clock)
    (calls : List SessionCall) :
    (∀ before v after, visits config ⟨.empty, clock⟩ calls = before ++ v :: after →
      v.Follows config before) ∧
    ∀ before u between v after,
      visits config ⟨.empty, clock⟩ calls = before ++ u :: (between ++ v :: after) →
      (∀ w ∈ between ++ [v], w.renewed = false) →
      u.salt = v.salt ∧ (u.pid = v.pid → u.address = v.address → u.agent = v.agent →
        u.visit.id = v.visit.id) := by
  have hfollows (before : List TrackedVisit) (v : TrackedVisit) (after : List TrackedVisit)
      (h : visits config ⟨.empty, clock⟩ calls = before ++ v :: after) : v.Follows config before :=
    (recorded_empty config hclock).follows_of_visits h
  refine ⟨hfollows, fun before u between v after hvisits hsame => ?_⟩
  have hsalt : u.salt = v.salt := by
    refine salt_eq_of_forall_follows config before (fun before' after' w hsplit => ?_) hsame
    apply hfollows (before ++ u :: before') w (after' ++ after)
    calc visits config ⟨.empty, clock⟩ calls
        = before ++ u :: ((between ++ [v]) ++ after) := by rw [hvisits]; simp
      _ = before ++ u :: ((before' ++ w :: after') ++ after) := by rw [hsplit]
      _ = before ++ u :: before' ++ w :: (after' ++ after) := by simp
  refine ⟨hsalt, fun hpid haddress hagent => ?_⟩
  have hu := (hfollows before u _ hvisits).id_eq
  have hv := (hfollows (before ++ u :: between) v after (by rw [hvisits]; simp)).id_eq
  rw [hu, hv, hpid, haddress, hagent, hsalt]

/-- Three visits of one visitor, with a sign of life after the first. They all use the first salt.
The second visit is made within half an hour of the first, and the third after that. -/
theorem visits_follow_thrice :
    let clock : Nat → Nat := fun n => 200000 * n
    let visit (fresh : String) (second : Int) : SessionCall :=
      .track fresh "shop" "192.0.2.1" "Firefox" ⟨second, 0⟩
    let tracked := visits .standard ⟨.empty, clock⟩
      [visit "n1" 0, .beat "shop" "v1" ⟨1200, 0⟩, visit "n2" 1800, visit "n3" 2600]
    Monotone clock ∧
      tracked.map (fun v => (v.salt, v.renewed, v.visit.isNew)) =
        [("n1", true, true), ("n1", false, false), ("n1", false, true)] ∧
      (∀ before v after, tracked = before ++ v :: after → v.Follows .standard before) ∧
      ∀ before u between v after, tracked = before ++ u :: (between ++ v :: after) →
        (∀ w ∈ between ++ [v], w.renewed = false) →
        u.salt = v.salt ∧ (u.pid = v.pid → u.address = v.address → u.agent = v.agent →
          u.visit.id = v.visit.id) := by
  intro clock visit tracked
  have hclock : Monotone clock := fun _ _ hle => Nat.mul_le_mul_left 200000 hle
  exact ⟨hclock, by decide +kernel, visits_follow .standard hclock _⟩

end SiteAnalytics.Session
