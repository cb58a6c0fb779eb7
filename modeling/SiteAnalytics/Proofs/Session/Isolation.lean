import SiteAnalytics.Proofs.Cache.AgreeOff
import SiteAnalytics.Proofs.Session.Call
import SiteAnalytics.Proofs.Text.Wildcard
import Mathlib.Data.List.Basic

/-!
# Signs of life in other projects

Whether a sign of life in one project can be noticed in another (`Isolated`) is a question about two
runs, with it and without it.  Their caches agree but for the two keys that it sets, whatever is
called afterwards (`agreeOff_afterAll`).  So it goes unnoticed unless one of these keys is counted
or looked up for the other project.

The keys are texts with colons in them, and the ids may have colons, too.  A sign of life is counted
elsewhere if its key fits the pattern of the other project, and only then can its start be
taken for one of the other project.
-/

namespace SiteAnalytics.Session

open CacheProgram

/-! ### The keys of a sign of life -/

/-- The keys that a sign of life sets. -/
def BeatKey (pid id key : String) : Prop := key = heartbeatKey pid id ∨ key = startKey pid id

theorem not_beatKey {pid id key : String} (hhb : keyKind key ≠ ['h', 'b'])
    (hsd : keyKind key ≠ ['s', 'd']) : ¬ BeatKey pid id key := by
  rintro (rfl | rfl)
  · simp at hhb
  · simp at hsd

/-- The pattern of a project fits signs of life only. -/
theorem fits_startKey (p q id : String) :
    Wildcard.fits (heartbeatKey p "*") (startKey q id) = false := by
  rw [← Bool.not_eq_true]
  intro h
  have hprefix := Wildcard.isPrefix_of_fits h
  simp [heartbeatKey, startKey, Wildcard.pieces] at hprefix

/-- It fits all of the project itself. -/
theorem fits_heartbeatKey_self (p id : String) :
    Wildcard.fits (heartbeatKey p "*") (heartbeatKey p id) = true :=
  Wildcard.fits_star_append ("hb:" ++ p ++ ":") id

/-- Where the starts of two sessions have the same key, so have their signs of life. -/
theorem heartbeatKey_eq_of_startKey_eq {p q id id' : String} (h : startKey p id = startKey q id') :
    heartbeatKey p id = heartbeatKey q id' := by
  have hchars := congrArg String.toList h
  rw [← String.toList_inj]
  simpa [startKey, heartbeatKey] using hchars

/-- If the project has no star in its id, the pattern fits what begins with it and a colon. -/
theorem fits_heartbeatKey_iff {p q id : String} (h : '*' ∉ p.toList) :
    Wildcard.fits (heartbeatKey p "*") (heartbeatKey q id) = true ↔
      p.toList ++ [':'] <+: q.toList ++ ':' :: id.toList := by
  have hstar : '*' ∉ ("hb:" ++ p ++ ":").toList := by simpa using h
  refine (Wildcard.fits_star_iff hstar).trans ?_
  simp [heartbeatKey]

/-- Parts that end at a colon are the same, if there is no colon in the one, and none in the other
or in what follows. -/
theorem eq_of_isPrefix {p q id : List Char} (hq : ':' ∉ q) (hcolon : ':' ∉ p ∨ ':' ∉ id)
    (h : p ++ [':'] <+: q ++ ':' :: id) : p = q := by
  obtain ⟨rest, hrest⟩ := h
  rw [List.append_assoc, List.singleton_append] at hrest
  have hp : ':' ∉ p := by
    rcases hcolon with hp | hid
    · exact hp
    · -- there is only one colon in all
      have hcount := congrArg (List.count ':') hrest
      rw [List.count_append, List.count_append, List.count_cons_self, List.count_cons_self,
        List.count_eq_zero.mpr hq, List.count_eq_zero.mpr hid] at hcount
      exact List.count_eq_zero.mp (by omega)
  -- so both are what stands before the first colon
  have hbefore {part rest : List Char} (hpart : ':' ∉ part) :
      (part ++ ':' :: rest).takeWhile (· ≠ ':') = part := by
    have hall : ∀ c ∈ part, decide (c ≠ ':') = true := fun c hc =>
      decide_eq_true fun heq => hpart (heq ▸ hc)
    rw [List.takeWhile_append_of_pos hall, List.takeWhile_cons_of_neg (by simp), List.append_nil]
  rw [← hbefore hp, hrest, hbefore hq]

/-! ### What does not tell the two runs apart -/

section

variable {Off : String → Prop}

theorem blind_salt (h : ¬ Off "salt") (fresh : String) (ttl : Nat) :
    (salt fresh ttl).Blind Off := by
  rw [salt_eq_settle]
  exact blind_settle h _ _ _

theorem blind_firstSeen {id : String} (h : ¬ Off (seenKey id)) (ttl : Nat) :
    (firstSeen id ttl).Blind Off := by
  rw [firstSeen_eq_settle]
  exact blind_settle h _ _ _

theorem blind_heartbeat (pid id : String) (ttl : Nat) : (heartbeat pid id ttl).Blind Off := trivial

theorem blind_duration {pid id : String} (h : ¬ Off (startKey pid id)) (now : DateTime)
    (ttl : Nat) : (duration pid id now ttl).Blind Off :=
  ⟨h, fun _ => trivial⟩

theorem blind_live {pid : String}
    (h : ∀ key, Wildcard.fits (heartbeatKey pid "*") key = true → ¬ Off key) :
    (live pid).Blind Off :=
  ⟨h, fun _ => trivial⟩

/-- The start of a session is looked up and set under the same key. -/
theorem respects_duration (pid id : String) (now : DateTime) (ttl : Nat) :
    (duration pid id now ttl).Respects Off := by
  by_cases hkey : Off (startKey pid id)
  · exact fun s s' h => (h.get (startKey pid id)).set_of_mem hkey _ _ ttl
  · exact (blind_duration hkey now ttl).respects

theorem respects_live (pid : String) : (live pid).Respects Off :=
  fun _ _ h => h.count (heartbeatKey pid "*")

end

/-- No call carries a difference in the keys of a sign of life over to other keys. -/
theorem respects_program (config : Config) (pid id : String) (call : SessionCall) :
    (call.program config).Respects (BeatKey pid id) := by
  cases call with
  | track fresh pid' address agent now =>
    have hsalt : ¬ BeatKey pid id "salt" := not_beatKey (by simp) (by simp)
    have hseen (id' : String) : ¬ BeatKey pid id (seenKey id') := not_beatKey (by simp) (by simp)
    apply Respects.bind_pure
    apply (blind_salt hsalt fresh _).bind_respects
    intro salt
    apply (blind_firstSeen (hseen _) _).bind_respects
    intro isNew
    exact (respects_duration pid' _ now _).bind_pure _
  | beat pid' id' now =>
    apply Respects.bind_pure
    exact (blind_heartbeat pid' id' _).bind_respects fun _ => respects_duration pid' id' now _
  | live pid' => exact (respects_live pid').bind_pure _

theorem agreeOff_afterAll {config : Config} {pid id : String} {s s' : TimedCache}
    (h : AgreeOff (BeatKey pid id) s s') (calls : List SessionCall) :
    AgreeOff (BeatKey pid id) (SessionCall.afterAll config s calls)
      (SessionCall.afterAll config s' calls) := by
  induction calls generalizing s s' with
  | nil => exact h
  | cons call rest ih => exact ih (respects_program config pid id call s s' h)

/-- With and without a sign of life the caches agree but for its keys. -/
theorem agreeOff_beat (config : Config) {s : TimedCache} (hclock : Monotone s.clock)
    (pid id : String) (now : DateTime) :
    AgreeOff (BeatKey pid id) ⟨s.cache, ((beat config pid id now).runOn s).2.clock⟩
      ((beat config pid id now).runOn s).2 where
  monotone := monotone_runOn hclock _
  clock_eq := rfl
  shown?_eq key hkey t ht := by
    obtain ⟨hhb, hsd⟩ := not_or.mp hkey
    exact (keeps_beat hhb hsd config now).shown?_runOn hclock ht

/-! ### Isolation -/

/-- A sign of life of `id` in the project `q` goes unnoticed in the project `p`: after whatever was
called before, and whatever is called then, the number of live visitors of `p` is the same as
without it, and so are the seconds that a sign of life in `p` is answered with. -/
def Isolated (config : Config) (p q id : String) : Prop :=
  ∀ clock : Nat → Nat, Monotone clock → ∀ (before : List SessionCall) (now : DateTime)
    (later : List SessionCall),
    let s := SessionCall.afterAll config ⟨.empty, clock⟩ before
    let beaten := ((beat config q id now).runOn s).2
    let spared : TimedCache := ⟨s.cache, beaten.clock⟩
    ((live p).runOn (SessionCall.afterAll config beaten later)).1 =
        ((live p).runOn (SessionCall.afterAll config spared later)).1 ∧
      ∀ id' now', ((beat config p id' now').runOn (SessionCall.afterAll config beaten later)).1 =
        ((beat config p id' now').runOn (SessionCall.afterAll config spared later)).1

theorem monotone_afterAll {config : Config} {s : TimedCache} (h : Monotone s.clock)
    (calls : List SessionCall) : Monotone (SessionCall.afterAll config s calls).clock := by
  induction calls generalizing s with
  | nil => exact h
  | cons call rest ih => exact ih (monotone_runOn h _)

/-- A sign of life that does not fit the pattern goes unnoticed. -/
theorem isolated_of_not_fits (config : Config) {p q id : String}
    (h : Wildcard.fits (heartbeatKey p "*") (heartbeatKey q id) = false) :
    Isolated config p q id := by
  intro clock hclock before now later s beaten spared
  have hs : Monotone s.clock := monotone_afterAll hclock before
  have hagree : AgreeOff (BeatKey q id) (SessionCall.afterAll config spared later)
      (SessionCall.afterAll config beaten later) :=
    agreeOff_afterAll (agreeOff_beat config hs q id now) later
  have hlive (key : String) (hfits : Wildcard.fits (heartbeatKey p "*") key = true) :
      ¬ BeatKey q id key := by
    rintro (rfl | rfl)
    · simp [h] at hfits
    · simp [fits_startKey] at hfits
  have hstart (id' : String) : ¬ BeatKey q id (startKey p id') := by
    rintro (heq | heq)
    · exact ne_of_keyKind (by simp) heq
    · -- then the sign of life would have a key of the project itself
      rw [← heartbeatKey_eq_of_startKey_eq heq, fits_heartbeatKey_self] at h
      contradiction
  constructor
  · exact ((blind_live hlive).runOn hagree).1
  · intro id' now'
    have hbeat : (beat config p id' now').Blind (BeatKey q id) :=
      (blind_heartbeat p id' _).bind fun _ => blind_duration (hstart id') now' _
    exact (hbeat.runOn hagree).1

/-- One that fits it is counted at once. -/
theorem not_isolated_of_fits {config : Config} (hspan : 0 < config.heartbeatSpan) {p q id : String}
    (h : Wildcard.fits (heartbeatKey p "*") (heartbeatKey q id) = true) :
    ¬ Isolated config p q id := by
  intro hisolated
  let s : TimedCache := ⟨.empty, fun _ => 0⟩
  let noted := s.set (heartbeatKey q id) "1" (span config.heartbeatSpan)
  let beaten := ((beat config q id ⟨0, 0⟩).runOn s).2
  have hconstant : Monotone fun _ : Nat => 0 := fun _ _ _ => Nat.le_refl 0
  have hshown : (beaten.cache.shown? beaten.now (heartbeatKey q id)).isSome = true := by
    have hkeeps : (duration q id ⟨0, 0⟩ (span config.sessionSpan)).Keeps (heartbeatKey q id) :=
      keeps_duration (ne_of_keyKind (by simp)) _ _
    have hset : noted.cache.shown? 0 (heartbeatKey q id) =
        some ⟨"1", 0 + span config.heartbeatSpan⟩ := by
      have hlasts : 0 < 0 + span config.heartbeatSpan := by rw [span]; omega
      refine (Cache.shown?_set _ (Nat.le_refl 0) _ _ _ _).trans ?_
      rw [if_pos rfl, Option.filter_some, if_pos (decide_eq_true hlasts)]
    rw [← Option.isSome_some, ← hset, ← hkeeps.shown?_runOn (s := noted) hconstant (Nat.le_refl 0)]
    rfl
  have hcounted : 0 < ((live p).runOn beaten).1 := Cache.count_fst_pos _ h hshown
  have hnone : ((live p).runOn s).1 = 0 := rfl
  have hsame : ((live p).runOn beaten).1 = ((live p).runOn s).1 :=
    (hisolated _ hconstant [] ⟨0, 0⟩ []).1
  omega

/-- **Isolation of projects.** A sign of life in one project goes unnoticed in another exactly if
its key does not fit the pattern of the other. Between two projects with different ids that is so if
the one has no star in its id, the other no colon, and either the first id or the id of the visitor
has no colon. -/
theorem isolated_iff {config : Config} (hspan : 0 < config.heartbeatSpan) (p q id : String) :
    (Isolated config p q id ↔
      Wildcard.fits (heartbeatKey p "*") (heartbeatKey q id) = false) ∧
    (p ≠ q → '*' ∉ p.toList → ':' ∉ q.toList → ':' ∉ p.toList ∨ ':' ∉ id.toList →
      Isolated config p q id) := by
  constructor
  · constructor
    · intro hisolated
      rw [← Bool.not_eq_true]
      exact fun h => not_isolated_of_fits hspan h hisolated
    · exact isolated_of_not_fits config
  · intro hne hstar hq hcolon
    apply isolated_of_not_fits
    rw [← Bool.not_eq_true, fits_heartbeatKey_iff hstar]
    intro hprefix
    exact hne (String.toList_inj.mp (eq_of_isPrefix hq hcolon hprefix))

/-- Signs of life in a blog are not noticed in a shop. -/
theorem isolated_iff_shop_blog :
    0 < Config.standard.heartbeatSpan ∧
      (Isolated .standard "shop" "blog" "v1" ↔
        Wildcard.fits (heartbeatKey "shop" "*") (heartbeatKey "blog" "v1") = false) ∧
      Isolated .standard "shop" "blog" "v1" := by
  have hspan : 0 < Config.standard.heartbeatSpan := by decide
  obtain ⟨hiff, hisolated⟩ := isolated_iff hspan "shop" "blog" "v1"
  exact ⟨hspan, hiff, hisolated (by decide) (by decide) (by decide) (.inl (by decide))⟩

/-- Signs of life in the project `shop:eu` are counted as live visitors of `shop`.  And a sign of
life of the visitor `b:c` in the project `a` starts the session of the visitor `c` in the project
`a:b`. -/
theorem not_isolated_shop_eu :
    ("shop" ≠ "shop:eu" ∧ ¬ Isolated .standard "shop" "shop:eu" "v1") ∧
      let s : TimedCache := ⟨.empty, fun _ => 0⟩
      let beaten := ((beat .standard "a" "b:c" ⟨0, 0⟩).runOn s).2
      ((beat .standard "a:b" "c" ⟨60, 0⟩).runOn beaten).1 = 60 ∧
        ((beat .standard "a:b" "c" ⟨60, 0⟩).runOn s).1 = 0 := by
  refine ⟨⟨by decide, fun hisolated => ?_⟩, by decide +kernel⟩
  have hsame := (hisolated (fun _ => 0) (fun _ _ _ => Nat.le_refl 0) [] ⟨0, 0⟩ []).1
  revert hsame
  decide +kernel

end SiteAnalytics.Session
