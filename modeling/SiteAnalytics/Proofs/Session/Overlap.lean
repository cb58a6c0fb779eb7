import SiteAnalytics.Proofs.Cache.Turns
import SiteAnalytics.Proofs.Session.Call

/-!
# Visits that overlap

Several requests of one visitor can be under way at the same time.  Asking for the salt and noting
that the visitor was seen are each a look-up and a setting, and others may come in between.  Whoever
looks up before anyone has set goes on as if it was alone: it sets a salt of its own, or counts the
visitor as new.  So the visits agree, and count the visitor once, exactly if that happens to one of
them only (`overlapping_visits`).  It can happen to more (`overlapping_visits_both_new`).
-/

namespace SiteAnalytics.Session

open CacheProgram

/-! ### The accesses of a visit -/

/-- The accesses of a program that looks a key up and sets it if it is not there. -/
def settled (key value : String) (ttl : Nat) (found : Option String) :
    List (CacheCall × CacheAnswer) :=
  (.get key, .found found) :: match found with
    | some _ => []
    | none => [(.set key value ttl, .stored)]

theorem get_mem_settled_iff {key value key' : String} {ttl : Nat} {found : Option String}
    {answer : CacheAnswer} : (.get key', answer) ∈ settled key value ttl found ↔
      key' = key ∧ answer = .found found := by
  cases found <;> simp [settled]

theorem set_mem_settled_iff {key value key' value' : String} {ttl ttl' : Nat}
    {found : Option String} {answer : CacheAnswer} :
    (.set key' value' ttl', answer) ∈ settled key value ttl found ↔
      found = none ∧ (key' = key ∧ value' = value ∧ ttl' = ttl) ∧ answer = .stored := by
  cases found <;> simp [settled]

theorem path_settle {α : Type} {key value : String} {ttl : Nat} {result : Option String → α}
    {l : List (CacheCall × CacheAnswer)} {a : α}
    (h : (settle key value ttl result).Path l (done a)) :
    ∃ found, a = result found ∧ l = settled key value ttl found := by
  cases h with
  | @get _ _ found _ _ rest =>
    cases found with
    | some value' =>
      cases rest
      exact ⟨_, rfl, rfl⟩
    | none =>
      cases rest with
      | set rest =>
        cases rest
        exact ⟨_, rfl, rfl⟩

theorem path_duration {pid id : String} {now : DateTime} {ttl n : Nat}
    {l : List (CacheCall × CacheAnswer)} (h : (duration pid id now ttl).Path l (done n)) :
    ∃ found start, l =
      [(.get (startKey pid id), .found found), (.set (startKey pid id) start ttl, .stored)] := by
  cases h with
  | get rest =>
    cases rest with
    | set rest =>
      cases rest
      exact ⟨_, _, rfl⟩

/-- What the accesses of a visit are, by what it found as the salt and as the note that the visitor
was seen. -/
structure VisitAccesses (config : Config) (fresh pid address agent : String)
    (l : List (CacheCall × CacheAnswer)) (v : Visit) (salted noted : Option String) : Prop where
  id_eq : v.id = hash pid address agent (salted.getD fresh)
  isNew_eq : v.isNew = noted.isNone
  get_salt : ∀ answer, (.get "salt", answer) ∈ l ↔ answer = .found salted
  set_salt : ∀ value ttl answer, (.set "salt" value ttl, answer) ∈ l ↔
    salted = none ∧ (value = fresh ∧ ttl = span config.saltSpan) ∧ answer = .stored
  get_seen : ∀ answer, (.get (seenKey v.id), answer) ∈ l ↔ answer = .found noted
  set_seen : ∀ id value ttl answer, (.set (seenKey id) value ttl, answer) ∈ l ↔
    noted = none ∧ (id = v.id ∧ value = "1" ∧ ttl = span config.uniqueSpan) ∧ answer = .stored

theorem exists_visitAccesses {config : Config} {fresh pid address agent : String} {now : DateTime}
    {l : List (CacheCall × CacheAnswer)} {v : Visit}
    (h : (track config fresh pid address agent now).Path l (done v)) :
    ∃ salted noted, VisitAccesses config fresh pid address agent l v salted noted := by
  rw [track, salt_eq_settle] at h
  obtain ⟨l₁, _, l', rfl, h₁, h'⟩ := exists_path_of_bind h
  obtain ⟨salted, rfl, rfl⟩ := path_settle h₁
  obtain ⟨l₂, _, l'', rfl, h₂, h''⟩ := exists_path_of_bind h'
  rw [firstSeen_eq_settle] at h₂
  obtain ⟨noted, rfl, rfl⟩ := path_settle h₂
  obtain ⟨l₃, _, l₄, rfl, h₃, h₄⟩ := exists_path_of_bind h''
  obtain ⟨started, start, rfl⟩ := path_duration h₃
  cases h₄
  -- the keys are of different kinds
  have hsalt (id : String) : "salt" ≠ seenKey id := ne_of_keyKind (by simp)
  have hstart (id : String) : "salt" ≠ startKey pid id := ne_of_keyKind (by simp)
  have hseen (id id' : String) : seenKey id ≠ startKey pid id' := ne_of_keyKind (by simp)
  refine ⟨salted, noted, ?_⟩
  constructor <;>
    simp [get_mem_settled_iff, set_mem_settled_iff, seenKey_inj, hsalt, hstart, hseen,
      (hsalt _).symm]

theorem within_track (config : Config) (fresh pid address agent : String) (now : DateTime) :
    (track config fresh pid address agent now).Within 6 := by
  rintro (_ | salted) <;> rintro (_ | noted) <;> exact fun started => trivial

/-! ### Overlapping visits -/

/-- What is true of visits of one visitor that overlap, by the log of their accesses. -/
structure Overlapping {ι : Type} (pid address agent : String) (fresh : ι → String)
    (log : List (Access ι)) (visits : ι → Visit) : Prop where
  /-- Whoever looks for the salt before it is set uses its own, and the others one of these. -/
  salted : ∀ i, ∃ j, LooksBeforeSet log "salt" j ∧
    (visits i).id = hash pid address agent (fresh j) ∧ (LooksBeforeSet log "salt" i → j = i)
  /-- Whoever looks for the note before it is set finds the visitor to be new. -/
  isNew_iff : ∀ i, (visits i).isNew = true ↔ LooksBeforeSet log (seenKey (visits i).id) i
  /-- Every visitor is counted at least once. -/
  counted : ∀ i, ∃ j, (visits j).id = (visits i).id ∧ (visits j).isNew = true

/-- The visits agree and one of them is new, exactly if no two clients look before somebody sets. -/
theorem Overlapping.agree_iff {ι : Type} [Nonempty ι] {pid address agent : String}
    {fresh : ι → String} {log : List (Access ι)} {visits : ι → Visit}
    (h : Overlapping pid address agent fresh log visits) :
    ((∀ i j, (visits i).id = (visits j).id) ∧ ∃! i, (visits i).isNew = true) ↔
      (∀ i j, LooksBeforeSet log "salt" i → LooksBeforeSet log "salt" j →
        hash pid address agent (fresh i) = hash pid address agent (fresh j)) ∧
      ∀ i j, LooksBeforeSet log (seenKey (visits i).id) i →
        LooksBeforeSet log (seenKey (visits j).id) j → i = j := by
  constructor
  · rintro ⟨hid, hnew⟩
    constructor
    · intro i j hi hj
      obtain ⟨i', -, hi', hi''⟩ := h.salted i
      obtain ⟨j', -, hj', hj''⟩ := h.salted j
      rw [hi'' hi] at hi'
      rw [hj'' hj] at hj'
      rw [← hi', ← hj', hid i j]
    · intro i j hi hj
      exact hnew.unique ((h.isNew_iff i).mpr hi) ((h.isNew_iff j).mpr hj)
  · rintro ⟨hsalt, hseen⟩
    constructor
    · intro i j
      obtain ⟨i', hi, hi', -⟩ := h.salted i
      obtain ⟨j', hj, hj', -⟩ := h.salted j
      rw [hi', hj', hsalt i' j' hi hj]
    · obtain ⟨i⟩ := ‹Nonempty ι›
      obtain ⟨j, -, hj⟩ := h.counted i
      refine ⟨j, hj, fun k hk => ?_⟩
      exact hseen k j ((h.isNew_iff k).mp hk) ((h.isNew_iff j).mp hj)

section

variable {ι : Type} [DecidableEq ι] {config : Config} {pid address agent : String}
  {fresh : ι → String} {now : ι → DateTime} {start : Nat} {schedule : List (Nat × ι)}

theorem overlapping_of_result {s : Clients ι Visit} (hempty : s.cache = .empty)
    (hprograms : ∀ i, s.programs i = track config (fresh i) pid address agent (now i))
    (hsorted : schedule.Pairwise fun x y => x.1 ≤ y.1)
    (htimes : ∀ turn ∈ schedule, start ≤ turn.1 ∧ turn.1 < start + span config.saltSpan ∧
      turn.1 < start + span config.uniqueSpan)
    {visits : ι → Visit} (hdone : ∀ i, ((s.run schedule).programs i).result? = some (visits i)) :
    Overlapping pid address agent fresh (s.log schedule) visits := by
  have haccesses (i : ι) : ∃ salted noted, VisitAccesses config (fresh i) pid address agent
      (Clients.own (s.log schedule) i) (visits i) salted noted := by
    have hpath := s.path_run schedule i
    rw [hprograms, result?_eq_some_iff.mp (hdone i)] at hpath
    exact exists_visitAccesses hpath
  choose salted noted haccesses using haccesses
  -- whatever is set lasts to the end, because nothing is set before the start
  have hstart {a : Access ι} (ha : a ∈ s.log schedule) : start ≤ a.time := by
    obtain ⟨turn, hmem, htime⟩ := Clients.exists_mem_schedule ha
    rw [← htime]
    exact (htimes turn hmem).1
  have hsets {a : Access ι} (ha : a ∈ s.log schedule) {key value : String} {ttl : Nat}
      (hcall : a.call = .set key value ttl) :
      (.set key value ttl, a.answer) ∈ Clients.own (s.log schedule) a.client :=
    Clients.mem_own_iff.mpr ⟨a, ha, rfl, hcall, rfl⟩
  have hsalt (i : ι) := Clients.looksBeforeSet_iff hempty hsorted
    (fun turn hmem => ⟨(htimes turn hmem).1, (htimes turn hmem).2.1⟩)
    (fun a ha value ttl hcall => by
      obtain ⟨-, ⟨-, rfl⟩, -⟩ := ((haccesses a.client).set_salt _ _ _).mp (hsets ha hcall)
      exact Nat.add_le_add_right (hstart ha) _)
    (haccesses i).get_salt
  have hseen (i : ι) := Clients.looksBeforeSet_iff hempty hsorted
    (fun turn hmem => ⟨(htimes turn hmem).1, (htimes turn hmem).2.2⟩)
    (fun a ha value ttl hcall => by
      obtain ⟨-, ⟨-, -, rfl⟩, -⟩ := ((haccesses a.client).set_seen _ _ _ _).mp (hsets ha hcall)
      exact Nat.add_le_add_right (hstart ha) _)
    (haccesses i).get_seen
  have hnew (i : ι) : (visits i).isNew = true ↔ noted i = none := by
    rw [(haccesses i).isNew_eq, Option.isNone_iff_eq_none]
  constructor
  · intro i
    cases hfound : salted i with
    | none =>
      exact ⟨i, (hsalt i).1.mpr hfound, by rw [(haccesses i).id_eq, hfound]; rfl, fun _ => rfl⟩
    | some value =>
      obtain ⟨a, ha, ttl, hcall⟩ := (hsalt i).2 value hfound
      obtain ⟨hnone, ⟨rfl, -⟩, -⟩ := ((haccesses a.client).set_salt _ _ _).mp (hsets ha hcall)
      refine ⟨a.client, (hsalt a.client).1.mpr hnone, by rw [(haccesses i).id_eq, hfound]; rfl, ?_⟩
      intro hlooks
      rw [(hsalt i).1.mp hlooks] at hfound
      contradiction
  · intro i
    rw [hnew, (hseen i).1]
  · intro i
    cases hfound : noted i with
    | none => exact ⟨i, rfl, (hnew i).mpr hfound⟩
    | some value =>
      obtain ⟨a, ha, ttl, hcall⟩ := (hseen i).2 value hfound
      obtain ⟨hnone, ⟨hid, -⟩, -⟩ := ((haccesses a.client).set_seen _ _ _ _).mp (hsets ha hcall)
      exact ⟨a.client, hid.symm, (hnew _).mpr hnone⟩

/-- **Visits that overlap.** However the accesses of visits of one visitor alternate, on a cache
that starts empty and within the spans of the salt and of the note: once each has had its turns, it
is answered. It uses a salt of its own exactly if it looks for it before anyone has set one, and is
new exactly if it looks for the note before anyone has set it. So the visitor is never missed; and
all visits agree and only one is new, exactly if no two look for the note before it is set, and the
salts of those who look for it before one is set give the same digest. -/
theorem overlapping_visits [Nonempty ι] (config : Config) (pid address agent : String)
    (fresh : ι → String) (now : ι → DateTime) (hsorted : schedule.Pairwise fun x y => x.1 ≤ y.1)
    (htimes : ∀ turn ∈ schedule, start ≤ turn.1 ∧ turn.1 < start + span config.saltSpan ∧
      turn.1 < start + span config.uniqueSpan)
    (hturns : ∀ i, 6 ≤ schedule.countP (·.2 = i)) :
    let clients : Clients ι Visit :=
      ⟨.empty, fun i => track config (fresh i) pid address agent (now i)⟩
    let log := clients.log schedule
    ∃ visits : ι → Visit,
      (∀ i, ((clients.run schedule).programs i).result? = some (visits i)) ∧
      Overlapping pid address agent fresh log visits ∧
      (((∀ i j, (visits i).id = (visits j).id) ∧ ∃! i, (visits i).isNew = true) ↔
        (∀ i j, LooksBeforeSet log "salt" i → LooksBeforeSet log "salt" j →
          hash pid address agent (fresh i) = hash pid address agent (fresh j)) ∧
        ∀ i j, LooksBeforeSet log (seenKey (visits i).id) i →
          LooksBeforeSet log (seenKey (visits j).id) j → i = j) := by
  intro clients log
  have hdone (i : ι) : ∃ v, ((clients.run schedule).programs i).result? = some v :=
    Clients.exists_result_of_within (within_track config _ pid address agent _) (hturns i)
  choose visits hdone using hdone
  have hoverlap : Overlapping pid address agent fresh log visits :=
    overlapping_of_result rfl (fun _ => rfl) hsorted htimes hdone
  exact ⟨visits, hdone, hoverlap, hoverlap.agree_iff⟩

end

/-- The second visit asks for the salt after the first has set it, and looks for the note after the
first has set that: they agree, and only the first is new. -/
theorem overlapping_visits_in_turn :
    let clients : Clients Bool Visit := ⟨.empty, fun first =>
      track .standard (if first then "n1" else "n2") "shop" "192.0.2.1" "Firefox" ⟨0, 0⟩⟩
    let schedule : List (Nat × Bool) := [(0, true), (0, true), (5, false), (5, true), (5, true),
      (10, false), (10, true), (10, false), (10, false), (12, true), (12, false), (12, false)]
    let log := clients.log schedule
    schedule.Pairwise (fun x y => x.1 ≤ y.1) ∧
      (∀ turn ∈ schedule, 0 ≤ turn.1 ∧ turn.1 < 0 + span Config.standard.saltSpan ∧
        turn.1 < 0 + span Config.standard.uniqueSpan) ∧
      (∀ first, 6 ≤ schedule.countP (·.2 = first)) ∧
      [true, false].map (fun first =>
        ((clients.run schedule).programs first).result?.map Visit.isNew) = [some true, some false] ∧
      ∃ visits : Bool → Visit,
        (∀ i, ((clients.run schedule).programs i).result? = some (visits i)) ∧
        Overlapping "shop" "192.0.2.1" "Firefox" (fun first => if first then "n1" else "n2") log
          visits ∧
        (((∀ i j, (visits i).id = (visits j).id) ∧ ∃! i, (visits i).isNew = true) ↔
          (∀ i j, LooksBeforeSet log "salt" i → LooksBeforeSet log "salt" j →
            hash "shop" "192.0.2.1" "Firefox" (if i then "n1" else "n2") =
              hash "shop" "192.0.2.1" "Firefox" (if j then "n1" else "n2")) ∧
          ∀ i j, LooksBeforeSet log (seenKey (visits i).id) i →
            LooksBeforeSet log (seenKey (visits j).id) j → i = j) := by
  intro clients schedule log
  have hsorted : schedule.Pairwise fun x y => x.1 ≤ y.1 := by decide
  have htimes : ∀ turn ∈ schedule, 0 ≤ turn.1 ∧ turn.1 < 0 + span Config.standard.saltSpan ∧
      turn.1 < 0 + span Config.standard.uniqueSpan := by decide
  have hturns : ∀ first, 6 ≤ schedule.countP (·.2 = first) := by decide
  exact ⟨hsorted, htimes, hturns, by decide +kernel,
    overlapping_visits .standard "shop" "192.0.2.1" "Firefox" _ _ hsorted htimes hturns⟩

/-- Two visits of one visitor on a cache that starts empty, all at the same time.  If the second
looks for the note before the first sets it, then both are new; if the second looks for the salt
before the first sets it, then they get different ids. -/
theorem overlapping_visits_both_new :
    let clients : Clients Bool Visit := ⟨.empty, fun first =>
      track .standard (if first then "n1" else "n2") "shop" "192.0.2.1" "Firefox" ⟨0, 0⟩⟩
    let visit? (turns : List Bool) (first : Bool) : Option Visit :=
      ((clients.run (turns.map fun i => (0, i))).programs first).result?
    let noted := [true, true, false, true, false, false, true, true, true, false, false]
    let salted := [true, false, true, false, true, true, true, true, false, false, false, false]
    (visit? noted true = visit? noted false ∧
      (visit? noted true).map Visit.isNew = some true ∧
      (visit? noted false).map Visit.isNew = some true) ∧
    (visit? salted true).isSome = true ∧ (visit? salted false).isSome = true ∧
      (visit? salted true).map Visit.id ≠ (visit? salted false).map Visit.id := by
  decide +kernel

end SiteAnalytics.Session
