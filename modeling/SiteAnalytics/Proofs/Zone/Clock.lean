import SiteAnalytics.Proofs.Calendar.Instant
import SiteAnalytics.Zone.Basic

/-!
# Clocks as functions of time

A wall clock shows at every instant the sum of the instant and its offset.  If its changes are in
order, `Clock.instantsAt` gives the instants of a reading, all of them and no others
(`mem_instantsAt_iff`), so a reading that is shown is taken to an instant that shows it
(`utcToLocal?_of_firstInstant?`).

Every zone that a request can name has its changes in order, and if it is marked as UTC it shows UTC
(`sound_parse`).
-/

namespace SiteAnalytics

open DateTime

namespace Clock

/-- What the clock shows at an instant, in seconds. -/
def reading (c : Clock) (instant : Int) : Int := instant + c.offsetAt instant

/-! ### Instants of a reading -/

theorem mem_instantsFrom_iff {start : Option Int} {offset target : Int} {changes : List (Int × Int)}
    (hordered : changes.Pairwise fun a b => a.1 ≤ b.1)
    (hstart : ∀ a ∈ start, ∀ change ∈ changes, a ≤ change.1) (s : Int) :
    s ∈ instantsFrom start offset target changes ↔
      (∀ a ∈ start, a ≤ s) ∧ s + offsetFrom offset s changes = target := by
  induction changes generalizing start offset with
  | nil =>
    have hall : start.all (· ≤ target - offset) = true ↔ ∀ a ∈ start, a ≤ target - offset := by
      cases start <;> simp
    rw [instantsFrom, offsetFrom]
    split_ifs with h
    · rw [List.mem_singleton]
      constructor
      · rintro rfl
        exact ⟨hall.mp h, by omega⟩
      · rintro ⟨-, hs⟩
        omega
    · simp only [List.not_mem_nil, false_iff, not_and]
      rintro hs rfl
      apply h
      rw [hall, add_sub_cancel_right]
      exact hs
  | cons change rest ih =>
    obtain ⟨next, offset'⟩ := change
    have hall : start.all (· ≤ target - offset) = true ↔ ∀ a ∈ start, a ≤ target - offset := by
      cases start <;> simp
    rw [List.pairwise_cons] at hordered
    have hrest : s ∈ instantsFrom (some next) offset' target rest ↔
        (∀ a ∈ some next, a ≤ s) ∧ s + offsetFrom offset' s rest = target := by
      refine ih hordered.2 ?_
      rintro a ha change hchange
      obtain rfl := Option.mem_some_iff.mp ha
      exact hordered.1 change hchange
    rw [instantsFrom, offsetFrom, List.mem_append, hrest]
    have hnext (a : Int) (ha : a ∈ start) : a ≤ next := hstart a ha _ List.mem_cons_self
    simp only [Option.mem_some_iff, forall_eq']
    by_cases hs : next ≤ s
    · -- the change has happened, so only the instants after it count
      rw [if_pos hs]
      constructor
      · rintro (hmem | h)
        · split at hmem
          · rename_i hcond
            rw [Bool.and_eq_true, decide_eq_true_eq] at hcond
            rw [List.mem_singleton] at hmem
            omega
          · simp at hmem
        · exact ⟨fun a ha => le_trans (hnext a ha) hs, h.2⟩
      · rintro ⟨-, h⟩
        exact .inr ⟨hs, h⟩
    · rw [if_neg hs]
      constructor
      · rintro (hmem | h)
        · split at hmem
          · rename_i hcond
            rw [Bool.and_eq_true, hall, decide_eq_true_eq] at hcond
            rw [List.mem_singleton] at hmem
            subst hmem
            exact ⟨hcond.1, by omega⟩
          · simp at hmem
        · exact absurd h.1 hs
      · rintro ⟨hle, rfl⟩
        left
        rw [if_pos]
        · rw [List.mem_singleton]
          omega
        · rw [Bool.and_eq_true, hall, decide_eq_true_eq, add_sub_cancel_right]
          exact ⟨hle, not_le.mp hs⟩

/-- The instants of a reading are those at which the clock shows it. -/
theorem mem_instantsAt_iff {c : Clock} (hc : c.Ordered) {s target : Int} :
    s ∈ c.instantsAt target ↔ c.reading s = target := by
  rw [instantsAt, mem_instantsFrom_iff hc (by simp)]
  simp [reading, offsetAt]

theorem pairwise_instantsFrom {start : Option Int} {offset target : Int}
    {changes : List (Int × Int)} (hordered : changes.Pairwise fun a b => a.1 ≤ b.1)
    (hstart : ∀ a ∈ start, ∀ change ∈ changes, a ≤ change.1) :
    (instantsFrom start offset target changes).Pairwise (· < ·) := by
  induction changes generalizing start offset with
  | nil =>
    rw [instantsFrom]
    split_ifs <;> simp
  | cons change rest ih =>
    obtain ⟨next, offset'⟩ := change
    rw [List.pairwise_cons] at hordered
    have hnext : ∀ a ∈ some next, ∀ change ∈ rest, a ≤ change.1 := by
      rintro a ha change hchange
      obtain rfl := Option.mem_some_iff.mp ha
      exact hordered.1 change hchange
    rw [instantsFrom, List.pairwise_append]
    refine ⟨?_, ih hordered.2 hnext, fun a ha b hb => ?_⟩
    · split_ifs <;> simp
    · -- the instants after a change come after those before it
      have hafter := ((mem_instantsFrom_iff hordered.2 hnext b).mp hb).1 next rfl
      split_ifs at ha with hcond
      · rw [Bool.and_eq_true, decide_eq_true_eq] at hcond
        rw [List.mem_singleton] at ha
        omega
      · simp at ha

/-! ### Readings -/

theorem utcToLocal?_eq_some_iff {c : Clock} {utc wall : DateTime} :
    c.utcToLocal? utc = some wall ↔ wall.inCalendar = true ∧
      wall.second = c.reading utc.second ∧ wall.nano = utc.nano := by
  obtain ⟨second, nano⟩ := wall
  rw [utcToLocal?, setAhead, checked]
  split_ifs with h
  · rw [Option.some.injEq, DateTime.mk.injEq]
    constructor
    · rintro ⟨rfl, rfl⟩
      exact ⟨h, rfl, rfl⟩
    · rintro ⟨-, hsecond, hnano⟩
      exact ⟨hsecond.symm, hnano.symm⟩
  · refine iff_of_false (by simp) ?_
    rintro ⟨hcal, hsecond, hnano⟩
    apply h
    dsimp only at hsecond hnano
    rw [hsecond, hnano] at hcal
    exact hcal

/-- The first instant of a reading shows the reading. -/
theorem utcToLocal?_of_firstInstant? {c : Clock} (hc : c.Ordered) {wall utc : DateTime}
    (hwall : wall.inCalendar = true) (h : c.firstInstant? wall = some utc) :
    c.utcToLocal? utc = some wall := by
  rw [firstInstant?] at h
  cases hinstants : c.instantsAt wall.second with
  | nil => rw [hinstants] at h; contradiction
  | cons s rest =>
    rw [hinstants, List.map_cons] at h
    have hs : c.reading s = wall.second := (mem_instantsAt_iff hc).mp (by simp [hinstants])
    obtain rfl := eq_of_checked h
    exact utcToLocal?_eq_some_iff.mpr ⟨hwall, hs.symm, rfl⟩

theorem reading_of_firstInstant? {c : Clock} (hc : c.Ordered) {wall utc : DateTime}
    (hwall : wall.inCalendar = true) (h : c.firstInstant? wall = some utc) :
    c.reading utc.second = wall.second ∧ utc.nano = wall.nano := by
  have hshown := utcToLocal?_eq_some_iff.mp (utcToLocal?_of_firstInstant? hc hwall h)
  exact ⟨hshown.2.1.symm, hshown.2.2.symm⟩

/-- No instant of a reading comes before the first one. -/
theorem le_of_firstInstant? {c : Clock} (hc : c.Ordered) {wall utc : DateTime}
    (h : c.firstInstant? wall = some utc) {s : Int} (hs : c.reading s = wall.second) :
    utc.second ≤ s := by
  rw [firstInstant?] at h
  have hsorted : (c.instantsAt wall.second).Pairwise (· < ·) :=
    pairwise_instantsFrom hc (by simp)
  have hmem := (mem_instantsAt_iff hc).mpr hs
  cases hinstants : c.instantsAt wall.second with
  | nil => rw [hinstants] at h; contradiction
  | cons first rest =>
    rw [hinstants] at hsorted hmem h
    rw [List.map_cons] at h
    obtain rfl := eq_of_checked h
    rcases List.mem_cons.mp hmem with rfl | hmem
    · exact le_rfl
    · exact ((List.pairwise_cons.mp hsorted).1 s hmem).le

/-- Where one offset is in force at all instants within a day of it, a reading is shown once. -/
theorem firstInstant?_of_unchanged {c : Clock} (hc : c.Ordered)
    (hday : ∀ i, -86400 ≤ c.offsetAt i ∧ c.offsetAt i ≤ 86400) {s offset : Int}
    (hsame : ∀ i, s - 86400 ≤ i → i ≤ s + 86400 → c.offsetAt i = offset)
    (hcal : (ofSecond (s - offset)).inCalendar = true) :
    c.firstInstant? (ofSecond s) = some (ofSecond (s - offset)) := by
  have hoffset := hday s
  rw [hsame s (by omega) (by omega)] at hoffset
  have hmem : s - offset ∈ c.instantsAt s := by
    rw [mem_instantsAt_iff hc, reading, hsame _ (by omega) (by omega)]
    omega
  rw [firstInstant?, ofSecond_second]
  cases hinstants : c.instantsAt s with
  | nil => simp [hinstants] at hmem
  | cons i rest =>
    -- an instant that shows the reading is no more than a day away from it
    have hi : c.reading i = s := (mem_instantsAt_iff hc).mp (hinstants ▸ List.mem_cons_self)
    have hbounds := hday i
    rw [reading] at hi
    have hsameAt := hsame i (by omega) (by omega)
    obtain rfl : i = s - offset := by omega
    exact checked_eq_some hcal

/-- The clock shows the reading, or at least the one an hour later. -/
def ShownSoon (c : Clock) (wall : DateTime) : Prop :=
  (c.firstInstant? wall).isSome ∨
    ∃ later, wall.addSeconds? 3600 = some later ∧ (c.firstInstant? later).isSome

theorem not_shownSoon {c : Clock} {s : Int} (h₁ : c.firstInstant? (ofSecond s) = none)
    (h₂ : c.firstInstant? (ofSecond (s + 3600)) = none) : ¬c.ShownSoon (ofSecond s) := by
  rintro (hshown | ⟨later, hlater, hshown⟩)
  · simp [h₁] at hshown
  · rw [addSeconds?_ofSecond] at hlater
    obtain rfl := eq_of_checked hlater
    simp [h₂] at hshown

/-- A reading stands for the first instant that shows it, or that shows the reading an hour later,
or for itself. -/
theorem localToUtc?_cases {c : Clock} {s : Int} {utc : DateTime}
    (h : c.localToUtc? (ofSecond s) = some utc) :
    c.firstInstant? (ofSecond s) = some utc ∨
      c.firstInstant? (ofSecond s) = none ∧ (ofSecond (s + 3600)).inCalendar = true ∧
        (c.firstInstant? (ofSecond (s + 3600)) = some utc ∨
          c.firstInstant? (ofSecond (s + 3600)) = none ∧ utc = ofSecond s) := by
  rw [localToUtc?, addSeconds?_ofSecond] at h
  cases hshown : c.firstInstant? (ofSecond s) with
  | some t =>
    rw [hshown] at h
    exact .inl h
  | none =>
    rw [hshown, DateTime.checked] at h
    split_ifs at h with hlater
    dsimp only at h
    refine .inr ⟨rfl, hlater, ?_⟩
    cases hshown' : c.firstInstant? (ofSecond (s + 3600)) with
    | some t =>
      rw [hshown'] at h
      exact .inl h
    | none =>
      rw [hshown'] at h
      exact .inr ⟨rfl, (Option.some.inj h).symm⟩

/-- The instant that stands for the beginning of a second is one itself. If its reading is shown, or
an hour later is, the clock has reached it by then. -/
theorem reading_of_localToUtc? {c : Clock} (hc : c.Ordered) {s : Int} {utc : DateTime}
    (hs : (ofSecond s).inCalendar = true) (h : c.localToUtc? (ofSecond s) = some utc) :
    utc.nano = 0 ∧ ((c.firstInstant? (ofSecond s)).isSome → c.reading utc.second = s) ∧
      (c.ShownSoon (ofSecond s) → s ≤ c.reading utc.second) := by
  obtain hshown | ⟨hskipped, hlater, hshown | ⟨hskipped', rfl⟩⟩ := localToUtc?_cases h
  · obtain ⟨hreading, hnano⟩ := reading_of_firstInstant? hc hs hshown
    exact ⟨hnano, fun _ => hreading, fun _ => hreading.ge⟩
  · obtain ⟨hreading, hnano⟩ := reading_of_firstInstant? hc hlater hshown
    refine ⟨hnano, by simp [hskipped], fun _ => ?_⟩
    rw [hreading, ofSecond_second]
    omega
  · exact ⟨rfl, by simp [hskipped], fun hsoon => absurd hsoon (not_shownSoon hskipped hskipped')⟩

/-- The instant that stands for a reading is the first one to show what it shows. -/
theorem le_of_localToUtc? {c : Clock} (hc : c.Ordered) {s : Int} {utc : DateTime}
    (hs : (ofSecond s).inCalendar = true) (h : c.localToUtc? (ofSecond s) = some utc)
    (hsoon : c.ShownSoon (ofSecond s)) {t : Int} (ht : c.reading t = c.reading utc.second) :
    utc.second ≤ t := by
  obtain hshown | ⟨hskipped, hlater, hshown | ⟨hskipped', -⟩⟩ := localToUtc?_cases h
  · exact le_of_firstInstant? hc hshown (ht.trans (reading_of_firstInstant? hc hs hshown).1)
  · exact le_of_firstInstant? hc hshown (ht.trans (reading_of_firstInstant? hc hlater hshown).1)
  · exact absurd hsoon (not_shownSoon hskipped hskipped')

/-- A reading that is shown once stands for the instant that shows it. -/
theorem eq_of_shownOnce {c : Clock} (hc : c.Ordered) {wall utc : DateTime} {i s : Int}
    (honce : c.instantsAt wall.second = [i]) (h : c.localToUtc? wall = some utc)
    (hcal : (ofSecond s).inCalendar = true) (hs : c.reading s = wall.second) : s = utc.second := by
  have hmem := (mem_instantsAt_iff hc).mpr hs
  rw [honce, List.mem_singleton] at hmem
  subst hmem
  have hfirst : c.firstInstant? wall = some { wall with second := s } := by
    rw [firstInstant?, honce]
    exact checked_eq_some hcal
  rw [localToUtc?, hfirst] at h
  rw [← Option.some.inj h]

theorem reading_constant (offset s : Int) : (constant offset).reading s = s + offset := rfl

/-- A clock that shows UTC shows every instant as itself. -/
theorem utcToLocal?_utc (t : DateTime) : (constant 0).utcToLocal? t = t.checked := by
  have hahead : t.setAhead ((constant 0).offsetAt t.second) = t := by
    rw [setAhead, show (constant 0).offsetAt t.second = 0 from rfl, add_zero]
  rw [utcToLocal?, hahead]

/-- A clock that shows UTC takes every reading to itself. -/
theorem localToUtc?_utc {t : DateTime} (h : t.inCalendar = true) :
    (constant 0).localToUtc? t = some t := by
  have hinstants : (constant 0).instantsAt t.second = [t.second] := by
    simp [instantsAt, instantsFrom, constant]
  have hfirst : (constant 0).firstInstant? t = some t := by
    rw [firstInstant?, hinstants]
    exact checked_eq_some h
  rw [localToUtc?, hfirst]

/-! ### Setting back -/

/-- The clock is set back to before `edge` at an instant: it had reached it a second earlier. -/
def SetBackAcross (c : Clock) (edge instant : Int) : Prop :=
  edge ≤ c.reading (instant - 1) ∧ c.reading instant < edge

/-- A clock that has reached `edge` stays there until it is set back across it. -/
theorem le_reading_of_not_setBack {c : Clock} {edge start stop : Int}
    (hstart : edge ≤ c.reading start) (hstay : ∀ s, start < s → s ≤ stop → ¬c.SetBackAcross edge s)
    {s : Int} (h₁ : start ≤ s) (h₂ : s ≤ stop) : edge ≤ c.reading s := by
  induction s, h₁ using Int.leInduction with
  | base => exact hstart
  | succ s hs ih =>
    by_contra hlt
    refine hstay (s + 1) (by omega) h₂ ⟨?_, not_le.mp hlt⟩
    rw [add_sub_cancel_right]
    exact ih (by omega)

/-- A clock that has not reached `edge` in the end has been before it, unless it was set back across
it. -/
theorem reading_lt_of_not_setBack {c : Clock} {edge start stop : Int}
    (hstop : c.reading stop < edge) (hstay : ∀ s, start < s → s ≤ stop → ¬c.SetBackAcross edge s)
    {s : Int} (h₁ : start ≤ s) (h₂ : s ≤ stop) : c.reading s < edge := by
  by_contra hle
  have hreached := le_reading_of_not_setBack (not_lt.mp hle)
    (fun t ht₁ ht₂ => hstay t (by omega) ht₂) h₂ le_rfl
  omega

theorem offsetFrom_sub_one {changes : List (Int × Int)} {offset s : Int}
    (h : ∀ change ∈ changes, change.1 ≠ s) :
    offsetFrom offset (s - 1) changes = offsetFrom offset s changes := by
  induction changes generalizing offset with
  | nil => rfl
  | cons change rest ih =>
    have hne := h change List.mem_cons_self
    rw [offsetFrom, offsetFrom, ih fun c hc => h c (List.mem_cons_of_mem _ hc)]
    split_ifs with h₁ h₂
    · rfl
    · omega
    · omega
    · rfl

/-- Between its changes a clock goes on by a second a second. -/
theorem reading_sub_one {c : Clock} {s : Int} (h : ∀ change ∈ c.changes, change.1 ≠ s) :
    c.reading (s - 1) = c.reading s - 1 := by
  have hoffset : c.offsetAt (s - 1) = c.offsetAt s := offsetFrom_sub_one h
  rw [reading, reading, hoffset]
  omega

/-- A clock is set back by one of its changes. -/
theorem SetBackAcross.exists_change {c : Clock} {edge s : Int} (h : c.SetBackAcross edge s) :
    ∃ change ∈ c.changes, change.1 = s := by
  by_contra hnone
  push Not at hnone
  obtain ⟨hbefore, hafter⟩ := h
  rw [reading_sub_one hnone] at hbefore
  omega

instance (c : Clock) (edge s : Int) : Decidable (c.SetBackAcross edge s) :=
  inferInstanceAs (Decidable (_ ∧ _))

end Clock

/-! ### Zones -/

namespace Zone

/-- The changes of the zone's clock are in order, and it shows UTC if it is marked so. -/
structure Sound (z : Zone) : Prop where
  ordered : z.clock.Ordered
  utc : z.isUtc = true → z.clock = .constant 0

theorem sound_constant (name : String) (isUtc : Bool) (offset : Int)
    (h : isUtc = true → offset = 0) : Sound ⟨name, .constant offset, isUtc⟩ where
  ordered := List.Pairwise.nil
  utc hutc := by rw [h hutc]

theorem sound_of_named? {zones : ZoneSource} {name : String} {z : Zone}
    (h : named? zones name = some z) : z.Sound := by
  rw [named?] at h
  split_ifs at h
  · obtain rfl := Option.some.inj h
    exact sound_constant name true 0 fun _ => rfl
  · obtain ⟨clock, hclock, rfl⟩ := Option.map_eq_some_iff.mp h
    exact ⟨zones.ordered hclock, by simp⟩

/-- Whatever zone a request names, and wherever its clock comes from, it is sound. -/
theorem sound_parse (raw : Option String) (zones : ZoneSource) : (parse raw zones).Sound := by
  have hfallback : fallback.Sound := sound_constant _ true 0 fun _ => rfl
  rw [parse]
  split
  · exact hfallback
  · rename_i name _
    cases h : named? zones name with
    | none => exact hfallback
    | some z => exact sound_of_named? h

end Zone

end SiteAnalytics
