import SiteAnalytics.Proofs.Calendar.Instant

/-!
# Fractions and leap seconds

The arithmetic of a date-time is that of its seconds up to what its nanoseconds add, and those are
less than two seconds' worth (`DateTime.Valid`).  A step from a leap second to a later second of the
same or a later time of day counts the leap second as the one it is written on, so that it can be
added to any other reading of the same instant (`shift_diff`).
-/

namespace SiteAnalytics.DateTime

/-- The date-time is one that a clock of the calendar can show. -/
structure Valid (t : DateTime) : Prop where
  inCalendar : t.inCalendar = true
  nano_lt : t.nano < 2 * nanosPerSecond

theorem valid_ofSecond {s : Int} (h : (ofSecond s).inCalendar = true) : (ofSecond s).Valid :=
  ⟨h, Nat.zero_lt_succ _⟩

/-- The date-time is the beginning of a second, perhaps of a leap second. -/
def IsWhole (t : DateTime) : Prop := t.nano = 0 ∨ t.nano = nanosPerSecond

theorem IsWhole.nano_lt {t : DateTime} (h : t.IsWhole) : t.nano < 2 * nanosPerSecond := by
  unfold IsWhole nanosPerSecond at *
  omega

theorem isWhole_truncate {t : DateTime} (h : t.nano < 2 * nanosPerSecond) :
    t.truncate.IsWhole := by
  unfold IsWhole truncate nanosPerSecond at *
  dsimp only
  omega

@[simp] theorem truncate_second (t : DateTime) : t.truncate.second = t.second := rfl

@[simp] theorem truncate_day (t : DateTime) : t.truncate.day = t.day := rfl

theorem valid_truncate {t : DateTime} (h : t.Valid) : t.truncate.Valid := by
  refine ⟨h.inCalendar, ?_⟩
  have := h.nano_lt
  unfold truncate nanosPerSecond at *
  dsimp only
  omega

theorem secondOfDay_eq (t : DateTime) : (t.secondOfDay : Int) = t.second % 86400 := by
  unfold secondOfDay secondsPerDay
  omega

/-- The difference of two date-times is that of their seconds, up to their nanoseconds and a leap
second. -/
theorem diff_bounds {a b : DateTime} (ha : a.nano < 2 * nanosPerSecond)
    (hb : b.nano < 2 * nanosPerSecond) :
    (a.second - b.second - 3) * nanosPerSecond < a.diff b ∧
      a.diff b < (a.second - b.second + 3) * nanosPerSecond := by
  unfold diff nanosPerSecond at *
  dsimp only
  split_ifs <;> omega

theorem diff_self (t : DateTime) : t.diff t = 0 := by
  simp [diff]

theorem diff_leapSecond (stop s : Int) :
    (ofSecond stop).diff ⟨s, nanosPerSecond⟩ =
      (if (⟨s, nanosPerSecond⟩ : DateTime).secondOfDay < (ofSecond stop).secondOfDay then stop - s
        else stop - s - 1) * nanosPerSecond := by
  have hleap : (⟨s, nanosPerSecond⟩ : DateTime).inLeapSecond = true := rfl
  unfold diff
  simp only [inLeapSecond_ofSecond, hleap, Bool.and_true, Bool.and_false, Bool.false_eq_true,
    if_false, decide_eq_true_eq, ofSecond_second, ofSecond_nano]
  split_ifs <;> unfold nanosPerSecond <;> omega

/-- A step out of a leap second counts it as the second that it is written on. -/
theorem shift_leapSecond (s : Int) {n : Int} (hn : 0 < n) :
    (⟨s, nanosPerSecond⟩ : DateTime).shift (n * nanosPerSecond) = ofSecond (s + n) := by
  have hleap : (⟨s, nanosPerSecond⟩ : DateTime).inLeapSecond = true := rfl
  have hseconds : (n * nanosPerSecond).tdiv nanosPerSecond = n :=
    Int.mul_tdiv_cancel n (by decide)
  unfold shift
  simp only [hleap, if_true, hseconds]
  rw [if_pos (by simp [hn]), carried, ofSecond, DateTime.mk.injEq]
  unfold nanosPerSecond
  omega

theorem shift_zero {t : DateTime} (h : t.IsWhole) : t.shift 0 = t := by
  obtain ⟨second, nano⟩ := t
  rcases h with h | h <;> dsimp only at h <;> subst h
  · have h₀ := shift_ofSecond second 0
    rw [zero_mul, add_zero] at h₀
    exact h₀
  · simp [shift, inLeapSecond, nanosPerSecond]

/-- A step to a later time of day, of less than an hour, leads as far from any other reading of the
same instant, for a leap second is one in all of them. -/
theorem shift_diff {t t' : DateTime} {stop : Int} (ht : t.IsWhole) (hnano : t'.nano = t.nano)
    (hle : t.secondOfDay ≤ (ofSecond stop).secondOfDay) (h₀ : 0 ≤ (ofSecond stop).diff t)
    (h₁ : (ofSecond stop).diff t < 3600 * nanosPerSecond) :
    t'.shift ((ofSecond stop).diff t) = ofSecond (t'.second + (stop - t.second)) := by
  obtain ⟨s, n⟩ := t
  obtain ⟨s', n'⟩ := t'
  dsimp only at hnano
  subst hnano
  rcases ht with h | h <;> dsimp only at h <;> subst h
  · show (ofSecond s').shift ((ofSecond stop).diff (ofSecond s)) = ofSecond (s' + (stop - s))
    rw [diff_ofSecond, shift_ofSecond]
  · have hs := secondOfDay_eq ⟨s, nanosPerSecond⟩
    have hstop := secondOfDay_eq (ofSecond stop)
    dsimp only [ofSecond_second] at hs hstop
    rw [diff_leapSecond] at h₀ h₁ ⊢
    -- at the same time of day the step is one of whole days
    have hlt : (⟨s, nanosPerSecond⟩ : DateTime).secondOfDay < (ofSecond stop).secondOfDay := by
      by_contra hge
      rw [if_neg hge] at h₀ h₁
      unfold nanosPerSecond at *
      omega
    rw [if_pos hlt] at h₀ h₁ ⊢
    exact shift_leapSecond s' (by unfold nanosPerSecond at *; omega)

/-- A step back leads to the beginning of a second, counted from the end of a leap second. -/
theorem shift_neg {t : DateTime} (ht : t.IsWhole) {n : Nat} (hn : 0 < n) :
    t.shift (-(n : Int) * nanosPerSecond) =
      ofSecond (t.second + t.nano / nanosPerSecond - n) := by
  obtain ⟨s, nano⟩ := t
  rcases ht with h | h <;> dsimp only at h <;> subst h
  · dsimp only
    rw [Nat.cast_zero, Int.zero_ediv, add_zero]
    exact shift_ofSecond s (-(n : Int))
  · have hleap : (⟨s, nanosPerSecond⟩ : DateTime).inLeapSecond = true := rfl
    have hseconds : (-(n : Int) * nanosPerSecond).tdiv nanosPerSecond = -(n : Int) :=
      Int.mul_tdiv_cancel _ (by decide)
    have hfraction : (-(n : Int) * nanosPerSecond).tmod nanosPerSecond = 0 :=
      Int.mul_tmod_left _ _
    unfold shift
    simp only [hleap, if_true, hseconds, hfraction]
    rw [if_neg (by simp), if_pos (by omega), carried, ofSecond, DateTime.mk.injEq]
    unfold nanosPerSecond
    omega

/-- The difference to where a step back leads is the step, but for a leap second that may count. -/
theorem diff_shift_neg {t : DateTime} (ht : t.IsWhole) (n : Nat) :
    ∃ m : Int, (n : Int) - 1 ≤ m ∧ m ≤ n ∧
      t.diff (ofSecond (t.second + t.nano / nanosPerSecond - n)) = m * nanosPerSecond := by
  obtain ⟨s, nano⟩ := t
  rcases ht with h | h <;> dsimp only at h <;> subst h
  · refine ⟨n, by omega, le_rfl, ?_⟩
    dsimp only
    rw [Nat.cast_zero, Int.zero_ediv, add_zero]
    have hdiff := diff_ofSecond s (s - n)
    rw [sub_sub_cancel] at hdiff
    exact hdiff
  · have hleap : (⟨s, nanosPerSecond⟩ : DateTime).inLeapSecond = true := rfl
    unfold diff
    simp only [inLeapSecond_ofSecond, hleap, Bool.and_true, Bool.and_false, Bool.false_eq_true,
      if_false, decide_eq_true_eq, ofSecond_second, ofSecond_nano]
    split_ifs
    · refine ⟨n - 1, le_rfl, by omega, ?_⟩
      unfold nanosPerSecond
      omega
    · refine ⟨n, by omega, le_rfl, ?_⟩
      unfold nanosPerSecond
      omega

theorem diff_onDay (t : DateTime) (d : Int) :
    t.diff (t.onDay d) = (t.day - d) * (secondsPerDay * nanosPerSecond) := by
  have hclock : (t.onDay d).secondOfDay = t.secondOfDay := by
    unfold onDay secondOfDay secondsPerDay
    dsimp only
    omega
  unfold diff
  rw [hclock]
  simp only [lt_irrefl, decide_false, Bool.false_and, Bool.false_eq_true, if_false]
  unfold onDay day secondsPerDay nanosPerSecond
  dsimp only
  omega

end SiteAnalytics.DateTime
