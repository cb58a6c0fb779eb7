import Mathlib.Algebra.Group.Nat.Defs
import SiteAnalytics.Text.Numeral

/-!
# Decimal numerals

A numeral that is padded with zeros still has its value (`ofDigitChars_padded`), so different
numbers have different numerals, and a numeral can be told apart from what follows it as long as
that does not begin with a digit (`padded_append_inj`).

The bound is checked after every digit, but what counts is the whole value, since more digits never
make it smaller: `readDigits_eq_ok_iff`, and `readNat_eq_ok_iff` with a sign in front.
-/

namespace SiteAnalytics.Numeral

/-! ### Digits -/

theorem digit?_eq (c : Char) :
    digit? c = if c.isDigit then some (c.toNat - '0'.toNat) else none := rfl

theorem isSome_digit? (c : Char) : (digit? c).isSome = c.isDigit := by
  rw [digit?_eq]
  cases c.isDigit <;> rfl

/-- The digits are the ten characters from `0` to `9`. -/
theorem isDigit_iff {c : Char} : c.isDigit = true ↔ 48 ≤ c.toNat ∧ c.toNat ≤ 57 := by
  rw [Char.isDigit, Bool.and_eq_true, decide_eq_true_eq, decide_eq_true_eq, ge_iff_le,
    UInt32.le_iff_toNat_le, UInt32.le_iff_toNat_le]
  exact Iff.rfl

/-- Digits that are added up one by one have the value of the numeral. -/
theorem foldl_digit?_eq {cs : List Char} (h : ∀ c ∈ cs, c.isDigit = true) (init : Nat) :
    cs.foldl (fun n c => 10 * n + (digit? c).getD 0) init = Nat.ofDigitChars 10 cs init := by
  -- digit by digit, for any value so far
  induction cs generalizing init with
  | nil => rfl
  | cons c cs ih =>
    rw [List.foldl_cons, Nat.ofDigitChars_cons, digit?_eq, if_pos (h c List.mem_cons_self)]
    exact ih (fun d hd => h d (List.mem_cons_of_mem c hd)) _

/-- So many digits have a value below that power of ten. -/
theorem ofDigitChars_lt {cs : List Char} (h : ∀ c ∈ cs, c.isDigit = true) (init : Nat) :
    Nat.ofDigitChars 10 cs init < (init + 1) * 10 ^ cs.length := by
  induction cs generalizing init with
  | nil => simp
  | cons c cs ih =>
    have hc := isDigit_iff.mp (h c List.mem_cons_self)
    have hdigit : c.toNat - '0'.toNat ≤ 9 := Nat.sub_le_of_le_add hc.2
    rw [Nat.ofDigitChars_cons, List.length_cons, pow_succ']
    -- one more digit makes less than ten times the value so far and ten more
    refine Nat.lt_of_lt_of_le (ih (fun d hd => h d (List.mem_cons_of_mem c hd)) _) ?_
    rw [← mul_assoc]
    exact Nat.mul_le_mul_right _ (by omega)

/-! ### Numerals -/

theorem isDigit_of_mem_padded {width n : Nat} {c : Char} (h : c ∈ padded width n) :
    c.isDigit = true := by
  rw [padded, List.mem_append, List.mem_replicate] at h
  rcases h with ⟨-, rfl⟩ | h
  · rfl
  · exact Nat.isDigit_of_mem_toDigits (by decide) (by decide) h

theorem length_padded_pos (width n : Nat) : 0 < (padded width n).length := by
  have h : 0 < (chars n).length := Nat.length_toDigits_pos
  rw [padded, List.length_append]
  omega

/-- A number that fits the width fills it exactly. -/
theorem length_padded {width n : Nat} (hwidth : 0 < width) (h : n < 10 ^ width) :
    (padded width n).length = width := by
  have hle : (chars n).length ≤ width := (Nat.length_toDigits_le_iff (by decide) hwidth).mpr h
  rw [padded, List.length_append, List.length_replicate]
  omega

/-- Leading zeros do not count. -/
theorem ofDigitChars_padded (width n : Nat) : Nat.ofDigitChars 10 (padded width n) 0 = n := by
  rw [padded, Nat.ofDigitChars_append, Nat.ofDigitChars_replicate_zero, Nat.mul_zero, chars,
    Nat.ofDigitChars_ten_toDigits]

/-- Different numbers have different numerals. -/
theorem padded_inj {width m n : Nat} : padded width m = padded width n ↔ m = n := by
  constructor
  · intro h
    rw [← ofDigitChars_padded width m, h, ofDigitChars_padded]
  · rintro rfl
    rfl

/-- A numeral ends in front of a character that is no digit. -/
theorem takeWhile_padded_append (width n : Nat) {c : Char} (hc : c.isDigit = false)
    (tail : List Char) : (padded width n ++ c :: tail).takeWhile Char.isDigit = padded width n := by
  rw [List.takeWhile_append_of_pos fun _ h => isDigit_of_mem_padded h, List.takeWhile_cons, hc]
  exact List.append_nil _

/-- A numeral ends where the first other character stands. -/
theorem padded_append_inj {width m n : Nat} {c d : Char} (hc : c.isDigit = false)
    (hd : d.isDigit = false) {s t : List Char} :
    padded width m ++ c :: s = padded width n ++ d :: t ↔ m = n ∧ c = d ∧ s = t := by
  constructor
  · intro h
    -- the digits at the front of both texts are the numerals
    have hdigits := congrArg (List.takeWhile Char.isDigit) h
    rw [takeWhile_padded_append _ _ hc, takeWhile_padded_append _ _ hd, padded_inj] at hdigits
    subst hdigits
    rw [List.append_cancel_left_eq, List.cons.injEq] at h
    exact ⟨rfl, h⟩
  · rintro ⟨rfl, rfl, rfl⟩
    rfl

theorem paddedInt_of_nonneg (width : Nat) {n : Int} (h : 0 ≤ n) :
    paddedInt width n = padded width n.natAbs := by
  rw [paddedInt, if_neg (by omega)]

/-- A numeral without a sign is not one with a sign. -/
theorem nonneg_of_padded_append_eq {width m : Nat} {n : Int} {s t : List Char}
    (h : padded width m ++ s = paddedInt width n ++ t) : 0 ≤ n := by
  rw [paddedInt] at h
  split at h
  · -- the sign would have to be a digit
    obtain ⟨d, ds, hds⟩ := List.exists_cons_of_length_pos (length_padded_pos width m)
    have hd := isDigit_of_mem_padded (show d ∈ padded width m by simp [hds])
    rw [hds] at h
    obtain rfl := (List.cons.inj h).1
    contradiction
  · omega

/-! ### Reading -/

/-- More digits make no number smaller. -/
theorem le_ofDigitChars (cs : List Char) (init : Nat) : init ≤ Nat.ofDigitChars 10 cs init := by
  induction cs generalizing init with
  | nil => exact Nat.le_refl _
  | cons c cs ih =>
    rw [Nat.ofDigitChars_cons]
    exact Nat.le_trans (by omega) (ih _)

/-- Digits are read iff their whole value stays within the bound. -/
theorem readDigits_eq_ok_iff {bound acc n : Nat} (hacc : acc ≤ bound) {cs : List Char} :
    readDigits bound acc cs = .ok n ↔
      (∀ c ∈ cs, c.isDigit = true) ∧ n = Nat.ofDigitChars 10 cs acc ∧ n ≤ bound := by
  induction cs generalizing acc with
  | nil =>
    rw [readDigits, Except.ok.injEq, Nat.ofDigitChars_nil]
    constructor
    · rintro rfl
      exact ⟨by simp, rfl, hacc⟩
    · rintro ⟨-, rfl, -⟩
      rfl
  | cons c cs ih =>
    rw [readDigits, digit?_eq, List.forall_mem_cons, Nat.ofDigitChars_cons]
    -- any other character ends the reading
    by_cases hc : c.isDigit = true
    · simp only [if_pos hc]
      split
      · rename_i hle
        rw [ih hle, and_assoc, and_iff_right hc]
      · rename_i hgt
        -- the value has passed the bound already
        have hle := le_ofDigitChars cs (10 * acc + (c.toNat - '0'.toNat))
        constructor
        · intro h
          contradiction
        · rintro ⟨-, rfl, hbound⟩
          omega
    · simp [hc]

/-- A number is read from one `+` at most and some digits, whose value is within the bound. -/
theorem readNat_eq_ok_iff {bound n : Nat} {cs : List Char} :
    readNat bound cs = .ok n ↔ ∃ sign digits, cs = sign ++ digits ∧ (sign = [] ∨ sign = ['+']) ∧
      digits ≠ [] ∧ (∀ c ∈ digits, c.isDigit = true) ∧ n = Nat.ofDigitChars 10 digits 0 ∧
        n ≤ bound := by
  constructor
  · intro h
    unfold readNat at h
    split at h
    · contradiction
    · rename_i digits
      split at h
      · contradiction
      · rename_i hne
        exact ⟨['+'], digits, rfl, .inr rfl, by simpa using hne,
          (readDigits_eq_ok_iff (Nat.zero_le _)).mp h⟩
    · rename_i hne _
      exact ⟨[], cs, rfl, .inl rfl, hne, (readDigits_eq_ok_iff (Nat.zero_le _)).mp h⟩
  · rintro ⟨sign, digits, rfl, hsign, hne, hdigits, hn⟩
    have hread := (readDigits_eq_ok_iff (Nat.zero_le bound)).mpr ⟨hdigits, hn⟩
    obtain ⟨d, ds, rfl⟩ := List.exists_cons_of_ne_nil hne
    rcases hsign with rfl | rfl
    · -- a digit is no sign
      rw [List.nil_append]
      unfold readNat
      split
      · contradiction
      · rename_i heq
        obtain rfl := (List.cons.inj heq).1
        exact absurd (hdigits '+' List.mem_cons_self) (by decide)
      · exact hread
    · exact hread

/-- A number within the bound is read from its numeral. -/
theorem readDigits_padded {bound n : Nat} (h : n ≤ bound) (width : Nat) :
    readDigits bound 0 (padded width n) = .ok n :=
  (readDigits_eq_ok_iff (Nat.zero_le _)).mpr
    ⟨fun _ hc => isDigit_of_mem_padded hc, (ofDigitChars_padded width n).symm, h⟩

theorem readNat_padded {bound n : Nat} (h : n ≤ bound) (width : Nat) :
    readNat bound (padded width n) = .ok n :=
  readNat_eq_ok_iff.mpr ⟨[], padded width n, rfl, .inl rfl,
    List.ne_nil_of_length_pos (length_padded_pos width n), fun _ hc => isDigit_of_mem_padded hc,
    (ofDigitChars_padded width n).symm, h⟩

/-- A signed word is read from its numeral. -/
theorem readInt64?_intChars {n : Int} (h₁ : -(maxI64 + 1 : Nat) ≤ n) (h₂ : n ≤ maxI64) :
    readInt64? (intChars n) = some n := by
  rw [intChars, paddedInt]
  by_cases hneg : n < 0
  · have hne : (padded (0 - 1) n.natAbs).isEmpty = false := by
      rw [List.isEmpty_eq_false_iff]
      exact List.ne_nil_of_length_pos (length_padded_pos _ _)
    rw [if_pos hneg, readInt64?, hne, readDigits_padded (by omega)]
    simp only [Bool.false_eq_true, if_false, Option.some.injEq]
    omega
  · rw [if_neg hneg]
    unfold readInt64?
    split
    · rename_i heq
      -- a digit is no sign
      have hminus := isDigit_of_mem_padded (heq ▸ List.mem_cons_self)
      contradiction
    · rw [readNat_padded (by omega)]
      simp only [Option.some.injEq]
      omega

end SiteAnalytics.Numeral
