import Mathlib.Data.List.Basic
import Mathlib.Data.List.TakeWhile
import SiteAnalytics.Json.Number
import SiteAnalytics.Proofs.Text.Numeral

/-!
# Reading integers

The numeral of an integer has no superfluous zero in front (`length_chars_of_head?_eq_zero`), so it
is a number of JSON, with the parts that `parts?_intChars` gives.  Read as such it is the integer
again, provided the integer is one that is kept exactly: `FitsWord` says which ones are
(`ofParts_chars`).
-/

namespace SiteAnalytics.JsonNumber

/-! ### Digits -/

theorem isDigit_of_mem_chars {n : Nat} {c : Char} (h : c ∈ Numeral.chars n) :
    isDigit c = true := by
  rw [isDigit, Numeral.isSome_digit?]
  exact Nat.isDigit_of_mem_toDigits (by decide) (by decide) h

/-- A numeral has the value it was made of. -/
theorem digitsValue_chars (n : Nat) : digitsValue (Numeral.chars n) = n := by
  have hdigits : ∀ c ∈ Numeral.chars n, c.isDigit = true :=
    fun _ => Nat.isDigit_of_mem_toDigits (by decide) (by decide)
  rw [digitsValue, Numeral.foldl_digit?_eq hdigits, Numeral.chars, Nat.ofDigitChars_ten_toDigits]

/-- Only zero is written with a zero in front. -/
theorem head?_chars_ne_zero {n : Nat} (h : 0 < n) : (Numeral.chars n).head? ≠ some '0' := by
  rw [Numeral.chars]
  induction n using Nat.strongRecOn with
  | ind n ih =>
    by_cases hten : n < 10
    · have hall : ∀ d < 10, 0 < d → (Nat.toDigits 10 d).head? ≠ some '0' := by decide
      exact hall n hten h
    · -- the digits in front of the last one are those of a smaller number
      rw [Nat.toDigits_of_base_le (by decide) (by omega),
        List.head?_append_of_ne_nil _ Nat.toDigits_ne_nil]
      exact ih (n / 10) (by omega) (by omega)

theorem length_chars_of_head?_eq_zero {n : Nat} (h : (Numeral.chars n).head? = some '0') :
    (Numeral.chars n).length = 1 := by
  obtain rfl | hpos := n.eq_zero_or_pos
  · rfl
  · exact absurd h (head?_chars_ne_zero hpos)

theorem chars_ne_nil (n : Nat) : Numeral.chars n ≠ [] := Nat.toDigits_ne_nil

/-! ### Integers -/

theorem padded_zero (n : Nat) : Numeral.padded 0 n = Numeral.chars n := by
  rw [Numeral.padded, Nat.zero_sub, List.replicate_zero, List.nil_append]

theorem intChars_of_nonneg {n : Int} (h : 0 ≤ n) :
    Numeral.intChars n = Numeral.chars n.natAbs := by
  rw [Numeral.intChars, Numeral.paddedInt, if_neg (by omega), padded_zero]

theorem intChars_of_neg {n : Int} (h : n < 0) :
    Numeral.intChars n = '-' :: Numeral.chars n.natAbs := by
  rw [Numeral.intChars, Numeral.paddedInt, if_pos h, Nat.zero_sub, padded_zero]

/-- The integers that are kept exactly: signed and unsigned 64-bit words. -/
def FitsWord (n : Int) : Prop := -(Numeral.maxI64 + 1) ≤ n ∧ n ≤ Numeral.maxU64

theorem takeWhile_chars (n : Nat) : (Numeral.chars n).takeWhile isDigit = Numeral.chars n :=
  List.takeWhile_eq_self_iff.mpr fun _ => isDigit_of_mem_chars

theorem dropWhile_chars (n : Nat) : (Numeral.chars n).dropWhile isDigit = [] :=
  List.dropWhile_eq_nil_iff.mpr fun _ => isDigit_of_mem_chars

/-- The numeral of an integer is a number of JSON without fraction and exponent. -/
theorem parts?_intChars (n : Int) :
    parts? (Numeral.intChars n) = some ⟨decide (n < 0), Numeral.chars n.natAbs, [], none⟩ := by
  have hwhole : ((Numeral.chars n.natAbs).isEmpty ||
      ((Numeral.chars n.natAbs).head? == some '0' && (Numeral.chars n.natAbs).length != 1)) =
      false := by
    cases hhead : (Numeral.chars n.natAbs).head? == some '0' with
    | false => simp [chars_ne_nil]
    | true => simp [chars_ne_nil, length_chars_of_head?_eq_zero (beq_iff_eq.mp hhead)]
  by_cases hneg : n < 0
  · rw [intChars_of_neg hneg]
    simp [parts?, takeWhile_chars, dropWhile_chars, hwhole, hneg, exponent?]
  · rw [intChars_of_nonneg (by omega)]
    -- a digit in front is no sign
    have hsign : ∀ rest, Numeral.chars n.natAbs ≠ '-' :: rest := by
      intro rest hchars
      have hdigit : isDigit '-' = true := isDigit_of_mem_chars (hchars ▸ List.mem_cons_self)
      contradiction
    unfold parts?
    split
    rename_i hsplit
    split at hsplit
    · rename_i hchars
      exact absurd hchars (hsign _)
    · cases hsplit
      simp [takeWhile_chars, dropWhile_chars, hwhole, hneg, exponent?]

/-- An integer that fits is read as the integer it is. -/
theorem ofParts_chars {n : Int} (h : FitsWord n) :
    ofParts ⟨decide (n < 0), Numeral.chars n.natAbs, [], none⟩ = some (.int n) := by
  obtain ⟨hlow, hhigh⟩ := h
  by_cases hneg : n < 0
  · have hvalue : 0 < n.natAbs ∧ n.natAbs ≤ Numeral.maxI64 + 1 := by omega
    have habs : -(n.natAbs : Int) = n := by omega
    simpa [ofParts, digitsValue_chars, hneg, hvalue] using habs
  · have hvalue : n.natAbs ≤ Numeral.maxU64 := by omega
    have habs : (n.natAbs : Int) = n := by omega
    simp [ofParts, digitsValue_chars, hneg, hvalue, habs]

end SiteAnalytics.JsonNumber
