import Mathlib.Tactic.ByContra
import Mathlib.Tactic.SplitIfs
import SiteAnalytics.Dict
import SiteAnalytics.Text.Bytes

/-!
# The order of bytes

UTF-8 keeps the order of code points: if one character is less than another, then its bytes are less
at the first place where they differ, whatever follows (`encode_append_lt`).  So texts are in the
same order whether characters or bytes are compared (`bytes_lt_iff`).
-/

namespace SiteAnalytics.Text

theorem cons_lt_cons_iff_of_lt {m n : Nat} (hm : m < 256) (hn : n < 256) {as bs : List UInt8} :
    UInt8.ofNat m :: as < UInt8.ofNat n :: bs ↔ m < n ∨ m = n ∧ as < bs := by
  rw [List.cons_lt_cons_iff, UInt8.lt_iff_toNat_lt, ← UInt8.toNat_inj,
    UInt8.toNat_ofNat_of_lt' hm, UInt8.toNat_ofNat_of_lt' hn]

/-- Of two numbers the last six bits decide only if those before them are the same. -/
theorem div_lt_or_mod_lt {m n : Nat} (h : m < n) :
    m / 64 < n / 64 ∨ m / 64 = n / 64 ∧ m % 64 < n % 64 := by
  omega

/-- The bytes of a character are less than those of a greater one where they first differ. -/
theorem encode_append_lt {a b : Char} (h : a < b) (as bs : List UInt8) :
    String.utf8EncodeChar a ++ as < String.utf8EncodeChar b ++ bs := by
  have hlt : a.val.toNat < b.val.toNat := h
  have hmax : b.val.toNat < 1114112 := by
    rcases b.valid with h | h
    · exact Nat.lt_trans h (by decide)
    · exact h.2
  unfold String.utf8EncodeChar
  dsimp only
  generalize a.val.toNat = m at *
  generalize b.val.toNat = n at *
  -- six bits after the other, from the last ones on
  have hthousands (k : Nat) : k / 4096 = k / 64 / 64 := (Nat.div_div_eq_div_mul k 64 64).symm
  have hmillions (k : Nat) : k / 262144 = k / 64 / 64 / 64 := by
    rw [Nat.div_div_eq_div_mul, Nat.div_div_eq_div_mul]
  have hlast := div_lt_or_mod_lt hlt
  have hthird := div_lt_or_mod_lt (m := m / 64) (n := n / 64)
  have hsecond := div_lt_or_mod_lt (m := m / 64 / 64) (n := n / 64 / 64)
  split_ifs <;>
    simp (disch := omega) only [List.cons_append, List.nil_append, cons_lt_cons_iff_of_lt,
      hthousands, hmillions] <;>
    omega

theorem utf8_lt_utf8 {as bs : List Char} (h : as < bs) : utf8 as < utf8 bs := by
  induction as generalizing bs with
  | nil =>
    cases bs with
    | nil => exact absurd h (List.not_lt_nil _)
    | cons b bs =>
      show [] < String.utf8EncodeChar b ++ utf8 bs
      obtain ⟨c, cs, hcs⟩ := List.exists_cons_of_ne_nil (String.utf8EncodeChar_ne_nil (c := b))
      rw [hcs]
      exact List.nil_lt_cons _ _
  | cons a as ih =>
    cases bs with
    | nil => exact absurd h (List.not_lt_nil _)
    | cons b bs =>
      show String.utf8EncodeChar a ++ utf8 as < String.utf8EncodeChar b ++ utf8 bs
      rcases List.cons_lt_cons_iff.mp h with hlt | ⟨rfl, hrest⟩
      · exact encode_append_lt hlt _ _
      · exact List.append_left_lt (ih hrest)

/-- Texts are in the order of their bytes. -/
theorem bytes_lt_iff {s t : String} : bytes s < bytes t ↔ s < t := by
  constructor
  · intro h
    by_contra hle
    by_cases heq : s = t
    · subst heq
      exact List.lt_irrefl _ h
    · exact List.lt_asymm h (utf8_lt_utf8 (Dict.lt_of_not_lt_of_ne hle heq))
  · exact utf8_lt_utf8

end SiteAnalytics.Text
