/-!
# Counts

The column store counts in signed 64-bit words, and so does every sum and difference formed from
its answers: arithmetic on counts wraps modulo `2 ^ 64` into `[-2 ^ 63, 2 ^ 63)`. A count is kept
as an integer; `Count.wrap` brings a result back into the range, and is the identity on it.
-/

namespace SiteAnalytics.Count

/-- The number of words. -/
def modulus : Nat := 18446744073709551616

/-- The word congruent to `n` modulo `2 ^ 64`. -/
def wrap (n : Int) : Int := n.bmod modulus

/-- The sum of two counts. -/
def add (a b : Int) : Int := wrap (a + b)

/-- The difference of two counts. -/
def sub (a b : Int) : Int := wrap (a - b)

/-- `n` is a signed 64-bit word. -/
def InRange (n : Int) : Prop := -9223372036854775808 ≤ n ∧ n < 9223372036854775808

instance (n : Int) : Decidable (InRange n) := inferInstanceAs (Decidable (_ ∧ _))

/-- A word is left alone. -/
theorem wrap_eq_self {n : Int} (h : InRange n) : wrap n = n := by
  unfold InRange at h
  unfold wrap modulus
  rw [Int.bmod_eq_of_le] <;> omega

/-- It is enough to wrap the whole sum. -/
theorem add_wrap_left (a b : Int) : add (wrap a) b = wrap (a + b) := Int.bmod_add_bmod

theorem add_wrap_wrap (a b : Int) : add (wrap a) (wrap b) = wrap (a + b) := by
  rw [add_wrap_left]
  exact Int.add_bmod_bmod

end SiteAnalytics.Count
