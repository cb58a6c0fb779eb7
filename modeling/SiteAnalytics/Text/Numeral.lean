import SiteAnalytics.Text.Blank

/-!
# Decimal numerals

Reading and writing whole numbers in decimal. The reader knows three ways to fail, in the order in
which they are met from left to right: nothing to read, a character that is no ASCII digit, and a
value beyond the bound of the type that is read. One leading `+` is allowed, leading zeros are too.

The writers pad with zeros on the left. A sign counts towards the width when there is one.
-/

namespace SiteAnalytics

/-- Why a text is no numeral below a bound. -/
inductive NumeralError
  /-- There is nothing to read. -/
  | empty
  /-- Some character is not an ASCII digit. -/
  | invalidDigit
  /-- The value passes the bound. -/
  | tooLarge
  deriving DecidableEq, Repr

namespace NumeralError

/-- The wording of each failure. -/
def message : NumeralError → String
  | empty => "cannot parse integer from empty string"
  | invalidDigit => "invalid digit found in string"
  | tooLarge => "number too large to fit in target type"

end NumeralError

namespace Numeral

/-! ### Digits -/

/-- The value of an ASCII digit. -/
def digit? (c : Char) : Option Nat :=
  if '0' ≤ c && c ≤ '9' then some (c.toNat - '0'.toNat) else none

/-- The numeral of `n`, without leading zeros. -/
def chars (n : Nat) : List Char := Nat.toDigits 10 n

/-- The numeral of `n`, filled with zeros on the left up to `width` characters. -/
def padded (width n : Nat) : List Char :=
  List.replicate (width - (chars n).length) '0' ++ chars n

/-- The numeral of an integer, filled with zeros between sign and digits up to `width` characters,
the sign included. -/
def paddedInt (width : Nat) (n : Int) : List Char :=
  if n < 0 then '-' :: padded (width - 1) n.natAbs else padded width n.natAbs

/-- The numeral of an integer. -/
def intChars (n : Int) : List Char := paddedInt 0 n

/-! ### Reading -/

/-- Reads digits onto `acc`, from left to right; the value must stay at or below `bound` after
every digit. -/
def readDigits (bound : Nat) (acc : Nat) : List Char → Except NumeralError Nat
  | [] => .ok acc
  | c :: cs =>
    match digit? c with
    | none => .error .invalidDigit
    | some d =>
      if 10 * acc + d ≤ bound then readDigits bound (10 * acc + d) cs else .error .tooLarge

/-- Reads a natural number at most `bound`, with at most one `+` in front. -/
def readNat (bound : Nat) : List Char → Except NumeralError Nat
  | [] => .error .empty
  | '+' :: cs => if cs.isEmpty then .error .invalidDigit else readDigits bound 0 cs
  | cs => readDigits bound 0 cs

/-- The largest unsigned 32-bit word. -/
def maxU32 : Nat := 4294967295

/-- The largest unsigned 64-bit word. -/
def maxU64 : Nat := 18446744073709551615

/-- The largest signed 32-bit word. The least one is further from zero by one. -/
def maxI32 : Nat := 2147483647

/-- The largest signed 64-bit word. The least one is further from zero by one. -/
def maxI64 : Nat := 9223372036854775807

/-- Reads a signed 64-bit word, with at most one sign in front. -/
def readInt64? : List Char → Option Int
  | '-' :: cs =>
    if cs.isEmpty then none
    else
      match readDigits (maxI64 + 1) 0 cs with
      | .ok n => some (-(n : Int))
      | .error _ => none
  | cs =>
    match readNat maxI64 cs with
    | .ok n => some n
    | .error _ => none

end Numeral

end SiteAnalytics
