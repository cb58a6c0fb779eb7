import SiteAnalytics.Json.Value
import SiteAnalytics.Text.Numeral

/-!
# JSON numbers

Reading the text of a number. A numeral without fraction and exponent is an integer if it fits a
64-bit word; the numeral `-0` and larger ones are doubles, like everything with a fraction or an
exponent.

The double of a numeral is computed the quick way: the digits that fit a 64-bit word make a
significand, the others only count towards the power of ten, and one multiplication or division by
that power gives the result. It can be off by an ulp from the nearest double when there are many
digits. A numeral whose double would be infinite has no value.
-/

namespace SiteAnalytics.JsonNumber

/-! ### The parts of a numeral -/

/-- The text of a number, taken apart. -/
structure Parts where
  negative : Bool
  /-- The digits before the point. -/
  whole : List Char
  /-- The digits after the point; none if there is no point. -/
  fraction : List Char
  /-- The sign (true when negative) and the digits of the exponent. -/
  exponent : Option (Bool × List Char)

/-- The character is an ASCII digit. -/
def isDigit (c : Char) : Bool := (Numeral.digit? c).isSome

/-- Reads the exponent of a number, if there is one. -/
def exponent? : List Char → Option (Option (Bool × List Char))
  | [] => some none
  | c :: cs =>
    if c != 'e' && c != 'E' then none
    else
      let (negative, digits) :=
        match cs with
        | '-' :: ds => (true, ds)
        | '+' :: ds => (false, ds)
        | ds => (false, ds)
      if digits.isEmpty || !digits.all isDigit then none else some (some (negative, digits))

/-- Takes the text of a number apart; `none` if it is no number. -/
def parts? (cs : List Char) : Option Parts := do
  let (negative, cs) :=
    match cs with
    | '-' :: rest => (true, rest)
    | cs => (false, cs)
  let whole := cs.takeWhile isDigit
  let rest := cs.dropWhile isDigit
  if whole.isEmpty || (whole.head? == some '0' && whole.length != 1) then none
  else
    match rest with
    | '.' :: rest =>
      let fraction := rest.takeWhile isDigit
      if fraction.isEmpty then none
      else
        let exponent ← exponent? (rest.dropWhile isDigit)
        return ⟨negative, whole, fraction, exponent⟩
    | rest =>
      let exponent ← exponent? rest
      return ⟨negative, whole, [], exponent⟩

/-! ### The value of a numeral -/

/-- Appends digits to a significand while it fits a 64-bit word; gives the digits left over. -/
def gather (significand : Nat) : List Char → Nat × List Char
  | [] => (significand, [])
  | c :: cs =>
    let next := 10 * significand + (Numeral.digit? c).getD 0
    if next ≤ Numeral.maxU64 then gather next cs else (significand, c :: cs)

/-- The value of a run of digits. -/
def digitsValue (cs : List Char) : Nat :=
  cs.foldl (fun n c => 10 * n + (Numeral.digit? c).getD 0) 0

/-- `x * 10 ^ exponent`; `none` if that is infinite. Powers below `1e-308` are applied in steps,
of which `steps` are left. -/
def scale (x : Float) (exponent : Int) : Nat → Option Float
  | 0 => some 0
  | steps + 1 =>
    if exponent.natAbs ≤ 308 then
      let power := Float.ofScientific 1 false exponent.natAbs
      if 0 ≤ exponent then
        let y := x * power
        if y.isInf then none else some y
      else some (x / power)
    else if x == 0 then some x
    else if 0 ≤ exponent then none
    else scale (x / Float.ofScientific 1 false 308) (exponent + 308) steps

/-- The double of a numeral; `none` if it is infinite. -/
def floatOf (p : Parts) : Option Float := do
  let (significand, dropped) := gather 0 p.whole
  let (significand, skipped) := gather significand p.fraction
  let start : Int := dropped.length - (p.fraction.length - skipped.length : Nat)
  let x := (UInt64.ofNat significand).toFloat
  let magnitude ←
    match p.exponent with
    | none => scale x start 4
    | some (negative, digits) =>
      let e := digitsValue digits
      if e ≤ Numeral.maxI32 then scale x (if negative then start - e else start + e) 4
      else if significand != 0 && !negative then none
      else some 0
  return if p.negative then -magnitude else magnitude

/-- The value of a numeral; `none` if it is infinite. -/
def ofParts (p : Parts) : Option JsonNumber :=
  if p.fraction.isEmpty && p.exponent.isNone then
    let n := digitsValue p.whole
    if !p.negative && n ≤ Numeral.maxU64 then some (.int n)
    else if p.negative && 0 < n && n ≤ Numeral.maxI64 + 1 then some (.int (-n))
    else (floatOf p).map .float
  else (floatOf p).map .float

end SiteAnalytics.JsonNumber
