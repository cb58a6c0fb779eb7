import SiteAnalytics.Number.Shortest
import SiteAnalytics.Text.Numeral

/-!
# Layouts of floating-point text

The digits of a double are always those of its shortest decimal; a `Layout` decides how they are
set: when the number is written out with a point and when with an exponent, and whether a whole
number keeps a fraction. Two layouts are in use, one for JSON and one for query parameters.
-/

namespace SiteAnalytics.Decimal

/-- How the digits of a double are set. -/
structure Layout where
  /-- Numbers are written out while the point stands after this place and no later than
  `lastPlace`; `none` writes out every number. -/
  places : Option (Int × Int)
  /-- What follows a whole number that is written out. -/
  wholeMark : String
  /-- Which of two equally near decimals is taken. -/
  tie : Tie

/-- JSON text: written out from `1e-5` to below `1e16`, with a fraction in every case. -/
def Layout.json : Layout := ⟨some (-5, 16), ".0", .even⟩

/-- Parameter text: always written out, and a whole number has no fraction. -/
def Layout.wire : Layout := ⟨none, "", .up⟩

/-- The number is written out if its point stands at `place`. -/
def Layout.writesOut (l : Layout) (place : Int) : Bool :=
  match l.places with
  | none => true
  | some (low, high) => low < place && place ≤ high

/-- The digits of `d` written out, the point after the first `place` of them. -/
def Layout.positional (l : Layout) (digits : List Char) (place : Int) : String :=
  if place ≤ 0 then
    String.ofList ("0.".toList ++ List.replicate (-place).toNat '0' ++ digits)
  else if digits.length ≤ place.toNat then
    String.ofList (digits ++ List.replicate (place.toNat - digits.length) '0') ++ l.wholeMark
  else
    String.ofList (digits.take place.toNat ++ '.' :: digits.drop place.toNat)

/-- The digits with one of them before the point, and a signed exponent. -/
def scientific (digits : List Char) (place : Int) : String :=
  let mantissa :=
    match digits with
    | [] => []
    | [d] => [d]
    | d :: rest => d :: '.' :: rest
  let sign := if place - 1 < 0 then "-" else "+"
  String.ofList mantissa ++ "e" ++ sign ++ String.ofList (Numeral.chars (place - 1).natAbs)

/-- The text of a decimal that is not zero. -/
def Layout.decimal (l : Layout) (d : Decimal) : String :=
  let digits := Numeral.chars d.digits
  let place := digits.length + d.exponent
  if l.writesOut place then l.positional digits place else scientific digits place

/-- The text of a double; `none` if it is not finite. The sign of zero is kept. -/
def Layout.float? (l : Layout) (x : Float) : Option String :=
  if x.isNaN || x.isInf then none
  else
    let bits := x.toBits
    let sign := if bits >>> 63 == 1 then "-" else ""
    let binary := Binary.ofBits bits
    if binary.significand = 0 then some (sign ++ "0" ++ l.wholeMark)
    else some (sign ++ l.decimal (shortest l.tie binary))

end SiteAnalytics.Decimal
