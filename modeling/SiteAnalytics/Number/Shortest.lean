/-!
# The shortest decimal of a double

A double stands for every real that rounds to it. Of the decimals in that interval, the shortest
one reads back as the same double; among several of that length the one nearest to the exact value
is taken.

Everything is exact arithmetic on `Nat`. A finite double is decoded into `significand * 2 ^ scale`.
For each number of digits from 1 to 17 the two neighbours of the value on the decimal grid of that
many digits are tested against the interval, and the first grid with a hit wins. Seventeen digits
always suffice.
-/

namespace SiteAnalytics

/-- The decimal `digits * 10 ^ exponent`. -/
structure Decimal where
  digits : Nat
  exponent : Int
  deriving DecidableEq, Repr

namespace Decimal

/-! ### Binary parts -/

/-- A positive finite double as `significand * 2 ^ scale`, with the distance to its lower
neighbour. -/
structure Binary where
  /-- The significand, with the implicit bit. -/
  significand : Nat
  /-- The power of two. -/
  scale : Int
  /-- The lower neighbour is only half as far away as the upper one. -/
  narrowBelow : Bool
  deriving DecidableEq, Repr

/-- Decodes the exponent and fraction bits of a finite double. -/
def Binary.ofBits (bits : UInt64) : Binary :=
  let fraction := (bits &&& 0xFFFFFFFFFFFFF).toNat
  let exponent := ((bits >>> 52) &&& 0x7FF).toNat
  -- subnormal numbers have no implicit bit
  if exponent = 0 then ⟨fraction, -1074, false⟩
  else ⟨0x10000000000000 + fraction, (exponent : Int) - 1075, fraction == 0 && exponent != 1⟩

/-! ### A value and its interval on a common denominator -/

/-- A value with the ends of its interval, all over one denominator. -/
structure Span where
  low : Nat
  value : Nat
  high : Nat
  denominator : Nat
  /-- The ends belong to the interval. -/
  closed : Bool

/-- The reals that round to a double: half way to each neighbour, the ends included when the
significand is even. -/
def Binary.span (b : Binary) : Span :=
  -- one of the two powers is 1
  let up := Nat.pow 2 b.scale.toNat
  let down := Nat.pow 2 (-b.scale).toNat
  { low := (4 * b.significand - (if b.narrowBelow then 1 else 2)) * up
    value := 4 * b.significand * up
    high := (4 * b.significand + 2) * up
    denominator := 4 * down
    closed := b.significand % 2 == 0 }

/-- The power of ten with exponent `e`; 1 if that is negative. -/
def tens (e : Int) : Nat := Nat.pow 10 e.toNat

/-- `n * 10 ^ e` lies in the interval. -/
def Span.contains (s : Span) (n : Nat) (e : Int) : Bool :=
  let point := n * tens e * s.denominator
  let unit := tens (-e)
  if s.closed then s.low * unit ≤ point && point ≤ s.high * unit
  else s.low * unit < point && point < s.high * unit

/-! ### Search -/

/-- The least `k` with value below `10 ^ k`. -/
def Span.magnitude (s : Span) : Int :=
  if s.denominator ≤ s.value then ((Nat.toDigits 10 (s.value / s.denominator)).length : Int)
  else 1 - ((Nat.toDigits 10 ((s.denominator - 1) / s.value)).length : Int)

/-- Which of two decimals is taken when the value stands exactly half way between them. -/
inductive Tie
  /-- The one with the even last digit. -/
  | even
  /-- The larger one. -/
  | up
  deriving DecidableEq, Repr

/-- The value is to be taken down to `below`, of the neighbours `below` and `below + 1`; twice the
distance to the lower one is compared with the grid's width. -/
def Tie.takesDown (tie : Tie) (below twice width : Nat) : Bool :=
  twice < width || (twice == width && tie == .even && below % 2 == 0)

/-- The neighbour on the grid `10 ^ e` that lies in the interval, the nearer one if both do. -/
def Span.neighbour? (s : Span) (tie : Tie) (e : Int) : Option Decimal :=
  let scaled := s.value * tens (-e)
  let unit := s.denominator * tens e
  let below := scaled / unit
  let above := below + 1
  match s.contains below e, s.contains above e with
  | true, true =>
    if tie.takesDown below (2 * (scaled - below * unit)) unit then some ⟨below, e⟩
    else some ⟨above, e⟩
  | true, false => some ⟨below, e⟩
  | false, true => some ⟨above, e⟩
  | false, false => none

/-- Tries the grids of `count`, `count + 1`, … digits, `left` of them. -/
def Span.search (s : Span) (tie : Tie) (count : Nat) : Nat → Decimal
  | 0 => ⟨s.value / s.denominator, 0⟩
  | left + 1 =>
    match s.neighbour? tie (s.magnitude - count) with
    | some d => d
    | none => s.search tie (count + 1) left

/-- Moves trailing zeros of the digits into the exponent; `fuel` bounds their number. -/
def strip (d : Decimal) : Nat → Decimal
  | 0 => d
  | fuel + 1 =>
    if d.digits % 10 = 0 && d.digits != 0 then
      strip ⟨d.digits / 10, d.exponent + 1⟩ fuel
    else d

/-- The shortest decimal of a positive finite double. -/
def shortest (tie : Tie) (b : Binary) : Decimal := (b.span.search tie 1 17).strip 20

end Decimal

end SiteAnalytics
