import SiteAnalytics.Text.Percent
import SiteAnalytics.Text.Split

/-!
# Form encoding

Pairs of a name and a value are written as one query string. A pair joins name and value by `=`, and
pairs are joined by `&`. Within a name or a value a space is written as `+`; letters, digits and
`*-._` stand for themselves, and every other byte of the UTF-8 form is percent-encoded. So neither
separator occurs in a part.

`decodePairs` reads a query string back into the bytes of its names and values.
-/

namespace SiteAnalytics.FormEncoding

/-! ### Writing -/

/-- The byte stands for itself. -/
def isPlain (b : UInt8) : Bool :=
  (0x30 ≤ b && b ≤ 0x39) || (0x41 ≤ b && b ≤ 0x5A) || (0x61 ≤ b && b ≤ 0x7A) || b == 0x2A ||
    b == 0x2D || b == 0x2E || b == 0x5F

/-- The written form of a byte. -/
def encodeByte (b : UInt8) : List Char :=
  if b = 0x20 then ['+']
  else if isPlain b then [Char.ofNat b.toNat]
  else Percent.encodeByte b

/-- The written form of a name or a value. -/
def encode (s : String) : List Char := (Text.bytes s).flatMap encodeByte

/-- The written form of a pair. -/
def encodePair (pair : String × String) : List Char := encode pair.1 ++ '=' :: encode pair.2

/-- Appends pairs to a query string. -/
def append (query : List Char) : List (String × String) → List Char
  | [] => query
  | pair :: rest =>
    append (if query.isEmpty then encodePair pair else query ++ '&' :: encodePair pair) rest

/-! ### Reading -/

/-- The bytes of a name or a value. -/
def decode (cs : List Char) : List UInt8 :=
  Percent.decode (cs.map fun c => if c = '+' then ' ' else c)

/-- The bytes of a pair; the value starts after the first `=`. -/
def decodePair (part : List Char) : List UInt8 × List UInt8 :=
  (decode (part.takeWhile (· != '=')), decode ((part.dropWhile (· != '=')).drop 1))

/-- The pairs of a query string. Empty parts are no pairs. -/
def decodePairs (query : List Char) : List (List UInt8 × List UInt8) :=
  ((Text.splitAt '&' query).filter fun part => !part.isEmpty).map decodePair

end SiteAnalytics.FormEncoding
