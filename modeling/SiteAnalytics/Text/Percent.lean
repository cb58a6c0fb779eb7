import SiteAnalytics.Text.Bytes

/-!
# Percent encoding

A byte can be written as `%` with two hexadecimal digits. Which characters must be written so
depends on the place; the digits are written in upper case and read in either case. A `%` that no
two digits follow stands for itself.
-/

namespace SiteAnalytics.Percent

/-- A byte as `%` with two digits. -/
def encodeByte (b : UInt8) : List Char :=
  ['%', Text.upperHexDigit (b.toNat / 16), Text.upperHexDigit (b.toNat % 16)]

/-- The text with the characters that `escaped` picks out written byte by byte. -/
def encode (escaped : Char → Bool) (cs : List Char) : List Char :=
  cs.flatMap fun c =>
    if escaped c then (String.utf8EncodeChar c).flatMap encodeByte else [c]

/-- The bytes of a text. -/
def decode : List Char → List UInt8
  | [] => []
  | '%' :: a :: b :: rest =>
    match Text.hexValue? a, Text.hexValue? b with
    | some x, some y => UInt8.ofNat (16 * x + y) :: decode rest
    | _, _ => 0x25 :: decode (a :: b :: rest)
  | c :: rest => String.utf8EncodeChar c ++ decode rest

end SiteAnalytics.Percent
