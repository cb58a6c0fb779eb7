/-!
# Blank characters

Text that people type arrives with stray blanks around it: time zones, periods, dates, filters and
numbers are all read after trimming. A blank is a character with the Unicode property
`White_Space`, not only an ASCII space.

Everything here works on lists of characters; `trim` is the same on `String`.
-/

namespace SiteAnalytics.Text

/-! ### The property -/

/-- The characters with the Unicode property `White_Space`. -/
def isBlank (c : Char) : Bool :=
  let n := c.toNat
  (9 ≤ n && n ≤ 13) || n == 0x20 || n == 0x85 || n == 0xA0 || n == 0x1680 ||
    (0x2000 ≤ n && n ≤ 0x200A) || n == 0x2028 || n == 0x2029 || n == 0x202F || n == 0x205F ||
    n == 0x3000

/-! ### Trimming -/

/-- `cs` without the blanks in front. -/
def dropBlanks (cs : List Char) : List Char := cs.dropWhile isBlank

/-- `cs` without the blanks at both ends. -/
def trimChars (cs : List Char) : List Char :=
  (dropBlanks (dropBlanks cs).reverse).reverse

/-- `s` without the blanks at both ends. -/
def trim (s : String) : String := String.ofList (trimChars s.toList)

/-- The trimmed text, or `none` if nothing is left of it. -/
def trimmed? (s : String) : Option String :=
  match trimChars s.toList with
  | [] => none
  | c :: cs => some (String.ofList (c :: cs))

end SiteAnalytics.Text
