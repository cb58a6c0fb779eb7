import SiteAnalytics.Json.Value
import SiteAnalytics.Number.Layout
import SiteAnalytics.Text.Bytes

/-!
# Writing JSON

Values are written without spaces. Members come in the order in which the value lists them. Only
quotes, backslashes and control characters are escaped; all other text stands as it is. A double
that is not finite is written as null.
-/

namespace SiteAnalytics.Json

/-! ### Strings -/

/-- The characters by which one character is written in a string. -/
def escapeChar (c : Char) : List Char :=
  if c = '"' then ['\\', '"']
  else if c = '\\' then ['\\', '\\']
  else if c = '\x08' then ['\\', 'b']
  else if c = '\x0c' then ['\\', 'f']
  else if c = '\n' then ['\\', 'n']
  else if c = '\r' then ['\\', 'r']
  else if c = '\t' then ['\\', 't']
  else if c.toNat < 0x20 then
    ['\\', 'u', '0', '0', Text.hexDigit (c.toNat / 16), Text.hexDigit (c.toNat % 16)]
  else [c]

/-- A string with its quotes. -/
def quote (s : String) : List Char := '"' :: s.toList.flatMap escapeChar ++ ['"']

/-! ### Values -/

/-- The text of a number. -/
def numberChars : JsonNumber → List Char
  | .int n => Numeral.intChars n
  | .float x => ((Decimal.Layout.json.float? x).getD "null").toList

mutual

/-- The characters of a value. -/
def chars : Json → List Char
  | .null => "null".toList
  | .bool true => "true".toList
  | .bool false => "false".toList
  | .number n => numberChars n
  | .string s => quote s
  | .array items => '[' :: itemChars items ++ [']']
  | .object members => '\x7b' :: memberChars members ++ ['\x7d']

/-- The characters of items, with commas between them. -/
def itemChars : List Json → List Char
  | [] => []
  | [item] => chars item
  | item :: next :: rest => chars item ++ ',' :: itemChars (next :: rest)

/-- The characters of members, with commas between them. -/
def memberChars : List (String × Json) → List Char
  | [] => []
  | [(name, value)] => quote name ++ ':' :: chars value
  | (name, value) :: next :: rest =>
    quote name ++ ':' :: chars value ++ ',' :: memberChars (next :: rest)

end

/-- The text of a value. -/
def render (j : Json) : String := String.ofList j.chars

/-! ### Layout for people -/

/-- A new line, indented by `depth` steps of two spaces. -/
def newLine (depth : Nat) : List Char := '\n' :: List.replicate (2 * depth) ' '

mutual

/-- The characters of a value with every item and every member on a line of its own. -/
def prettyChars (depth : Nat) : Json → List Char
  | .array (item :: items) =>
    '[' :: prettyItems (depth + 1) (item :: items) ++ newLine depth ++ [']']
  | .object (e :: members) =>
    '\x7b' :: prettyMembers (depth + 1) (e :: members) ++ newLine depth ++ ['\x7d']
  | .array [] => ['[', ']']
  | .object [] => ['\x7b', '\x7d']
  | .null => chars .null
  | .bool b => chars (.bool b)
  | .number n => numberChars n
  | .string s => quote s

/-- The characters of items on lines of their own. -/
def prettyItems (depth : Nat) : List Json → List Char
  | [] => []
  | [item] => newLine depth ++ prettyChars depth item
  | item :: next :: rest =>
    newLine depth ++ prettyChars depth item ++ ',' :: prettyItems depth (next :: rest)

/-- The characters of members on lines of their own. -/
def prettyMembers (depth : Nat) : List (String × Json) → List Char
  | [] => []
  | [(name, value)] => newLine depth ++ quote name ++ ':' :: ' ' :: prettyChars depth value
  | (name, value) :: next :: rest =>
    newLine depth ++ quote name ++ ':' :: ' ' :: prettyChars depth value ++
      ',' :: prettyMembers depth (next :: rest)

end

/-- The text of a value, laid out for people. -/
def pretty (j : Json) : String := String.ofList (j.prettyChars 0)

end SiteAnalytics.Json
