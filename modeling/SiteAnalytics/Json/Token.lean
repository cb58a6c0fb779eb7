import SiteAnalytics.Json.Number
import SiteAnalytics.Text.Bytes

/-!
# JSON tokens

The first stage of reading JSON cuts a text into tokens, in one pass over its characters. A run of
letters, digits, signs and points is a word, which has to be a literal name or a number as a whole.

A string or a number can be well-formed and still have no value: a string with half of a surrogate
pair, a number beyond the largest double. Such a token is carried along without one, because a
reader may skip it unread.
-/

namespace SiteAnalytics.Json

/-- A token of a JSON text. -/
inductive Token
  | leftBrace | rightBrace | leftBracket | rightBracket | colon | comma
  | null
  | bool (b : Bool)
  | number (n : Option JsonNumber)
  | string (s : Option String)

/-! ### Strings -/

/-- A piece of a string: a character, or the code unit of a `\u` escape. -/
inductive Piece
  | char (c : Char)
  | unit (n : Nat)

/-- Joins the pieces of a string. Two code units that form a surrogate pair are one character; a
single half has none. -/
def joinPieces : List Piece → Option (List Char)
  | [] => some []
  | .char c :: rest => (joinPieces rest).map (c :: ·)
  | .unit high :: .unit low :: rest =>
    if 0xD800 ≤ high && high < 0xDC00 then
      if 0xDC00 ≤ low && low < 0xE000 then
        let c := Char.ofNat (0x10000 + (high - 0xD800) * 0x400 + (low - 0xDC00))
        (joinPieces rest).map (c :: ·)
      else none
    else if 0xDC00 ≤ high && high < 0xE000 then none
    else (joinPieces (.unit low :: rest)).map (Char.ofNat high :: ·)
  | .unit n :: rest =>
    if 0xD800 ≤ n && n < 0xE000 then none else (joinPieces rest).map (Char.ofNat n :: ·)

/-- The character that a backslash and a letter stand for. -/
def unescape? : Char → Option Char
  | '"' => some '"'
  | '\\' => some '\\'
  | '/' => some '/'
  | 'b' => some '\x08'
  | 'f' => some '\x0c'
  | 'n' => some '\n'
  | 'r' => some '\r'
  | 't' => some '\t'
  | _ => none

/-! ### Words -/

/-- The characters of words. -/
def isWordChar (c : Char) : Bool := c.isAlphanum || c == '+' || c == '-' || c == '.'

/-- The token of a word. -/
def wordToken? (cs : List Char) : Option Token :=
  if cs = "null".toList then some .null
  else if cs = "true".toList then some (.bool true)
  else if cs = "false".toList then some (.bool false)
  else (JsonNumber.parts? cs).map fun parts => .number (JsonNumber.ofParts parts)

/-! ### The pass over the text -/

/-- Where in a text the pass stands. Accumulated pieces are in reverse. -/
inductive Mode
  /-- Between tokens. -/
  | between
  | word (cs : List Char)
  | text (pieces : List Piece)
  /-- After a backslash. -/
  | escape (pieces : List Piece)
  /-- Within a `\u` escape, with the number of digits still to come and the value so far. -/
  | hex (pieces : List Piece) (left value : Nat)

/-- The token that starts and ends with a character. -/
def mark? : Char → Option Token
  | '\x7b' => some .leftBrace
  | '\x7d' => some .rightBrace
  | '[' => some .leftBracket
  | ']' => some .rightBracket
  | ':' => some .colon
  | ',' => some .comma
  | _ => none

/-- The character is white space of JSON. -/
def isSpace (c : Char) : Bool := c == ' ' || c == '\n' || c == '\r' || c == '\t'

/-- Takes a character between tokens, onto the tokens so far. -/
def stepBetween (done : List Token) (c : Char) : Option (List Token × Mode) :=
  if isSpace c then some (done, .between)
  else if c = '"' then some (done, .text [])
  else if isWordChar c then some (done, .word [c])
  else (mark? c).map fun token => (token :: done, .between)

/-- Takes one character, onto the tokens so far. -/
def stepChar (done : List Token) (mode : Mode) (c : Char) : Option (List Token × Mode) :=
  match mode with
  | .between => stepBetween done c
  | .word cs =>
    if isWordChar c then some (done, .word (c :: cs))
    else do
      let token ← wordToken? cs.reverse
      stepBetween (token :: done) c
  | .text pieces =>
    if c = '"' then
      some (.string ((joinPieces pieces.reverse).map String.ofList) :: done, .between)
    else if c = '\\' then some (done, .escape pieces)
    else if c.toNat < 0x20 then none
    else some (done, .text (.char c :: pieces))
  | .escape pieces =>
    if c = 'u' then some (done, .hex pieces 4 0)
    else (unescape? c).map fun d => (done, .text (.char d :: pieces))
  | .hex pieces left value => do
    let d ← Text.hexValue? c
    let value := 16 * value + d
    if left ≤ 1 then some (done, .text (.unit value :: pieces))
    else some (done, .hex pieces (left - 1) value)

/-- Takes the characters one by one; the tokens come out in reverse. -/
def scan (done : List Token) (mode : Mode) : List Char → Option (List Token)
  | [] =>
    match mode with
    | .between => some done
    | .word cs => (wordToken? cs.reverse).map (· :: done)
    | _ => none
  | c :: cs =>
    match stepChar done mode c with
    | some (done, mode) => scan done mode cs
    | none => none

/-- The tokens of a text. -/
def tokens? (cs : List Char) : Option (List Token) := (scan [] .between cs).map List.reverse

end SiteAnalytics.Json
