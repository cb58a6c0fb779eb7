import SiteAnalytics.Calendar.Pattern

/-!
# Dates in requests

A date in a request is an RFC 3339 timestamp, a date with a time, or a bare date. `Timestamp.read?`
reads the first kind and takes it to UTC; `DateInput.read?` tries all notations in turn, and the
first that fits wins. Blanks around the text do not matter.

A timestamp is strict where the patterns are lenient: every field has its full number of digits. Its
separator may be a `T`, a `t` or a space, and the sign of its offset may be a true minus sign.
-/

namespace SiteAnalytics

namespace Timestamp

/-! ### Pieces -/

/-- Reads exactly `width` digits. -/
def fixed? (width : Nat) (cs : List Char) : Option (Nat × List Char) := readNumber? width width cs

/-- Reads one given character. -/
def mark? (c : Char) : List Char → Option (List Char)
  | d :: rest => if c = d then some rest else none
  | [] => none

/-- Reads the separator between date and time. -/
def separator? : List Char → Option (List Char)
  | 'T' :: rest | 't' :: rest | ' ' :: rest => some rest
  | _ => none

/-- Reads an optional fraction of a second. Digits past the ninth are skipped. -/
def fraction? : List Char → Option (Nat × List Char)
  | '.' :: cs => do
    let (value, rest) ← readNumber? 1 9 cs
    let width := cs.length - rest.length
    some (value * Nat.pow 10 (9 - width), rest.dropWhile fun c => (Numeral.digit? c).isSome)
  | cs => some (0, cs)

/-- Reads the hours and minutes of an offset and gives them in seconds. -/
def offsetClock? (cs : List Char) : Option (Int × List Char) := do
  let (hours, cs) ← fixed? 2 cs
  let cs ← mark? ':' cs
  let (minutes, cs) ← fixed? 2 cs
  if hours ≤ 23 && minutes ≤ 59 then some ((60 * (60 * hours + minutes) : Nat), cs) else none

/-- Reads a UTC offset in seconds: `Z`, or a sign with hours and minutes. -/
def offset? : List Char → Option (Int × List Char)
  | 'Z' :: rest | 'z' :: rest => some (0, rest)
  | '+' :: cs => offsetClock? cs
  | '-' :: cs | '\u2212' :: cs => (offsetClock? cs).map fun (n, rest) => (-n, rest)
  | _ => none

/-! ### Timestamps -/

/-- Reads an RFC 3339 timestamp and takes it to UTC. -/
def read? (cs : List Char) : Option DateTime := do
  let (year, cs) ← fixed? 4 cs
  let cs ← mark? '-' cs
  let (month, cs) ← fixed? 2 cs
  let cs ← mark? '-' cs
  let (day, cs) ← fixed? 2 cs
  let cs ← separator? cs
  let (hour, cs) ← fixed? 2 cs
  let cs ← mark? ':' cs
  let (minute, cs) ← fixed? 2 cs
  let cs ← mark? ':' cs
  let (second, cs) ← fixed? 2 cs
  let (nano, cs) ← fraction? cs
  let (offset, cs) ← offset? cs
  let reading : Reading := ⟨year, month, day, hour, minute, second, nano⟩
  let wall ← reading.toDateTime?
  if cs.isEmpty then (wall.setAhead (-offset)).checked else none

end Timestamp

namespace DateInput

/-- The notations of a date and time after the timestamp, in the order in which they are tried. -/
def patterns : List Pattern :=
  [Pattern.dateTime, Pattern.dateTimeT, Pattern.dateMinute, Pattern.dateOnly]

/-- Reads a date in any of its notations. -/
def readChars? (cs : List Char) : Option DateTime :=
  let cs := Text.trimChars cs
  match Timestamp.read? cs with
  | some t => some t
  | none => patterns.findSome? fun p => p.read? cs

/-- Reads a date in any of its notations. -/
def read? (s : String) : Option DateTime := readChars? s.toList

end DateInput

end SiteAnalytics
