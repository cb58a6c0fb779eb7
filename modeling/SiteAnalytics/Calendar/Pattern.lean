import SiteAnalytics.Calendar.DateTime
import SiteAnalytics.Text.Numeral

/-!
# Date patterns

A `Pattern` is a list of fields and fixed characters, such as year, `-`, month. The same pattern
prints a date-time and reads one, and `Pattern.spell` writes it down in the usual `%Y-%m` notation.

Printing is strict: four digits for a year from 0 to 9999 and a sign with at least four digits for
any other, two digits for each of the rest. Reading is lenient: a field may have fewer digits and
blanks in front, a blank in the pattern stands for any number of blanks, and a year may carry a
sign and then have any number of digits.
-/

namespace SiteAnalytics

/-! ### Patterns -/

/-- A field of a date-time. -/
inductive Field
  | year | month | day | hour | minute | second
  deriving DecidableEq, Repr

/-- One piece of a pattern. -/
inductive PatternItem
  | field (f : Field)
  /-- A fixed character. -/
  | mark (c : Char)
  /-- A space when printed, any number of blanks when read. -/
  | space
  deriving DecidableEq, Repr

/-- A date pattern. -/
abbrev Pattern := List PatternItem

namespace Pattern

/-- The date, `YYYY-MM-DD`. -/
def dateOnly : Pattern :=
  [.field .year, .mark '-', .field .month, .mark '-', .field .day]

/-- Date and time with a space between them; how the column store writes and reads instants. -/
def dateTime : Pattern :=
  dateOnly ++ [.space, .field .hour, .mark ':', .field .minute, .mark ':', .field .second]

/-- Date and time with a `T` between them. -/
def dateTimeT : Pattern :=
  dateOnly ++ [.mark 'T', .field .hour, .mark ':', .field .minute, .mark ':', .field .second]

/-- Date and time without seconds. -/
def dateMinute : Pattern :=
  dateOnly ++ [.space, .field .hour, .mark ':', .field .minute]

/-! ### Notation -/

/-- The letter of a field in `%` notation. -/
def letter : Field → Char
  | .year => 'Y'
  | .month => 'm'
  | .day => 'd'
  | .hour => 'H'
  | .minute => 'M'
  | .second => 'S'

/-- The pattern in `%` notation. -/
def spell (p : Pattern) : String :=
  String.ofList (p.flatMap fun
    | .field f => ['%', letter f]
    | .mark c => [c]
    | .space => [' '])

end Pattern

/-! ### Printing -/

/-- The text of a year: four digits, with a sign unless it lies between 0 and 9999. -/
def yearChars (y : Int) : List Char :=
  if 0 ≤ y && y ≤ 9999 then Numeral.padded 4 y.natAbs
  else (if y < 0 then '-' else '+') :: Numeral.padded 4 y.natAbs

namespace DateTime

/-- The text of one field. -/
def fieldChars (t : DateTime) : Field → List Char
  | .year => yearChars t.date.year
  | .month => Numeral.padded 2 t.date.month
  | .day => Numeral.padded 2 t.date.day
  | .hour => Numeral.padded 2 t.hour
  | .minute => Numeral.padded 2 t.minute
  | .second => Numeral.padded 2 t.secondOfMinute

/-- The text of a date-time in a pattern. -/
def formatChars (t : DateTime) (p : Pattern) : List Char :=
  p.flatMap fun
    | .field f => t.fieldChars f
    | .mark c => [c]
    | .space => [' ']

/-- The text of a date-time in a pattern. -/
def format (t : DateTime) (p : Pattern) : String := String.ofList (t.formatChars p)

/-- The text of the fraction of a second: nothing, milliseconds, microseconds or nanoseconds,
whichever suffices. -/
def fractionChars (nano : Nat) : List Char :=
  if nano = 0 then []
  else if nano % 1000000 = 0 then '.' :: Numeral.padded 3 (nano / 1000000)
  else if nano % 1000 = 0 then '.' :: Numeral.padded 6 (nano / 1000)
  else '.' :: Numeral.padded 9 nano

/-- The full text of a date-time, with its fraction if it has one. -/
def text (t : DateTime) : String :=
  String.ofList (t.formatChars Pattern.dateTimeT ++ fractionChars (t.nano % nanosPerSecond))

end DateTime

/-! ### Reading -/

/-- The fields read so far. Missing times count as zero. -/
structure Reading where
  year : Int
  month : Nat
  day : Nat
  hour : Nat
  minute : Nat
  second : Nat
  nano : Nat
  deriving DecidableEq, Repr

namespace Reading

/-- Nothing read yet. -/
def start : Reading := ⟨0, 0, 0, 0, 0, 0, 0⟩

/-- Sets one field. -/
def set (r : Reading) (f : Field) (n : Int) : Reading :=
  match f with
  | .year => { r with year := n }
  | .month => { r with month := n.toNat }
  | .day => { r with day := n.toNat }
  | .hour => { r with hour := n.toNat }
  | .minute => { r with minute := n.toNat }
  | .second => { r with second := n.toNat }

/-- The date-time with these fields, if there is one. Second 60 is a leap second. -/
def toDateTime? (r : Reading) : Option DateTime := do
  let day ← Calendar.dayOfYmd? r.year r.month r.day
  if r.hour ≤ 23 && r.minute ≤ 59 && r.second ≤ 60 then
    let clock := 3600 * r.hour + 60 * r.minute + min r.second 59
    let leap := if r.second = 60 then nanosPerSecond else 0
    some ⟨day * secondsPerDay + clock, r.nano + leap⟩
  else none

end Reading

/-- Reads at least `least` and at most `most` ASCII digits; gives their value and the rest. -/
def readNumber? (least most : Nat) (cs : List Char) : Option (Nat × List Char) :=
  let digits := (cs.take most).takeWhile fun c => (Numeral.digit? c).isSome
  if least ≤ digits.length then
    let value := digits.foldl (fun n c => 10 * n + (Numeral.digit? c).getD 0) 0
    some (value, cs.drop digits.length)
  else none

/-- Reads a year: up to four digits, or a sign and any number of digits. -/
def readYear? : List Char → Option (Int × List Char)
  | '-' :: cs => (readNumber? 1 cs.length cs).map fun (n, rest) => (-(n : Int), rest)
  | '+' :: cs => (readNumber? 1 cs.length cs).map fun (n, rest) => ((n : Int), rest)
  | cs => (readNumber? 1 4 cs).map fun (n, rest) => ((n : Int), rest)

/-- Reads one piece of a pattern. -/
def PatternItem.read? (item : PatternItem) (r : Reading) (cs : List Char) :
    Option (Reading × List Char) :=
  match item with
  | .space => some (r, Text.dropBlanks cs)
  | .mark c =>
    match cs with
    | d :: rest => if c = d then some (r, rest) else none
    | [] => none
  | .field .year => (readYear? (Text.dropBlanks cs)).map fun (n, rest) => (r.set .year n, rest)
  | .field f =>
    (readNumber? 1 2 (Text.dropBlanks cs)).map fun (n, rest) => (r.set f (n : Int), rest)

namespace Pattern

/-- Reads the pieces of a pattern one after the other; nothing may be left over. -/
def readFrom? : Pattern → Reading → List Char → Option Reading
  | [], r, [] => some r
  | [], _, _ :: _ => none
  | item :: rest, r, cs =>
    match item.read? r cs with
    | some (r, cs) => readFrom? rest r cs
    | none => none

/-- Reads a date-time in a pattern. -/
def read? (p : Pattern) (cs : List Char) : Option DateTime :=
  (p.readFrom? .start cs).bind Reading.toDateTime?

end Pattern

end SiteAnalytics
