import SiteAnalytics.Json.Decode
import SiteAnalytics.Json.Writer

/-!
# Query parameters

A value reaches the column store only as a parameter: a text, an integer, a double or null, bound
to a name that the query text refers to. `ParamValue.wire` is the form in which it travels.
-/

namespace SiteAnalytics

/-- The value of a query parameter. -/
inductive ParamValue
  | text (s : String)
  /-- A signed 64-bit word. -/
  | int (n : Int)
  | float (x : Float)
  | null

namespace ParamValue

/-- The text that is sent to the column store. -/
def wire : ParamValue → String
  | text s => s
  | int n => String.ofList (Numeral.intChars n)
  | float x =>
    (Decimal.Layout.wire.float? x).getD
      (if x.isNaN then "NaN" else if x < 0 then "-inf" else "inf")
  | null => "\\N"

/-- The text of a textual value. -/
def text? : ParamValue → Option String
  | text s => some s
  | _ => none

/-- The value as JSON. -/
def toJson : ParamValue → Json
  | text s => .string s
  | int n => .int n
  | float x => .float x
  | null => .null

/-- The value of a text, a number or null. A number that is no signed 64-bit word is a double. -/
def ofJson? : Json → Option ParamValue
  | .null => some null
  | .string s => some (text s)
  | .number n =>
    match (Json.number n).int64? with
    | some i => some (int i)
    | none => (Json.number n).float?.map float
  | _ => none

end ParamValue

/-- Query parameters by name. -/
abbrev Params := Dict ParamValue

namespace Params

/-- The parameters as JSON. -/
def toJson (p : Params) : Json := Json.dict ParamValue.toJson p

/-- The parameters as they are sent, in the order of their names. -/
def wire (p : Params) : List (String × String) := p.entries.map fun e => (e.1, e.2.wire)

/-- The parameters with the textual values given. -/
def ofTexts (entries : List (String × String)) : Params :=
  Dict.ofList (entries.map fun e => (e.1, .text e.2))

end Params

end SiteAnalytics
