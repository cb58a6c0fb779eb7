import SiteAnalytics.Error
import SiteAnalytics.Json.Decode
import SiteAnalytics.Json.Writer
import SiteAnalytics.Text.Blank

/-!
# Filter clauses

A request carries its filters as JSON text: an array of clauses, each with a column, a value and a
flag that turns it into an exclusion. A clause with a list of values stands for one clause per
value, and a clause without a value asks for null.

Text that is missing, blank or no JSON at all filters nothing. JSON of any other shape is refused.
-/

namespace SiteAnalytics

/-- One condition on the value of a column. -/
structure Clause where
  column : String
  /-- The value asked for; null if there is none. -/
  value : Option String
  /-- The clause excludes what it describes. -/
  exclusive : Bool
  deriving DecidableEq, Repr

namespace Clause

/-! ### Encoding -/

/-- The clause as JSON. -/
def toJson (c : Clause) : Json :=
  .ofMembers
    [("column", .string c.column), ("filter", .option .string c.value),
      ("isExclusive", .bool c.exclusive)]

/-- The fields of a clause. -/
def fields : List String := ["column", "filter", "isExclusive"]

/-- Reads a single clause. -/
def ofJson? (j : Json) : Option Clause := do
  let field ← j.record? fields
  let column ← (field "column").required Json.string?
  let value ← (field "filter").optional Json.string?
  let exclusive ← (field "isExclusive").defaulted Json.bool? false
  return ⟨column, value, exclusive⟩

/-! ### Filter lists -/

/-- The values of a filter: none, one, or a list of them. -/
inductive Values
  | absent
  | one (s : String)
  | many (ss : List String)

/-- Reads the values of a filter. -/
def Values.ofJson? : Json → Option Values
  | .null => some absent
  | .string s => some (one s)
  | .array items => (items.mapM Json.string?).map many
  | _ => none

/-- Reads one element of a filter list and expands it into its clauses. -/
def expand? (j : Json) : Option (List Clause) := do
  let field ← j.record? fields
  let column ← (field "column").required Json.string?
  let values ← (field "filter").defaulted Values.ofJson? .absent
  let exclusive ← (field "isExclusive").defaulted Json.bool? false
  return match values with
    | .absent => [⟨column, none, exclusive⟩]
    | .one s => [⟨column, some s, exclusive⟩]
    | .many ss => ss.map fun s => ⟨column, some s, exclusive⟩

/-- Expands the elements of a filter list. -/
def expandAll? : List Json → Option (List Clause)
  | [] => some []
  | j :: rest =>
    match expand? j, expandAll? rest with
    | some clauses, some more => some (clauses ++ more)
    | _, _ => none

/-- The clauses that a value lists. -/
def listOf : Json → Except ValidationError (List Clause)
  | .array items =>
    match expandAll? items with
    | some clauses => .ok clauses
    | none => .error .invalidFilterShape
  | _ => .error .invalidFilterShape

/-- Reads the filters of a request. -/
def parseList (raw : Option String) : Except ValidationError (List Clause) :=
  match raw.bind Text.trimmed? with
  | none => .ok []
  | some text =>
    match Json.parse? text with
    | none => .ok []
    | some j => listOf j

end Clause

end SiteAnalytics
