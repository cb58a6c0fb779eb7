import SiteAnalytics.Query.Scope

/-!
# Event metadata queries

The keys and values attached to one custom event, each pair with the number of its occurrences.
-/

namespace SiteAnalytics

/-- The key-value pairs of a custom event. -/
def Query.eventMeta (pid event : String) (w : Window) (filter : CompiledFilter) : Query :=
  { sql :=
      "SELECT meta.key AS key, meta.value AS value, count() AS count FROM customEV ARRAY JOIN " ++
        "meta WHERE " ++ Scope.condition ++ " AND ev = " ++ Sql.bind "event" ++ filter.text ++
        " GROUP BY key, value ORDER BY count DESC"
    params := (Scope.params pid w filter).insert "event" (.text event) }

/-- A key-value pair with the number of its occurrences. -/
structure EventMetaRow where
  key : String
  value : String
  count : Int
  deriving DecidableEq, Repr

namespace EventMetaRow

/-- The fields of a row. -/
def fields : List String := ["key", "value", "count"]

/-- Reads a row. -/
def ofJson? (j : Json) : Option EventMetaRow := do
  let field ← j.record? fields
  let key ← (field "key").required Json.string?
  let value ← (field "value").required Json.string?
  let count ← (field "count").required Json.int64?
  return ⟨key, value, count⟩

/-- The row as JSON. -/
def toJson (r : EventMetaRow) : Json :=
  .ofMembers [("key", .string r.key), ("value", .string r.value), ("count", .int r.count)]

end EventMetaRow

end SiteAnalytics
