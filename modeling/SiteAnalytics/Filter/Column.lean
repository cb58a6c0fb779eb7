import SiteAnalytics.Json.Value

/-!
# Column classes

The column of a clause is a plain dimension, the name of a custom event, or refers to the key-value
pairs attached to events (`ev:`) or pageviews (`tag:`): to their keys, to their values, or to the
value under one key. `ColumnClass.ofColumn` reads the class off the text, and `ColumnClass.column`
writes it down again. A lookup needs a key of at least one character; all text that has none of the
special forms is a plain column.
-/

namespace SiteAnalytics

/-- Whose key-value pairs a column refers to. -/
inductive MetaScope
  /-- Those of custom events. -/
  | event
  /-- Those of pageviews. -/
  | tag
  deriving DecidableEq, Repr

/-- The characters in front of the columns of a scope. -/
def MetaScope.lead : MetaScope → List Char
  | event => "ev:".toList
  | tag => "tag:".toList

/-- The name of a scope. -/
def MetaScope.name : MetaScope → String
  | event => "event"
  | tag => "tag"

/-- What the column of a clause refers to. -/
inductive ColumnClass
  /-- A dimension. -/
  | plain (column : String)
  /-- The name of a custom event. -/
  | eventName
  /-- Any key. -/
  | metaKey (scope : MetaScope)
  /-- Any value. -/
  | metaValue (scope : MetaScope)
  /-- The value under a key. -/
  | metaLookup (scope : MetaScope) (key : String)
  deriving DecidableEq, Repr

namespace ColumnClass

/-! ### Reading and writing -/

/-- What is left of `cs` after `lead`, if it starts so. -/
def after? (lead cs : List Char) : Option (List Char) :=
  if lead.isPrefixOf cs then some (cs.drop lead.length) else none

/-- The class of a column within a scope. -/
def ofScoped? (scope : MetaScope) (rest : List Char) : Option ColumnClass :=
  match after? "key:".toList rest with
  | some (c :: cs) => some (metaLookup scope (String.ofList (c :: cs)))
  | _ =>
    if rest = "key".toList then some (metaKey scope)
    else if rest = "value".toList then some (metaValue scope)
    else none

/-- The class of a column in a scope, if it is one. -/
def ofScope? (scope : MetaScope) (cs : List Char) : Option ColumnClass :=
  (after? scope.lead cs).bind (ofScoped? scope)

/-- The class of a column. -/
def ofColumn (column : String) : ColumnClass :=
  let cs := column.toList
  if cs = "ev".toList then eventName
  else
    match ofScope? .event cs with
    | some c => c
    | none => (ofScope? .tag cs).getD (plain column)

/-- The column that refers to a class. -/
def column : ColumnClass → String
  | plain column => column
  | eventName => "ev"
  | metaKey scope => String.ofList (scope.lead ++ "key".toList)
  | metaValue scope => String.ofList (scope.lead ++ "value".toList)
  | metaLookup scope key => String.ofList (scope.lead ++ "key:".toList ++ key.toList)

/-! ### Properties -/

/-- Filtering on the column looks at custom events instead of pageviews. Lookups do so in either
scope. -/
def targetsCustomEvents : ColumnClass → Bool
  | eventName | metaKey .event | metaValue .event | metaLookup _ _ => true
  | _ => false

/-- The column holds arrays, whose elements are never null. -/
def isArrayBacked : ColumnClass → Bool
  | metaKey _ | metaValue _ | metaLookup _ _ => true
  | _ => false

/-- The column exists on custom events only. -/
def isEventColumn : ColumnClass → Bool
  | eventName | metaKey .event | metaValue .event | metaLookup .event _ => true
  | _ => false

/-! ### Encoding -/

/-- The name of a class. -/
def name : ColumnClass → String
  | plain _ => "plain"
  | eventName => "eventName"
  | metaKey _ => "metaKey"
  | metaValue _ => "metaValue"
  | metaLookup _ _ => "metaLookup"

/-- The scope that a class refers to. -/
def scope? : ColumnClass → Option MetaScope
  | metaKey scope | metaValue scope | metaLookup scope _ => some scope
  | _ => none

/-- The column of a dimension, or the key of a lookup. -/
def argument? : ColumnClass → Option String
  | plain column => some column
  | metaLookup _ key => some key
  | _ => none

/-- The class as JSON, with its properties. -/
def toJson (c : ColumnClass) : Json :=
  .ofMembers
    [("class", .string c.name), ("scope", .option (fun scope => .string scope.name) c.scope?),
      ("arg", .option .string c.argument?), ("targetsCustomEvents", .bool c.targetsCustomEvents),
      ("arrayBacked", .bool c.isArrayBacked), ("eventColumn", .bool c.isEventColumn)]

end ColumnClass

end SiteAnalytics
