import SiteAnalytics.Query.Param

/-!
# Query text

A query is text with placeholders and the parameters they refer to. `Sql` keeps the two apart: fixed
text is one kind of piece and a placeholder another, so that what a text refers to can be read off
without scanning it. Fixed text holds no braces; `Sql.render` writes a placeholder as name and type
in braces.
-/

namespace SiteAnalytics

/-- The type of a placeholder. -/
inductive SqlType
  | string | uint32
  deriving DecidableEq, Repr

/-- The name of a type in query text. -/
def SqlType.name : SqlType → String
  | string => "String"
  | uint32 => "UInt32"

/-- A piece of query text. -/
inductive SqlPiece
  | text (s : String)
  | placeholder (name : String) (type : SqlType)
  deriving DecidableEq, Repr

/-- Query text. -/
structure Sql where
  pieces : List SqlPiece
  deriving DecidableEq, Repr

namespace Sql

/-- Fixed text. -/
def ofString (s : String) : Sql := ⟨[.text s]⟩

instance : Coe String Sql := ⟨ofString⟩

instance : Append Sql := ⟨fun a b => ⟨a.pieces ++ b.pieces⟩⟩

/-- Empty text. -/
def nothing : Sql := ⟨[]⟩

/-- A placeholder for a text. -/
def bind (name : String) : Sql := ⟨[.placeholder name .string]⟩

/-- A placeholder for an unsigned 32-bit word. -/
def bindCount (name : String) : Sql := ⟨[.placeholder name .uint32]⟩

/-- The texts `items` with `separator` between them. -/
def join (separator : String) (items : List Sql) : Sql :=
  match items with
  | [] => nothing
  | first :: rest => rest.foldl (fun acc item => acc ++ ofString separator ++ item) first

/-- The names of the placeholders, in order. -/
def placeholders (s : Sql) : List String :=
  s.pieces.filterMap fun
    | .text _ => none
    | .placeholder name _ => some name

/-- The characters of a piece. -/
def pieceChars : SqlPiece → List Char
  | .text s => s.toList
  | .placeholder name type => '\x7b' :: name.toList ++ ':' :: type.name.toList ++ ['\x7d']

/-- The text that is sent to the column store. -/
def render (s : Sql) : String := String.ofList (s.pieces.flatMap pieceChars)

end Sql

/-- Query text with the parameters it refers to. -/
structure Query where
  sql : Sql
  params : Params

namespace Query

/-- The query as JSON. -/
def toJson (q : Query) : Json :=
  .ofMembers [("params", Params.toJson q.params), ("sql", .string q.sql.render)]

end Query

end SiteAnalytics
