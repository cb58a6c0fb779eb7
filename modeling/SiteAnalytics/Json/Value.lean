import SiteAnalytics.Dict

/-!
# JSON values

A `Json` is the meaning of a JSON text. Numbers without fraction and exponent that fit a 64-bit
word are kept as integers, all others as doubles. The members of an object are listed in the order
of their names and no name occurs twice, provided the value was built by `Json.ofMembers`; of
several members with one name the last counts.
-/

namespace SiteAnalytics

/-- A JSON number. -/
inductive JsonNumber
  /-- A whole number, as written. -/
  | int (n : Int)
  | float (x : Float)

/-- A JSON value. -/
inductive Json
  | null
  | bool (b : Bool)
  | number (n : JsonNumber)
  | string (s : String)
  | array (items : List Json)
  | object (members : List (String × Json))

namespace Json

/-! ### Building -/

/-- An integer. -/
def int (n : Int) : Json := number (.int n)

/-- A natural number. -/
def nat (n : Nat) : Json := number (.int n)

/-- A double. -/
def float (x : Float) : Json := number (.float x)

/-- A value or null. -/
def option {α : Type} (f : α → Json) (a : Option α) : Json := a.elim null f

/-- A list. -/
def list {α : Type} (f : α → Json) (as : List α) : Json := array (as.map f)

/-- A list of texts. -/
def strings (ss : List String) : Json := list string ss

/-- An object with the given members; of several with one name the last counts. -/
def ofMembers (members : List (String × Json)) : Json := object (Dict.ofList members).entries

/-- An object with an entry for every key. -/
def dict {α : Type} (f : α → Json) (d : Dict α) : Json :=
  object (d.entries.map fun e => (e.1, f e.2))

/-! ### Looking -/

/-- The member of an object with a name. -/
def get? : Json → String → Option Json
  | object members, name => members.lookup name
  | _, _ => none

/-- The items of an array. -/
def items? : Json → Option (List Json)
  | array items => some items
  | _ => none

/-- The text of a string. -/
def string? : Json → Option String
  | string s => some s
  | _ => none

end Json

end SiteAnalytics
