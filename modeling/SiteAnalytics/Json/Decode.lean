import SiteAnalytics.Json.Reader

/-!
# Decoding JSON into records

A record is written as an object, or as an array of its fields in order. In an object a field may
be missing and unknown members do not matter; in an array fields may only be missing at the end,
and nothing may follow the last one. `Found` says where a field was found, and the readers
`required`, `optional` and `defaulted` say what each kind of field makes of it.

A record that is read straight from text is stricter: a field that occurs twice is a fault, while
members that are no fields are skipped unread. `Written.select?` is that rule.
-/

namespace SiteAnalytics.Json

/-! ### Scalars -/

/-- A truth value. -/
def bool? : Json → Option Bool
  | bool b => some b
  | _ => none

/-- An integer from `low` to `high`. -/
def int? (low high : Int) : Json → Option Int
  | number (.int n) => if low ≤ n && n ≤ high then some n else none
  | _ => none

/-- A signed 64-bit word. -/
def int64? : Json → Option Int := int? (-Numeral.maxI64 - 1) Numeral.maxI64

/-- A signed 32-bit word. -/
def int32? : Json → Option Int := int? (-Numeral.maxI32 - 1) Numeral.maxI32

/-- A natural number at most `high`. -/
def nat? (high : Nat) (j : Json) : Option Nat := (j.int? 0 high).map Int.toNat

/-- An unsigned 32-bit word. -/
def nat32? : Json → Option Nat := nat? Numeral.maxU32

/-- An unsigned 64-bit word. -/
def nat64? : Json → Option Nat := nat? Numeral.maxU64

/-- A double. An integer counts as one. -/
def float? : Json → Option Float
  | number (.int n) => some (Float.ofInt n)
  | number (.float x) => some x
  | _ => none

/-- A list. -/
def list? {α : Type} (f : Json → Option α) : Json → Option (List α)
  | array items => items.mapM f
  | _ => none

/-- A list of texts. -/
def strings? : Json → Option (List String) := list? string?

/-- Null, or a value. -/
def option? {α : Type} (f : Json → Option α) : Json → Option (Option α)
  | null => some none
  | j => (f j).map some

/-- One of several names: the name as text, or an object with the name as its only member, whose
value says nothing. -/
def name? {α : Type} (ofName : String → Option α) (saysNothing : Json → Bool) : Json → Option α
  | string s => ofName s
  | object [(s, j)] => if saysNothing j then ofName s else none
  | _ => none

/-- The value is null. -/
def isNull : Json → Bool
  | null => true
  | _ => false

/-- The value is null or an object without members. -/
def isNullOrEmpty : Json → Bool
  | null | object [] => true
  | _ => false

/-! ### Fields -/

/-- Where a field of a record was found. -/
inductive Found
  | value (j : Json)
  /-- The object has no such member. -/
  | missing
  /-- The array ends before the field. -/
  | beyond

namespace Found

/-- A field that must be there. -/
def required {α : Type} (f : Json → Option α) : Found → Option α
  | value j => f j
  | _ => none

/-- A field that may be null, or missing from an object. -/
def optional {α : Type} (f : Json → Option α) : Found → Option (Option α)
  | value j => option? f j
  | missing => some none
  | beyond => none

/-- A field with a default. -/
def defaulted {α : Type} (f : Json → Option α) (default : α) : Found → Option α
  | value j => f j
  | _ => some default

end Found

/-- The fields of a record with the given names; `none` if the value is no such record. -/
def record? (names : List String) : Json → Option (String → Found)
  | object members => some fun name => (members.lookup name).elim .missing .value
  | array items =>
    if items.length ≤ names.length then
      some fun name => ((names.zip items).lookup name).elim .beyond .value
    else none
  | _ => none

/-! ### Records in text -/

mutual

/-- No object within the text names a member twice. -/
def Written.namesOnce : Written → Bool
  | .array items => Written.itemsNameOnce items
  | .object members => Written.membersNameOnce members
  | _ => true

/-- No object within the items names a member twice. -/
def Written.itemsNameOnce : List Written → Bool
  | [] => true
  | w :: rest => w.namesOnce && Written.itemsNameOnce rest

/-- The members have different names, and no object within them names a member twice. -/
def Written.membersNameOnce : List (Option String × Written) → Bool
  | [] => true
  | (name, w) :: rest =>
    !(rest.any fun e => e.1 == name) && w.namesOnce && Written.membersNameOnce rest

end

/-- A record as text without the members that are no fields. Every name must have a value, and no
field may occur twice. -/
def Written.select? (fields : List String) : Written → Option Written
  | .object members =>
    let kept := members.filter fun e => e.1.elim true fields.contains
    if members.all (fun e => e.1.isSome) && Written.membersNameOnce kept then some (.object kept)
    else none
  | w => if w.namesOnce then some w else none

/-- Reads a record straight from text. -/
def decodeRecord? {α : Type} (fields : List String) (f : Json → Option α) (s : String) :
    Option α := do
  let w ← Written.read? s
  let w ← w.select? fields
  f (← w.value?)

/-- Reads a value that has no fields straight from text. -/
def decodeValue? {α : Type} (f : Json → Option α) (s : String) : Option α := do
  let w ← Written.read? s
  if w.namesOnce then f (← w.value?) else none

end SiteAnalytics.Json
