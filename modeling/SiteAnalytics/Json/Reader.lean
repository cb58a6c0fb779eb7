import SiteAnalytics.Json.Token

/-!
# Reading JSON

The second stage of reading JSON puts tokens together. `Written` is a text as it is written: members
in their order, repeated names included, and scalars perhaps without a value. The tokens are taken
one by one by a machine whose stack holds the containers that are still open, so there is no
recursion to bound.

`Written.value?` is what a text means. It fails for a scalar without a value and for containers
nested deeper than `maxDepth`. Parts of a text that nobody asks for are never valued, and cannot
fail.
-/

namespace SiteAnalytics.Json

/-- A JSON text as it is written. -/
inductive Written
  | null
  | bool (b : Bool)
  | number (n : Option JsonNumber)
  | string (s : Option String)
  | array (items : List Written)
  | object (members : List (Option String × Written))

/-! ### The machine -/

/-- A container that is still open. What it holds so far is in reverse. -/
inductive Frame
  | array (items : List Written)
  | object (members : List (Option String × Written))
  /-- An object in the middle of a member, whose name is there and whose value is to come. -/
  | member (members : List (Option String × Written)) (name : Option String)

/-- What must come next, with the open containers, innermost first. -/
inductive State
  | value (stack : List Frame)
  /-- After an opening bracket: an item or the end. -/
  | firstItem (stack : List Frame)
  /-- After an opening brace: a name or the end. -/
  | firstName (stack : List Frame)
  | memberName (stack : List Frame)
  | colon (stack : List Frame)
  /-- After an item or member: a comma or the end of the container. -/
  | next (stack : List Frame)
  | finished (w : Written)

/-- A value is complete. -/
def State.complete (w : Written) : List Frame → Option State
  | [] => some (.finished w)
  | .array items :: stack => some (.next (.array (w :: items) :: stack))
  | .member members name :: stack => some (.next (.object ((name, w) :: members) :: stack))
  | .object _ :: _ => none

/-- A value starts. -/
def State.begin (stack : List Frame) : Token → Option State
  | .null => complete .null stack
  | .bool b => complete (.bool b) stack
  | .number n => complete (.number n) stack
  | .string s => complete (.string s) stack
  | .leftBracket => some (.firstItem (.array [] :: stack))
  | .leftBrace => some (.firstName (.object [] :: stack))
  | _ => none

/-- The innermost container ends. -/
def State.close : List Frame → Token → Option State
  | .array items :: stack, .rightBracket => complete (.array items.reverse) stack
  | .object members :: stack, .rightBrace => complete (.object members.reverse) stack
  | _, _ => none

/-- The name of a member is there. -/
def State.named : List Frame → Token → Option State
  | .object members :: stack, .string name => some (.colon (.member members name :: stack))
  | _, _ => none

/-- Takes one token. -/
def State.step (state : State) (token : Token) : Option State :=
  match state with
  | .value stack => begin stack token
  | .firstItem stack =>
    match token with
    | .rightBracket => close stack token
    | _ => begin stack token
  | .firstName stack =>
    match token with
    | .rightBrace => close stack token
    | _ => named stack token
  | .memberName stack => named stack token
  | .colon stack =>
    match token with
    | .colon => some (.value stack)
    | _ => none
  | .next stack =>
    match stack, token with
    | .array _ :: _, .comma => some (.value stack)
    | .object _ :: _, .comma => some (.memberName stack)
    | _, _ => close stack token
  | .finished _ => none

/-- Takes all tokens. -/
def State.run (state : State) : List Token → Option State
  | [] => some state
  | token :: tokens =>
    match state.step token with
    | some state => state.run tokens
    | none => none

/-- The text that a list of tokens writes. -/
def Written.ofTokens? (tokens : List Token) : Option Written :=
  match (State.value []).run tokens with
  | some (.finished w) => some w
  | _ => none

/-- Reads a text as it is written. -/
def Written.read? (s : String) : Option Written := (tokens? s.toList).bind ofTokens?

/-! ### Meaning -/

/-- The greatest number of containers around a value, itself included. -/
def maxDepth : Nat := 127

mutual

/-- The meaning of a text in which at most `depth` more containers may open. -/
def Written.valueAt? (depth : Nat) : Written → Option Json
  | .null => some .null
  | .bool b => some (.bool b)
  | .number n => n.map Json.number
  | .string s => s.map Json.string
  | .array items =>
    match depth with
    | 0 => none
    | depth + 1 => (Written.itemsAt? depth items).map Json.array
  | .object members =>
    match depth with
    | 0 => none
    | depth + 1 => (Written.membersAt? depth members).map Json.ofMembers

/-- The meanings of the items of an array. -/
def Written.itemsAt? (depth : Nat) : List Written → Option (List Json)
  | [] => some []
  | w :: rest =>
    match w.valueAt? depth, Written.itemsAt? depth rest with
    | some item, some items => some (item :: items)
    | _, _ => none

/-- The meanings of the members of an object. -/
def Written.membersAt? (depth : Nat) : List (Option String × Written) →
    Option (List (String × Json))
  | [] => some []
  | (name, w) :: rest =>
    match name, w.valueAt? depth, Written.membersAt? depth rest with
    | some name, some value, some members => some ((name, value) :: members)
    | _, _, _ => none

end

/-- The meaning of a text. -/
def Written.value? (w : Written) : Option Json := w.valueAt? maxDepth

/-- Reads a JSON text. -/
def parse? (s : String) : Option Json := (Written.read? s).bind Written.value?

end SiteAnalytics.Json
