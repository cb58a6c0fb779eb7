import SiteAnalytics.Proofs.Sql.Expression

/-!
# Conditions on rows

What the column store makes of a condition for one row of an event table and the parameters of a
query. Comparisons with null are false. The key-value pairs of an event are two arrays of equal
length; `indexOf` gives the first place of a value, counted from 1, or 0, and an element that an
array does not have is the empty text.

`holds?` goes from text to truth value; it gives nothing for text that is no condition, for unbound
parameters and for operands of the wrong type.
-/

namespace SiteAnalytics.Sql

/-! ### Rows -/

/-- A row of an event table. -/
structure Row where
  /-- The value of a column; none if it is null. -/
  column : String → Option String
  /-- The key-value pairs, in order. -/
  entries : List (String × String)

/-- A value in a condition. -/
inductive Value
  | null
  | text (s : String)
  | number (n : Nat)
  | truth (b : Bool)
  | texts (ss : List String)
  deriving DecidableEq, Repr

namespace Row

/-- The keys of a row. -/
def keys (row : Row) : List String := row.entries.map Prod.fst

/-- The values under the keys of a row. -/
def values (row : Row) : List String := row.entries.map Prod.snd

/-- What a column name stands for. -/
def get (row : Row) (name : String) : Value :=
  if name = "meta.key" then .texts row.keys
  else if name = "meta.value" then .texts row.values
  else
    match row.column name with
    | none => .null
    | some s => .text s

end Row

/-! ### Functions and operators -/

namespace Value

/-- The truth value, if it is one. -/
def truth? : Value → Option Bool
  | truth b => some b
  | _ => none

/-- A parameter as a value of the type of its placeholder. -/
def ofParam? (type : String) : ParamValue → Option Value
  | .text s => if type = SqlType.string.name then some (text s) else none
  | .int n => if type = SqlType.uint32.name then some (number n.toNat) else none
  | _ => none

/-- The first place of a text, counted from 1; 0 if there is none. -/
def position (s : String) (ss : List String) : Nat :=
  match ss.idxOf? s with
  | some i => i + 1
  | none => 0

/-- The text at a place, counted from 1; empty if there is none. -/
def textAt (ss : List String) : Nat → String
  | 0 => ""
  | i + 1 => ss[i]?.getD ""

/-- The functions of conditions. -/
def call? (function : String) (x y : Value) : Option Value :=
  match x, y with
  | texts ss, text s =>
    if function = "has" then some (truth (ss.contains s))
    else if function = "indexOf" then some (number (position s ss))
    else none
  | _, _ => none

/-- An element of an array. -/
def element? : Value → Value → Option Value
  | texts ss, number i => some (text (textAt ss i))
  | _, _ => none

end Value

/-- A comparison of two values; false for null. -/
def Comparison.holds? (c : Comparison) (x y : Value) : Option Bool :=
  match x, y with
  | .null, _ | _, .null => some false
  | .text s, .text t =>
    match c with
    | equal => some (s == t)
    | unequal => some (s != t)
    | greater => some (t < s)
  | .number m, .number n =>
    match c with
    | equal => some (m == n)
    | unequal => some (m != n)
    | greater => some (n < m)
  | _, _ => none

/-! ### Evaluation -/

/-- The value of an expression. -/
def Expr.eval? (params : Params) (row : Row) : Expr → Option Value
  | param name type => (params.get? name).bind (Value.ofParam? type)
  | number n => some (.number n)
  | column name => some (row.get name)
  | call function x y => do Value.call? function (← eval? params row x) (← eval? params row y)
  | element array x => do Value.element? (row.get array) (← eval? params row x)
  | group x => eval? params row x
  | compare c x y => do return .truth (← c.holds? (← eval? params row x) (← eval? params row y))
  | isNull x => do return .truth ((← eval? params row x) == .null)
  | isNotNull x => do return .truth ((← eval? params row x) != .null)
  | not x => do return .truth !(← (← eval? params row x).truth?)
  | and x y => do
    let a ← (← eval? params row x).truth?
    let b ← (← eval? params row y).truth?
    return .truth (a && b)
  | or x y => do
    let a ← (← eval? params row x).truth?
    let b ← (← eval? params row y).truth?
    return .truth (a || b)

/-- The truth value of the text of a condition. -/
def holds? (params : Params) (row : Row) (text : String) : Option Bool := do
  let x ← parse? (lex text.toList)
  (← x.eval? params row).truth?

/-! ### Conditions and their truth values -/

namespace Expr

/-- The expression has a truth value. -/
def IsTrue (params : Params) (row : Row) (x : Expr) (b : Bool) : Prop :=
  x.eval? params row = some (.truth b)

namespace IsTrue

variable {params : Params} {row : Row} {x y : Expr} {a b : Bool}

theorem group (h : IsTrue params row x b) : IsTrue params row (.group x) b := h

theorem not (h : IsTrue params row x b) : IsTrue params row (.not x) !b := by
  rw [IsTrue] at h
  simp [IsTrue, eval?, h, Value.truth?]

theorem and (hx : IsTrue params row x a) (hy : IsTrue params row y b) :
    IsTrue params row (.and x y) (a && b) := by
  rw [IsTrue] at hx hy
  simp [IsTrue, eval?, hx, hy, Value.truth?]

theorem or (hx : IsTrue params row x a) (hy : IsTrue params row y b) :
    IsTrue params row (.or x y) (a || b) := by
  rw [IsTrue] at hx hy
  simp [IsTrue, eval?, hx, hy, Value.truth?]

end IsTrue

end Expr

/-- Text whose tokens are those of an expression has the truth value of the expression. -/
theorem holds?_render {params : Params} {row : Row} {s : Sql} {x : Expr} {b : Bool}
    (htokens : s.tokens = x.tokens) (hfits : x.Fits) (h : x.IsTrue params row b) :
    holds? params row s.render = some b := by
  rw [Expr.IsTrue] at h
  rw [holds?, toList_render, show lex s.chars = x.tokens from htokens, Expr.parse?_tokens hfits]
  simp [h, Value.truth?]

/-! ### Chains of operators -/

namespace Expr

/-- A chain of `OR`. -/
def anyOf (x : Expr) : List Expr → Expr
  | [] => x
  | y :: ys => .or x (anyOf y ys)

/-- A chain of `AND`. -/
def allOf (x : Expr) : List Expr → Expr
  | [] => x
  | y :: ys => .and x (allOf y ys)

theorem tokens_anyOf (x : Expr) (ys : List Expr) :
    (anyOf x ys).tokens = x.tokens ++ ys.flatMap fun y => .or :: y.tokens := by
  induction ys generalizing x with
  | nil => simp [anyOf]
  | cons y ys ih => rw [anyOf, tokens, ih, List.flatMap_cons, List.cons_append]

theorem tokens_allOf (x : Expr) (ys : List Expr) :
    (allOf x ys).tokens = x.tokens ++ ys.flatMap fun y => .and :: y.tokens := by
  induction ys generalizing x with
  | nil => simp [allOf]
  | cons y ys ih => rw [allOf, tokens, ih, List.flatMap_cons, List.cons_append]

theorem fits_anyOf {x : Expr} {ys : List Expr}
    (h : ∀ y ∈ x :: ys, y.Fits ∧ y.level.rank ≤ Level.conjunction.rank) : (anyOf x ys).Fits := by
  induction ys generalizing x with
  | nil => exact (h x (List.mem_singleton_self x)).1
  | cons y ys ih =>
    obtain ⟨hx, hys⟩ := List.forall_mem_cons.mp h
    exact ⟨hx.2, hx.1, ih hys⟩

theorem fits_allOf {x : Expr} {ys : List Expr}
    (h : ∀ y ∈ x :: ys, y.Fits ∧ y.level.rank ≤ Level.negation.rank) :
    (allOf x ys).Fits ∧ (allOf x ys).level.rank ≤ Level.conjunction.rank := by
  induction ys generalizing x with
  | nil =>
    obtain ⟨hfits, hlevel⟩ := h x (List.mem_singleton_self x)
    exact ⟨hfits, Nat.le_succ_of_le hlevel⟩
  | cons y ys ih =>
    obtain ⟨hx, hys⟩ := List.forall_mem_cons.mp h
    exact ⟨⟨hx.2, (ih hys).2, hx.1, (ih hys).1⟩, Nat.le_refl _⟩

/-- A chain of `OR` holds iff some link does. -/
theorem IsTrue.anyOf {params : Params} {row : Row} {x : Expr} {ys : List Expr} {b : Bool}
    {bs : List Bool} (h : List.Forall₂ (IsTrue params row) (x :: ys) (b :: bs)) :
    IsTrue params row (anyOf x ys) ((b :: bs).any id) := by
  induction ys generalizing x b bs with
  | nil =>
    obtain ⟨hx, hnil⟩ := List.forall₂_cons.mp h
    obtain rfl := List.forall₂_nil_left_iff.mp hnil
    simpa [Expr.anyOf] using hx
  | cons y ys ih =>
    obtain ⟨hx, htail⟩ := List.forall₂_cons.mp h
    obtain ⟨c, cs, -, -, rfl⟩ := List.forall₂_cons_left_iff.mp htail
    exact hx.or (ih htail)

/-- A chain of `AND` holds iff every link does. -/
theorem IsTrue.allOf {params : Params} {row : Row} {x : Expr} {ys : List Expr} {b : Bool}
    {bs : List Bool} (h : List.Forall₂ (IsTrue params row) (x :: ys) (b :: bs)) :
    IsTrue params row (allOf x ys) ((b :: bs).all id) := by
  induction ys generalizing x b bs with
  | nil =>
    obtain ⟨hx, hnil⟩ := List.forall₂_cons.mp h
    obtain rfl := List.forall₂_nil_left_iff.mp hnil
    simpa [Expr.allOf] using hx
  | cons y ys ih =>
    obtain ⟨hx, htail⟩ := List.forall₂_cons.mp h
    obtain ⟨c, cs, -, -, rfl⟩ := List.forall₂_cons_left_iff.mp htail
    exact hx.and (ih htail)

end Expr

end SiteAnalytics.Sql
