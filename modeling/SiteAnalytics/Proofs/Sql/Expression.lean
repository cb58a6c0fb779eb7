import SiteAnalytics.Proofs.Sql.Token

/-!
# Expressions of query text

How the column store reads the tokens of a condition: `NOT` binds tighter than `AND`, and `AND`
tighter than `OR`; comparisons and null tests take operands without operators; round brackets may
hold any expression. `Expr` keeps the round brackets of the text, so that an expression has one
text, `Expr.tokens`.

The parser goes down one level of binding at a time. `parse?_tokens` says that it reads every
expression back from its own tokens, provided each part binds tightly enough for its place
(`Expr.Fits`).
-/

namespace SiteAnalytics.Sql

/-! ### Expressions -/

/-- The levels of binding, tightest first. -/
inductive Level
  | operand | comparison | negation | conjunction | disjunction
  deriving DecidableEq, Repr

/-- The place of a level, counted from the tightest. -/
def Level.rank : Level → Nat
  | operand => 0
  | comparison => 1
  | negation => 2
  | conjunction => 3
  | disjunction => 4

theorem Level.rank_injective {l l' : Level} (h : l.rank = l'.rank) : l = l' := by
  cases l <;> cases l' <;> simp [Level.rank] at h <;> rfl

/-- An expression of a condition. -/
inductive Expr
  | param (name type : String)
  | number (n : Nat)
  | column (name : String)
  | call (function : String) (x y : Expr)
  /-- An element of an array. -/
  | element (array : String) (index : Expr)
  /-- An expression in round brackets. -/
  | group (x : Expr)
  | compare (c : Comparison) (x y : Expr)
  | isNull (x : Expr)
  | isNotNull (x : Expr)
  | not (x : Expr)
  | and (x y : Expr)
  | or (x y : Expr)
  deriving DecidableEq, Repr

namespace Expr

/-- The level of an expression. -/
def level : Expr → Level
  | param .. | number _ | column _ | call .. | element .. | group _ => .operand
  | compare .. | isNull _ | isNotNull _ => .comparison
  | not _ => .negation
  | and .. => .conjunction
  | or .. => .disjunction

/-- The tokens of an expression. -/
def tokens : Expr → List Token
  | param name type => [.leftBrace, .name name, .colon, .name type, .rightBrace]
  | number n => [.number n]
  | column name => [.name name]
  | call function x y =>
    .name function :: .leftParen :: (x.tokens ++ .comma :: (y.tokens ++ [.rightParen]))
  | element array index => .name array :: .leftBracket :: (index.tokens ++ [.rightBracket])
  | group x => .leftParen :: (x.tokens ++ [.rightParen])
  | compare c x y => x.tokens ++ .compare c :: y.tokens
  | isNull x => x.tokens ++ [.is, .null]
  | isNotNull x => x.tokens ++ [.is, .not, .null]
  | not x => .not :: x.tokens
  | and x y => x.tokens ++ .and :: y.tokens
  | or x y => x.tokens ++ .or :: y.tokens

/-- Every part binds tightly enough for its place. Chains of `AND` and `OR` lean to the right. -/
def Fits : Expr → Prop
  | param .. | number _ | column _ => True
  | call _ x y => x.Fits ∧ y.Fits
  | element _ x | group x => x.Fits
  | compare _ x y => x.level = .operand ∧ y.level = .operand ∧ x.Fits ∧ y.Fits
  | isNull x | isNotNull x => x.level = .operand ∧ x.Fits
  | not x => x.level.rank ≤ 2 ∧ x.Fits
  | and x y => x.level.rank ≤ 2 ∧ y.level.rank ≤ 3 ∧ x.Fits ∧ y.Fits
  | or x y => x.level.rank ≤ 3 ∧ x.Fits ∧ y.Fits

end Expr

/-! ### The parser -/

/-- Reads an expression of a level off the front of `ts`; also gives what is left. Every step down
a level and every bracket takes one of `fuel`. -/
def parse (fuel : Nat) (level : Level) (ts : List Token) : Option (Expr × List Token) :=
  match fuel with
  | 0 => none
  | fuel + 1 =>
    match level with
    | .operand =>
      match ts with
      | .leftBrace :: .name name :: .colon :: .name type :: .rightBrace :: rest =>
        some (.param name type, rest)
      | .number n :: rest => some (.number n, rest)
      | .leftParen :: rest =>
        match parse fuel .disjunction rest with
        | some (x, .rightParen :: rest) => some (.group x, rest)
        | _ => none
      | .name name :: .leftParen :: rest =>
        match parse fuel .disjunction rest with
        | some (x, .comma :: rest) =>
          match parse fuel .disjunction rest with
          | some (y, .rightParen :: rest) => some (.call name x y, rest)
          | _ => none
        | _ => none
      | .name name :: .leftBracket :: rest =>
        match parse fuel .disjunction rest with
        | some (x, .rightBracket :: rest) => some (.element name x, rest)
        | _ => none
      | .name name :: rest => some (.column name, rest)
      | _ => none
    | .comparison =>
      match parse fuel .operand ts with
      | some (x, .compare c :: rest) =>
        match parse fuel .operand rest with
        | some (y, rest) => some (.compare c x y, rest)
        | none => none
      | some (x, .is :: .null :: rest) => some (.isNull x, rest)
      | some (x, .is :: .not :: .null :: rest) => some (.isNotNull x, rest)
      | result => result
    | .negation =>
      match ts with
      | .not :: rest =>
        match parse fuel .negation rest with
        | some (x, rest) => some (.not x, rest)
        | none => none
      | _ => parse fuel .comparison ts
    | .conjunction =>
      match parse fuel .negation ts with
      | some (x, .and :: rest) =>
        match parse fuel .conjunction rest with
        | some (y, rest) => some (.and x y, rest)
        | none => none
      | result => result
    | .disjunction =>
      match parse fuel .conjunction ts with
      | some (x, .or :: rest) =>
        match parse fuel .disjunction rest with
        | some (y, rest) => some (.or x y, rest)
        | none => none
      | result => result

/-- The fuel that reading so many tokens can take: there are five levels. -/
def fuelFor (count : Nat) : Nat := 5 * count + 4

/-- Reads a list of tokens as one expression. -/
def parse? (ts : List Token) : Option Expr :=
  match parse (fuelFor ts.length) .disjunction ts with
  | some (x, []) => some x
  | _ => none

/-! ### Reading back -/

/-- The tightest level at which an expression in front of the token goes on. -/
def Token.joins : Token → Nat
  | .leftParen | .leftBracket => 0
  | .compare _ | .is => 1
  | .and => 3
  | .or => 4
  | _ => 5

/-- An expression of the level ends in front of `rest`. -/
def EndsBefore (level : Level) (rest : List Token) : Prop :=
  ∀ t ∈ rest.head?, level.rank < t.joins

/-- With enough fuel `ts` is read as `x`, whatever follows. -/
def Reads (level : Level) (ts : List Token) (x : Expr) : Prop :=
  ∀ fuel rest, 5 * ts.length + level.rank ≤ fuel → EndsBefore level rest →
    parse fuel level (ts ++ rest) = some (x, rest)

/-- Where a loose expression ends, a tighter one ends too. -/
theorem EndsBefore.of_tighter {level inner : Level} {rest : List Token}
    (h : EndsBefore level rest) (hle : inner.rank ≤ level.rank) : EndsBefore inner rest :=
  fun t ht => Nat.lt_of_le_of_lt hle (h t ht)

namespace Reads

variable {ts us : List Token} {x y : Expr}

/-- The reading in front of a token with which the expression does not go on. -/
theorem before {level : Level} (hx : Reads level ts x) (fuel : Nat) (t : Token)
    (rest : List Token) (ht : level.rank < t.joins)
    (hfuel : 5 * ts.length + level.rank ≤ fuel) :
    parse fuel level (ts ++ t :: rest) = some (x, t :: rest) := by
  apply hx fuel _ hfuel
  intro u hu
  obtain rfl : t = u := by simpa using hu
  exact ht

/-- Reading takes at least one of the fuel, so its first step can be carried out. -/
theorem of_step {level : Level} (hpos : 0 < 5 * ts.length + level.rank)
    (h : ∀ fuel rest, 5 * ts.length + level.rank ≤ fuel + 1 → EndsBefore level rest →
      parse (fuel + 1) level (ts ++ rest) = some (x, rest)) : Reads level ts x := by
  intro fuel rest hfuel hend
  cases fuel with
  | zero => omega
  | succ fuel => exact h fuel rest hfuel hend

/-! #### Operands -/

theorem param (name type : String) :
    Reads .operand (Expr.param name type).tokens (.param name type) := by
  apply of_step (by simp [Expr.tokens, Level.rank])
  intro fuel rest _ _
  -- the first token decides, and no fuel is needed for another level
  simp [parse, Expr.tokens]

theorem number (n : Nat) : Reads .operand [.number n] (.number n) := by
  apply of_step (by simp [Level.rank])
  intro fuel rest _ _
  simp [parse]

theorem column (name : String) : Reads .operand [.name name] (.column name) := by
  apply of_step (by simp [Level.rank])
  intro fuel rest _ hend
  cases rest with
  | nil => simp [parse]
  | cons t rest =>
    -- brackets behind the name would make it a call or an element
    have ht : 0 < t.joins := hend t rfl
    cases t <;> simp [Token.joins] at ht <;> simp [parse]

/-- The first argument ends at the comma, the second one at the bracket. -/
theorem call (function : String) (hx : Reads .disjunction ts x) (hy : Reads .disjunction us y) :
    Reads .operand (.name function :: .leftParen :: (ts ++ .comma :: (us ++ [.rightParen])))
      (.call function x y) := by
  apply of_step (by simp [Level.rank])
  intro fuel rest hfuel _
  simp only [List.length_cons, List.length_append, List.length_nil, Level.rank] at hfuel
  -- the brackets and the comma are tokens of their own, so the fuel suffices for both arguments
  have hfirst := hx.before fuel .comma (us ++ .rightParen :: rest) (by decide)
    (by simp only [Level.rank]; omega)
  have hsecond := hy.before fuel .rightParen rest (by decide)
    (by simp only [Level.rank]; omega)
  simp [parse, hfirst, hsecond]

/-- The index of an element ends at the closing bracket. -/
theorem element (array : String) (hx : Reads .disjunction ts x) :
    Reads .operand (.name array :: .leftBracket :: (ts ++ [.rightBracket]))
      (.element array x) := by
  apply of_step (by simp [Level.rank])
  intro fuel rest hfuel _
  simp only [List.length_cons, List.length_append, List.length_nil, Level.rank] at hfuel
  have hindex := hx.before fuel .rightBracket rest (by decide)
    (by simp only [Level.rank]; omega)
  simp [parse, hindex]

/-- What stands in round brackets is read at the loosest level. -/
theorem group (hx : Reads .disjunction ts x) :
    Reads .operand (.leftParen :: (ts ++ [.rightParen])) (.group x) := by
  apply of_step (by simp [Level.rank])
  intro fuel rest hfuel _
  simp only [List.length_cons, List.length_append, List.length_nil, Level.rank] at hfuel
  have hinner := hx.before fuel .rightParen rest (by decide)
    (by simp only [Level.rank]; omega)
  simp [parse, hinner]

/-! #### Comparisons -/

theorem compare (c : Comparison) (hx : Reads .operand ts x) (hy : Reads .operand us y) :
    Reads .comparison (ts ++ .compare c :: us) (.compare c x y) := by
  apply of_step (by simp [Level.rank])
  intro fuel rest hfuel hend
  simp only [List.length_cons, List.length_append, Level.rank] at hfuel
  -- the sign costs one token, so the fuel suffices for both operands
  have hleft := hx.before fuel (.compare c) (us ++ rest) Nat.zero_lt_one
    (by simp only [Level.rank]; omega)
  have hright := hy fuel rest (by simp only [Level.rank]; omega)
    (hend.of_tighter (by decide))
  simp [parse, hleft, hright]

theorem isNull (hx : Reads .operand ts x) :
    Reads .comparison (ts ++ [.is, .null]) (.isNull x) := by
  apply of_step (by simp [Level.rank])
  intro fuel rest hfuel _
  simp only [List.length_cons, List.length_append, List.length_nil, Level.rank] at hfuel
  have hoperand := hx.before fuel .is (.null :: rest) (by decide)
    (by simp only [Level.rank]; omega)
  simp [parse, hoperand]

theorem isNotNull (hx : Reads .operand ts x) :
    Reads .comparison (ts ++ [.is, .not, .null]) (.isNotNull x) := by
  apply of_step (by simp [Level.rank])
  intro fuel rest hfuel _
  simp only [List.length_cons, List.length_append, List.length_nil, Level.rank] at hfuel
  have hoperand := hx.before fuel .is (.not :: .null :: rest) (by decide)
    (by simp only [Level.rank]; omega)
  simp [parse, hoperand]

/-! #### Operators -/

theorem not (hx : Reads .negation ts x) : Reads .negation (.not :: ts) (.not x) := by
  apply of_step (by simp [Level.rank])
  intro fuel rest hfuel hend
  simp only [List.length_cons, Level.rank] at hfuel
  have hinner := hx fuel rest (by simp only [Level.rank]; omega) hend
  simp [parse, hinner]

/-- Chains of `AND` are read to the right. -/
theorem and (hx : Reads .negation ts x) (hy : Reads .conjunction us y) :
    Reads .conjunction (ts ++ .and :: us) (.and x y) := by
  apply of_step (by simp [Level.rank])
  intro fuel rest hfuel hend
  simp only [List.length_cons, List.length_append, Level.rank] at hfuel
  have hleft := hx.before fuel .and (us ++ rest) (by decide)
    (by simp only [Level.rank]; omega)
  have hright := hy fuel rest (by simp only [Level.rank]; omega) hend
  simp [parse, hleft, hright]

/-- Chains of `OR` are read to the right. -/
theorem or (hx : Reads .conjunction ts x) (hy : Reads .disjunction us y) :
    Reads .disjunction (ts ++ .or :: us) (.or x y) := by
  apply of_step (by simp [Level.rank])
  intro fuel rest hfuel hend
  simp only [List.length_cons, List.length_append, Level.rank] at hfuel
  have hleft := hx.before fuel .or (us ++ rest) (by decide)
    (by simp only [Level.rank]; omega)
  have hright := hy fuel rest (by simp only [Level.rank]; omega) hend
  simp [parse, hleft, hright]

/-! #### Looser levels -/

/-- An operand is a comparison, if no sign follows. -/
theorem comparison_of_operand (hx : Reads .operand ts x) : Reads .comparison ts x := by
  apply of_step (by simp [Level.rank])
  intro fuel rest hfuel hend
  have hread := hx fuel rest (by simp only [Level.rank] at hfuel ⊢; omega)
    (hend.of_tighter (by decide))
  cases rest with
  | nil => simp only [parse, hread]
  | cons t rest =>
    -- no token that would go on with a comparison
    have ht : 1 < t.joins := hend t rfl
    cases t <;> simp [Token.joins] at ht <;> simp [parse, hread]

/-- What does not begin with `NOT` is read as a comparison. -/
theorem negation_of_comparison (hx : Reads .comparison ts x) (hne : ts ≠ [])
    (hnot : ts.head? ≠ some .not) : Reads .negation ts x := by
  apply of_step (by simp [Level.rank])
  intro fuel rest hfuel hend
  have hread := hx fuel rest (by simp only [Level.rank] at hfuel ⊢; omega)
    (hend.of_tighter (by decide))
  -- the first token alone decides whether this is a negation
  obtain ⟨t, ts, rfl⟩ := List.exists_cons_of_ne_nil hne
  cases t <;> simp at hnot <;> simpa [parse] using hread

/-- A single negation is a conjunction, if no `AND` follows. -/
theorem conjunction_of_negation (hx : Reads .negation ts x) : Reads .conjunction ts x := by
  apply of_step (by simp [Level.rank])
  intro fuel rest hfuel hend
  have hread := hx fuel rest (by simp only [Level.rank] at hfuel ⊢; omega)
    (hend.of_tighter (by decide))
  cases rest with
  | nil => simp only [parse, hread]
  | cons t rest =>
    have ht : 3 < t.joins := hend t rfl
    cases t <;> simp [Token.joins] at ht <;> simp [parse, hread]

/-- A single conjunction is a disjunction, if no `OR` follows. -/
theorem disjunction_of_conjunction (hx : Reads .conjunction ts x) : Reads .disjunction ts x := by
  apply of_step (by simp [Level.rank])
  intro fuel rest hfuel hend
  have hread := hx fuel rest (by simp only [Level.rank] at hfuel ⊢; omega)
    (hend.of_tighter (by decide))
  cases rest with
  | nil => simp only [parse, hread]
  | cons t rest =>
    have ht : 4 < t.joins := hend t rfl
    cases t <;> simp [Token.joins] at ht <;> simp [parse, hread]

end Reads

/-! ### Every expression -/

namespace Expr

theorem tokens_ne_nil (x : Expr) : x.tokens ≠ [] := by
  cases x <;> simp [tokens]

/-- Only a negation begins with `NOT`. -/
theorem head?_tokens_ne_not {x : Expr} (hx : x.Fits) (hlevel : x.level.rank ≤ 1) :
    x.tokens.head? ≠ some .not := by
  have hoperand (y : Expr) (hy : y.level = .operand) : y.tokens.head? ≠ some .not := by
    cases y <;> simp [level] at hy <;> simp [tokens]
  cases x with
  | compare c y z =>
    rw [tokens, List.head?_append_of_ne_nil _ (tokens_ne_nil y)]
    exact hoperand y hx.1
  | isNull y =>
    rw [tokens, List.head?_append_of_ne_nil _ (tokens_ne_nil y)]
    exact hoperand y hx.1
  | isNotNull y =>
    rw [tokens, List.head?_append_of_ne_nil _ (tokens_ne_nil y)]
    exact hoperand y hx.1
  | not y => simp [level, Level.rank] at hlevel
  | and y z => simp [level, Level.rank] at hlevel
  | or y z => simp [level, Level.rank] at hlevel
  | _ => exact hoperand _ rfl

/-- What is read at the level of an expression is read at every looser one. -/
theorem reads_of_level {x : Expr} (hx : x.Fits) (h : Reads x.level x.tokens x) {level : Level}
    (hle : x.level.rank ≤ level.rank) : Reads level x.tokens x := by
  have hown (l : Level) (hl : x.level.rank = l.rank) : Reads l x.tokens x := by
    rw [← Level.rank_injective hl]
    exact h
  have hoperand (hle : x.level.rank ≤ 0) : Reads .operand x.tokens x :=
    hown .operand (Nat.le_zero.mp hle)
  have hcomparison (hle : x.level.rank ≤ 1) : Reads .comparison x.tokens x := by
    rcases hle.lt_or_eq with hlt | heq
    · exact (hoperand (by omega)).comparison_of_operand
    · exact hown .comparison heq
  have hnegation (hle : x.level.rank ≤ 2) : Reads .negation x.tokens x := by
    rcases hle.lt_or_eq with hlt | heq
    · exact (hcomparison (by omega)).negation_of_comparison (tokens_ne_nil x)
        (head?_tokens_ne_not hx (by omega))
    · exact hown .negation heq
  have hconjunction (hle : x.level.rank ≤ 3) : Reads .conjunction x.tokens x := by
    rcases hle.lt_or_eq with hlt | heq
    · exact (hnegation (by omega)).conjunction_of_negation
    · exact hown .conjunction heq
  cases level with
  | operand => exact hoperand hle
  | comparison => exact hcomparison hle
  | negation => exact hnegation hle
  | conjunction => exact hconjunction hle
  | disjunction =>
    rcases Nat.lt_or_eq_of_le hle with hlt | heq
    · exact (hconjunction (Nat.le_of_lt_succ hlt)).disjunction_of_conjunction
    · exact hown .disjunction heq

theorem rank_level_le (x : Expr) : x.level.rank ≤ Level.disjunction.rank := by
  cases x.level <;> decide

/-- Every expression is read from its tokens, at its own level and at every looser one. -/
theorem reads_tokens {x : Expr} (hx : x.Fits) {level : Level} (hle : x.level.rank ≤ level.rank) :
    Reads level x.tokens x := by
  -- the cases read an expression at its own level, its parts at the levels of their places
  induction x generalizing level with
  | param name type => exact reads_of_level hx (.param name type) hle
  | number n => exact reads_of_level hx (.number n) hle
  | column name => exact reads_of_level hx (.column name) hle
  | call function x y ihx ihy =>
    exact reads_of_level hx
      (.call function (ihx hx.1 (rank_level_le x)) (ihy hx.2 (rank_level_le y))) hle
  | element array x ihx =>
    have hindex : x.Fits := hx
    exact reads_of_level hx (.element array (ihx hindex (rank_level_le x))) hle
  | group x ihx =>
    have hinner : x.Fits := hx
    exact reads_of_level hx (.group (ihx hinner (rank_level_le x))) hle
  | compare c x y ihx ihy =>
    obtain ⟨hxl, hyl, hxf, hyf⟩ := id hx
    exact reads_of_level hx (.compare c (ihx hxf (by rw [hxl])) (ihy hyf (by rw [hyl]))) hle
  | isNull x ihx => exact reads_of_level hx (.isNull (ihx hx.2 (by rw [hx.1]))) hle
  | isNotNull x ihx => exact reads_of_level hx (.isNotNull (ihx hx.2 (by rw [hx.1]))) hle
  | not x ihx => exact reads_of_level hx (.not (ihx hx.2 hx.1)) hle
  | and x y ihx ihy =>
    obtain ⟨hxl, hyl, hxf, hyf⟩ := id hx
    exact reads_of_level hx (.and (ihx hxf hxl) (ihy hyf hyl)) hle
  | or x y ihx ihy =>
    obtain ⟨hxl, hxf, hyf⟩ := id hx
    exact reads_of_level hx (.or (ihx hxf hxl) (ihy hyf (rank_level_le y))) hle

/-- The parser reads every expression back from its tokens. -/
theorem parse?_tokens {x : Expr} (hx : x.Fits) : parse? x.tokens = some x := by
  have hread := reads_tokens hx (rank_level_le x) (fuelFor x.tokens.length) []
    (by simp [fuelFor, Level.rank]) (by simp [EndsBefore])
  rw [List.append_nil] at hread
  rw [parse?, hread]

end Expr

end SiteAnalytics.Sql
