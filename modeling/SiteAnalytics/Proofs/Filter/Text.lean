import SiteAnalytics.Filter.Condition
import SiteAnalytics.Proofs.Sql.Row

/-!
# The text of conditions as expressions

`RowTest.expr`, `Condition.expr` and `Predicate.exprs` are the expressions that the texts of tests,
conditions and predicates are read as: `Condition.tokens_text` and `Predicate.tokens_text` compare
their tokens. Names in a condition have to be names of query text, as column and parameter names
are.
-/

namespace SiteAnalytics

open Sql

/-! ### Conditions -/

/-- A placeholder for a text. -/
def Sql.Expr.bound (p : String) : Expr := .param p "String"

namespace RowTest

/-- The place of the key bound to `p` among the keys of a row. -/
def place (p : String) : Expr := .call "indexOf" (.column "meta.key") (.bound p)

/-- A test as an expression. -/
def expr : RowTest → Expr
  | null column => .isNull (.column column)
  | equal column p => .compare .equal (.column column) (.bound p)
  | hasKey p => .call "has" (.column "meta.key") (.bound p)
  | hasValue p => .call "has" (.column "meta.value") (.bound p)
  | lookup keyParam p =>
    .and (.compare .greater (place keyParam) (.number 0))
      (.compare .equal (.element "meta.value" (place keyParam)) (.bound p))

/-- The names in the text of a test. -/
def names : RowTest → List String
  | null column => [column]
  | equal column p => [column, p]
  | hasKey p | hasValue p => [p]
  | lookup keyParam p => [keyParam, p]

theorem tokens_arrayText {test : RowTest} (h : ∀ s ∈ test.names, IsName s) :
    test.arrayText.tokens = test.expr.tokens := by
  cases test with
  | null column =>
    rw [arrayText, tokens_append_text _ (by decide), tokens_name (h column (by simp [names]))]
    rfl
  | equal column p =>
    rw [arrayText, tokens_append_bind _ (h p (by simp [names])), tokens_append_text _ (by decide),
      tokens_name (h column (by simp [names]))]
    rfl
  | hasKey p =>
    rw [arrayText, tokens_append_text _ (by decide), tokens_append_bind _ (h p (by simp [names]))]
    rfl
  | hasValue p =>
    rw [arrayText, tokens_append_text _ (by decide), tokens_append_bind _ (h p (by simp [names]))]
    rfl
  | lookup keyParam p =>
    rw [arrayText, tokens_append_bind _ (h p (by simp [names])), tokens_append_text _ (by decide),
      tokens_append_bind _ (h keyParam (by simp [names])), tokens_append_text _ (by decide),
      tokens_append_bind _ (h keyParam (by simp [names]))]
    rfl

end RowTest

namespace Condition

/-- A condition as an expression. -/
def expr (c : Condition) : Expr :=
  match c.test, c.negated with
  | .null column, true => .isNotNull (.column column)
  | .equal column p, true => .compare .unequal (.column column) (.bound p)
  | test, true => .not (.group test.expr)
  | test, false => test.expr

theorem tokens_text {c : Condition} (h : ∀ s ∈ c.test.names, IsName s) :
    c.text.tokens = c.expr.tokens := by
  obtain ⟨test, negated⟩ := c
  have hplain : test.arrayText.tokens = test.expr.tokens := RowTest.tokens_arrayText h
  -- "NOT (" and ")" around the text of a test
  have hnot : ("NOT (" ++ test.arrayText ++ ")" : Sql).tokens =
      (Expr.not (.group test.expr)).tokens := by
    rw [tokens_append_text _ (by decide), tokens_text_append _ (by decide), hplain]
    rfl
  cases negated with
  | false => cases test <;> exact hplain
  | true =>
    cases test with
    | null column =>
      have hcolumn : IsName column := h column (by simp [RowTest.names])
      rw [text, tokens_append_text _ (by decide), tokens_name hcolumn]
      rfl
    | equal column p =>
      have hcolumn : IsName column := h column (by simp [RowTest.names])
      rw [text, tokens_append_bind _ (h p (by simp [RowTest.names])),
        tokens_append_text _ (by decide), tokens_name hcolumn]
      rfl
    | hasKey p => exact hnot
    | hasValue p => exact hnot
    | lookup keyParam p => exact hnot

/-- A condition can be a link of a chain of `OR` as it stands. -/
theorem fits_expr (c : Condition) : c.expr.Fits ∧ c.expr.level.rank ≤ Level.conjunction.rank := by
  obtain ⟨test, negated⟩ := c
  cases test <;> cases negated <;>
    simp [expr, RowTest.expr, RowTest.place, Expr.bound, Expr.Fits, Expr.level, Level.rank]

end Condition

/-! ### Predicates -/

namespace Predicate

/-- The groups of a predicate as expressions. -/
def exprs : Predicate → List Expr
  | [] => []
  | [] :: rest => exprs rest
  | (c :: cs) :: rest => .group (.anyOf c.expr (cs.map Condition.expr)) :: exprs rest

/-- A predicate behind the condition `1 = 1`. -/
def expr (p : Predicate) : Expr :=
  .allOf (.compare .equal (.number 1) (.number 1)) p.exprs

theorem tokens_join {c : Condition} {cs : List Condition}
    (h : ∀ d ∈ c :: cs, ∀ s ∈ d.test.names, IsName s) :
    (Sql.join " OR " ((c :: cs).map Condition.text)).tokens =
      (Expr.anyOf c.expr (cs.map Condition.expr)).tokens := by
  obtain ⟨hc, hcs⟩ := List.forall_mem_cons.mp h
  rw [Expr.tokens_anyOf, ← Condition.tokens_text hc, List.map_cons, Sql.join]
  generalize c.text = acc
  -- the texts joined so far are only carried along
  induction cs generalizing acc with
  | nil => simp
  | cons d ds ih =>
    obtain ⟨hd, hds⟩ := List.forall_mem_cons.mp hcs
    rw [List.map_cons, List.foldl_cons, ih (List.forall_mem_cons.mpr ⟨hc, hds⟩) hds,
      tokens_append_text_append _ _ (by decide) (by decide), Condition.tokens_text hd]
    simp [show (ofString " OR ").tokens = [.or] by decide]

theorem append_text (acc : Sql) (p : Predicate) :
    acc ++ p.text = p.foldl (fun acc group =>
      acc ++ " AND (" ++ Sql.join " OR " (group.map Condition.text) ++ ")") acc := by
  have happend (start : Sql) : acc ++ p.foldl (fun acc group =>
      acc ++ " AND (" ++ Sql.join " OR " (group.map Condition.text) ++ ")") start =
      p.foldl (fun acc group =>
        acc ++ " AND (" ++ Sql.join " OR " (group.map Condition.text) ++ ")") (acc ++ start) := by
    induction p generalizing start with
    | nil => rfl
    | cons group rest ih =>
      rw [List.foldl_cons, ih, List.foldl_cons]
      simp only [Sql.append_assoc]
  rw [text, happend, Sql.append_nothing]

/-- The tokens of a predicate behind other text. -/
theorem tokens_append (acc : Sql) {p : Predicate} (hne : [] ∉ p)
    (h : ∀ group ∈ p, ∀ c ∈ group, ∀ s ∈ c.test.names, IsName s) :
    (acc ++ p.text).tokens = acc.tokens ++ p.exprs.flatMap fun x => .and :: x.tokens := by
  rw [append_text]
  induction p generalizing acc with
  | nil => simp [exprs]
  | cons group rest ih =>
    obtain ⟨hgroup, hrest⟩ := List.forall_mem_cons.mp h
    rw [List.mem_cons, not_or] at hne
    rw [List.foldl_cons, ih _ hne.2 hrest]
    cases group with
    | nil => exact absurd rfl hne.1
    | cons c cs =>
      rw [tokens_append_text _ (by decide), tokens_append_text_append _ _ (by decide) (by decide),
        tokens_join hgroup, exprs]
      simp [Expr.tokens, show (ofString " AND (").tokens = [.and, .leftParen] by decide,
        show (ofString ")").tokens = [.rightParen] by decide]

/-- A predicate behind the condition `1 = 1` is read as `expr`. -/
theorem tokens_text {p : Predicate} (hne : [] ∉ p)
    (h : ∀ group ∈ p, ∀ c ∈ group, ∀ s ∈ c.test.names, IsName s) :
    ("1 = 1" ++ p.text : Sql).tokens = p.expr.tokens := by
  rw [tokens_append _ hne h, expr, Expr.tokens_allOf]
  rfl

theorem fits_of_mem_exprs {p : Predicate} {x : Expr} (h : x ∈ p.exprs) :
    x.Fits ∧ x.level.rank ≤ Level.negation.rank := by
  induction p with
  | nil => simp [exprs] at h
  | cons group rest ih =>
    cases group with
    | nil => exact ih h
    | cons c cs =>
      rcases List.mem_cons.mp h with rfl | h
      · refine ⟨Expr.fits_anyOf ?_, Nat.zero_le _⟩
        intro y hy
        rw [← List.map_cons] at hy
        obtain ⟨d, -, rfl⟩ := List.mem_map.mp hy
        exact d.fits_expr
      · exact ih h

theorem fits_expr (p : Predicate) : p.expr.Fits := by
  refine (Expr.fits_allOf ?_).1
  rw [List.forall_mem_cons]
  refine ⟨?_, fun x hx => fits_of_mem_exprs hx⟩
  simp [Expr.Fits, Expr.level, Level.rank]

end Predicate

end SiteAnalytics
