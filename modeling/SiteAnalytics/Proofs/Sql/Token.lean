import SiteAnalytics.Query.Sql
import Mathlib.Data.List.SplitBy

/-!
# Tokens of query text

How the column store cuts query text into tokens. Letters, digits, underscores and dots run
together into words, the characters of comparisons run together as well, brackets and other marks
stand alone, and blanks only separate.

`tokens_append_text` and `tokens_append_bind` are what the rest rests on: the tokens of a text that
is put together from pieces are those of the pieces, as long as a piece of fixed text begins with a
blank or a mark. So the tokens of a compiled filter can be computed without knowing the columns and
numbers in it.
-/

namespace SiteAnalytics.Sql

/-! ### Cutting text into tokens -/

/-- What a character does to its neighbours. -/
inductive CharClass
  | blank | word | operator | mark
  deriving DecidableEq, Repr

/-- The class of a character. -/
def CharClass.of (c : Char) : CharClass :=
  if c = ' ' then blank
  else if c.isAlphanum || c = '_' || c = '.' then word
  else if c = '=' || c = '!' || c = '<' || c = '>' then operator
  else mark

/-- Two neighbouring characters belong to one token. -/
def together (a b : Char) : Bool :=
  (CharClass.of a == .word && CharClass.of b == .word) ||
    (CharClass.of a == .operator && CharClass.of b == .operator)

/-- A comparison of two values. -/
inductive Comparison
  | equal | unequal | greater
  deriving DecidableEq, Repr

/-- A token of query text. -/
inductive Token
  | and | or | not | is | null
  | name (s : String)
  | number (n : Nat)
  | compare (c : Comparison)
  | leftParen | rightParen | leftBracket | rightBracket | leftBrace | rightBrace | comma | colon
  /-- Anything that filters have no use for. -/
  | other (s : String)
  deriving DecidableEq, Repr

namespace Token

/-- The words that are no names. -/
def keywords : List (String × Token) :=
  [("AND", and), ("OR", or), ("NOT", not), ("IS", is), ("NULL", null)]

/-- The token of a word: a keyword, a number or a name. -/
def ofWord (cs : List Char) : Token :=
  match keywords.lookup (String.ofList cs) with
  | some t => t
  | none =>
    if cs.all Char.isDigit then number (Nat.ofDigitChars 10 cs 0) else name (String.ofList cs)

/-- The token of a run of operator characters. -/
def ofOperator (cs : List Char) : Token :=
  if cs = ['='] then compare .equal
  else if cs = ['!', '='] then compare .unequal
  else if cs = ['>'] then compare .greater
  else other (String.ofList cs)

/-- The token of a character that stands alone. -/
def ofMark (c : Char) : Token :=
  if c = '(' then leftParen
  else if c = ')' then rightParen
  else if c = '[' then leftBracket
  else if c = ']' then rightBracket
  else if c = '\x7b' then leftBrace
  else if c = '\x7d' then rightBrace
  else if c = ',' then comma
  else if c = ':' then colon
  else other (String.ofList [c])

/-- The token of characters that belong together; none for a blank. -/
def ofRun? : List Char → Option Token
  | [] => none
  | c :: cs =>
    match CharClass.of c with
    | .blank => none
    | .word => some (ofWord (c :: cs))
    | .operator => some (ofOperator (c :: cs))
    | .mark => some (ofMark c)

end Token

/-- The tokens of a text. -/
def lex (cs : List Char) : List Token := (cs.splitBy together).filterMap Token.ofRun?

/-- The characters of query text. -/
def chars (s : Sql) : List Char := s.pieces.flatMap pieceChars

/-- The tokens of query text. -/
def tokens (s : Sql) : List Token := lex s.chars

/-! ### Characters of pieces -/

theorem append_assoc (a b c : Sql) : a ++ b ++ c = a ++ (b ++ c) :=
  congrArg Sql.mk (List.append_assoc _ _ _)

theorem append_nothing (a : Sql) : a ++ nothing = a := congrArg Sql.mk (List.append_nil _)

theorem toList_render (s : Sql) : s.render.toList = s.chars := by
  rw [render, String.toList_ofList, chars]

@[simp] theorem chars_append (a b : Sql) : (a ++ b).chars = a.chars ++ b.chars :=
  List.flatMap_append

theorem render_append (a b : Sql) : (a ++ b).render = a.render ++ b.render := by
  rw [← String.toList_inj, String.toList_append, toList_render, toList_render, toList_render,
    chars_append]

@[simp] theorem chars_ofString (s : String) : (ofString s).chars = s.toList := by
  simp [chars, ofString, pieceChars]

theorem chars_bind (p : String) :
    (bind p).chars = '\x7b' :: (p.toList ++ ':' :: ("String".toList ++ ['\x7d'])) := by
  simp [chars, bind, pieceChars, SqlType.name]

/-! ### Tokens of pieces -/

/-- The character never belongs to the token of a neighbour. -/
def standsAlone (c : Char) : Bool :=
  CharClass.of c == .blank || CharClass.of c == .mark

/-- A character that stands alone belongs to nothing behind it. -/
theorem together_eq_false_of_left {a : Char} (h : standsAlone a = true) (b : Char) :
    together a b = false := by
  unfold standsAlone at h
  unfold together
  cases hc : CharClass.of a <;> simp [hc] at h ⊢

theorem together_eq_false_of_right (a : Char) {b : Char} (h : standsAlone b = true) :
    together a b = false := by
  unfold standsAlone at h
  unfold together
  cases hc : CharClass.of b <;> simp [hc] at h ⊢

/-- Text may be cut between two characters that do not belong together. -/
theorem lex_append {a b : List Char}
    (h : ∀ x ∈ a.getLast?, ∀ y ∈ b.head?, together x y = false) :
    lex (a ++ b) = lex a ++ lex b := by
  rw [lex, List.splitBy_append h, List.filterMap_append, lex, lex]

/-- Text may be cut in front of a character that stands alone. -/
theorem lex_append_of_head {a b : List Char} (h : b.head?.any standsAlone = true) :
    lex (a ++ b) = lex a ++ lex b := by
  apply lex_append
  -- only the first character behind the cut matters
  intro x _ y hy
  rw [Option.mem_def.mp hy] at h
  exact together_eq_false_of_right x h

/-- Text may be cut behind a character that stands alone. -/
theorem lex_append_of_last {a b : List Char} (h : a.getLast?.any standsAlone = true) :
    lex (a ++ b) = lex a ++ lex b := by
  apply lex_append
  -- only the last character in front of the cut matters
  intro x hx y _
  rw [Option.mem_def.mp hx] at h
  exact together_eq_false_of_left h y

/-- The characters are word characters. -/
def allWord (cs : List Char) : Bool := cs.all fun c => CharClass.of c == .word

theorem allWord_iff {cs : List Char} : allWord cs = true ↔ ∀ c ∈ cs, CharClass.of c = .word := by
  rw [allWord, List.all_eq_true]
  simp only [beq_iff_eq]

theorem allWord_append (cs ds : List Char) : allWord (cs ++ ds) = (allWord cs && allWord ds) :=
  List.all_append

theorem allWord_cons (c : Char) (cs : List Char) :
    allWord (c :: cs) = (CharClass.of c == .word && allWord cs) :=
  List.all_cons

/-- Word characters make a single token. -/
theorem lex_word {cs : List Char} (hne : cs ≠ []) (hword : allWord cs = true) :
    lex cs = [Token.ofWord cs] := by
  have h := allWord_iff.mp hword
  -- any two neighbours are word characters and belong together
  have hchain : cs.IsChain fun x y => together x y = true := by
    apply List.Pairwise.isChain
    apply List.pairwise_of_forall_mem_list
    intro x hx y hy
    simp [together, h x hx, h y hy]
  rw [lex, List.splitBy_of_isChain hne hchain]
  cases cs with
  | nil => contradiction
  | cons c cs => simp [Token.ofRun?, h c]

/-! ### Tokens of texts put together -/

theorem tokens_ofString (s : String) : (ofString s).tokens = lex s.toList := by
  rw [tokens, chars_ofString]

/-- Fixed text that begins with a blank or a mark can be read on its own. -/
theorem tokens_append_text (a : Sql) {s : String} (h : s.toList.head?.any standsAlone = true) :
    (a ++ ofString s).tokens = a.tokens ++ (ofString s).tokens := by
  unfold tokens
  rw [chars_append, chars_ofString, lex_append_of_head h]

/-- Fixed text that ends in a blank or a mark can be read on its own. -/
theorem tokens_text_append {s : String} (b : Sql) (h : s.toList.getLast?.any standsAlone = true) :
    (ofString s ++ b).tokens = (ofString s).tokens ++ b.tokens := by
  unfold tokens
  rw [chars_append, chars_ofString, lex_append_of_last h]

/-- Fixed text between blanks or marks separates what stands on its two sides. -/
theorem tokens_append_text_append (a b : Sql) {s : String}
    (hhead : s.toList.head?.any standsAlone = true)
    (hlast : s.toList.getLast?.any standsAlone = true) :
    (a ++ ofString s ++ b).tokens = a.tokens ++ (ofString s).tokens ++ b.tokens := by
  rw [← tokens_append_text a hhead]
  unfold tokens
  rw [chars_append (a ++ ofString s)]
  apply lex_append_of_last
  -- the last character of the whole is that of `s`, which has one
  have hne : s.toList.getLast?.isSome := Option.isSome_of_any hlast
  rw [chars_append, chars_ofString, List.getLast?_append, Option.or_of_isSome hne]
  exact hlast

/-- Word characters that are neither a keyword nor a number. -/
def IsName (s : String) : Prop :=
  s.toList ≠ [] ∧ allWord s.toList = true ∧ Token.ofWord s.toList = Token.name s

instance (s : String) : Decidable (IsName s) :=
  inferInstanceAs (Decidable (_ ∧ _ ∧ _))

theorem tokens_name {s : String} (h : IsName s) : (ofString s).tokens = [.name s] := by
  rw [tokens_ofString, lex_word h.1 h.2.1, h.2.2]

/-- A placeholder makes five tokens, whatever its name is. -/
theorem tokens_append_bind (a : Sql) {p : String} (h : IsName p) :
    (a ++ bind p).tokens =
      a.tokens ++ [.leftBrace, .name p, .colon, .name "String", .rightBrace] := by
  -- the two marks cut the text of the placeholder into three pieces
  have hopen : lex ['\x7b'] = [.leftBrace] := by decide
  have hrest : lex (':' :: ("String".toList ++ ['\x7d'])) =
      [.colon, .name "String", .rightBrace] := by decide
  unfold tokens
  rw [chars_append, chars_bind, lex_append_of_head (by rfl)]
  congr 1
  calc lex ('\x7b' :: (p.toList ++ ':' :: ("String".toList ++ ['\x7d'])))
      = lex ['\x7b'] ++ lex (p.toList ++ ':' :: ("String".toList ++ ['\x7d'])) :=
        lex_append_of_last (a := ['\x7b']) (by decide)
    _ = lex ['\x7b'] ++ (lex p.toList ++ lex (':' :: ("String".toList ++ ['\x7d']))) := by
        rw [lex_append_of_head (by rfl)]
    _ = [.leftBrace, .name p, .colon, .name "String", .rightBrace] := by
        rw [hopen, hrest, lex_word h.1 h.2.1, h.2.2]
        rfl

end SiteAnalytics.Sql
