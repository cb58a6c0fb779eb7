/-!
# Wildcard patterns

A pattern is text in which every `*` stands for any text, also for none; no other character is
special. The stars cut the pattern into pieces. The first piece must begin the candidate, the last
one must end it, and the others must follow one another in between.

Taking the leftmost occurrence of every piece is enough: if any choice of occurrences works, so
does the leftmost one, because it leaves the most text for the pieces that follow.
-/

namespace SiteAnalytics.Wildcard

/-- The pieces of a pattern: the one before the first star, and those after each star. -/
def pieces : List Char → List Char × List (List Char)
  | [] => ([], [])
  | c :: rest =>
    let (first, later) := pieces rest
    if c = '*' then ([], first :: later) else (c :: first, later)

/-- The text after the leftmost occurrence of `piece`. -/
def after? (piece : List Char) : List Char → Option (List Char)
  | [] => if piece.isEmpty then some [] else none
  | c :: rest =>
    if piece.isPrefixOf (c :: rest) then some ((c :: rest).drop piece.length)
    else after? piece rest

/-- The piece occurs in the text. -/
def occursIn (piece text : String) : Bool := (after? piece.toList text.toList).isSome

/-- The pieces follow one another in the text, with any text before each of them; the last one ends
it. -/
def follow : List (List Char) → List Char → Bool
  | [], text => text.isEmpty
  | [last], text => last.isSuffixOf text
  | piece :: next :: later, text =>
    match after? piece text with
    | some rest => follow (next :: later) rest
    | none => false

/-- The candidate fits the pattern. -/
def fits (pattern candidate : String) : Bool :=
  let (first, later) := pieces pattern.toList
  let text := candidate.toList
  first.isPrefixOf text && follow later (text.drop first.length)

end SiteAnalytics.Wildcard
