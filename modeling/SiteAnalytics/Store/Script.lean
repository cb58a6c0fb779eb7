import SiteAnalytics.Store.Program
import SiteAnalytics.Text.Wildcard

/-!
# Prepared answers

A store without a server behind it answers from a script: a list of prepared answers, of which the
first that fits a text is given. What an answer fits is said by a marker, a text that has to occur
in what is asked.
-/

namespace SiteAnalytics

/-- A prepared answer to every text in which the marker occurs; without a marker, to every text. -/
structure Cue (α : Type) where
  marker : Option String
  answer : α

namespace Cue

variable {α : Type}

/-- The answer is meant for the text. -/
def fits (c : Cue α) (text : String) : Bool :=
  c.marker.all fun marker => Wildcard.occursIn marker text

/-- The first answer that is meant for the text. -/
def answer? (cues : List (Cue α)) (text : String) : Option α :=
  (cues.find? fun c => c.fits text).map Cue.answer

end Cue

/-- The column store that answers from a script: rows, or the reason of a failure. It has no rows
for a query that no answer fits. -/
def ColumnStore.scripted (cues : List (Cue (Except String (List Json)))) : ColumnStore :=
  let answer (q : Query) : Except String (List Json) :=
    (Cue.answer? cues q.sql.render).getD (.ok [])
  { query := fun _ q => answer q
    execute := fun _ q => (answer q).map fun _ => () }

end SiteAnalytics
