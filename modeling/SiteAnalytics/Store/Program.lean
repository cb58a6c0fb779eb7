import SiteAnalytics.Query.Sql

/-!
# Store programs

What is asked of the column store is written down as a program: a tree of single queries and
commands, each of which decides by its answer how to go on. A `ColumnStore` answers them. What it
answers may depend on everything it was asked before, so a store that fails now and then, or that
changes while it is asked, is one too.

`StoreProgram.run` gives the result together with the log of what the store was asked.
-/

namespace SiteAnalytics

/-- Something the column store is asked. -/
inductive StoreRequest
  /-- To answer with rows. -/
  | query (q : Query)
  /-- To change its content. -/
  | execute (q : Query)

namespace StoreRequest

/-- The query of a request for rows. -/
def query? : StoreRequest → Option Query
  | query q => some q
  | execute _ => none

/-- The query of a command. -/
def command? : StoreRequest → Option Query
  | query _ => none
  | execute q => some q

end StoreRequest

/-- How a column store answers, given what it was asked before. A failure has a reason. -/
structure ColumnStore where
  query : List StoreRequest → Query → Except String (List Json)
  execute : List StoreRequest → Query → Except String Unit

/-- Requests to the column store with a result. -/
inductive StoreProgram (α : Type) where
  | done (a : α)
  | query (q : Query) (next : Except String (List Json) → StoreProgram α)
  | execute (q : Query) (next : Except String Unit → StoreProgram α)

namespace StoreProgram

variable {α β : Type}

/-- Goes on with another program after the first. -/
def bind : StoreProgram α → (α → StoreProgram β) → StoreProgram β
  | done a, f => f a
  | query q next, f => query q fun answer => (next answer).bind f
  | execute q next, f => execute q fun answer => (next answer).bind f

instance : Monad StoreProgram where
  pure := done
  bind := bind

/-- Runs a program on a store that was asked `log` before. -/
def run (s : ColumnStore) (log : List StoreRequest) :
    StoreProgram α → α × List StoreRequest
  | done a => (a, log)
  | query q next => (next (s.query log q)).run s (log ++ [.query q])
  | execute q next => (next (s.execute log q)).run s (log ++ [.execute q])

/-- Runs a program with answers that come from elsewhere. -/
def runWith {m : Type → Type} [Monad m] (ask : Query → m (Except String (List Json)))
    (tell : Query → m (Except String Unit)) : StoreProgram α → m α
  | done a => pure a
  | query q next => do (next (← ask q)).runWith ask tell
  | execute q next => do (next (← tell q)).runWith ask tell

end StoreProgram

end SiteAnalytics
