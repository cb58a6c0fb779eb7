import SiteAnalytics.Error
import SiteAnalytics.Store.Program

/-!
# Tasks

A task is a store program that may fail with an `EngineError`. Failures of the store and rows that
cannot be read are failures behind the scenes; a row is then named by its place in the answer.
-/

namespace SiteAnalytics

/-- A store program that may fail. -/
abbrev StoreTask (α : Type) := ExceptT EngineError StoreProgram α

namespace StoreTask

variable {α : Type}

/-- A result that needs no store. -/
def result (r : Except EngineError α) : StoreTask α := ExceptT.mk (.done r)

/-- The result of a check that needs no store. -/
def of {ε : Type} [Coe ε EngineError] (r : Except ε α) : StoreTask α :=
  result (r.mapError Coe.coe)

/-- A value whose lack is an error. -/
def orElse (e : EngineError) : Option α → StoreTask α
  | some a => result (.ok a)
  | none => result (.error e)

/-- Reads rows, of which the first has the number `index`. The error tells the number of the first
row that cannot be read. -/
def readRows (f : Json → Option α) : Nat → List Json → Except Nat (List α)
  | _, [] => .ok []
  | index, row :: rest =>
    match f row with
    | none => .error index
    | some a => (readRows f (index + 1) rest).map (a :: ·)

/-- The wording for a row that cannot be read. -/
def malformedRow (index : Nat) : String :=
  "malformed row " ++ toString index ++ " returned by the column store"

/-- What an answer of the store amounts to. -/
def ofAnswer (f : Json → Option α) : Except String (List Json) → Except EngineError (List α)
  | .error reason => .error (.unavailable reason)
  | .ok rows =>
    match readRows f 0 rows with
    | .ok as => .ok as
    | .error index => .error (.unavailable (malformedRow index))

/-- Asks for rows. -/
def fetch (f : Json → Option α) (q : Query) : StoreTask (List α) :=
  ExceptT.mk (.query q fun answer => .done (ofAnswer f answer))

/-- Asks for rows; a failure counts as no rows at all. -/
def fetchOrNothing (f : Json → Option α) (q : Query) : StoreTask (List α) :=
  ExceptT.mk (.query q fun answer =>
    .done (.ok (match ofAnswer f answer with
      | .ok as => as
      | .error _ => [])))

/-- Gives a command. -/
def command (q : Query) : StoreTask Unit :=
  ExceptT.mk (.execute q fun answer => .done (answer.mapError .unavailable))

end StoreTask

end SiteAnalytics
