import SiteAnalytics.Error
import SiteAnalytics.Json.Decode
import SiteAnalytics.Number.Count
import SiteAnalytics.Number.Share
import SiteAnalytics.Text.Blank

/-!
# Funnels

A funnel is a list of steps, each of which is a page or the name of a custom event. The column
store reports how many sessions got to a level, that is to a number of steps, and no further. A
session that got to a level also passed every level below, so the number of sessions at a step is
the sum of the counts from that level up.
-/

namespace SiteAnalytics

/-- The sessions that got to a level of a funnel and no further. -/
structure FunnelLevel where
  /-- The number of steps passed. -/
  level : Nat
  sessions : Int
  deriving DecidableEq, Repr

namespace FunnelLevel

/-- The fields of a level. -/
def fields : List String := ["level", "c"]

/-- Reads a level. -/
def ofJson? (j : Json) : Option FunnelLevel := do
  let field ← j.record? fields
  let level ← (field "level").required Json.nat32?
  let sessions ← (field "c").required Json.int64?
  return ⟨level, sessions⟩

/-- The level as JSON. -/
def toJson (l : FunnelLevel) : Json :=
  .ofMembers [("level", .nat l.level), ("c", .int l.sessions)]

end FunnelLevel

/-- What happened at one step of a funnel. -/
structure FunnelStep where
  /-- The page or event of the step. -/
  step : String
  /-- The sessions that got here. -/
  sessions : Int
  /-- The same as a percentage of the sessions at the first step. -/
  percentOfFirst : Float
  /-- The same as a percentage of the sessions at the step before. -/
  percentOfPrevious : Float
  /-- The sessions that got to the step before and not here. -/
  lost : Int
  /-- The same as a percentage of the sessions at the step before. -/
  percentLost : Float

namespace FunnelStep

/-- The fields of a step. -/
def fields : List String :=
  ["value", "events", "eventsPerc", "eventsPercStep", "dropoff", "dropoffPercStep"]

/-- Reads a step. -/
def ofJson? (j : Json) : Option FunnelStep := do
  let field ← j.record? fields
  let step ← (field "value").required Json.string?
  let sessions ← (field "events").required Json.int64?
  let percentOfFirst ← (field "eventsPerc").required Json.float?
  let percentOfPrevious ← (field "eventsPercStep").required Json.float?
  let lost ← (field "dropoff").required Json.int64?
  let percentLost ← (field "dropoffPercStep").required Json.float?
  return { step, sessions, percentOfFirst, percentOfPrevious, lost, percentLost }

/-- The step as JSON. -/
def toJson (s : FunnelStep) : Json :=
  .ofMembers
    [("value", .string s.step), ("events", .int s.sessions),
      ("eventsPerc", .float s.percentOfFirst), ("eventsPercStep", .float s.percentOfPrevious),
      ("dropoff", .int s.lost), ("dropoffPercStep", .float s.percentLost)]

end FunnelStep

namespace Funnel

/-! ### Steps -/

/-- The least number of steps. -/
def minSteps : Nat := 2

/-- The greatest number of steps. -/
def maxSteps : Nat := 10

/-- Accepts steps that make a funnel: neither too few nor too many, and none of them blank. -/
def check (steps : List String) : Except ValidationError Unit :=
  if steps.length < minSteps || maxSteps < steps.length then
    .error (.invalidFunnel
      ("a funnel needs between " ++ toString minSteps ++ " and " ++ toString maxSteps ++
        " steps, got " ++ toString steps.length))
  else if steps.any fun step => (Text.trimmed? step).isNone then
    .error (.invalidFunnel "funnel steps must not be empty")
  else .ok ()

/-! ### Counts -/

/-- The sessions that got to `level` and no further. -/
def stoppedAt (rows : List FunnelLevel) (level : Nat) : Int :=
  (rows.filter fun row => row.level == level).foldl
    (fun total row => Count.add total row.sessions) 0

/-- The sessions that got to each of the `count` levels from `level` on. -/
def reached (rows : List FunnelLevel) (level : Nat) : Nat → List Int
  | 0 => []
  | count + 1 =>
    let above := reached rows (level + 1) count
    Count.add (above.headD 0) (stoppedAt rows level) :: above

/-- The sessions that got to each of the first `count` levels. Levels are numbered by unsigned
32-bit words, so `count` is taken modulo `2 ^ 32`. -/
def backfill (rows : List FunnelLevel) (count : Nat) : List FunnelLevel :=
  let count := count % (Numeral.maxU32 + 1)
  ((List.range' 1 count).zip (reached rows 1 count)).map fun e => ⟨e.1, e.2⟩

/-! ### Reports -/

/-- The steps after the first one, at which `first` sessions were; `previous` were at the step
before. A missing count is zero. -/
def laterSteps (first previous : Int) (counts : List Int) : List String → List FunnelStep
  | [] => []
  | step :: rest =>
    let sessions := counts.headD 0
    let lost := Count.sub previous sessions
    { step, sessions, lost
      percentOfFirst := Share.percent sessions first
      percentOfPrevious := Share.percent sessions previous
      percentLost := Share.percent lost previous } ::
      laterSteps first sessions counts.tail rest

/-- The report of a funnel from the number of sessions at every step. -/
def report (counts : List Int) : List String → List FunnelStep
  | [] => []
  | step :: rest =>
    let first := counts.headD 0
    { step, sessions := first, percentOfFirst := 100, percentOfPrevious := 100, lost := 0
      percentLost := 0 } ::
      laterSteps first first counts.tail rest

/-- The report of a funnel that no session entered. -/
def emptyReport (steps : List String) : List FunnelStep :=
  steps.map fun step => ⟨step, 0, 0, 0, 0, 0⟩

/-- The report of a funnel from the rows of the column store. -/
def ofLevels (rows : List FunnelLevel) (steps : List String) : List FunnelStep :=
  let counts := (backfill rows steps.length).map (·.sessions)
  if counts.headD 0 = 0 then emptyReport steps else report counts steps

end Funnel

end SiteAnalytics
