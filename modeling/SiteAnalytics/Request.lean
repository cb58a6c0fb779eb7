import SiteAnalytics.Metric
import SiteAnalytics.Window.Basic

/-!
# Requests

A `Request` is what a client asks with: a project, a timeframe and filters. Everything but the
project may be missing; what is missing shows only when the request is answered.
-/

namespace SiteAnalytics

/-- A request for the figures of a project. -/
structure Request where
  pid : String
  period : Option String
  start : Option String
  stop : Option String
  timezone : Option String
  bucket : Option Bucket
  /-- The filters as JSON text. -/
  filters : Option String
  deriving DecidableEq, Repr

namespace Request

/-! ### Encoding -/

/-- The fields of a request. -/
def fields : List String := ["pid", "period", "from", "to", "timezone", "timeBucket", "filters"]

/-- Reads a request. `saysNothing` is what may stand beside the name of a bucket. -/
def ofJsonWith? (saysNothing : Json → Bool) (j : Json) : Option Request := do
  let field ← j.record? fields
  let text (name : String) : Option (Option String) := (field name).optional Json.string?
  let pid ← (field "pid").required Json.string?
  let period ← text "period"
  let start ← text "from"
  let stop ← text "to"
  let timezone ← text "timezone"
  let bucket ← (field "timeBucket").optional (Json.name? Bucket.ofName? saysNothing)
  let filters ← text "filters"
  return { pid, period, start, stop, timezone, bucket, filters }

/-- Reads a request. -/
def ofJson? : Json → Option Request := ofJsonWith? Json.isNull

/-- The request as JSON. -/
def toJson (r : Request) : Json :=
  .ofMembers
    [("pid", .string r.pid), ("period", .option .string r.period),
      ("from", .option .string r.start), ("to", .option .string r.stop),
      ("timezone", .option .string r.timezone),
      ("timeBucket", .option (fun b => .string b.name) r.bucket),
      ("filters", .option .string r.filters)]

/-! ### Timeframe -/

/-- The request asks for all time: by the period `all`, and not by an explicit pair of dates. -/
def isAllTime (r : Request) : Bool :=
  !(r.start.isSome && r.stop.isSome) && r.period.any fun raw => Text.trim raw == "all"

/-- The timeframe of a request in a zone. -/
def timeframe (r : Request) (timezone : String) : Timeframe :=
  { start := r.start, stop := r.stop, period := r.period, timezone := some timezone
    bucket := r.bucket, allTimeCount := none }

end Request

end SiteAnalytics
