import SiteAnalytics.Query.Chart
import SiteAnalytics.Request

/-!
# Request files

A request file is a JSON object that holds the fields of a request and, beside them, what some
commands need on top: kind and options of a chart, steps of a funnel, and projects to summarise.

Known fields may occur once only. Members that are not known do not matter, but still have to have a
value; only within the options they are skipped unread.
-/

namespace SiteAnalytics

/-- The content of a request file. -/
structure RequestFile where
  request : Request
  kind : MetricKind
  options : ChartOptions
  steps : List String
  /-- The projects to summarise; if there are none, that of the request. -/
  pids : List String
  deriving DecidableEq, Repr

namespace RequestFile

/-- The fields beside those of the request. -/
def fields : List String := ["kind", "options", "steps", "pids"]

/-- Reads the content of a file from JSON. -/
def ofJson? (j : Json) : Option RequestFile := do
  let field ← j.record? fields
  let request ← Request.ofJsonWith? Json.isNullOrEmpty j
  let kind ← (field "kind").defaulted MetricKind.ofJson? .traffic
  let options ← (field "options").defaulted ChartOptions.ofJson? .standard
  let steps ← (field "steps").defaulted Json.strings? []
  let pids ← (field "pids").defaulted Json.strings? []
  return { request, kind, options, steps, pids }

/-- A member of the file without what is skipped in it. -/
def member? (e : Option String × Json.Written) : Option (Option String × Json.Written) :=
  if e.1 = some "options" then (e.2.select? ChartOptions.fields).map fun w => (e.1, w)
  else some e

/-- Reads the text of a file. -/
def read? (text : String) : Option RequestFile := do
  match ← Json.Written.read? text with
  | .object members =>
    let members ← members.mapM member?
    let known := members.filter fun e =>
      e.1.any fun name => (Request.fields ++ fields).contains name
    if Json.Written.membersNameOnce known then ofJson? (← (Json.Written.object members).value?)
    else none
  | _ => none

end RequestFile

end SiteAnalytics
