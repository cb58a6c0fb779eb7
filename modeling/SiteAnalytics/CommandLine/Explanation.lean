import SiteAnalytics.CommandLine.RequestFile
import SiteAnalytics.Config
import SiteAnalytics.Error

/-!
# Explanations

An explanation shows what a chart request comes to, without asking the column store: the window it
resolves to, the filters it compiles to, and the query that would be sent.
-/

namespace SiteAnalytics

/-- What a chart request comes to. -/
structure Explanation where
  window : Window
  filter : CompiledFilter
  query : Query

namespace Explanation

/-- Explains a request file at the instant `now`. -/
def of (zones : ZoneSource) (config : Config) (now : DateTime) (file : RequestFile) :
    Except EngineError Explanation := do
  let r := file.request
  let frame := r.timeframe (r.timezone.getD config.timezone)
  let window ← (frame.resolve now zones).mapError Coe.coe
  let filter ← (Filter.compile r.filters file.kind false).mapError Coe.coe
  return { window, filter, query := Query.chart r.pid file.kind window filter file.options }

/-- The explanation as JSON. -/
def toJson (e : Explanation) : Json :=
  .ofMembers
    [("range", e.window.toJson), ("filter", e.filter.toJson),
      ("sql", .string e.query.sql.render), ("params", Params.toJson e.query.params)]

end Explanation

end SiteAnalytics
