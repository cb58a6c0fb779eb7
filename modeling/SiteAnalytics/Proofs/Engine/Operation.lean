import SiteAnalytics.Engine
import SiteAnalytics.Proofs.Store.Ensures

/-!
# Operations of the engine

An `Operation` is something the engine can be asked for, with all its arguments, so that statements
about every operation can be made at once.  `Operation.task` is what is done for it.  It is run on
the column store; what the live visitors are known from is the cache, which is an argument here.
-/

namespace SiteAnalytics

/-- Something the engine is asked for. -/
inductive Operation
  | chart (r : Request) (kind : MetricKind) (options : ChartOptions)
  | funnel (r : Request) (steps : List String)
  | savedFunnel (r : Request) (id : String)
  | userFlow (r : Request)
  | summary (r : Request) (pids : List String)
  | breakdown (r : Request) (kind : MetricKind) (columns : Option (List String))
  | errors (r : Request) (options : ErrorListOptions)
  | setErrorStatus (pid eid : String) (status : ErrorStatus)
  | eventMeta (r : Request) (event : String)
  | live (cache : CacheService) (clock : Nat) (pid : String)

namespace Operation

/-- What an operation is answered with. -/
def Answer : Operation → Type
  | chart .. => Chart
  | funnel .. | savedFunnel .. => List FunnelStep
  | userFlow _ => UserFlow
  | summary .. => Dict PeriodComparison
  | breakdown .. => Dict (List BreakdownEntry)
  | errors .. => List ErrorListing
  | setErrorStatus .. => Unit
  | eventMeta .. => List EventMetaRow
  | live .. => Nat

/-- What the engine does for an operation at the time `now`. -/
def task (e : Engine) (now : DateTime) : (o : Operation) → StoreTask o.Answer
  | chart r kind options => e.chart now r kind options
  | funnel r steps => e.funnel now r steps
  | savedFunnel r id => e.savedFunnel now r id
  | userFlow r => e.userFlow now r
  | summary r pids => e.summary now r pids
  | breakdown r kind columns => e.breakdown now r kind columns
  | errors r options => e.errors now r options
  | setErrorStatus pid eid status => e.setErrorStatus pid eid status
  | eventMeta r event => e.eventMeta now r event
  | live cache clock pid => .result (e.live cache clock pid).1

/-- The request of an operation that looks at the events of one project. A summary goes through
several projects, and the others need no events. -/
def request? : Operation → Option Request
  | chart r _ _ | funnel r _ | savedFunnel r _ | userFlow r | breakdown r _ _ | errors r _
  | eventMeta r _ => some r
  | summary .. | setErrorStatus .. | live .. => none

end Operation

end SiteAnalytics
