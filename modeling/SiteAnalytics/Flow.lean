import SiteAnalytics.Json.Decode

/-!
# User flows

A user flow shows how often sessions went from one page to another. Pages are ordered by code
point, and the edges are split by direction: an edge is ascending if its source comes before its
target, and descending otherwise. A way there and back therefore falls apart into two graphs, and
neither of them has a cycle.
-/

namespace SiteAnalytics

/-- A step from one page to another with the number of times it was made. -/
structure FlowEdge where
  source : String
  target : String
  value : Int
  deriving DecidableEq, Repr

namespace FlowEdge

/-- The fields of an edge. -/
def fields : List String := ["source", "target", "value"]

/-- Reads an edge. -/
def ofJson? (j : Json) : Option FlowEdge := do
  let field ← j.record? fields
  let source ← (field "source").required Json.string?
  let target ← (field "target").required Json.string?
  let value ← (field "value").required Json.int64?
  return ⟨source, target, value⟩

/-- The edge as JSON. -/
def toJson (e : FlowEdge) : Json :=
  .ofMembers [("source", .string e.source), ("target", .string e.target), ("value", .int e.value)]

/-- The pages an edge joins. -/
def ends (e : FlowEdge) : String × String := (e.source, e.target)

/-- The source comes before the target. -/
def ascends (e : FlowEdge) : Bool := e.source < e.target

end FlowEdge

/-- Pages and the edges between them. -/
structure FlowGraph where
  /-- The pages, in order. -/
  nodes : List String
  links : List FlowEdge
  deriving DecidableEq, Repr

namespace FlowGraph

/-- The graph of some edges: its pages are those the edges join. -/
def ofLinks (links : List FlowEdge) : FlowGraph :=
  { nodes := (Dict.ofList (links.flatMap fun e => [(e.source, ()), (e.target, ())])).keys
    links }

/-- The graph as JSON. -/
def toJson (g : FlowGraph) : Json :=
  .ofMembers
    [("nodes", .list (fun page => .ofMembers [("id", .string page)]) g.nodes),
      ("links", .list FlowEdge.toJson g.links)]

end FlowGraph

/-- The edges of a flow by direction. -/
structure UserFlow where
  ascending : FlowGraph
  descending : FlowGraph
  deriving DecidableEq, Repr

namespace UserFlow

/-- The edges that join pages not `seen` before. The pages of an edge that is kept have been seen
from then on. -/
def unseenEdges (seen : List (String × String)) : List FlowEdge → List FlowEdge
  | [] => []
  | e :: rest =>
    if e.ends ∈ seen then unseenEdges seen rest
    else e :: unseenEdges (e.ends :: seen) rest

/-- The edges without those that join the same pages as an edge before them. -/
def firstEdges (edges : List FlowEdge) : List FlowEdge := unseenEdges [] edges

/-- The flow of some edges. The edges come from the most frequent down, so of several between the
same pages the most frequent is kept. -/
def ofEdges (edges : List FlowEdge) : UserFlow :=
  let edges := firstEdges edges
  { ascending := .ofLinks (edges.filter FlowEdge.ascends)
    descending := .ofLinks (edges.filter fun e => !e.ascends) }

/-- The flow as JSON. -/
def toJson (f : UserFlow) : Json :=
  .ofMembers [("ascending", f.ascending.toJson), ("descending", f.descending.toJson)]

end UserFlow

end SiteAnalytics
