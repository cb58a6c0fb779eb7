import Mathlib.Data.List.Nodup
import Mathlib.Logic.Relation
import SiteAnalytics.Flow
import SiteAnalytics.Proofs.Dict

/-!
# User flows without cycles

The edges of a flow are split by the order of the pages they join.  In either graph all links go the
same way in that order, which is transitive and irreflexive, so that no page is reached from itself
(`FlowGraph.acyclic_of_links`).  An edge from a page to itself is the only one that could spoil
this: it goes to the descending graph and is a cycle there (`UserFlow.acyclic_iff`).

Nothing is lost by the split.  Of the edges that join the same pages the first is kept
(`nodup_ends_firstEdges`, `mem_ends_firstEdges_iff`), and each one that is kept is a link of exactly
one graph.
-/

namespace SiteAnalytics

/-! ### Cycles -/

namespace FlowGraph

/-- A link of the graph leads from `page` to `next`. -/
def Leads (g : FlowGraph) (page next : String) : Prop := ∃ e ∈ g.links, e.ends = (page, next)

/-- However many links are followed, no page is reached again. -/
def Acyclic (g : FlowGraph) : Prop := ∀ page, ¬Relation.TransGen g.Leads page page

/-- A graph whose links all go up in a strict order has no cycle. -/
theorem acyclic_of_links {g : FlowGraph} (above : String → String → Prop)
    (htrans : ∀ a b c, above a b → above b c → above a c) (hirrefl : ∀ a, ¬above a a)
    (h : ∀ e ∈ g.links, above e.source e.target) : g.Acyclic := by
  intro page hcycle
  have habove {a b : String} (hpath : Relation.TransGen g.Leads a b) : above a b := by
    induction hpath with
    | single hlink =>
      obtain ⟨e, he, hends⟩ := hlink
      obtain ⟨rfl, rfl⟩ := Prod.mk.inj hends
      exact h e he
    | tail _ hlink ih =>
      obtain ⟨e, he, hends⟩ := hlink
      obtain ⟨rfl, rfl⟩ := Prod.mk.inj hends
      exact htrans _ _ _ ih (h e he)
  exact hirrefl page (habove hcycle)

theorem not_acyclic_of_ends_eq {g : FlowGraph} {e : FlowEdge} (he : e ∈ g.links)
    (h : e.source = e.target) : ¬g.Acyclic :=
  fun hacyclic => hacyclic e.source (.single ⟨e, he, Prod.ext rfl h.symm⟩)

end FlowGraph

namespace UserFlow

/-! ### First edges

What is kept is told by what has been seen, so everything is shown of `unseenEdges` first, by
induction on the edges and for whatever has been seen before them. -/

/-- What is kept stays in its order. -/
theorem sublist_unseenEdges (seen : List (String × String)) (edges : List FlowEdge) :
    (unseenEdges seen edges).Sublist edges := by
  induction edges generalizing seen with
  | nil => exact .slnil
  | cons e rest ih =>
    rw [unseenEdges]
    split_ifs
    · exact (ih seen).cons e
    · exact (ih (e.ends :: seen)).cons_cons e

/-- Of the pages that some edges join, what is kept joins those that have not been seen. -/
theorem mem_ends_unseenEdges_iff {pair : String × String} {seen : List (String × String)}
    {edges : List FlowEdge} :
    pair ∈ (unseenEdges seen edges).map FlowEdge.ends ↔
      pair ∈ edges.map FlowEdge.ends ∧ pair ∉ seen := by
  induction edges generalizing seen with
  | nil => simp [unseenEdges]
  | cons e rest ih =>
    rw [unseenEdges, List.map_cons, List.mem_cons]
    split_ifs with hseen
    · -- the edge is dropped, and its pages count on neither side
      rw [ih]
      constructor
      · rintro ⟨hmem, hnot⟩
        exact ⟨.inr hmem, hnot⟩
      · rintro ⟨rfl | hmem, hnot⟩
        · exact absurd hseen hnot
        · exact ⟨hmem, hnot⟩
    · rw [List.map_cons, List.mem_cons, ih, List.mem_cons, not_or]
      constructor
      · rintro (rfl | ⟨hmem, -, hnot⟩)
        · exact ⟨.inl rfl, hseen⟩
        · exact ⟨.inr hmem, hnot⟩
      · rintro ⟨hmem, hnot⟩
        by_cases hpair : pair = e.ends
        · exact .inl hpair
        · exact .inr ⟨hmem.resolve_left hpair, hpair, hnot⟩

theorem nodup_ends_unseenEdges (seen : List (String × String)) (edges : List FlowEdge) :
    ((unseenEdges seen edges).map FlowEdge.ends).Nodup := by
  induction edges generalizing seen with
  | nil => exact .nil
  | cons e rest ih =>
    rw [unseenEdges]
    split_ifs
    · exact ih seen
    · rw [List.map_cons, List.nodup_cons]
      refine ⟨?_, ih (e.ends :: seen)⟩
      -- behind the edge its pages have been seen
      intro hmem
      exact (mem_ends_unseenEdges_iff.mp hmem).2 List.mem_cons_self

theorem mem_of_mem_firstEdges {e : FlowEdge} {edges : List FlowEdge} (h : e ∈ firstEdges edges) :
    e ∈ edges :=
  (sublist_unseenEdges [] edges).subset h

/-- Whatever pages are joined by an edge, they are joined by one that is kept. -/
theorem mem_ends_firstEdges_iff {pair : String × String} {edges : List FlowEdge} :
    pair ∈ (firstEdges edges).map FlowEdge.ends ↔ pair ∈ edges.map FlowEdge.ends := by
  rw [firstEdges, mem_ends_unseenEdges_iff]
  exact and_iff_left List.not_mem_nil

/-- No two of the edges that are kept join the same pages. -/
theorem nodup_ends_firstEdges (edges : List FlowEdge) :
    ((firstEdges edges).map FlowEdge.ends).Nodup :=
  nodup_ends_unseenEdges [] edges

theorem count_ends_firstEdges (pair : String × String) (edges : List FlowEdge) :
    ((firstEdges edges).map FlowEdge.ends).count pair =
      if pair ∈ edges.map FlowEdge.ends then 1 else 0 := by
  rw [(nodup_ends_firstEdges edges).count]
  simp only [mem_ends_firstEdges_iff]

/-! ### The two graphs -/

theorem lt_of_mem_ascending {edges : List FlowEdge} {e : FlowEdge}
    (h : e ∈ (ofEdges edges).ascending.links) : e.source < e.target :=
  of_decide_eq_true (List.mem_filter.mp h).2

theorem lt_of_mem_descending {edges : List FlowEdge} {e : FlowEdge}
    (h : e ∈ (ofEdges edges).descending.links) (hne : e.source ≠ e.target) :
    e.target < e.source := by
  have hnot : e.ascends = false := by simpa using (List.mem_filter.mp h).2
  exact Dict.lt_of_not_lt_of_ne (of_decide_eq_false hnot) hne

/-- Every edge that is kept is a link of exactly one of the graphs. -/
theorem perm_links (edges : List FlowEdge) :
    ((ofEdges edges).ascending.links ++ (ofEdges edges).descending.links).Perm
      (firstEdges edges) :=
  List.filter_append_perm FlowEdge.ascends (firstEdges edges)

/-- **Acyclic flows.** Neither graph of a flow has a cycle, exactly if no edge leads from a page to
itself.  However often two pages are joined one way or the other, among the links of both graphs
together the pair occurs once if it does among the edges, and otherwise not. -/
theorem acyclic_iff (edges : List FlowEdge) :
    let f := ofEdges edges
    (f.ascending.Acyclic ∧ f.descending.Acyclic ↔ ∀ e ∈ edges, e.source ≠ e.target) ∧
      ∀ pair, (f.ascending.links.map FlowEdge.ends).count pair +
        (f.descending.links.map FlowEdge.ends).count pair =
          if pair ∈ edges.map FlowEdge.ends then 1 else 0 := by
  intro f
  have hperm := perm_links edges
  refine ⟨⟨?_, ?_⟩, fun pair => ?_⟩
  · rintro ⟨hascending, hdescending⟩ e he heq
    -- the first edge that joins the same page to itself is a link
    have hends := mem_ends_firstEdges_iff.mpr (List.mem_map_of_mem (f := FlowEdge.ends) he)
    obtain ⟨link, hlink, hsame⟩ := List.mem_map.mp hends
    obtain ⟨hsource, htarget⟩ := Prod.mk.inj hsame
    have hloop : link.source = link.target := by rw [hsource, htarget, heq]
    rcases List.mem_append.mp (hperm.mem_iff.mpr hlink) with hmem | hmem
    · exact FlowGraph.not_acyclic_of_ends_eq hmem hloop hascending
    · exact FlowGraph.not_acyclic_of_ends_eq hmem hloop hdescending
  · intro hne
    constructor
    · exact FlowGraph.acyclic_of_links (fun a b => a < b) (fun _ _ _ => String.lt_trans)
        String.lt_irrefl fun e he => lt_of_mem_ascending he
    · have hdown : ∀ e ∈ f.descending.links, e.target < e.source := fun e he =>
        lt_of_mem_descending he (hne e (mem_of_mem_firstEdges (List.mem_filter.mp he).1))
      exact FlowGraph.acyclic_of_links (fun a b => b < a)
        (fun _ _ _ hab hbc => String.lt_trans hbc hab) String.lt_irrefl hdown
  · rw [← List.count_append, ← List.map_append, (hperm.map _).count_eq, count_ends_firstEdges]

/-- Visitors go round from the start page over two others, and back and forth on the way; one step
is listed twice.  The round is broken where it turns back in the order of the pages. -/
theorem acyclic_iff_roundTrip :
    let edges : List FlowEdge :=
      [⟨"/", "/pricing", 10⟩, ⟨"/pricing", "/signup", 6⟩, ⟨"/pricing", "/", 4⟩,
        ⟨"/signup", "/", 3⟩, ⟨"/", "/pricing", 1⟩]
    let f := ofEdges edges
    (∀ e ∈ edges, e.source ≠ e.target) ∧ f.ascending.Acyclic ∧ f.descending.Acyclic ∧
      f.ascending.links = [⟨"/", "/pricing", 10⟩, ⟨"/pricing", "/signup", 6⟩] ∧
      f.descending.links = [⟨"/pricing", "/", 4⟩, ⟨"/signup", "/", 3⟩] ∧
      (f.ascending.links.map FlowEdge.ends).count ("/", "/pricing") +
        (f.descending.links.map FlowEdge.ends).count ("/", "/pricing") = 1 := by
  intro edges f
  have hne : ∀ e ∈ edges, e.source ≠ e.target := by decide
  obtain ⟨hacyclic, hcount⟩ := acyclic_iff edges
  exact ⟨hne, (hacyclic.mpr hne).1, (hacyclic.mpr hne).2, by decide +kernel, by decide +kernel,
    (hcount ("/", "/pricing")).trans (by decide +kernel)⟩

end UserFlow

end SiteAnalytics
