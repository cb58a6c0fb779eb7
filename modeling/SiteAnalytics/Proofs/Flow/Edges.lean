import SiteAnalytics.Proofs.Flow
import SiteAnalytics.Proofs.Text.Bytes

/-!
# The edges of a flow

Of the edges between the same pages the first one is kept, so that what is kept are the edges with
no edge of the same pages before them, in their order (`firstEdges_eq_filter`).  If the edges come
from the most frequent down, the one that is kept is the most frequent
(`value_le_of_mem_unseenEdges`).  The two graphs are what is kept on either side of a test, and
their pages are those that the links join (`FlowGraph.spanned_ofLinks`).
-/

namespace SiteAnalytics

/-! ### Pages -/

namespace FlowGraph

/-- The pages are those that the links join, each of them once and in the order of their bytes. -/
structure Spanned (g : FlowGraph) : Prop where
  mem_nodes_iff : ∀ page, page ∈ g.nodes ↔ ∃ e ∈ g.links, page = e.source ∨ page = e.target
  increasing : g.nodes.Pairwise fun a b => Text.bytes a < Text.bytes b

theorem spanned_ofLinks (links : List FlowEdge) : (ofLinks links).Spanned where
  mem_nodes_iff page := by
    show page ∈ (Dict.ofList _).keys ↔ ∃ e ∈ links, _
    rw [Dict.mem_keys_ofList_iff]
    simp [List.map_flatMap]
  increasing := by
    show (List.map Prod.fst _).Pairwise _
    rw [List.pairwise_map]
    exact (Dict.sorted _).imp Text.bytes_lt_iff.mpr

end FlowGraph

namespace UserFlow

/-! ### What is kept -/

/-- What is kept are the edges whose pages neither have been seen nor are joined by an edge before
them. -/
theorem unseenEdges_eq_filter (seen : List (String × String)) (edges : List FlowEdge) :
    unseenEdges seen edges = (edges.zipIdx.filter fun (e, i) =>
      e.ends ∉ seen ∧ ∀ other ∈ edges.take i, other.ends ≠ FlowEdge.ends e).map Prod.fst := by
  induction edges generalizing seen with
  | nil => rfl
  | cons first rest ih =>
    -- behind the first edge, a test on its pages is one on what has been seen
    have hbehind (e : FlowEdge) (i : Nat) :
        (e.ends ∉ seen ∧ ∀ other ∈ (first :: rest).take (i + 1), other.ends ≠ e.ends) ↔
          e.ends ∉ first.ends :: seen ∧ ∀ other ∈ rest.take i, other.ends ≠ e.ends := by
      rw [List.take_succ_cons, List.forall_mem_cons, List.mem_cons, not_or, ne_comm]
      tauto
    have hshift : rest.zipIdx 1 = rest.zipIdx.map fun e => (e.1, e.2 + 1) := List.zipIdx_succ
    have hrest : (rest.zipIdx 1).filter (fun (e, i) =>
        e.ends ∉ seen ∧ ∀ other ∈ (first :: rest).take i, other.ends ≠ e.ends) =
        (rest.zipIdx.filter fun (e, i) => e.ends ∉ first.ends :: seen ∧
          ∀ other ∈ rest.take i, other.ends ≠ e.ends).map fun e => (e.1, e.2 + 1) := by
      rw [hshift, List.filter_map]
      refine congrArg (List.map _) (List.filter_congr fun e _ => ?_)
      exact decide_eq_decide.mpr (hbehind e.1 e.2)
    have hfirst : (first.ends ∉ seen ∧ ∀ other ∈ (first :: rest).take 0, other.ends ≠ first.ends) ↔
        first.ends ∉ seen := by
      simp
    rw [unseenEdges, List.zipIdx_cons, List.filter_cons, Nat.zero_add, hrest]
    simp only [hfirst, decide_not, Bool.not_eq_true', decide_eq_false_iff_not]
    split_ifs with hseen
    · -- the first edge is dropped, and its pages add nothing to what has been seen
      have hmem (pair : String × String) : pair ∈ first.ends :: seen ↔ pair ∈ seen := by
        rw [List.mem_cons]
        exact or_iff_right_of_imp fun heq => heq ▸ hseen
      simp only [hmem]
      rw [ih, List.map_map]
      rfl
    · rw [ih, List.map_cons, List.map_map]
      rfl

/-- The edges that are kept are those with no edge of the same pages before them. -/
theorem firstEdges_eq_filter (edges : List FlowEdge) :
    firstEdges edges = (edges.zipIdx.filter fun (e, i) =>
      ∀ other ∈ edges.take i, other.ends ≠ FlowEdge.ends e).map Prod.fst := by
  rw [firstEdges, unseenEdges_eq_filter]
  simp only [List.not_mem_nil, not_false_iff, true_and]

/-- Edges that join different pages, none of them seen, are all kept. -/
theorem unseenEdges_eq_self {seen : List (String × String)} {edges : List FlowEdge}
    (hnodup : (edges.map FlowEdge.ends).Nodup) (hnew : ∀ e ∈ edges, e.ends ∉ seen) :
    unseenEdges seen edges = edges := by
  induction edges generalizing seen with
  | nil => rfl
  | cons first rest ih =>
    obtain ⟨hfirst, hrest⟩ := List.nodup_cons.mp hnodup
    rw [unseenEdges, if_neg (hnew first List.mem_cons_self), ih hrest]
    intro e he hmem
    rcases List.mem_cons.mp hmem with heq | hseen
    · exact hfirst (heq ▸ List.mem_map_of_mem he)
    · exact hnew e (List.mem_cons_of_mem _ he) hseen

/-- If the edges come from the most frequent down, the most frequent of the same pages is kept. -/
theorem value_le_of_mem_unseenEdges {seen : List (String × String)} {edges : List FlowEdge}
    (hsorted : edges.Pairwise fun a b => b.value ≤ a.value) {e other : FlowEdge}
    (he : e ∈ unseenEdges seen edges) (hother : other ∈ edges) (hends : other.ends = e.ends) :
    other.value ≤ e.value := by
  induction edges generalizing seen with
  | nil => contradiction
  | cons first rest ih =>
    obtain ⟨hfirst, hrest⟩ := List.pairwise_cons.mp hsorted
    -- the pages of an edge that is kept later are not those of the first one
    have hlater {seen' : List (String × String)} (hmem : e ∈ unseenEdges seen' rest)
        (hseen : first.ends ∈ seen') : other.value ≤ e.value := by
      rcases List.mem_cons.mp hother with rfl | hother
      · have hnew := (mem_ends_unseenEdges_iff.mp (List.mem_map_of_mem hmem)).2
        exact absurd (hends ▸ hseen) hnew
      · exact ih hrest hmem hother
    rw [unseenEdges] at he
    split_ifs at he with hseen
    · exact hlater he hseen
    · rcases List.mem_cons.mp he with rfl | he
      · rcases List.mem_cons.mp hother with rfl | hother
        · exact Int.le_refl _
        · exact hfirst other hother
      · exact hlater he List.mem_cons_self

/-! ### The split -/

/-- **Edges are kept once, whole and in order.** What is kept of the edges are those with no edge of
the same pages before them, in their order, and keeping them again changes nothing.  The ascending
links are those of them whose source comes before the target in the order of bytes, the descending
links are the others, and so each one that is kept is a link of exactly one graph.  The pages of
either graph are those that its links join, in order.  If the edges come from the most frequent
down, each one that is kept is the most frequent of those that join the same pages. -/
theorem ofEdges_firstEdges (edges : List FlowEdge) :
    let kept := firstEdges edges
    let f := ofEdges edges
    (kept = (edges.zipIdx.filter fun (e, i) =>
        ∀ other ∈ edges.take i, other.ends ≠ FlowEdge.ends e).map Prod.fst ∧
      firstEdges kept = kept) ∧
    (f.ascending.links = kept.filter (fun e => Text.bytes e.source < Text.bytes e.target) ∧
      f.descending.links = kept.filter (fun e => ¬Text.bytes e.source < Text.bytes e.target) ∧
      (f.ascending.links ++ f.descending.links).Perm kept ∧
      (f.ascending.links ++ f.descending.links).Nodup) ∧
    (f.ascending.Spanned ∧ f.descending.Spanned) ∧
    (edges.Pairwise (fun a b => b.value ≤ a.value) →
      ∀ e ∈ kept, ∀ other ∈ edges, other.ends = e.ends → other.value ≤ e.value) := by
  intro kept f
  have hnodup : (kept.map FlowEdge.ends).Nodup := nodup_ends_firstEdges edges
  have hperm : (f.ascending.links ++ f.descending.links).Perm kept := perm_links edges
  have hascends (e : FlowEdge) :
      e.ascends = decide (Text.bytes e.source < Text.bytes e.target) :=
    decide_eq_decide.mpr Text.bytes_lt_iff.symm
  refine ⟨⟨firstEdges_eq_filter edges, unseenEdges_eq_self hnodup (by simp)⟩, ⟨?_, ?_, hperm, ?_⟩,
    ⟨FlowGraph.spanned_ofLinks _, FlowGraph.spanned_ofLinks _⟩, ?_⟩
  · exact List.filter_congr fun e _ => hascends e
  · refine List.filter_congr fun e _ => ?_
    rw [hascends, decide_not]
  · exact hperm.nodup_iff.mpr hnodup.of_map
  · intro hsorted e he other hother hends
    exact value_le_of_mem_unseenEdges hsorted he hother hends

/-- Pages with names beyond the first plane, and steps that are listed twice. -/
theorem ofEdges_firstEdges_planes :
    let edges : List FlowEdge :=
      [⟨"/\uffff", "/😀", 9⟩, ⟨"/😀", "/é", 7⟩, ⟨"/\uffff", "/😀", 7⟩, ⟨"/é", "/é", 4⟩,
        ⟨"/😀", "/é", 1⟩]
    let f := ofEdges edges
    edges.Pairwise (fun a b => b.value ≤ a.value) ∧
      f.ascending.links = [⟨"/\uffff", "/😀", 9⟩] ∧
      f.descending.links = [⟨"/😀", "/é", 7⟩, ⟨"/é", "/é", 4⟩] ∧
      f.descending.nodes = ["/é", "/😀"] ∧ f.descending.Spanned ∧
      ∀ e ∈ firstEdges edges, ∀ other ∈ edges, other.ends = e.ends → other.value ≤ e.value := by
  intro edges f
  have hsorted : edges.Pairwise fun a b => b.value ≤ a.value := by decide
  obtain ⟨-, -, ⟨-, hspanned⟩, hmost⟩ := ofEdges_firstEdges edges
  exact ⟨hsorted, by decide +kernel, by decide +kernel, by decide +kernel, hspanned,
    hmost hsorted⟩

end UserFlow

end SiteAnalytics
