/-
The coverage search (`RunGcopAlgorithm`).

It asks for a green node with every blue node within distance 2 in the subgraph of the green and the
blue nodes.  The two levels of its breadth-first search are the ball of radius 2 in that graph.  This
node is never green, not even where it is listed as a symmetric neighbor of itself.
-/
import ManetOlsr.Model.Gcop

namespace ManetOlsr

namespace OlsrDefenseGcop

open Lib

/-- The 2-hop and the topology tuples as pairs. -/
def announcedPairs (s : OlsrState) : List (Ipv4Address × Ipv4Address) :=
  s.twoHopNeighborSet.map (fun th => (th.neighborMainAddr, th.twoHopNeighborAddr)) ++
    s.topologySet.map fun tp => (tp.lastAddr, tp.destAddr)

/-- The graph of the pairs with both ends green or blue. -/
def colouredGraph (s : OlsrState) (green blue : Ipv4Address → Prop) : SimpleGraph Ipv4Address :=
  SimpleGraph.fromRel fun u v =>
    (u, v) ∈ announcedPairs s ∧ (green u ∨ blue u) ∧ (green v ∨ blue v)

/-- There is a blue node, and some green node has every blue node within distance 2. -/
def CoveredByOne (s : OlsrState) (green blue : Ipv4Address → Prop) : Prop :=
  (∃ b, blue b) ∧ ∃ g, green g ∧ ∀ b, blue b → (colouredGraph s green blue).edist g b ≤ (2 : ℕ)

def IsSymmetricNeighbor (s : OlsrState) (a : Ipv4Address) : Prop :=
  ∃ nei ∈ s.neighborSet, nei.status = Status.sym ∧ nei.neighborMainAddr = a

/-- A 2-hop address other than this node and its symmetric neighbors. -/
def IsBlue (d : OlsrDefenseGcop) (s : OlsrState) (a : Ipv4Address) : Prop :=
  IsTwoHopAddress s a ∧ a ≠ d.mainAddress ∧ ¬ IsSymmetricNeighbor s a

/-- A symmetric neighbor other than this node. -/
def IsGreen (d : OlsrDefenseGcop) (s : OlsrState) (a : Ipv4Address) : Prop :=
  IsSymmetricNeighbor s a ∧ a ≠ d.mainAddress

variable {d : OlsrDefenseGcop} {s : OlsrState} {g a b : Ipv4Address}

lemma mem_symmetricGreens : a ∈ d.symmetricGreens s ↔ d.IsGreen s a := by
  rw [symmetricGreens, Finset.mem_erase, List.mem_toFinset, List.mem_map, IsGreen, and_comm]
  simp only [List.mem_filter, beq_iff_eq, and_assoc, IsSymmetricNeighbor]

lemma mem_uncoveredBlues : a ∈ d.uncoveredBlues s ↔ d.IsBlue s a := by
  rw [uncoveredBlues, Finset.mem_sdiff, Finset.mem_erase, List.mem_toFinset, List.mem_map,
    mem_symmetricGreens, IsGreen, IsBlue, IsTwoHopAddress]
  tauto

lemma mem_allowedNodes : a ∈ d.allowedNodes s ↔ d.IsGreen s a ∨ d.IsBlue s a := by
  rw [allowedNodes, Finset.mem_union, mem_symmetricGreens, mem_uncoveredBlues]

variable (d s) in
/-- The pairs that the search keeps. -/
def allowedPairs : List (Ipv4Address × Ipv4Address) :=
  (announcedPairs s).filter fun e =>
    decide (e.1 ∈ d.allowedNodes s) && decide (e.2 ∈ d.allowedNodes s)

lemma represents_subgraph : Represents (d.subgraph s) (d.allowedPairs s) := by
  have htwoHop := Graph.foldl_link
    (fun th : TwoHopNeighborTuple => (th.neighborMainAddr, th.twoHopNeighborAddr))
    (s.twoHopNeighborSet.filter fun th => decide (th.neighborMainAddr ∈ d.allowedNodes s) &&
      decide (th.twoHopNeighborAddr ∈ d.allowedNodes s)) represents_nil
  have htopology := Graph.foldl_link (fun tp : TopologyTuple => (tp.lastAddr, tp.destAddr))
    (s.topologySet.filter fun tp => decide (tp.lastAddr ∈ d.allowedNodes s) &&
      decide (tp.destAddr ∈ d.allowedNodes s)) htwoHop
  rw [List.foldl_filter, List.foldl_filter] at htopology
  rw [allowedPairs, announcedPairs, List.filter_append, List.filter_map, List.filter_map]
  exact htopology

/-- The graph of the search is the graph of the two colours. -/
lemma edgeGraph_allowedPairs :
    edgeGraph (d.allowedPairs s) = colouredGraph s (d.IsGreen s) (d.IsBlue s) := by
  ext u v
  rw [edgeGraph_adj, colouredGraph, SimpleGraph.fromRel_adj]
  simp only [allowedPairs, List.mem_filter, Bool.and_eq_true, decide_eq_true_eq, mem_allowedNodes]

/-- The breadth-first search goes two steps. -/
lemma reachable_eq_within (graph : Graph) : reachable graph g = within graph g 2 := by
  ext v
  simp only [reachable, within, Finset.mem_union, Finset.mem_insert, Finset.mem_biUnion,
    Finset.mem_singleton]
  constructor
  · rintro ((heq | hhop1) | ⟨h1, hhop1, hhop2⟩)
    · exact Or.inl (Or.inl heq)
    · exact Or.inl (Or.inr ⟨g, rfl, hhop1⟩)
    · exact Or.inr ⟨h1, Or.inr ⟨g, rfl, hhop1⟩, hhop2⟩
  · rintro ((heq | ⟨w, rfl, hhop1⟩) | ⟨h1, heq | ⟨w, rfl, hhop1⟩, hhop2⟩)
    · exact Or.inl (Or.inl heq)
    · exact Or.inl (Or.inr hhop1)
    · exact Or.inl (Or.inr (heq ▸ hhop2))
    · exact Or.inr ⟨h1, hhop1, hhop2⟩

lemma mem_reachable_iff : b ∈ reachable (d.subgraph s) g ↔
    (colouredGraph s (d.IsGreen s) (d.IsBlue s)).edist g b ≤ (2 : ℕ) := by
  rw [reachable_eq_within, represents_subgraph.mem_within, edgeGraph_allowedPairs]

/-- The search decides whether one green node covers the blue ones. -/
theorem coverageSearch_iff (d : OlsrDefenseGcop) (s : OlsrState) (hattached : d.attached = true) :
    d.runGcopAlgorithm s = true ↔ CoveredByOne s (d.IsGreen s) (d.IsBlue s) := by
  rw [runGcopAlgorithm, hattached, Bool.not_true, if_neg Bool.false_ne_true, CoveredByOne]
  by_cases hempty : d.uncoveredBlues s = ∅
  · rw [if_pos hempty]
    refine iff_of_false Bool.false_ne_true ?_
    rintro ⟨⟨b, hb⟩, -⟩
    exact Finset.eq_empty_iff_forall_notMem.mp hempty b (mem_uncoveredBlues.mpr hb)
  · obtain ⟨b, hb⟩ := Finset.nonempty_iff_ne_empty.mpr hempty
    rw [if_neg hempty]
    dsimp only
    rw [decide_eq_true_eq]
    constructor
    · rintro ⟨g, hg, hcovers⟩
      refine ⟨⟨b, mem_uncoveredBlues.mp hb⟩, g, mem_symmetricGreens.mp hg, fun b hb => ?_⟩
      exact mem_reachable_iff.mp (hcovers (mem_uncoveredBlues.mpr hb))
    · rintro ⟨-, g, hg, hcovers⟩
      refine ⟨g, mem_symmetricGreens.mpr hg, fun b hb => ?_⟩
      exact mem_reachable_iff.mpr (hcovers b (mem_uncoveredBlues.mp hb))

/-- The node 1 lists itself as a symmetric neighbor. -/
def ownNeighbor : OlsrState where
  neighborSet := [⟨1, .sym, .default⟩]
  twoHopNeighborSet := [⟨1, 2, 0⟩]

theorem ownNeighbor_coverageSearch_iff :
    (({} : OlsrDefenseGcop).setup 1).runGcopAlgorithm ownNeighbor = true ↔
      CoveredByOne ownNeighbor ((({} : OlsrDefenseGcop).setup 1).IsGreen ownNeighbor)
        ((({} : OlsrDefenseGcop).setup 1).IsBlue ownNeighbor) :=
  coverageSearch_iff _ _ rfl

/-- As a symmetric neighbor of itself it would cover the node 2, but it is not taken for green. -/
theorem ownNeighbor_not_green :
    ¬ ((({} : OlsrDefenseGcop).setup 1).runGcopAlgorithm ownNeighbor = true ↔
      CoveredByOne ownNeighbor (IsSymmetricNeighbor ownNeighbor)
        ((({} : OlsrDefenseGcop).setup 1).IsBlue ownNeighbor)) := by
  have hruns : (({} : OlsrDefenseGcop).setup 1).runGcopAlgorithm ownNeighbor = false := by
    decide +kernel
  have hblue : ∀ b, (({} : OlsrDefenseGcop).setup 1).IsBlue ownNeighbor b ↔ b = 2 := by
    intro b
    rw [← mem_uncoveredBlues, show (({} : OlsrDefenseGcop).setup 1).uncoveredBlues ownNeighbor =
      {2} by decide +kernel, Finset.mem_singleton]
  have hself : IsSymmetricNeighbor ownNeighbor 1 := ⟨_, List.mem_singleton_self _, rfl, rfl⟩
  rw [hruns]
  refine fun h => Bool.false_ne_true (h.mpr ⟨⟨2, (hblue 2).mpr rfl⟩, 1, hself, fun b hb => ?_⟩)
  obtain rfl := (hblue b).mp hb
  have hadj : (colouredGraph ownNeighbor (IsSymmetricNeighbor ownNeighbor)
      ((({} : OlsrDefenseGcop).setup 1).IsBlue ownNeighbor)).Adj 1 2 := by
    rw [colouredGraph, SimpleGraph.fromRel_adj]
    exact ⟨by decide, Or.inl ⟨by decide, Or.inl hself, Or.inr hb⟩⟩
  rw [SimpleGraph.edist_eq_one_iff_adj.mpr hadj]
  exact one_le_two

end OlsrDefenseGcop

end ManetOlsr
