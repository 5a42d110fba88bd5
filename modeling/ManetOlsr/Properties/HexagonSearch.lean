/-
The hexagon search (`RunGcohpAlgorithm`).

Two edges from a green to a blue node that no chord links can be opposite sides of a hexagon with this
node (`Opposite`).  The search finds every such pair, in whatever order the set of edges lists it, and
asks for a common neighbor of the two blue nodes that is neither green nor blue.  This node is neither,
and the graph includes it, so it can itself be what closes the "hexagon".
-/
import ManetOlsr.Model.Gcop

namespace ManetOlsr

namespace OlsrDefenseGcop

open Lib

section KnownGraph

variable (d : OlsrDefenseGcop) (s : OlsrState)

/-- The links with the symmetric neighbors, the 2-hop tuples and the topology tuples. -/
def knownEdges : List (Ipv4Address × Ipv4Address) :=
  (s.neighborSet.filter fun nei => nei.status == Status.sym).map
      (fun nei => (d.mainAddress, nei.neighborMainAddr)) ++
    s.twoHopNeighborSet.map (fun th => (th.neighborMainAddr, th.twoHopNeighborAddr)) ++
    s.topologySet.map fun tp => (tp.lastAddr, tp.destAddr)

/-- The graph of the search. -/
def knownGraph : SimpleGraph Ipv4Address := edgeGraph (d.knownEdges s)

lemma represents_fullGraph : Represents (d.fullGraph s) (d.knownEdges s) := by
  have hself := Graph.foldl_link (fun nei : NeighborTuple => (d.mainAddress, nei.neighborMainAddr))
    (s.neighborSet.filter fun nei => nei.status == Status.sym) represents_nil
  have htwoHop := Graph.foldl_link
    (fun th : TwoHopNeighborTuple => (th.neighborMainAddr, th.twoHopNeighborAddr))
    s.twoHopNeighborSet hself
  exact Graph.foldl_link (fun tp : TopologyTuple => (tp.lastAddr, tp.destAddr)) s.topologySet htwoHop

/-- The nodes `g` and `g'` are neighbors, `b` and `b'` 2-hop addresses beyond them, and no chord
links the edge between `g` and `b` with the edge between `g'` and `b'`. -/
structure Opposite (g b b' g' : Ipv4Address) : Prop where
  distinct : [d.mainAddress, g, b, b', g'].Nodup
  neighbors : IsNeighbor s g ∧ IsNeighbor s g'
  twoHop : IsTwoHopAddress s b ∧ IsTwoHopAddress s b'
  beyond : ¬ IsNeighbor s b ∧ ¬ IsNeighbor s b'
  edges : (d.knownGraph s).Adj g b ∧ (d.knownGraph s).Adj b' g'
  chordless : ¬ (d.knownGraph s).Adj g g' ∧ ¬ (d.knownGraph s).Adj b b' ∧
    ¬ (d.knownGraph s).Adj g b' ∧ ¬ (d.knownGraph s).Adj g' b

/-- A hexagon of this node, two neighbors, two 2-hop addresses beyond them and a node farther out. -/
structure Hexagon (g b c b' g' : Ipv4Address) : Prop where
  distinct : [d.mainAddress, g, b, c, b', g'].Nodup
  neighbors : IsNeighbor s g ∧ IsNeighbor s g'
  twoHop : IsTwoHopAddress s b ∧ IsTwoHopAddress s b'
  beyond : ¬ IsNeighbor s b ∧ ¬ IsNeighbor s b'
  farther : ¬ IsNeighbor s c ∧ ¬ IsTwoHopAddress s c ∧ c ≠ d.mainAddress
  edges : (d.knownGraph s).Adj g b ∧ (d.knownGraph s).Adj b c ∧ (d.knownGraph s).Adj c b' ∧
    (d.knownGraph s).Adj b' g'
  chordless : ¬ (d.knownGraph s).Adj g g' ∧ ¬ (d.knownGraph s).Adj b b' ∧
    ¬ (d.knownGraph s).Adj g b' ∧ ¬ (d.knownGraph s).Adj g' b

/-- This node closes two opposite edges itself. -/
def ClosedBySelf : Prop :=
  ∃ g b b' g', d.Opposite s g b b' g' ∧ (d.knownGraph s).Adj b d.mainAddress ∧
    (d.knownGraph s).Adj d.mainAddress b'

end KnownGraph

variable {d : OlsrDefenseGcop} {s : OlsrState} {g b c b' g' a : Ipv4Address}

lemma mem_greens : a ∈ d.greens s ↔ a ≠ d.mainAddress ∧ IsNeighbor s a := by
  rw [greens, Finset.mem_erase, List.mem_toFinset, List.mem_map]
  rfl

lemma mem_blues :
    a ∈ d.blues s ↔ a ≠ d.mainAddress ∧ IsTwoHopAddress s a ∧ ¬ IsNeighbor s a := by
  rw [blues, Finset.mem_sdiff, Finset.mem_erase, List.mem_toFinset, List.mem_map,
    List.mem_toFinset, List.mem_map, and_assoc]
  rfl

/-- A node that is neither green nor blue is farther out, or it is this node. -/
lemma notMem_union_iff : c ∉ d.blues s ∪ d.greens s ↔
    c = d.mainAddress ∨ ¬ IsNeighbor s c ∧ ¬ IsTwoHopAddress s c := by
  rw [Finset.mem_union, mem_blues, mem_greens]
  by_cases hself : c = d.mainAddress
  · simp [hself]
  · by_cases hneighbor : IsNeighbor s c
    · simp [hself, hneighbor]
    · simp [hself, hneighbor]

lemma knownGraph_adj : (d.knownGraph s).Adj a b ↔ a ≠ b ∧ b ∈ d.fullGraph s a :=
  (d.represents_fullGraph s).adj_iff

/-! ### Pairs of edges -/

lemma Opposite.symm (h : d.Opposite s g b b' g') : d.Opposite s g' b' b g where
  distinct := by
    obtain ⟨hmain, hdistinct⟩ := List.nodup_cons.mp h.distinct
    have hreverse : [g', b', b, g] = [g, b, b', g'].reverse := rfl
    rw [hreverse, List.nodup_cons, List.mem_reverse, List.nodup_reverse]
    exact ⟨hmain, hdistinct⟩
  neighbors := h.neighbors.symm
  twoHop := h.twoHop.symm
  beyond := h.beyond.symm
  edges := ⟨h.edges.2.symm, h.edges.1.symm⟩
  chordless := by
    obtain ⟨hgreen, hblue, hcross, hcross'⟩ := h.chordless
    exact ⟨fun h => hgreen h.symm, fun h => hblue h.symm, hcross', hcross⟩

/-- Of two different edges, one comes before the other. -/
lemma edgeLt_or_edgeLt {e e' : Ipv4Address × Ipv4Address} (h : e ≠ e') :
    edgeLt e e' = true ∨ edgeLt e' e = true := by
  obtain ⟨g, b⟩ := e
  obtain ⟨g', b'⟩ := e'
  have hne : ¬ (g = g' ∧ b = b') := by
    rwa [ne_eq, Prod.mk.injEq] at h
  simp only [edgeLt, Bool.or_eq_true, Bool.and_eq_true, decide_eq_true_eq, beq_iff_eq]
  by_cases hg : g = g'
  · rcases UInt32.lt_or_lt_of_ne fun hb => hne ⟨hg, hb⟩ with hlt | hlt
    · exact Or.inl (Or.inr ⟨hg, hlt⟩)
    · exact Or.inr (Or.inr ⟨hg.symm, hlt⟩)
  · rcases UInt32.lt_or_lt_of_ne hg with hlt | hlt
    · exact Or.inl (Or.inl hlt)
    · exact Or.inr (Or.inl hlt)

lemma mem_e3 : (g, b) ∈ d.e3 s (d.fullGraph s) ↔
    g ∈ d.greens s ∧ b ∈ d.blues s ∧ (d.knownGraph s).Adj g b := by
  rw [e3, Finset.mem_filter, Finset.mem_product, and_assoc, knownGraph_adj]
  constructor
  · rintro ⟨hg, hb, hmem⟩
    refine ⟨hg, hb, ?_, hmem⟩
    rintro rfl
    exact (mem_blues.mp hb).2.2 (mem_greens.mp hg).2
  · rintro ⟨hg, hb, -, hmem⟩
    exact ⟨hg, hb, hmem⟩

/-- The body of the loop accepts two opposite edges with a closer that is neither green nor blue. -/
lemma closesHexagon_iff (he : (g, b) ∈ d.e3 s (d.fullGraph s))
    (he' : (g', b') ∈ d.e3 s (d.fullGraph s)) :
    d.closesHexagon s (d.fullGraph s) (g, b) (g', b') = true ↔ d.Opposite s g b b' g' ∧
      ∃ c ∉ d.blues s ∪ d.greens s, (d.knownGraph s).Adj b c ∧ (d.knownGraph s).Adj c b' := by
  obtain ⟨hg, hb, hadj⟩ := mem_e3.mp he
  obtain ⟨hg', hb', hadj'⟩ := mem_e3.mp he'
  have hgreen := mem_greens.mp hg
  have hgreen' := mem_greens.mp hg'
  have hblue := mem_blues.mp hb
  have hblue' := mem_blues.mp hb'
  -- A green node is no blue node.
  have hsep : ∀ x y, IsNeighbor s x → ¬ IsNeighbor s y → x ≠ y := by
    rintro x y hx hy rfl
    exact hy hx
  have hcomm : ∀ x y, x ∈ d.fullGraph s y ↔ y ∈ d.fullGraph s x :=
    fun x y => (d.represents_fullGraph s).mem_comm
  -- A closer that is neither green nor blue is not one of the blue nodes.
  have hclosers : (d.fullGraph s b ∩ d.fullGraph s b') \ (d.blues s ∪ d.greens s) ≠ ∅ ↔
      ∃ c ∉ d.blues s ∪ d.greens s, (d.knownGraph s).Adj b c ∧ (d.knownGraph s).Adj c b' := by
    rw [← Finset.nonempty_iff_ne_empty]
    constructor
    · rintro ⟨c, hc⟩
      rw [Finset.mem_sdiff, Finset.mem_inter] at hc
      obtain ⟨⟨hbc, hbc'⟩, hout⟩ := hc
      have hne : ∀ x ∈ d.blues s, c ≠ x := by
        rintro x hx rfl
        exact hout (Finset.mem_union_left _ hx)
      refine ⟨c, hout, knownGraph_adj.mpr ⟨(hne b hb).symm, hbc⟩, ?_⟩
      exact knownGraph_adj.mpr ⟨hne b' hb', (hcomm b' c).mpr hbc'⟩
    · rintro ⟨c, hout, hbc, hcb⟩
      refine ⟨c, ?_⟩
      rw [Finset.mem_sdiff, Finset.mem_inter]
      exact ⟨⟨(knownGraph_adj.mp hbc).2, (hcomm c b').mpr (knownGraph_adj.mp hcb).2⟩, hout⟩
  rw [closesHexagon]
  dsimp only
  split
  · next hsame =>
    refine iff_of_false Bool.false_ne_true fun h => ?_
    have hdistinct := h.1.distinct
    simp only [List.nodup_cons, List.mem_cons, List.not_mem_nil, or_false, not_or] at hdistinct
    rcases hsame with heq | heq
    · exact hdistinct.2.1.2.2 heq
    · exact hdistinct.2.2.1.1 heq
  · next hdiff =>
    push Not at hdiff
    split
    · next hside =>
      refine iff_of_false Bool.false_ne_true fun h => ?_
      obtain ⟨hgreens, hblues, -, -⟩ := h.1.chordless
      rw [knownGraph_adj] at hgreens hblues
      rw [hcomm g g', hcomm b b', or_self_left] at hside
      rcases hside with hside | hside | hside
      · exact hgreens ⟨hdiff.1, hside⟩
      · exact hblues ⟨hdiff.2, hside⟩
      · exact hblues ⟨hdiff.2, hside⟩
    · next hside =>
      push Not at hside
      split
      · next hcross =>
        refine iff_of_false Bool.false_ne_true fun h => ?_
        obtain ⟨-, -, hnot, hnot'⟩ := h.1.chordless
        rw [knownGraph_adj] at hnot hnot'
        rcases hcross with hcross | hcross
        · exact hnot ⟨hsep g b' hgreen.2 hblue'.2.2, hcross⟩
        · exact hnot' ⟨hsep g' b hgreen'.2 hblue.2.2, hcross⟩
      · next hcross =>
        push Not at hcross
        rw [decide_eq_true_eq, hclosers, iff_and_self]
        intro _
        refine ⟨?_, ⟨hgreen.2, hgreen'.2⟩, ⟨hblue.2.1, hblue'.2.1⟩, ⟨hblue.2.2, hblue'.2.2⟩,
          ⟨hadj, hadj'.symm⟩, ?_⟩
        · have h₁ := hsep g b hgreen.2 hblue.2.2
          have h₂ := hsep g b' hgreen.2 hblue'.2.2
          have h₃ := hsep g' b hgreen'.2 hblue.2.2
          have h₄ := hsep g' b' hgreen'.2 hblue'.2.2
          simp only [List.nodup_cons, List.mem_cons, List.not_mem_nil, or_false, not_or,
            List.nodup_nil, and_true, not_false_eq_true]
          exact ⟨⟨hgreen.1.symm, hblue.1.symm, hblue'.1.symm, hgreen'.1.symm⟩, ⟨h₁, h₂, hdiff.1⟩,
            ⟨hdiff.2, h₃.symm⟩, h₄.symm⟩
        · simp only [knownGraph_adj]
          exact ⟨fun h => hside.1 h.2, fun h => hside.2.2.1 h.2, fun h => hcross.1 h.2,
            fun h => hcross.2 h.2⟩

/-! ### The search -/

/-- The search finds two opposite edges with a closer, if there are any. -/
lemma runGcohpAlgorithm_iff (hattached : d.attached = true) :
    d.runGcohpAlgorithm s = true ↔ ∃ g b b' g', d.Opposite s g b b' g' ∧
      ∃ c ∉ d.blues s ∪ d.greens s, (d.knownGraph s).Adj b c ∧ (d.knownGraph s).Adj c b' := by
  rw [runGcohpAlgorithm, hattached, Bool.not_true, if_neg Bool.false_ne_true]
  dsimp only
  rw [decide_eq_true_eq]
  constructor
  · rintro ⟨⟨g, b⟩, he, ⟨g', b'⟩, he', -, hcloses⟩
    exact ⟨g, b, b', g', (closesHexagon_iff he he').mp hcloses⟩
  · rintro ⟨g, b, b', g', hopposite, c, hout, hbc, hcb⟩
    have hmem : ∀ {g b b' g'}, d.Opposite s g b b' g' → (g, b) ∈ d.e3 s (d.fullGraph s) := by
      intro g b b' g' h
      have hdistinct := h.distinct
      simp only [List.nodup_cons, List.mem_cons, List.not_mem_nil, or_false, not_or] at hdistinct
      refine mem_e3.mpr ⟨mem_greens.mpr ⟨?_, h.neighbors.1⟩,
        mem_blues.mpr ⟨?_, h.twoHop.1, h.beyond.1⟩, h.edges.1⟩
      · exact Ne.symm hdistinct.1.1
      · exact Ne.symm hdistinct.1.2.1
    have he := hmem hopposite
    have he' := hmem hopposite.symm
    have hne : (g, b) ≠ (g', b') := by
      rintro heq
      have hdistinct := hopposite.distinct
      simp only [List.nodup_cons, List.mem_cons, List.not_mem_nil, or_false, not_or] at hdistinct
      exact hdistinct.2.1.2.2 (congrArg Prod.fst heq)
    -- Whichever of the two edges comes first, the body accepts them.
    rcases edgeLt_or_edgeLt hne with hlt | hlt
    · exact ⟨_, he, _, he', hlt, (closesHexagon_iff he he').mpr ⟨hopposite, c, hout, hbc, hcb⟩⟩
    · exact ⟨_, he', _, he, hlt,
        (closesHexagon_iff he' he).mpr ⟨hopposite.symm, c, hout, hcb.symm, hbc.symm⟩⟩

/-- The closer differs from the other five nodes. -/
lemma nodup_closed : [a, g, b, c, b', g'].Nodup ↔
    c ∉ [a, g, b, b', g'] ∧ [a, g, b, b', g'].Nodup := by
  rw [← List.nodup_cons]
  show ([a, g, b] ++ c :: [b', g']).Nodup ↔ _
  exact List.nodup_middle

/-- A hexagon is two opposite edges and a closer farther out. -/
lemma hexagon_iff : d.Hexagon s g b c b' g' ↔ d.Opposite s g b b' g' ∧
    (¬ IsNeighbor s c ∧ ¬ IsTwoHopAddress s c ∧ c ≠ d.mainAddress) ∧
    (d.knownGraph s).Adj b c ∧ (d.knownGraph s).Adj c b' := by
  constructor
  · intro h
    exact ⟨⟨(nodup_closed.mp h.distinct).2, h.neighbors, h.twoHop, h.beyond,
      ⟨h.edges.1, h.edges.2.2.2⟩, h.chordless⟩, h.farther, h.edges.2.1, h.edges.2.2.1⟩
  · rintro ⟨hopposite, hfarther, hbc, hcb⟩
    refine ⟨?_, hopposite.neighbors, hopposite.twoHop, hopposite.beyond, hfarther,
      ⟨hopposite.edges.1, hbc, hcb, hopposite.edges.2⟩, hopposite.chordless⟩
    have hg : c ≠ g := by
      rintro rfl
      exact hfarther.1 hopposite.neighbors.1
    have hg' : c ≠ g' := by
      rintro rfl
      exact hfarther.1 hopposite.neighbors.2
    refine nodup_closed.mpr ⟨?_, hopposite.distinct⟩
    simp only [List.mem_cons, List.not_mem_nil, or_false, not_or]
    exact ⟨hfarther.2.2, hg, hbc.ne.symm, hcb.ne, hg'⟩

/-- The search finds the hexagons, and the opposite edges that this node closes itself. -/
lemma runGcohpAlgorithm_iff_hexagon (hattached : d.attached = true) :
    d.runGcohpAlgorithm s = true ↔
      d.ClosedBySelf s ∨ ∃ g b c b' g', d.Hexagon s g b c b' g' := by
  rw [runGcohpAlgorithm_iff hattached]
  constructor
  · rintro ⟨g, b, b', g', hopposite, c, hout, hbc, hcb⟩
    by_cases hself : c = d.mainAddress
    · subst hself
      exact Or.inl ⟨g, b, b', g', hopposite, hbc, hcb⟩
    · rcases notMem_union_iff.mp hout with heq | ⟨hneighbor, htwoHop⟩
      · exact absurd heq hself
      · exact Or.inr ⟨g, b, c, b', g',
          hexagon_iff.mpr ⟨hopposite, ⟨hneighbor, htwoHop, hself⟩, hbc, hcb⟩⟩
  · rintro (⟨g, b, b', g', hopposite, hbc, hcb⟩ | ⟨g, b, c, b', g', hhexagon⟩)
    · exact ⟨g, b, b', g', hopposite, _, notMem_union_iff.mpr (Or.inl rfl), hbc, hcb⟩
    · obtain ⟨hopposite, ⟨hneighbor, htwoHop, -⟩, hbc, hcb⟩ := hexagon_iff.mp hhexagon
      exact ⟨g, b, b', g', hopposite, c, notMem_union_iff.mpr (Or.inr ⟨hneighbor, htwoHop⟩),
        hbc, hcb⟩

/-- The search tells whether there is a hexagon, except where this node closes two opposite edges
itself and there is none. -/
theorem hexagonSearch_iff (d : OlsrDefenseGcop) (s : OlsrState) (hattached : d.attached = true) :
    (d.runGcohpAlgorithm s = true ↔ ∃ g b c b' g', d.Hexagon s g b c b' g') ↔
      (d.ClosedBySelf s → ∃ g b c b' g', d.Hexagon s g b c b' g') := by
  rw [runGcohpAlgorithm_iff_hexagon hattached, or_iff_right_iff_imp]

/-- Two nodes that this node had as multipoint relays have moved behind its neighbors 2 and 3. -/
def movedRelays : OlsrState where
  neighborSet := [⟨2, .sym, .default⟩, ⟨3, .sym, .default⟩]
  twoHopNeighborSet := [⟨2, 4, 0⟩, ⟨3, 5, 0⟩]
  topologySet := [⟨1, 4, 0, 0⟩, ⟨1, 5, 0, 0⟩]

/-- Nobody that a blue node is linked with is farther out. -/
lemma movedRelays_closers : ∀ b ∈ (({} : OlsrDefenseGcop).setup 1).blues movedRelays,
    ∀ c ∈ (({} : OlsrDefenseGcop).setup 1).fullGraph movedRelays b,
      c = 1 ∨ c ∈ (({} : OlsrDefenseGcop).setup 1).greens movedRelays := by
  have hblues : (({} : OlsrDefenseGcop).setup 1).blues movedRelays = {4, 5} := by decide +kernel
  have hgreens : (({} : OlsrDefenseGcop).setup 1).greens movedRelays = {2, 3} := by decide +kernel
  have hfour : (({} : OlsrDefenseGcop).setup 1).fullGraph movedRelays 4 = {1, 2} := by
    decide +kernel
  have hfive : (({} : OlsrDefenseGcop).setup 1).fullGraph movedRelays 5 = {1, 3} := by
    decide +kernel
  intro b hb c hc
  rw [hgreens]
  rw [hblues, Finset.mem_insert, Finset.mem_singleton] at hb
  rcases hb with rfl | rfl
  · rw [hfour, Finset.mem_insert, Finset.mem_singleton] at hc
    rcases hc with rfl | rfl
    · exact Or.inl rfl
    · exact Or.inr (Finset.mem_insert_self _ _)
  · rw [hfive, Finset.mem_insert, Finset.mem_singleton] at hc
    rcases hc with rfl | rfl
    · exact Or.inl rfl
    · exact Or.inr (Finset.mem_insert_of_mem (Finset.mem_singleton_self _))

/-- Five nodes are taken for a hexagon. -/
theorem movedRelays_not_hexagon :
    (({} : OlsrDefenseGcop).setup 1).runGcohpAlgorithm movedRelays = true ∧
      ¬ ∃ g b c b' g', (({} : OlsrDefenseGcop).setup 1).Hexagon movedRelays g b c b' g' := by
  refine ⟨by decide +kernel, ?_⟩
  rintro ⟨g, b, c, b', g', h⟩
  have hdistinct := h.distinct
  simp only [List.nodup_cons, List.mem_cons, List.not_mem_nil, or_false, not_or] at hdistinct
  have hblue := mem_blues.mpr ⟨Ne.symm hdistinct.1.2.1, h.twoHop.1, h.beyond.1⟩
  rcases movedRelays_closers b hblue c (knownGraph_adj.mp h.edges.2.1).2 with hself | hgreen
  · exact h.farther.2.2 hself
  · exact h.farther.1 (mem_greens.mp hgreen).2

theorem movedRelays_hexagonSearch_iff :
    ((({} : OlsrDefenseGcop).setup 1).runGcohpAlgorithm movedRelays = true ↔
        ∃ g b c b' g', (({} : OlsrDefenseGcop).setup 1).Hexagon movedRelays g b c b' g') ↔
      ((({} : OlsrDefenseGcop).setup 1).ClosedBySelf movedRelays →
        ∃ g b c b' g', (({} : OlsrDefenseGcop).setup 1).Hexagon movedRelays g b c b' g') :=
  hexagonSearch_iff _ _ rfl

end OlsrDefenseGcop

end ManetOlsr
