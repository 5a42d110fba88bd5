/-
The contradiction rules as statements about what is known.

The rules read which addresses are neighbors, which claims of neighbors are stored, and which ends the
topology tuples have (`SameEvidence`); neither the order of the vectors nor the number of times that a
tuple comes in them matters.  The sweep of the second rule over the adjacency sets is a search for a
node that no topology tuple links with a selector of the sender.
-/
import ManetOlsr.Model.Gcop

namespace ManetOlsr

namespace OlsrDefenseGcop

open Lib

/-- A topology tuple has these ends. -/
def Advertises (s : OlsrState) (lastAddr destAddr : Ipv4Address) : Prop :=
  ∃ tp ∈ s.topologySet, tp.lastAddr = lastAddr ∧ tp.destAddr = destAddr

/-- One of the rules fires for a sender. -/
def violates (d : OlsrDefenseGcop) (s : OlsrState) (senderAddress : Ipv4Address) : Bool :=
  d.checkRule1 s senderAddress || checkRule2 s senderAddress || d.checkRule3 s senderAddress

variable {d : OlsrDefenseGcop} {s s' : OlsrState} {a m x z : Ipv4Address}

/-! ### What the rules look up -/

lemma mem_claimedBy : a ∈ claimedBy s m ↔
    ∃ t ∈ s.twoHopNeighborSet, t.neighborMainAddr = m ∧ t.twoHopNeighborAddr = a := by
  simp only [claimedBy, List.mem_map, List.mem_filter, beq_iff_eq, and_assoc]

lemma any_neighborMainAddr :
    (s.neighborSet.any fun nei => nei.neighborMainAddr == a) = true ↔ IsNeighbor s a := by
  simp only [List.any_eq_true, beq_iff_eq, IsNeighbor]

lemma mem_neighborMainAddrs :
    a ∈ (s.neighborSet.map NeighborTuple.neighborMainAddr).toFinset ↔ IsNeighbor s a := by
  rw [List.mem_toFinset, List.mem_map]
  rfl

lemma any_claim : (s.twoHopNeighborSet.any fun v =>
    v.neighborMainAddr == m && v.twoHopNeighborAddr == a) = true ↔ a ∈ claimedBy s m := by
  simp only [List.any_eq_true, Bool.and_eq_true, beq_iff_eq, mem_claimedBy]

lemma mem_groupM : m ∈ groupM s x ↔ Advertises s m x := by
  simp only [groupM, List.mem_toFinset, List.mem_map, List.mem_filter, beq_iff_eq, Advertises]
  constructor
  · rintro ⟨tp, ⟨htp, hdest⟩, hlast⟩
    exact ⟨tp, htp, hlast, hdest⟩
  · rintro ⟨tp, htp, hlast, hdest⟩
    exact ⟨tp, ⟨htp, hdest⟩, hlast⟩

lemma mem_topoAdj : m ∈ topoAdj s z ↔ Advertises s z m ∨ Advertises s m z := by
  have hrepresents := Graph.foldl_link (fun tp : TopologyTuple => (tp.lastAddr, tp.destAddr))
    s.topologySet represents_nil z m
  simp only [List.nil_append, List.mem_map, Prod.mk.injEq] at hrepresents
  exact hrepresents

lemma mem_groupZ : z ∈ groupZ s x ↔
    (∃ n ∈ claimedBy s x, Advertises s n z ∨ Advertises s z n) ∧
      z ∉ claimedBy s x ∧ ¬ IsNeighbor s z := by
  rw [groupZ, Finset.mem_sdiff, Finset.mem_sdiff, mem_neighborMainAddrs, List.mem_toFinset,
    List.mem_flatMap, groupN, List.mem_toFinset, and_assoc]
  refine and_congr_left fun _ => ?_
  constructor
  · rintro ⟨tp, htp, hmem⟩
    rw [List.mem_append] at hmem
    rcases hmem with hmem | hmem
    · split_ifs at hmem with hclaimed
      · rw [List.mem_toFinset] at hclaimed
        exact ⟨_, hclaimed, Or.inl ⟨tp, htp, rfl, (List.mem_singleton.mp hmem).symm⟩⟩
      · exact absurd hmem List.not_mem_nil
    · split_ifs at hmem with hclaimed
      · rw [List.mem_toFinset] at hclaimed
        exact ⟨_, hclaimed, Or.inr ⟨tp, htp, (List.mem_singleton.mp hmem).symm, rfl⟩⟩
      · exact absurd hmem List.not_mem_nil
  · rintro ⟨n, hclaimed, ⟨tp, htp, rfl, rfl⟩ | ⟨tp, htp, rfl, rfl⟩⟩
    · exact ⟨tp, htp, by simp [hclaimed]⟩
    · exact ⟨tp, htp, by simp [hclaimed]⟩

lemma findTopologyTuple_isSome {destAddr lastAddr : Ipv4Address} :
    (s.findTopologyTuple destAddr lastAddr).isSome = true ↔ Advertises s lastAddr destAddr := by
  simp only [OlsrState.findTopologyTuple, List.find?_isSome, TopologyTuple.key, beq_iff_eq,
    Prod.mk.injEq, Advertises]
  simp only [and_comm]

/-! ### The rules -/

lemma checkRule1_iff : d.checkRule1 s x = true ↔ ∃ a ∈ claimedBy s x,
    IsNeighbor s a ∧ x ∉ claimedBy s a ∨ ¬ IsNeighbor s a ∧ a = d.fakeAddress := by
  rw [checkRule1, List.any_eq_true]
  refine exists_congr fun a => and_congr_right fun _ => ?_
  by_cases hneighbor : IsNeighbor s a
  · rw [if_pos (any_neighborMainAddr.mpr hneighbor), Bool.not_eq_true', ← Bool.not_eq_true,
      any_claim]
    tauto
  · rw [if_neg (fun h => hneighbor (any_neighborMainAddr.mp h)), beq_iff_eq]
    tauto

/-- The sweep leaves a node that is linked with no selector of the sender. -/
lemma checkRule2_iff : checkRule2 s x = true ↔
    ∃ z ∈ groupZ s x, ∀ m ∈ groupM s x, m ∉ topoAdj s z := by
  rw [checkRule2, decide_eq_true_eq, ← Finset.nonempty_iff_ne_empty]
  constructor
  · rintro ⟨z, hz⟩
    obtain ⟨hz, hswept⟩ := Finset.mem_filter.mp hz
    refine ⟨z, hz, fun m hm hadj => ?_⟩
    exact Finset.eq_empty_iff_forall_notMem.mp hswept m (Finset.mem_inter.mpr ⟨hm, hadj⟩)
  · rintro ⟨z, hz, hnobody⟩
    refine ⟨z, Finset.mem_filter.mpr ⟨hz, ?_⟩⟩
    rw [Finset.eq_empty_iff_forall_notMem]
    intro m hm
    exact hnobody m (Finset.mem_inter.mp hm).1 (Finset.mem_inter.mp hm).2

/-- The repositories agree in what the rules read. -/
structure SameEvidence (s s' : OlsrState) : Prop where
  neighbor : ∀ a, IsNeighbor s a ↔ IsNeighbor s' a
  claimed : ∀ m a, a ∈ claimedBy s m ↔ a ∈ claimedBy s' m
  advertises : ∀ u v, Advertises s u v ↔ Advertises s' u v

namespace SameEvidence

lemma groupM_eq (h : SameEvidence s s') (x : Ipv4Address) : groupM s x = groupM s' x := by
  ext m
  rw [mem_groupM, mem_groupM, h.advertises]

lemma groupZ_eq (h : SameEvidence s s') (x : Ipv4Address) : groupZ s x = groupZ s' x := by
  ext z
  simp only [mem_groupZ, h.neighbor, h.claimed, h.advertises]

lemma checkRule1_eq (h : SameEvidence s s') (d : OlsrDefenseGcop) (x : Ipv4Address) :
    d.checkRule1 s x = d.checkRule1 s' x := by
  rw [Bool.eq_iff_iff, checkRule1_iff, checkRule1_iff]
  simp only [h.neighbor, h.claimed]

lemma checkRule2_eq (h : SameEvidence s s') (x : Ipv4Address) :
    checkRule2 s x = checkRule2 s' x := by
  rw [Bool.eq_iff_iff, checkRule2_iff, checkRule2_iff, h.groupM_eq, h.groupZ_eq]
  simp only [mem_topoAdj, h.advertises]

/-- The sets whose sizes the third rule compares are the same. -/
lemma checkRule3_eq (h : SameEvidence s s') (d : OlsrDefenseGcop) (x : Ipv4Address) :
    d.checkRule3 s x = d.checkRule3 s' x := by
  have hneighbors : (s.neighborSet.map NeighborTuple.neighborMainAddr).toFinset =
      (s'.neighborSet.map NeighborTuple.neighborMainAddr).toFinset := by
    ext a
    rw [mem_neighborMainAddrs, mem_neighborMainAddrs, h.neighbor]
  have hreachable : ((claimedBy s x).filter fun a => !(a == d.mainAddress)).toFinset =
      ((claimedBy s' x).filter fun a => !(a == d.mainAddress)).toFinset := by
    ext a
    rw [List.mem_toFinset, List.mem_toFinset, List.mem_filter, List.mem_filter, h.claimed]
  -- The targets are the other ends of the tuples that this node has not originated.
  have hmem : ∀ (s : OlsrState) (a : Ipv4Address),
      a ∈ ((s.topologySet.filter fun tp => !(tp.lastAddr == d.mainAddress)).map
        TopologyTuple.destAddr).toFinset ↔ ∃ u, u ≠ d.mainAddress ∧ Advertises s u a := by
    intro s a
    simp only [List.mem_toFinset, List.mem_map, List.mem_filter, Bool.not_eq_true',
      beq_eq_false_iff_ne, Advertises]
    constructor
    · rintro ⟨tp, ⟨htp, hne⟩, rfl⟩
      exact ⟨_, hne, tp, htp, rfl, rfl⟩
    · rintro ⟨u, hne, tp, htp, rfl, rfl⟩
      exact ⟨tp, ⟨htp, hne⟩, rfl⟩
  have htargets : ((s.topologySet.filter fun tp => !(tp.lastAddr == d.mainAddress)).map
      TopologyTuple.destAddr).toFinset = ((s'.topologySet.filter fun tp =>
        !(tp.lastAddr == d.mainAddress)).map TopologyTuple.destAddr).toFinset := by
    ext a
    simp only [hmem, h.advertises]
  rw [checkRule3, checkRule3, hneighbors, hreachable, htargets]

/-- The verdict is a function of the evidence. -/
lemma violates_eq (h : SameEvidence s s') (d : OlsrDefenseGcop) (x : Ipv4Address) :
    d.violates s x = d.violates s' x := by
  rw [violates, violates, h.checkRule1_eq, h.checkRule2_eq, h.checkRule3_eq]

end SameEvidence

/-- Permuting a vector and duplicating its elements leaves the elements the same. -/
structure SameElements (s s' : OlsrState) : Prop where
  neighborSet : ∀ nei, nei ∈ s.neighborSet ↔ nei ∈ s'.neighborSet
  twoHopNeighborSet : ∀ t, t ∈ s.twoHopNeighborSet ↔ t ∈ s'.twoHopNeighborSet
  topologySet : ∀ tp, tp ∈ s.topologySet ↔ tp ∈ s'.topologySet

lemma SameElements.sameEvidence (h : SameElements s s') : SameEvidence s s' where
  neighbor a := by simp only [IsNeighbor, h.neighborSet]
  claimed m a := by simp only [mem_claimedBy, h.twoHopNeighborSet]
  advertises u v := by simp only [Advertises, h.topologySet]

/-- The second rule fires for a node beyond the claimed ones that no selector of the sender is linked
with, and the verdict does not depend on the order of the vectors or on repeated elements. -/
theorem contradictionRules_spec (d : OlsrDefenseGcop) (s : OlsrState) (senderAddress : Ipv4Address) :
    (checkRule2 s senderAddress = true ↔ ∃ z,
      (∃ n ∈ claimedBy s senderAddress, Advertises s n z ∨ Advertises s z n) ∧
      z ∉ claimedBy s senderAddress ∧ ¬ IsNeighbor s z ∧
      ¬ ∃ m, Advertises s m senderAddress ∧
        ((s.findTopologyTuple z m).isSome = true ∨ (s.findTopologyTuple m z).isSome = true)) ∧
    ∀ s', SameElements s s' → d.evaluateContradictionRules s' senderAddress =
      d.evaluateContradictionRules s senderAddress := by
  constructor
  · rw [checkRule2_iff]
    refine exists_congr fun z => ?_
    rw [mem_groupZ, and_assoc, and_assoc]
    refine and_congr_right fun _ => and_congr_right fun _ => and_congr_right fun _ => ?_
    simp only [mem_groupM, mem_topoAdj, findTopologyTuple_isSome, not_exists, not_and]
    refine forall_congr' fun m => imp_congr_right fun _ => not_congr ?_
    rw [or_comm]
  · intro s' h
    have hviolates := h.sameEvidence.violates_eq d senderAddress
    rw [violates, violates] at hviolates
    rw [evaluateContradictionRules, evaluateContradictionRules, hviolates]

/-- Node 2 claims the node 4, which is linked with the node 5. -/
def claimingSender : OlsrState where
  neighborSet := [⟨2, .sym, .default⟩, ⟨3, .sym, .default⟩]
  twoHopNeighborSet := [⟨2, 4, 0⟩]
  topologySet := [⟨5, 4, 0, 0⟩, ⟨2, 4, 0, 0⟩]

theorem claimingSender_verdict :
    (({ enabled := true } : OlsrDefenseGcop).setup 1).evaluateContradictionRules
        { claimingSender with
          neighborSet := [⟨3, .sym, .default⟩, ⟨2, .sym, .default⟩, ⟨3, .sym, .default⟩] } 2 =
      (({ enabled := true } : OlsrDefenseGcop).setup 1).evaluateContradictionRules
        claimingSender 2 := by
  refine (contradictionRules_spec _ claimingSender 2).2 _ ⟨fun nei => ?_, fun _ => Iff.rfl,
    fun _ => Iff.rfl⟩
  simp only [claimingSender, List.mem_cons, List.not_mem_nil, or_false]
  tauto

end OlsrDefenseGcop

end ManetOlsr
