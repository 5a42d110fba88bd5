/-
The table that avoids suspects.

The core leaves out the neighbors and the topology tuples of the excluded addresses, but not their
2-hop tuples: it relies on there being no entry for an excluded announcer.  There is one when the
announcer is itself the 2-hop neighbor of somebody else, or an interface of another neighbor.  A
neighbor is left out by its main address only, so that it stays when the strategy has excluded the
interface that its messages come from.
-/
import ManetOlsr.Model.Frames
import ManetOlsr.Model.Gcop
import ManetOlsr.Model.Scenario
import ManetOlsr.Model.TablePasses

namespace ManetOlsr

open Lib (Holds)

namespace Node

variable {D : Type} (n : Node D) (suspects : Finset Ipv4Address)

/-- An address of a node that is a suspect under one of its addresses. -/
def BelongsToSuspect (a : Ipv4Address) : Prop :=
  ∃ b ∈ suspects, n.getMainAddress b = n.getMainAddress a

/-- An entry was not learnt from a suspect, and does not lead over one. -/
structure AvoidsSuspects (e : RoutingTableEntry) : Prop where
  nextHop : ¬ n.BelongsToSuspect suspects e.nextAddr
  twoHop : ∀ t, e.origin = Origin.twoHop t → ¬ n.BelongsToSuspect suspects t.neighborMainAddr
  topology : ∀ t, e.origin = Origin.topology t → t.lastAddr ∉ suspects

/-- A neighbor that step 2 uses is suspect under none of its addresses. -/
def NeighborTold (nb : NeighborTuple) : Prop :=
  ∀ b ∈ suspects, n.getMainAddress b ≠ nb.neighborMainAddr

/-- What step 3 has an entry for when it has gone through the 2-hop tuples of a list: the
interfaces and main addresses of the neighbors that are no suspects, and the 2-hop neighbors
announced by an address that had an entry before. -/
inductive Known : List TwoHopNeighborTuple → Ipv4Address → Prop where
  | neighbor {ts : List TwoHopNeighborTuple} {nb : NeighborTuple} {l : LinkTuple}
      {a : Ipv4Address} (h : n.ReachesNeighbor suspects nb l)
      (ha : a = l.neighborIfaceAddr ∨ a = nb.neighborMainAddr) : Known ts a
  | twoHop {pre post : List TwoHopNeighborTuple} {t : TwoHopNeighborTuple}
      (husable : n.usableTwoHop t = true) (h : Known pre t.neighborMainAddr) :
      Known (pre ++ t :: post) t.twoHopNeighborAddr

/-- Each 2-hop tuple of a suspect for which step 3 has an entry is followed by one to the same
2-hop neighbor, of an announcer that is no suspect. -/
def SuspectTuplesReplaced : Prop :=
  ∀ pre t post, n.state.twoHopNeighborSet = pre ++ t :: post → n.usableTwoHop t = true →
    n.Known suspects pre t.neighborMainAddr → n.BelongsToSuspect suspects t.neighborMainAddr →
    ∃ p t' q, post = p ++ t' :: q ∧ n.usableTwoHop t' = true ∧
      n.Known suspects (pre ++ t :: p) t'.neighborMainAddr ∧
      t'.twoHopNeighborAddr = t.twoHopNeighborAddr ∧
      ¬ n.BelongsToSuspect suspects t'.neighborMainAddr

variable {n suspects}

/-! ### Destinations -/

/-- Step 3 has an entry for the addresses that are known, and for no others. -/
lemma known_iff {ts : List TwoHopNeighborTuple} {a : Ipv4Address} :
    n.Known suspects ts a ↔ ((ts.foldl n.twoHopStep (n.neighborTable suspects)) a).isSome := by
  rw [twoHopStep_eq]
  constructor
  · intro h
    induction h with
    | neighbor hreach ha =>
      exact (Lib.isSome_foldl_write_iff _ _ _).mpr
        (Or.inl (isSome_neighborTable_iff.mpr ⟨_, _, hreach, ha⟩))
    | twoHop husable _ ih =>
      obtain ⟨e, he⟩ := Option.isSome_iff_exists.mp ih
      exact (Lib.isSome_foldl_write_iff _ _ _).mpr
        (Or.inr ⟨_, _, _, _, rfl, twoHopWrite_eq_some.mpr ⟨husable, rfl, e, he, rfl⟩⟩)
  · -- The announcer of the tuple that wrote the entry had one after a shorter list.
    intro h
    induction hlen : ts.length using Nat.strong_induction_on generalizing ts a with
    | _ len ih =>
      rcases (Lib.isSome_foldl_write_iff _ _ _).mp h with hneighbor | ⟨pre, t, post, v, rfl, hw⟩
      · obtain ⟨nb, l, hreach, ha⟩ := isSome_neighborTable_iff.mp hneighbor
        exact .neighbor hreach ha
      · obtain ⟨husable, rfl, e, he, -⟩ := twoHopWrite_eq_some.mp hw
        have hshorter : pre.length < len := by
          rw [← hlen, List.length_append, List.length_cons]
          omega
        refine .twoHop husable (ih pre.length hshorter ?_ rfl)
        rw [he, Option.isSome_some]

/-! ### Next hops and topology tuples -/

/-- The next hops are interfaces of the neighbors that step 2 uses, and the topology tuples are never
those of suspects. -/
lemma coreTable_nextIface {Q : Ipv4Address → Prop}
    (hQ : ∀ nb l, n.ReachesNeighbor suspects nb l → Q l.neighborIfaceAddr) : Holds
    (fun _ e => Q e.nextAddr ∧ ∀ t, e.origin = Origin.topology t → t.lastAddr ∉ suspects)
    (n.coreTable suspects) := by
  refine coreTable_holds (topologyTable_holds (twoHopTable_holds (neighborTable_holds ?_) ?_) ?_) ?_
  · intro nb l dest hreach _
    exact ⟨hQ nb l hreach, fun t ht => by cases ht⟩
  · intro t _ _ e he
    exact ⟨he.1, fun t' ht' => by cases ht'⟩
  · intro t _ hlast e _ he
    refine ⟨he.1, fun t' ht' => ?_⟩
    cases ht'
    exact hlast
  · intro t _ e he
    exact he

lemma ReachesNeighbor.getMainAddress {nb : NeighborTuple} {l : LinkTuple}
    (h : n.ReachesNeighbor suspects nb l) :
    n.getMainAddress l.neighborIfaceAddr = nb.neighborMainAddr :=
  (mem_neighborLinks.mp h.link).2.1

/-- The main addresses of the next hops are never those of suspects. -/
lemma coreTable_nextHop : Holds
    (fun _ e => n.getMainAddress e.nextAddr ∉ suspects ∧
      ∀ t, e.origin = Origin.topology t → t.lastAddr ∉ suspects) (n.coreTable suspects) := by
  refine coreTable_nextIface (Q := fun a => n.getMainAddress a ∉ suspects) fun nb l hreach => ?_
  rw [hreach.getMainAddress]
  exact hreach.notExcluded

/-- The entry for a neighbor under its own main address stays until the end, and leads over one of
its interfaces. -/
lemma coreTable_neighbor {nb : NeighborTuple} {l : LinkTuple}
    (hreach : n.ReachesNeighbor suspects nb l)
    (hown : n.getMainAddress nb.neighborMainAddr = nb.neighborMainAddr) :
    ∃ e, n.coreTable suspects nb.neighborMainAddr = some e ∧
      n.getMainAddress e.nextAddr = nb.neighborMainAddr := by
  have hleads : Holds (fun a e => (n.state.findSymNeighborTuple a).isSome = true →
      n.getMainAddress a = a → n.getMainAddress e.nextAddr = a) (n.twoHopTable suspects) := by
    refine twoHopTable_holds (neighborTable_holds ?_) ?_
    · rintro nb' l' dest hreach' (rfl | rfl) _ hself
      · exact hself
      · exact hreach'.getMainAddress
    · -- Step 3 passes over the main addresses of symmetric neighbors.
      intro t _ husable e _ hsym
      simp [usableTwoHop, hsym] at husable
  -- From step 3.1 on, entries are kept.
  obtain ⟨e, he⟩ := Option.isSome_iff_exists.mp
    (known_iff.mp (.neighbor hreach (Or.inr rfl) : n.Known suspects _ nb.neighborMainAddr))
  exact ⟨e, coreTable_keeps _ _ (topologyTable_keeps _ _ he),
    hleads _ e he (findSymNeighborTuple_isSome hreach.mem hreach.sym) hown⟩

/-! ### Two-hop tuples -/

/-- A 2-hop tuple writes an entry exactly if it may be used and its announcer is known. -/
lemma exists_twoHopWrite_iff {ts : List TwoHopNeighborTuple} {t : TwoHopNeighborTuple}
    {a : Ipv4Address} :
    (∃ v, n.twoHopWrite (ts.foldl (Lib.write n.twoHopWrite) (n.neighborTable suspects)) t =
        some (a, v)) ↔
      n.usableTwoHop t = true ∧ n.Known suspects ts t.neighborMainAddr ∧
        a = t.twoHopNeighborAddr := by
  rw [known_iff, Option.isSome_iff_exists, twoHopStep_eq]
  constructor
  · rintro ⟨v, hw⟩
    obtain ⟨husable, ha, e, he, -⟩ := twoHopWrite_eq_some.mp hw
    exact ⟨husable, ⟨e, he⟩, ha⟩
  · rintro ⟨husable, ⟨e, he⟩, ha⟩
    exact ⟨_, twoHopWrite_eq_some.mpr ⟨husable, ha, e, he, rfl⟩⟩

variable (n suspects) in
/-- An entry was not learnt from a 2-hop tuple of a suspect. -/
def NotByTwoHop (_ : Ipv4Address) (e : RoutingTableEntry) : Prop :=
  ∀ t, e.origin = Origin.twoHop t → ¬ n.BelongsToSuspect suspects t.neighborMainAddr

/-- Step 3 learns from no suspect exactly if the tuples of suspects are replaced: an entry stays as the
last tuple to its address has written it. -/
lemma twoHopTable_iff :
    Holds (n.NotByTwoHop suspects) (n.twoHopTable suspects) ↔ n.SuspectTuplesReplaced suspects := by
  have hneighbors : Holds (n.NotByTwoHop suspects) (n.neighborTable suspects) :=
    neighborTable_holds fun nb l dest _ _ t ht => by cases ht
  rw [twoHopTable, twoHopStep_eq, Lib.holds_foldl_write_iff _ hneighbors]
  constructor
  · intro h pre t post hts husable hknown hsuspect
    obtain ⟨v, hw⟩ := exists_twoHopWrite_iff.mpr ⟨husable, hknown, rfl⟩
    obtain ⟨-, -, e, -, hv⟩ := twoHopWrite_eq_some.mp hw
    obtain ⟨p, t', q, v', hpost, hw', hgood⟩ := h pre t post _ v hts hw
      fun hgood => hgood t (by rw [hv]) hsuspect
    obtain ⟨husable', hknown', haddr⟩ := exists_twoHopWrite_iff.mp ⟨v', hw'⟩
    obtain ⟨-, -, e', -, hv'⟩ := twoHopWrite_eq_some.mp hw'
    exact ⟨p, t', q, hpost, husable', hknown', haddr.symm, hgood t' (by rw [hv'])⟩
  · intro h pre t post a v hts hw hbad
    obtain ⟨husable, hknown, rfl⟩ := exists_twoHopWrite_iff.mp ⟨v, hw⟩
    obtain ⟨-, -, e, -, hv⟩ := twoHopWrite_eq_some.mp hw
    have hsuspect : n.BelongsToSuspect suspects t.neighborMainAddr := by
      by_contra hno
      refine hbad fun t' ht' => ?_
      rw [hv] at ht'
      cases ht'
      exact hno
    obtain ⟨p, t', q, hpost, husable', hknown', haddr, hgood⟩ :=
      h pre t post hts husable hknown hsuspect
    obtain ⟨v', hw'⟩ := exists_twoHopWrite_iff.mpr ⟨husable', hknown', haddr.symm⟩
    obtain ⟨-, -, e', -, hv'⟩ := twoHopWrite_eq_some.mp hw'
    refine ⟨p, t', q, v', hpost, hw', fun t'' ht'' => ?_⟩
    rw [hv'] at ht''
    cases ht''
    exact hgood

/-- The later steps keep the entries of step 3, and learn none from a 2-hop tuple. -/
lemma coreTable_twoHop_iff :
    Holds (n.NotByTwoHop suspects) (n.coreTable suspects) ↔ n.SuspectTuplesReplaced suspects := by
  rw [← twoHopTable_iff]
  constructor
  · intro h
    exact h.of_keeps (topologyTable_keeps.trans coreTable_keeps)
  · intro h
    refine coreTable_holds (topologyTable_holds h ?_) fun t _ e he => he
    intro t _ _ e _ _ t' ht'
    cases ht'

/-- The core avoids the suspects if it can tell them from the neighbors by their main addresses, and
their 2-hop tuples are replaced. -/
lemma coreTable_avoids
    (htold : ∀ nb l, n.ReachesNeighbor suspects nb l → n.NeighborTold suspects nb)
    (hreplaced : n.SuspectTuplesReplaced suspects) {a : Ipv4Address} {e : RoutingTableEntry}
    (he : n.coreTable suspects a = some e) : n.AvoidsSuspects suspects e := by
  have hnext : ∀ nb l, n.ReachesNeighbor suspects nb l →
      ¬ n.BelongsToSuspect suspects l.neighborIfaceAddr := by
    rintro nb l hreach ⟨b, hb, hmain⟩
    exact htold nb l hreach b hb (hmain.trans hreach.getMainAddress)
  obtain ⟨hiface, htopology⟩ :=
    coreTable_nextIface (Q := fun a => ¬ n.BelongsToSuspect suspects a) hnext a e he
  exact ⟨hiface, coreTable_twoHop_iff.mpr hreplaced a e he, htopology⟩

/-- A suspect that step 2 uses is the next hop to itself. -/
lemma told_of_coreTable_avoids
    (havoids : ∀ a e, n.coreTable suspects a = some e → n.AvoidsSuspects suspects e)
    {nb : NeighborTuple} {l : LinkTuple} (hreach : n.ReachesNeighbor suspects nb l)
    (hown : n.getMainAddress nb.neighborMainAddr = nb.neighborMainAddr) :
    n.NeighborTold suspects nb := by
  intro b hb hmain
  obtain ⟨e, he, hnext⟩ := coreTable_neighbor hreach hown
  exact (havoids _ e he).nextHop ⟨b, hb, hmain.trans hnext.symm⟩

end Node

section Examples

open Scenario

/-- Nodes 2 and 3 announce each other.  A TC message makes two destinations known, so that node 2
is cleared; node 3, which announces three nodes that nobody else knows, is flagged when it declares
its link lost, and is then a 2-hop neighbor over node 2. -/
def suspectBehindNeighbor : Run OlsrDefenseGcop where
  config :=
    { (quiet : Config OlsrDefenseGcop) with defenseStrategy := some { enabled := true } }
  jitter := 0
  labels := [recv 0 2 (hello 2 [symLinks [1, 3]]), recv 0 2 (flooded 7 1 (.tc ⟨[8, 9], 1⟩)),
    recv 0 3 (hello 3 [symLinks [1, 2, 4, 5, 6]]), recv 0 2 (hello 2 [symLinks [1, 3]]),
    recv 0 3 (hello 3 [lostLinks [1]])]
  isJitter := by decide
  isRun := by decide +kernel

/-- The node before the last computation of its tables. -/
def suspectBehindNeighbor.node : Node OlsrDefenseGcop :=
  (suspectBehindNeighbor.trace.get ⟨14, by decide +kernel⟩).1

/-- Node 2 has an interface 12, under which it is flagged. -/
def suspectInterface : Run OlsrDefenseGcop where
  config := suspectBehindNeighbor.config
  jitter := 0
  labels := [recv 0 3 (hello 3 [symLinks [1, 4]]), recv 0 12 (hello 2 [symLinks [1]]),
    recv 0 12 (flooded 2 1 (.mid ⟨[12]⟩)), recv 0 12 (hello 2 [symLinks [1, 4]]),
    recv 0 3 (flooded 7 1 (.tc ⟨[8, 9], 1⟩)), recv 0 3 (hello 3 [symLinks [1, 4]])]
  isJitter := by decide
  isRun := by decide +kernel

/-- The node before the last computation of its tables. -/
def suspectInterface.node : Node OlsrDefenseGcop :=
  (suspectInterface.trace.get ⟨17, by decide +kernel⟩).1

end Examples

end ManetOlsr
