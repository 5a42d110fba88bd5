/-
The paths behind the entries of the routing table.

`KnownPath` is what an entry stands for: a path through the repositories that leaves over a link of
a symmetric neighbor, goes on with a 2-hop tuple of a symmetric neighbor, and then with topology
tuples only.  The core checks that the announcer of a 2-hop tuple is a neighbor, but not that it
is a symmetric one: `FromStale` says which entries go back to a 2-hop tuple whose announcer is
not.  All others have a path of just as many hops as their distance.
-/
import ManetOlsr.Model.Frames
import ManetOlsr.Model.Scenario
import ManetOlsr.Model.TablePasses
import Mathlib.Logic.Relation

namespace ManetOlsr

namespace Node

variable {D : Type} (n : Node D)

/-- A path of `h` hops to an address, with the interface `next` at the end of the first hop.
`live` tells which links may be the first hop. -/
inductive KnownPath (live : LinkTuple → Prop) :
    (dest next : Ipv4Address) → (h : ℕ) → Prop where
  | link {nb : NeighborTuple} {l : LinkTuple} {dest : Ipv4Address}
      (hnb : nb ∈ n.state.neighborSet) (hsym : nb.status = Status.sym)
      (hl : l ∈ n.state.linkSet)
      (hmain : n.getMainAddress l.neighborIfaceAddr = nb.neighborMainAddr) (hlive : live l)
      (hdest : dest = l.neighborIfaceAddr ∨ dest = nb.neighborMainAddr) :
      KnownPath live dest l.neighborIfaceAddr 1
  | twoHop {t : TwoHopNeighborTuple} {next : Ipv4Address}
      (ht : t ∈ n.state.twoHopNeighborSet)
      (hsym : (n.state.findSymNeighborTuple t.neighborMainAddr).isSome)
      (path : KnownPath live t.neighborMainAddr next 1) :
      KnownPath live t.twoHopNeighborAddr next 2
  | topology {t : TopologyTuple} {next : Ipv4Address} {h : ℕ}
      (ht : t ∈ n.state.topologySet) (hh : 2 ≤ h) (path : KnownPath live t.lastAddr next h) :
      KnownPath live t.destAddr next (h + 1)

/-- The entry of a table for an address goes back to a 2-hop tuple whose announcer is not a
symmetric neighbor: it was learnt from one, or from a topology tuple whose last address has such
an entry. -/
inductive FromStale (tbl : Table) : (dest : Ipv4Address) → Prop where
  | twoHop {dest : Ipv4Address} {e : RoutingTableEntry} {t : TwoHopNeighborTuple}
      (he : tbl dest = some e) (horigin : e.origin = Origin.twoHop t)
      (hstale : n.state.findSymNeighborTuple t.neighborMainAddr = none) : FromStale tbl dest
  | topology {dest : Ipv4Address} {e : RoutingTableEntry} {t : TopologyTuple}
      (he : tbl dest = some e) (horigin : e.origin = Origin.topology t)
      (hlast : FromStale tbl t.lastAddr) : FromStale tbl dest

/-- An address stands for another: it is the same, or one leads to it from there by interface
associations. -/
def AliasOf (main iface : Ipv4Address) : Prop :=
  Relation.ReflTransGen
    (fun a b => ∃ t ∈ n.state.ifaceAssocSet, t.mainAddr = a ∧ t.ifaceAddr = b) main iface

variable {n} {live : LinkTuple → Prop} {dest next : Ipv4Address} {h : ℕ}

/-- Every path starts with a live link to its next hop. -/
lemma KnownPath.first_hop (hp : n.KnownPath live dest next h) :
    ∃ l ∈ n.state.linkSet, l.neighborIfaceAddr = next ∧ live l := by
  induction hp with
  | link _ _ hl _ hlive => exact ⟨_, hl, rfl, hlive⟩
  | twoHop _ _ _ ih => exact ih
  | topology _ _ _ ih => exact ih

/-- The last hop of a path of two hops is a 2-hop tuple of a symmetric neighbor. -/
lemma KnownPath.second_hop (hp : n.KnownPath live dest next 2) :
    ∃ t ∈ n.state.twoHopNeighborSet, t.twoHopNeighborAddr = dest ∧
      (n.state.findSymNeighborTuple t.neighborMainAddr).isSome := by
  cases hp with
  | twoHop ht hsym _ => exact ⟨_, ht, rfl, hsym⟩
  | topology _ hh _ => exact absurd hh (by omega)

section FromStale

variable {tbl tbl' : Table}

lemma FromStale.mono (hs : n.FromStale tbl dest) (hk : Lib.Keeps tbl tbl') :
    n.FromStale tbl' dest := by
  induction hs with
  | twoHop he horigin hstale => exact .twoHop (hk _ _ he) horigin hstale
  | topology he horigin _ ih => exact .topology (hk _ _ he) horigin ih

/-- An entry that is copied takes its origin along. -/
lemma FromStale.copy (hs : n.FromStale tbl dest) (hk : Lib.Keeps tbl tbl')
    {e e' : RoutingTableEntry} (he : tbl dest = some e) {dest' : Ipv4Address}
    (he' : tbl' dest' = some e') (horigin : e'.origin = e.origin) : n.FromStale tbl' dest' := by
  cases hs with
  | twoHop he₁ horigin₁ hstale =>
    obtain rfl := Option.some.inj (he.symm.trans he₁)
    exact .twoHop he' (horigin.trans horigin₁) hstale
  | topology he₁ horigin₁ hlast =>
    obtain rfl := Option.some.inj (he.symm.trans he₁)
    exact .topology he' (horigin.trans horigin₁) (hlast.mono hk)

end FromStale

/-! ### The passes -/

variable {excluded : Finset Ipv4Address}

variable (n) in
/-- What step 3 preserves.  Symmetric neighbors are at distance 1: step 3 never writes the address
of one, so that the entry of a symmetric announcer is still the one of step 2. -/
structure NearBacked (dest : Ipv4Address) (e : RoutingTableEntry) : Prop where
  destAddr : e.destAddr = dest
  path : n.KnownPath (fun l => l.time ≥ n.now) dest e.nextAddr e.distance ∨
    ∃ t, e.origin = Origin.twoHop t ∧ n.state.findSymNeighborTuple t.neighborMainAddr = none
  near : (n.state.findSymNeighborTuple dest).isSome → e.distance = 1 ∧
    n.KnownPath (fun l => l.time ≥ n.now) dest e.nextAddr e.distance

lemma neighborTable_backed : Lib.Holds n.NearBacked (n.neighborTable excluded) := by
  refine neighborTable_holds fun nb l dest hreach hdest => ?_
  obtain ⟨hl, hmain, htime⟩ := mem_neighborLinks.mp hreach.link
  have hpath : n.KnownPath (fun l => l.time ≥ n.now) dest l.neighborIfaceAddr 1 :=
    .link hreach.mem hreach.sym hl hmain htime hdest
  exact ⟨rfl, Or.inl hpath, fun _ => ⟨rfl, hpath⟩⟩

lemma twoHopTable_backed : Lib.Holds n.NearBacked (n.twoHopTable excluded) := by
  refine twoHopTable_holds neighborTable_backed fun t ht husable e hbacked => ⟨rfl, ?_, ?_⟩
  · cases hannouncer : n.state.findSymNeighborTuple t.neighborMainAddr with
    | none => exact Or.inr ⟨t, rfl, hannouncer⟩
    | some nb =>
      have hsym : (n.state.findSymNeighborTuple t.neighborMainAddr).isSome := by simp [hannouncer]
      obtain ⟨hdist, hpath⟩ := hbacked.near hsym
      rw [hdist] at hpath
      exact Or.inl (.twoHop ht hsym hpath)
  · intro hsym
    rw [usableTwoHop, Bool.and_assoc, Bool.and_eq_true, Bool.not_eq_true'] at husable
    rw [husable.1] at hsym
    cases hsym

variable (n) in
/-- What step 3.1 preserves: every entry has a path to its address, unless it goes back to a stale
2-hop tuple. -/
def BackedDirectly (tbl : Table) : Prop :=
  ∀ dest e, tbl dest = some e → e.destAddr = dest ∧
    (n.KnownPath (fun l => l.time ≥ n.now) dest e.nextAddr e.distance ∨ n.FromStale tbl dest)

lemma topologyTable_backed : n.BackedDirectly (n.topologyTable excluded) := by
  refine topologyTable_inv ?_ fun tbl htbl t ht _ hunset last hlast hfar => ?_
  · intro dest e he
    have hbacked := twoHopTable_backed dest e he
    refine ⟨hbacked.destAddr, hbacked.path.imp_right ?_⟩
    rintro ⟨t, horigin, hstale⟩
    exact .twoHop he horigin hstale
  · intro dest e he
    have hkeeps := Lib.Keeps.update hunset
      (⟨t.destAddr, last.nextAddr, last.interface, last.distance + 1, Origin.topology t⟩ :
        RoutingTableEntry)
    by_cases hdest : dest = t.destAddr
    · subst hdest
      rw [Function.update_self] at he
      obtain rfl := Option.some.inj he
      refine ⟨rfl, (htbl _ _ hlast).2.imp (fun hpath => .topology ht hfar hpath) fun hstale => ?_⟩
      exact .topology (Function.update_self _ _ _) rfl (hstale.mono hkeeps)
    · rw [Function.update_of_ne hdest] at he
      exact (htbl dest e he).imp_right fun hpath => hpath.imp_right fun hs => hs.mono hkeeps

variable (n) in
/-- What step 4 preserves: the path may be one to an address that stands for the entry's. -/
def Backed (tbl : Table) : Prop :=
  ∀ dest e, tbl dest = some e → e.destAddr = dest ∧
    ((∃ a, n.AliasOf a dest ∧
      n.KnownPath (fun l => l.time ≥ n.now) a e.nextAddr e.distance) ∨ n.FromStale tbl dest)

lemma coreTable_backed : n.Backed (n.coreTable excluded) := by
  refine coreTable_inv ?_ fun tbl htbl t ht hunset main hmain => ?_
  · intro dest e he
    refine (topologyTable_backed dest e he).imp_right fun hpath => hpath.imp_left fun hpath => ?_
    exact ⟨dest, Relation.ReflTransGen.refl, hpath⟩
  · intro dest e he
    have hkeeps := Lib.Keeps.update hunset { main with destAddr := t.ifaceAddr }
    by_cases hdest : dest = t.ifaceAddr
    · subst hdest
      have hself := he
      rw [Function.update_self] at he
      obtain rfl := Option.some.inj he
      refine ⟨rfl, (htbl _ _ hmain).2.imp ?_ fun hstale => hstale.copy hkeeps hmain hself rfl⟩
      rintro ⟨a, halias, hpath⟩
      exact ⟨a, halias.tail ⟨t, ht, rfl, rfl⟩, hpath⟩
    · rw [Function.update_of_ne hdest] at he
      exact (htbl dest e he).imp_right fun hpath => hpath.imp_right fun hs => hs.mono hkeeps

end Node

/-- **Paths behind the routing table.**  In whatever state `ComputeRoutingTableCore` runs with no
excluded addresses, each entry of its table, to an address `dest` with next hop `next` and
distance `h`, is backed by a path of exactly `h` hops that starts with an unexpired link of a
symmetric neighbor to `next`, goes on with a 2-hop tuple announced by a symmetric neighbor, and
then uses stored topology tuples only; or it goes back to a 2-hop tuple whose announcer is not
symmetric.  The alias of a main address counts as the same hop. -/
theorem routingTable_paths {D : Type} (n : Node D) (dest : Ipv4Address) (e : RoutingTableEntry)
    (he : (n.computeRoutingTableCore ∅).table dest = some e) :
    e.destAddr = dest ∧
      ((∃ a, n.AliasOf a dest ∧
        n.KnownPath (fun l => l.time ≥ n.now) a e.nextAddr e.distance) ∨
        n.FromStale (n.computeRoutingTableCore ∅).table dest) :=
  Node.coreTable_backed dest e he

section Examples

open Scenario

/-- Node 2 has a second interface, 3, over which node 1 hears it without being heard. -/
def oneWayInterface : Run OlsrDefenseNull where
  config := single
  jitter := 0
  labels := [recv 0 2 (hello 2 [symLinks [1]]), recv 0 2 (flooded 2 1 (.mid ⟨[3]⟩)),
    recv 0 3 (hello 2 []), recv 0 2 (hello 2 [symLinks [1]])]
  isJitter := single_isJitter
  isRun := by decide +kernel

def oneWayInterface.node : Node OlsrDefenseNull :=
  (oneWayInterface.trace.get ⟨11, by decide +kernel⟩).1

/-- Node 2 announces 3, which announces 4 and then declares its link to node 1 lost. -/
def lostAnnouncer : Run OlsrDefenseNull where
  config := single
  jitter := 0
  labels := [recv 0 2 (hello 2 [symLinks [1, 3]]), recv 0 3 (hello 3 [symLinks [1, 4]]),
    recv 0 3 (hello 3 [lostLinks [1]])]
  isJitter := single_isJitter
  isRun := by decide +kernel

def lostAnnouncer.node : Node OlsrDefenseNull :=
  (lostAnnouncer.trace.get ⟨8, by decide +kernel⟩).1

theorem routingTable_paths_lostAnnouncer :
    (∃ a, lostAnnouncer.node.AliasOf a 3 ∧
      lostAnnouncer.node.KnownPath (fun l => l.time ≥ lostAnnouncer.node.now) a 2 2) ∨
    lostAnnouncer.node.FromStale (lostAnnouncer.node.computeRoutingTableCore ∅).table 3 :=
  (routingTable_paths lostAnnouncer.node 3 ⟨3, 2, 0, 2, .twoHop ⟨2, 3, Seconds 2⟩⟩
    (by decide +kernel)).2

/-- The entry for interface 3 of node 2 starts with a link that is not symmetric; the entry for
node 4 has distance 2, while the way there over 2 and 3 has three hops. -/
theorem routingTable_without_path :
    ((∃ pre post, oneWayInterface.trace =
        pre ++ (oneWayInterface.node, Act.routingTableComputation) :: post) ∧
      ∃ e, (oneWayInterface.node.computeRoutingTableCore ∅).table 3 = some e ∧
        ¬ ∃ a, oneWayInterface.node.AliasOf a 3 ∧
          oneWayInterface.node.KnownPath (fun l => l.symTime ≥ oneWayInterface.node.now) a
            e.nextAddr e.distance) ∧
    (∃ pre post, lostAnnouncer.trace =
        pre ++ (lostAnnouncer.node, Act.routingTableComputation) :: post) ∧
      ∃ e, (lostAnnouncer.node.computeRoutingTableCore ∅).table 4 = some e ∧
        ¬ ∃ a, lostAnnouncer.node.AliasOf a 4 ∧
          lostAnnouncer.node.KnownPath (fun l => l.time ≥ lostAnnouncer.node.now) a
            e.nextAddr e.distance := by
  refine ⟨⟨?_, ⟨3, 3, 0, 1, .link ⟨1, 3, -1000000000, Seconds 2, Seconds 2⟩⟩, by decide +kernel,
    ?_⟩, ?_, ⟨4, 2, 0, 2, .twoHop ⟨3, 4, Seconds 2⟩⟩, by decide +kernel, ?_⟩
  · exact ⟨_, _, Lib.split_at oneWayInterface.trace (by decide +kernel) (by decide +kernel)⟩
  · rintro ⟨a, -, hpath⟩
    obtain ⟨l, hl, hnext, hlive⟩ := hpath.first_hop
    have hexpired : ∀ l ∈ oneWayInterface.node.state.linkSet, l.neighborIfaceAddr = 3 →
        l.symTime < oneWayInterface.node.now := by decide +kernel
    exact absurd hlive (not_le.mpr (hexpired l hl hnext))
  · exact ⟨_, _, Lib.split_at lostAnnouncer.trace (by decide +kernel) (by decide +kernel)⟩
  · rintro ⟨a, halias, hpath⟩
    have hassoc : lostAnnouncer.node.state.ifaceAssocSet = [] := by decide +kernel
    have ha : a = 4 := by
      rcases halias.cases_head with ha | ⟨_, ⟨t, ht, -⟩, -⟩
      · exact ha
      · rw [hassoc] at ht
        exact absurd ht List.not_mem_nil
    subst ha
    obtain ⟨t, ht, hdest, hsym⟩ := hpath.second_hop
    have hlost : ∀ t ∈ lostAnnouncer.node.state.twoHopNeighborSet, t.twoHopNeighborAddr = 4 →
        lostAnnouncer.node.state.findSymNeighborTuple t.neighborMainAddr = none := by
      decide +kernel
    rw [hlost t ht hdest] at hsym
    cases hsym

end Examples

end ManetOlsr
