/-
Shortest routes.

When a static network has converged, its routing tables are those of shortest paths: a node has an
entry for each address that it can reach, at the distance in the graph, and the next hop is one hop
nearer.  Converged means that each node knows its neighbors, what they are neighbors of, and the MPR
selectors of the relays farther away; nothing is asked of the other edges, since the MPRs cover the
2-hop neighbors.
-/
import ManetOlsr.Lib.Relays
import ManetOlsr.Properties.RouteCompleteness
import ManetOlsr.Properties.StaticNetworks
import ManetOlsr.Properties.SuspectReroute

namespace ManetOlsr

open Lib (Holds RelayPath RelaysCover TwoHops)

variable {D : Type} {G : SimpleGraph Ipv4Address} {relays : Ipv4Address → Set Ipv4Address}

/-- The entries of a table are those of shortest paths. -/
structure Table.Shortest (G : SimpleGraph Ipv4Address) (mainAddress : Ipv4Address) (tbl : Table) :
    Prop where
  isSome_iff : ∀ d, (tbl d).isSome ↔ d ≠ mainAddress ∧ G.Reachable mainAddress d
  entry : ∀ d e, tbl d = some e → e.distance = G.dist mainAddress d ∧
    G.Adj mainAddress e.nextAddr ∧ G.Reachable e.nextAddr d ∧
      G.dist e.nextAddr d + 1 = G.dist mainAddress d

namespace Node

variable (G) in
/-- A node knows its neighborhood: the neighbors, with live links, and what they are neighbors of. -/
structure KnowsNeighborhood (n : Node D) : Prop where
  known : ∀ a, G.Adj n.mainAddress a → ∃ nb ∈ n.state.neighborSet, nb.neighborMainAddr = a
  neighbor : ∀ nb ∈ n.state.neighborSet,
    nb.status = Status.sym ∧ nb.willingness ≠ Willingness.never
  link : ∀ a, G.Adj n.mainAddress a → ∃ l ∈ n.state.linkSet, l.neighborIfaceAddr = a ∧ l.time ≥ n.now
  twoHop : ∀ a b, G.Adj n.mainAddress a → G.Adj a b → b ≠ n.mainAddress → ¬ G.Adj n.mainAddress b →
    ∃ t ∈ n.state.twoHopNeighborSet, t.key = (a, b)

variable (G relays) in
/-- A node knows its neighborhood and the relays farther away, with those that have chosen them. -/
structure Informed (n : Node D) : Prop extends n.KnowsNeighborhood G where
  topology : ∀ a b, a ≠ n.mainAddress → ¬ G.Adj n.mainAddress a → a ∈ relays b →
    ∃ t ∈ n.state.topologySet, t.key = (b, a)

/-! ### The entries are exact -/

variable {n : Node D}

variable (G n) in
/-- What an entry of an informed node stands for. -/
structure Exact (dest : Ipv4Address) (e : RoutingTableEntry) : Prop where
  next : G.Adj n.mainAddress e.nextAddr
  walk : ∃ p : G.Walk e.nextAddr dest, e.distance = p.length + 1
  self : dest ≠ n.mainAddress
  near : G.Adj n.mainAddress dest → e.distance = 1

/-- Neighbors are symmetric, and they are the only ones. -/
lemma Informed.findSymNeighborTuple_eq_none (h : n.Informed G relays)
    (htrue : n.state.TrueIn G n.mainAddress) {a : Ipv4Address} :
    n.state.findSymNeighborTuple a = none ↔ ¬ G.Adj n.mainAddress a := by
  rw [OlsrState.findSymNeighborTuple, List.find?_eq_none]
  constructor
  · intro hnone hadj
    obtain ⟨nb, hnb, rfl⟩ := h.known a hadj
    exact hnone nb hnb (by simp [(h.neighbor nb hnb).1])
  · rintro hnot nb hnb hfound
    simp only [Bool.and_eq_true, beq_iff_eq] at hfound
    exact hnot (hfound.1 ▸ htrue.neighbor nb hnb)

lemma Informed.neighborTable_isSome (h : n.Informed G relays)
    (htrue : n.state.TrueIn G n.mainAddress) {a : Ipv4Address} (ha : G.Adj n.mainAddress a) :
    (n.neighborTable ∅ a).isSome := by
  obtain ⟨nb, hnb, rfl⟩ := h.known a ha
  obtain ⟨l, hl, hla, hlive⟩ := h.link _ ha
  exact Node.neighborTable_isSome hnb (h.neighbor nb hnb).1 hl
    ((htrue.getMainAddress _).trans hla) hlive

/-- Steps 2 and 3. -/
lemma Informed.twoHopTable_exact (h : n.Informed G relays)
    (htrue : n.state.TrueIn G n.mainAddress) : Holds (Exact G n) (n.twoHopTable ∅) := by
  refine twoHopTable_holds (neighborTable_holds ?_) ?_
  · intro nb l dest hreach hdest
    obtain ⟨hl, hmain, -⟩ := mem_neighborLinks.mp hreach.link
    rw [getMainAddress, htrue.getMainAddress] at hmain
    have hdest' : dest = l.neighborIfaceAddr := hdest.elim id fun heq => heq.trans hmain.symm
    subst hdest'
    have hadj := htrue.link l hl
    exact ⟨hadj, ⟨.nil, rfl⟩, hadj.ne', fun _ => rfl⟩
  · intro t ht husable e he
    obtain ⟨hannouncer, hadj, hself⟩ := htrue.twoHop t ht
    have hfar : ¬ G.Adj n.mainAddress t.twoHopNeighborAddr := by
      rw [← h.findSymNeighborTuple_eq_none htrue]
      simp only [usableTwoHop, Bool.and_eq_true, Bool.not_eq_true', Option.isSome_eq_false_iff,
        Option.isNone_iff_eq_none] at husable
      exact husable.1.1
    -- The announcer is a neighbor, whose entry is at distance 1.
    obtain ⟨p, hp⟩ := he.walk
    rw [he.near hannouncer] at hp
    refine ⟨he.next, ⟨p.concat hadj, ?_⟩, hself, fun hnear => absurd hnear hfar⟩
    rw [SimpleGraph.Walk.length_concat, ← hp]

/-- Step 3.1. -/
lemma Informed.topologyTable_exact (h : n.Informed G relays)
    (htrue : n.state.TrueIn G n.mainAddress) :
    (∀ a, G.Adj n.mainAddress a → (n.topologyTable ∅ a).isSome) ∧
      Holds (Exact G n) (n.topologyTable ∅) := by
  refine topologyTable_inv (I := fun tbl => (∀ a, G.Adj n.mainAddress a → (tbl a).isSome) ∧
    Holds (Exact G n) tbl) ?_ ?_
  · exact ⟨fun a ha => twoHopTable_isSome (h.neighborTable_isSome htrue ha),
      h.twoHopTable_exact htrue⟩
  · rintro tbl ⟨hnear, hexact⟩ t ht - hunset e he hfar
    have hadj := htrue.topology t ht
    have hlast := hexact _ e he
    have hdest : ¬ G.Adj n.mainAddress t.destAddr := by
      intro hnb
      have hset := hnear _ hnb
      rw [hunset] at hset
      cases hset
    constructor
    · intro a ha
      have hne : a ≠ t.destAddr := fun heq => hdest (heq ▸ ha)
      rw [Function.update_of_ne hne]
      exact hnear a ha
    · refine hexact.update ⟨hlast.next, ?_, ?_, fun hnb => absurd hnb hdest⟩
      · obtain ⟨p, hp⟩ := hlast.walk
        exact ⟨p.concat hadj, by rw [SimpleGraph.Walk.length_concat, ← hp]⟩
      · -- A tuple that leads back starts from a neighbor, which is nearer.
        intro hself
        have hnb : G.Adj n.mainAddress t.lastAddr := by
          rw [← hself]
          exact hadj.symm
        have hone := hlast.near hnb
        omega

lemma coreTable_of_noAssoc (hassoc : n.state.ifaceAssocSet = []) (excluded : Finset Ipv4Address) :
    n.coreTable excluded = n.topologyTable excluded := by
  rw [coreTable, hassoc, List.foldl_nil]

/-! ### The entries are complete -/

/-- Beyond two hops a path stays away from the neighbors. -/
lemma far_of_relayPath {s a : Ipv4Address} {k : ℕ} (path : RelayPath G relays s k a) (hk : 2 ≤ k) :
    a ≠ s ∧ ¬ G.Adj s a := by
  cases path with
  | neighbor => omega
  | twoHop _ hself hfar _ => exact ⟨hself, hfar⟩
  | relay _ _ hself hfar _ => exact ⟨hself, hfar⟩

/-- The paths over relays are stored. -/
lemma Informed.storedPath (h : n.Informed G relays) (htrue : n.state.TrueIn G n.mainAddress)
    {k : ℕ} {d : Ipv4Address} (path : RelayPath G relays n.mainAddress k d) : n.StoredPath k d := by
  have hneighbor : ∀ a, G.Adj n.mainAddress a → n.StoredPath 1 a := by
    intro a ha
    obtain ⟨nb, hnb, rfl⟩ := h.known a ha
    obtain ⟨l, hl, hla, hlive⟩ := h.link _ ha
    exact .neighbor hnb (h.neighbor nb hnb).1 hl ((htrue.getMainAddress _).trans hla) hlive
  induction path with
  | neighbor ha => exact hneighbor _ ha
  | @twoHop a b hab hself hfar path _ =>
    have ha : G.Adj n.mainAddress a := by
      cases path with
      | neighbor ha => exact ha
      | relay hk => omega
    obtain ⟨nb, hnb, hmain⟩ := h.known a ha
    obtain ⟨t, ht, hkey⟩ := h.twoHop a b ha hab hself hfar
    obtain ⟨rfl, rfl⟩ := Prod.mk.inj hkey
    exact .twoHop hnb (h.neighbor nb hnb).2 ht hmain.symm hself
      ((h.findSymNeighborTuple_eq_none htrue).mpr hfar) (hneighbor _ ha)
  | @relay k a b hk hab hself hfar path ih =>
    obtain ⟨hne, hnot⟩ := far_of_relayPath path hk
    obtain ⟨t, ht, hkey⟩ := h.topology a b hne hnot hab
    obtain ⟨rfl, rfl⟩ := Prod.mk.inj hkey
    exact .topology ht hk hself ((h.findSymNeighborTuple_eq_none htrue).mpr hfar) ih

/-- **The table of an informed node.**  The relays hide none of the shortest paths. -/
lemma Informed.shortest (h : n.Informed G relays) (htrue : n.state.TrueIn G n.mainAddress)
    (hrelays : RelaysCover G relays) : (n.coreTable ∅).Shortest G n.mainAddress := by
  rw [coreTable_of_noAssoc htrue.ifaceAssoc]
  obtain ⟨-, hexact⟩ := h.topologyTable_exact htrue
  have hcomplete : ∀ d, d ≠ n.mainAddress → G.Reachable n.mainAddress d →
      ∃ e, n.topologyTable ∅ d = some e ∧ e.distance ≤ G.dist n.mainAddress d := by
    intro d hne hreach
    exact (h.storedPath htrue (Lib.relayPath_dist hrelays hreach hne)).entry htrue.ifaceAssoc
  refine ⟨fun d => ⟨fun hd => ?_, fun ⟨hne, hreach⟩ => ?_⟩, fun d e he => ?_⟩
  · obtain ⟨e, he⟩ := Option.isSome_iff_exists.mp hd
    obtain ⟨p, -⟩ := (hexact d e he).walk
    exact ⟨(hexact d e he).self, (hexact d e he).next.reachable.trans ⟨p⟩⟩
  · obtain ⟨e, he, -⟩ := hcomplete d hne hreach
    exact Option.isSome_of_mem he
  · have hentry := hexact d e he
    obtain ⟨p, hp⟩ := hentry.walk
    have hreach : G.Reachable n.mainAddress d := hentry.next.reachable.trans ⟨p⟩
    obtain ⟨e', he', hle⟩ := hcomplete d hentry.self hreach
    obtain rfl := Option.some.inj (he'.symm.trans he)
    have hnext : G.dist e'.nextAddr d ≤ p.length := G.dist_le p
    have hfirst : G.dist n.mainAddress d ≤ G.dist e'.nextAddr d + 1 := by
      obtain ⟨q, hq⟩ := SimpleGraph.Reachable.exists_walk_length_eq_dist ⟨p⟩
      rw [← hq]
      exact G.dist_le (q.cons hentry.next)
    exact ⟨by omega, hentry.next, ⟨p⟩, by omega⟩

end Node

/-! ### Networks -/

section Networks

variable [OlsrDefenseStrategy D] {ν : Type} {σ : ν → Node D}

variable (σ) in
/-- The MPRs that the node of an address has chosen. -/
def relaysOf (a : Ipv4Address) : Set Ipv4Address :=
  {m | ∃ v, (σ v).mainAddress = a ∧ m ∈ (σ v).state.mprSet}

variable (G σ) in
/-- There is a node at each end of an edge, the nodes know their neighborhoods and have chosen their
MPRs by them. -/
structure NeighborhoodsKnown : Prop where
  node : ∀ a b, G.Adj a b → ∃ v, (σ v).mainAddress = a
  knows : ∀ v, (σ v).KnowsNeighborhood G
  mprSet : ∀ v, (σ v).state.mprSet = (σ v).computedMprSet

variable (G σ) in
/-- A network that has converged: besides, the nodes know the relays, and have computed with all
that they know. -/
structure Converged : Prop extends NeighborhoodsKnown G σ where
  topology : ∀ v a b, a ≠ (σ v).mainAddress → ¬ G.Adj (σ v).mainAddress a → a ∈ relaysOf σ b →
    ∃ t ∈ (σ v).state.topologySet, t.key = (b, a)
  upToDate : ∀ v, (σ v).UpToDate

lemma Converged.informed (h : Converged G σ) (v : ν) : (σ v).Informed G (relaysOf σ) :=
  ⟨h.knows v, h.topology v⟩

/-- The MPRs cover the 2-hop neighbors. -/
lemma NeighborhoodsKnown.relaysCover (h : NeighborhoodsKnown G σ)
    (htrue : ∀ v, (σ v).state.TrueIn G (σ v).mainAddress) : RelaysCover G (relaysOf σ) where
  adj := by
    rintro a m ⟨v, rfl, hm⟩
    exact (htrue v).mpr m hm
  covers := by
    rintro a b ⟨hne, hfar, u, hau, hub⟩
    obtain ⟨v, rfl⟩ := h.node a u hau
    obtain ⟨t, ht, hkey⟩ := (h.knows v).twoHop u b hau hub hne.symm hfar
    obtain ⟨rfl, rfl⟩ := Prod.mk.inj hkey
    have hinitial : t ∈ Mpr.initialN2 (σ v).mainAddress (σ v).state := by
      have hsome : ((Mpr.N (σ v).state).find? fun neigh =>
          neigh.neighborMainAddr == t.neighborMainAddr).isSome := by
        obtain ⟨nb, hnb, hmain⟩ := (h.knows v).known _ hau
        exact List.find?_isSome.mpr ⟨nb, Mpr.mem_N.mpr ⟨hnb, ((h.knows v).neighbor nb hnb).1⟩,
          by simp [hmain]⟩
      obtain ⟨nb, hnb⟩ := Option.isSome_iff_exists.mp hsome
      have hwilling := ((h.knows v).neighbor nb
        (Mpr.mem_N.mp (List.mem_of_find?_eq_some hnb)).1).2
      have hnot : ((Mpr.N (σ v).state).any fun neigh =>
          neigh.neighborMainAddr == t.twoHopNeighborAddr) = false := by
        rw [List.any_eq_false]
        intro nb' hnb' heq
        exact hfar (beq_iff_eq.mp heq ▸ (htrue v).neighbor nb' (Mpr.mem_N.mp hnb').1)
      simp only [Mpr.initialN2, List.mem_filter, hnb, hnot]
      simp [ht, hwilling, hne.symm]
    obtain ⟨t', ht', hdest, hmpr⟩ := Mpr.greedy_covers hinitial
    refine ⟨t'.neighborMainAddr, ⟨v, rfl, ?_⟩, ?_⟩
    · rw [h.mprSet]
      exact (σ v).subset_mprSet hmpr
    · rw [← hdest]
      exact ((htrue v).twoHop t' (Mpr.mem_initialN2 ht').1).2.1

end Networks

namespace NetworkRun

variable [OlsrDefenseStrategy D] {ν : Type} [DecidableEq ν]

lemma shortest_table {r : NetworkRun ν D} (h : r.Over G) (hconverged : Converged G r.final)
    (v : ν) : (r.final v).table.Shortest G (r.final v).mainAddress := by
  have htrue : ∀ w, (r.final w).state.TrueIn G (r.final w).mainAddress :=
    fun w => (h.final_true w).state
  have htable : (r.final v).table = (r.final v).coreTable ∅ :=
    congrArg Prod.fst (hconverged.upToDate v)
  rw [htable]
  exact (hconverged.informed v).shortest (htrue v) (hconverged.relaysCover htrue)

end NetworkRun

/-! ### The line has converged -/

section Line

variable [OlsrDefenseStrategy D]

instance (n : Node D) : (l : Label D) → Decidable (n.Recomputes l)
  | .recvOlsr .. => inferInstanceAs (Decidable (_ ∧ _))
  | .timer _ e _ =>
    match e with
    | .linkTupleTimerExpire _ => inferInstanceAs (Decidable (_ = true))
    | .helloTimerExpire | .tcTimerExpire | .midTimerExpire | .hnaTimerExpire | .sendQueuedMessages
    | .handleDefenseTimer | .dupTupleTimerExpire .. | .nb2hopTupleTimerExpire ..
    | .mprSelTupleTimerExpire .. | .topologyTupleTimerExpire .. | .ifaceAssocTupleTimerExpire ..
    | .associationTupleTimerExpire .. => inferInstanceAs (Decidable False)
  | .macTxDrop .. | .onLocalRxDrop .. | .setDefenseStrategy .. | .reactivateDefenseStrategy ..
  | .addHostNetworkAssociation .. | .removeHostNetworkAssociation .. | .setAttack .. =>
    inferInstanceAs (Decidable False)

/-- A node whose last label has computed the tables is up to date. -/
lemma NetworkRun.final_upToDate {ν : Type} [DecidableEq ν] {r : NetworkRun ν D} {v : ν}
    (h : (Lib.actionsAt v r.labels).getLast?.any (fun l => decide (Node.Recomputes
      (Lib.run Node.step (r.start v) (Lib.actionsAt v r.labels).dropLast) l)) = true)
    (hrunning : (r.final v).fatalError = false) : (r.final v).UpToDate := by
  obtain ⟨l, hl, hrecomputes⟩ := (Option.any_eq_true _ _).mp h
  have hlabels : Lib.actionsAt v r.labels = (Lib.actionsAt v r.labels).dropLast ++ [l] := by
    obtain ⟨ls, hls⟩ := List.getLast?_eq_some_iff.mp hl
    rw [hls, List.dropLast_concat]
  have hfinal : r.final v =
      (Lib.run Node.step (r.start v) (Lib.actionsAt v r.labels).dropLast).step l := by
    have hrun : r.final v = Lib.run Node.step (r.start v) (Lib.actionsAt v r.labels) :=
      Lib.run_netExec v r.labels r.start
    rw [hrun, hlabels, Lib.run_append, List.dropLast_concat]
    rfl
  rcases Node.step_upToDate (decide_eq_true_eq.mp hrecomputes) with hstopped | hupToDate
  · rw [hfinal, hstopped] at hrunning
    cases hrunning
  · rwa [hfinal]

namespace AlongMembers

/-! What holds of the members of a list or of a set is decided along them, not along all addresses. -/

variable {α : Type} (p : α → Prop) [DecidablePred p]

scoped instance (priority := 2000) decidableForallList (l : List α) :
    Decidable (∀ a ∈ l, p a) :=
  List.decidableBAll p l

scoped instance (priority := 2000) decidableForallFinset (s : Finset α) :
    Decidable (∀ a ∈ s, p a) :=
  Finset.decidableDforallFinset

end AlongMembers

open AlongMembers

/-- The edges of the line, in both directions. -/
def lineEdges : List (Ipv4Address × Ipv4Address) := [(1, 2), (2, 1), (2, 3), (3, 2), (3, 4), (4, 3)]

lemma lineGraph_adj {a b : Ipv4Address} : lineGraph.Adj a b ↔ (a, b) ∈ lineEdges := by
  rw [lineGraph, Lib.edgeGraph_adj]
  simp only [lineEdges, List.mem_cons, Prod.mk.injEq, List.not_mem_nil, or_false]
  constructor
  · rintro ⟨-, h⟩
    tauto
  · rintro h
    refine ⟨?_, by tauto⟩
    rintro rfl
    rcases h with h | h | h | h | h | h <;> obtain ⟨h₁, h₂⟩ := h <;> subst h₁ <;> cases h₂

lemma lineNetwork_neighborhoodsKnown : NeighborhoodsKnown lineGraph lineNetwork.final where
  node := by
    intro a b hab
    have hnodes : ∀ e ∈ lineEdges, ∃ v, (lineNetwork.final v).mainAddress = e.1 := by
      decide +kernel
    exact hnodes (a, b) (lineGraph_adj.mp hab)
  knows := by
    intro v
    constructor
    · have hknown : ∀ v, ∀ e ∈ lineEdges, e.1 = (lineNetwork.final v).mainAddress →
          ∃ nb ∈ (lineNetwork.final v).state.neighborSet, nb.neighborMainAddr = e.2 := by
        decide +kernel
      exact fun a ha => hknown v (_, a) (lineGraph_adj.mp ha) rfl
    · have hneighbor : ∀ v, ∀ nb ∈ (lineNetwork.final v).state.neighborSet,
          nb.status = Status.sym ∧ nb.willingness ≠ Willingness.never := by
        decide +kernel
      exact hneighbor v
    · have hlink : ∀ v, ∀ e ∈ lineEdges, e.1 = (lineNetwork.final v).mainAddress →
          ∃ l ∈ (lineNetwork.final v).state.linkSet, l.neighborIfaceAddr = e.2 ∧
            l.time ≥ (lineNetwork.final v).now := by
        decide +kernel
      exact fun a ha => hlink v (_, a) (lineGraph_adj.mp ha) rfl
    · have htwoHop : ∀ v, ∀ e ∈ lineEdges, e.1 = (lineNetwork.final v).mainAddress →
          ∀ e' ∈ lineEdges, e'.1 = e.2 → e'.2 ≠ (lineNetwork.final v).mainAddress →
          ∃ t ∈ (lineNetwork.final v).state.twoHopNeighborSet, t.key = e' := by
        decide +kernel
      intro a b ha hab hself _
      exact htwoHop v (_, a) (lineGraph_adj.mp ha) rfl (a, b) (lineGraph_adj.mp hab) rfl hself
  mprSet := by decide +kernel

lemma lineNetwork_converged : Converged lineGraph lineNetwork.final where
  toNeighborhoodsKnown := lineNetwork_neighborhoodsKnown
  topology := by
    have htopology : ∀ v w, ∀ a ∈ (lineNetwork.final w).state.mprSet,
        a ≠ (lineNetwork.final v).mainAddress →
        ¬ lineGraph.Adj (lineNetwork.final v).mainAddress a →
        ∃ t ∈ (lineNetwork.final v).state.topologySet,
          t.key = ((lineNetwork.final w).mainAddress, a) := by
      decide +kernel
    rintro v a b hself hfar ⟨w, rfl, ha⟩
    exact htopology v w a ha hself hfar
  upToDate := by
    intro v
    have hlast : ∀ v, (Lib.actionsAt v lineNetwork.labels).getLast?.any (fun l => decide
        (Node.Recomputes (Lib.run Node.step (lineNetwork.start v)
          (Lib.actionsAt v lineNetwork.labels).dropLast) l)) = true := by
      decide +kernel
    have hrunning : ∀ v, (lineNetwork.final v).fatalError = false := by decide +kernel
    exact NetworkRun.final_upToDate (hlast v) (hrunning v)

end Line

end ManetOlsr
