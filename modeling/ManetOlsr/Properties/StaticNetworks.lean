/-
Networks that stand still.

The radio links of a network are the edges of a graph of addresses: a packet that arrives has come
over an edge.  Packets may get lost, late, repeated or out of order, and a node is told of most edges
by others.  Without attackers everything that the nodes of such a network store, send and compute
is true of the graph (`static_truth`): links and neighbors are edges, a 2-hop tuple is a path of two
edges, a topology tuple is an edge, and the next hop of a routing table entry is a neighbor from
which a path leads to the destination, of as many edges as the entry says unless it goes back to a
2-hop tuple of somebody who was no symmetric neighbor any more.  A fictitious node counts as a node
behind the one that advertises it.
-/
import ManetOlsr.Lib.EdgeGraph
import ManetOlsr.Model.Outbox
import ManetOlsr.Model.Settled
import ManetOlsr.Model.TablePasses
import ManetOlsr.Properties.AdvertisedSet
import ManetOlsr.Properties.BaitSoundness
import ManetOlsr.Properties.MprCoverage
import ManetOlsr.Properties.RouteCompleteness
import ManetOlsr.Properties.RoutingPaths
import Mathlib.Combinatorics.SimpleGraph.Walk.Operations

namespace ManetOlsr

variable {G : SimpleGraph Ipv4Address}

/-! ### What a node knows -/

/-- What the repositories of a node say is true of the graph. -/
structure OlsrState.TrueIn (G : SimpleGraph Ipv4Address) (mainAddress : Ipv4Address)
    (s : OlsrState) : Prop where
  ifaceAssoc : s.ifaceAssocSet = []
  link : ∀ l ∈ s.linkSet, G.Adj mainAddress l.neighborIfaceAddr
  neighbor : ∀ nb ∈ s.neighborSet, G.Adj mainAddress nb.neighborMainAddr
  twoHop : ∀ t ∈ s.twoHopNeighborSet, G.Adj mainAddress t.neighborMainAddr ∧
    G.Adj t.neighborMainAddr t.twoHopNeighborAddr ∧ t.twoHopNeighborAddr ≠ mainAddress
  mpr : ∀ a ∈ s.mprSet, G.Adj mainAddress a
  mprSelector : ∀ t ∈ s.mprSelectorSet, G.Adj mainAddress t.mainAddr
  topology : ∀ t ∈ s.topologySet, G.Adj t.lastAddr t.destAddr

namespace OlsrState.TrueIn

variable {mainAddress : Ipv4Address} {s : OlsrState}

/-- Every address is a main address. -/
lemma getMainAddress (h : s.TrueIn G mainAddress) (a : Ipv4Address) : s.getMainAddress a = a := by
  simp [OlsrState.getMainAddress, findIfaceAssocTuple, h.ifaceAssoc]

lemma insertNeighborTuple (h : s.TrueIn G mainAddress) {nb : NeighborTuple}
    (hnb : G.Adj mainAddress nb.neighborMainAddr) :
    (s.insertNeighborTuple nb).TrueIn G mainAddress := by
  refine { h with neighbor := fun nb' hnb' => ?_ }
  rcases Lib.mem_upsert hnb' with hold | rfl
  · exact h.neighbor nb' hold
  · exact hnb

/-- A status or a willingness says nothing of the graph. -/
lemma updateNeighbor (h : s.TrueIn G mainAddress) {p : NeighborTuple → Bool}
    {f : NeighborTuple → NeighborTuple} (hf : ∀ nb, (f nb).neighborMainAddr = nb.neighborMainAddr) :
    ({ s with neighborSet := Lib.updateFirst p f s.neighborSet } : OlsrState).TrueIn G
      mainAddress := by
  refine { h with neighbor := fun nb hnb => ?_ }
  rcases Lib.mem_updateFirst hnb with hold | ⟨nb', hnb', -, rfl⟩
  · exact h.neighbor nb hold
  · rw [hf]
    exact h.neighbor nb' hnb'

lemma storeLinkTuple (h : s.TrueIn G mainAddress) {a : Ipv4Address} {l : LinkTuple}
    (hl : G.Adj mainAddress l.neighborIfaceAddr) : (s.storeLinkTuple a l).TrueIn G mainAddress := by
  refine { h with link := fun l' hl' => ?_ }
  rcases Lib.mem_upsert hl' with hold | rfl
  · exact h.link l' hold
  · exact hl

lemma insertTwoHopNeighborTuple (h : s.TrueIn G mainAddress) {t : TwoHopNeighborTuple}
    (ht : G.Adj mainAddress t.neighborMainAddr ∧ G.Adj t.neighborMainAddr t.twoHopNeighborAddr ∧
      t.twoHopNeighborAddr ≠ mainAddress) :
    (s.insertTwoHopNeighborTuple t).TrueIn G mainAddress := by
  refine { h with twoHop := fun t' ht' => ?_ }
  rcases List.mem_append.mp ht' with hold | hnew
  · exact h.twoHop t' hold
  · rw [List.mem_singleton.mp hnew]
    exact ht

lemma setTwoHopExpiration (h : s.TrueIn G mainAddress) (a b : Ipv4Address) (time : Time) :
    (s.setTwoHopExpiration a b time).TrueIn G mainAddress := by
  refine { h with twoHop := fun t ht => ?_ }
  rcases Lib.mem_updateFirst ht with hold | ⟨t', ht', -, rfl⟩
  · exact h.twoHop t hold
  · exact h.twoHop t' ht'

lemma insertMprSelectorTuple (h : s.TrueIn G mainAddress) {t : MprSelectorTuple}
    (ht : G.Adj mainAddress t.mainAddr) : (s.insertMprSelectorTuple t).TrueIn G mainAddress := by
  refine { h with mprSelector := fun t' ht' => ?_ }
  rcases List.mem_append.mp ht' with hold | hnew
  · exact h.mprSelector t' hold
  · rw [List.mem_singleton.mp hnew]
    exact ht

lemma setMprSelectorExpiration (h : s.TrueIn G mainAddress) (a : Ipv4Address) (time : Time) :
    (s.setMprSelectorExpiration a time).TrueIn G mainAddress := by
  refine { h with mprSelector := fun t ht => ?_ }
  rcases Lib.mem_updateFirst ht with hold | ⟨t', ht', -, rfl⟩
  · exact h.mprSelector t hold
  · exact h.mprSelector t' ht'

lemma insertTopologyTuple (h : s.TrueIn G mainAddress) {t : TopologyTuple}
    (ht : G.Adj t.lastAddr t.destAddr) : (s.insertTopologyTuple t).TrueIn G mainAddress := by
  refine { h with topology := fun t' ht' => ?_ }
  rcases List.mem_append.mp ht' with hold | hnew
  · exact h.topology t' hold
  · rw [List.mem_singleton.mp hnew]
    exact ht

lemma setTopologyExpiration (h : s.TrueIn G mainAddress) (a b : Ipv4Address) (time : Time) :
    (s.setTopologyExpiration a b time).TrueIn G mainAddress := by
  refine { h with topology := fun t ht => ?_ }
  rcases Lib.mem_updateFirst ht with hold | ⟨t', ht', -, rfl⟩
  · exact h.topology t hold
  · exact h.topology t' ht'

end OlsrState.TrueIn

/-! ### Messages -/

/-- What a message says is true of the graph: a HELLO message comes from the sender and lists neighbors
of it, a TC message advertises neighbors of its originator, and nobody has a second address. -/
structure MessageHeader.TrueIn (G : SimpleGraph Ipv4Address) (sender : Ipv4Address)
    (m : MessageHeader) : Prop where
  hello : ∀ hello, m.body = .hello hello → m.originatorAddress = sender ∧
    ∀ lm ∈ hello.linkMessages, ∀ a ∈ lm.neighborInterfaceAddresses, G.Adj m.originatorAddress a
  tc : ∀ tc, m.body = .tc tc → ∀ a ∈ tc.neighborAddresses, G.Adj m.originatorAddress a
  mid : ∀ mid, m.body ≠ .mid mid

namespace Node

variable {D : Type} {n : Node D}

/-! ### Reception -/

section Reception

variable {msg : MessageHeader} {hello : Hello} {receiverIface senderIface mainAddress : Ipv4Address}

lemma linkTupleAdded_true (h : n.state.TrueIn G mainAddress) {tuple : LinkTuple}
    (htuple : G.Adj mainAddress tuple.neighborIfaceAddr) (w : Willingness) :
    (n.linkTupleAdded tuple w).state.TrueIn G mainAddress := by
  refine h.insertNeighborTuple ?_
  rwa [getMainAddress, h.getMainAddress]

lemma linkTupleUpdated_true (h : n.state.TrueIn G mainAddress) {tuple : LinkTuple}
    (htuple : G.Adj mainAddress tuple.neighborIfaceAddr) (w : Willingness) :
    (n.linkTupleUpdated tuple w).state.TrueIn G mainAddress := by
  simp only [linkTupleUpdated]
  split
  · exact (linkTupleAdded_true h htuple w).updateNeighbor fun _ => rfl
  · exact h.updateNeighbor fun _ => rfl

lemma linkSensing_true (h : n.state.TrueIn G mainAddress) (hsender : G.Adj mainAddress senderIface) :
    (n.linkSensing msg hello receiverIface senderIface).state.TrueIn G mainAddress := by
  have hlink : G.Adj mainAddress
      (n.sensedLink msg hello receiverIface senderIface).link.neighborIfaceAddr := by
    rwa [sensedLink_neighborIfaceAddr]
  have hstore := h.storeLinkTuple (a := senderIface) hlink
  set x := n.sensedLink msg hello receiverIface senderIface
  have hupdated : (if x.updated then
        (n.withState (n.state.storeLinkTuple senderIface x.link)).linkTupleUpdated x.link
          hello.willingness
      else n.withState (n.state.storeLinkTuple senderIface x.link)).state.TrueIn G mainAddress := by
    split
    · exact linkTupleUpdated_true hstore hlink _
    · exact hstore
  simp only [linkSensing]
  split
  · exact hstore
  · split
    · exact linkTupleAdded_true hupdated hlink _
    · exact hupdated

lemma twoHopAddressStep_true (hmain : n.mainAddress = mainAddress)
    (h : n.state.TrueIn G mainAddress) (horiginator : G.Adj mainAddress msg.originatorAddress)
    (nt : NeighborType) {addr : Ipv4Address} (haddr : G.Adj msg.originatorAddress addr) :
    (twoHopAddressStep msg nt n addr).state.TrueIn G mainAddress := by
  have hself : n.getMainAddress addr = addr := h.getMainAddress addr
  have hinserted (hne : n.getMainAddress addr ≠ n.mainAddress) :
      (n.state.insertTwoHopNeighborTuple ⟨msg.originatorAddress, n.getMainAddress addr,
        n.now + getVTime msg.vTime⟩).TrueIn G mainAddress := by
    refine h.insertTwoHopNeighborTuple ⟨horiginator, ?_, ?_⟩
    · rwa [hself]
    · rwa [hmain] at hne
  simp only [twoHopAddressStep]
  split
  · split
    · exact h
    · next hne =>
      split
      · exact hinserted hne
      · exact h.setTwoHopExpiration _ _ _
  · split
    · exact h
    · next hne =>
      split
      · exact hinserted hne
      · exact h.setTwoHopExpiration _ _ _
  · exact { h with twoHop := fun t ht => h.twoHop t (List.mem_of_mem_filter ht) }
  · exact h

lemma populateTwoHopNeighborSet_true (h : n.state.TrueIn G n.mainAddress)
    (horiginator : G.Adj n.mainAddress msg.originatorAddress)
    (hhello : ∀ lm ∈ hello.linkMessages, ∀ a ∈ lm.neighborInterfaceAddresses,
      G.Adj msg.originatorAddress a) :
    (n.populateTwoHopNeighborSet msg hello).state.TrueIn G n.mainAddress := by
  suffices hsuff : (n.populateTwoHopNeighborSet msg hello).mainAddress = n.mainAddress ∧
      (n.populateTwoHopNeighborSet msg hello).state.TrueIn G n.mainAddress from hsuff.2
  refine foldl_inv (I := fun k => k.mainAddress = n.mainAddress ∧ k.state.TrueIn G n.mainAddress)
    _ ?_ ⟨rfl, h⟩
  rintro k - - hk
  refine foldl_inv (I := fun k => k.mainAddress = n.mainAddress ∧ k.state.TrueIn G n.mainAddress)
    _ ?_ hk
  intro k lm hlm hk
  refine foldl_inv (I := fun k => k.mainAddress = n.mainAddress ∧ k.state.TrueIn G n.mainAddress)
    _ ?_ hk
  rintro k a ha ⟨hmain, hk⟩
  exact ⟨(mainAddress_of_fixed (twoHopAddressStep_fixed k msg _ a)).trans hmain,
    twoHopAddressStep_true hmain hk horiginator _ (hhello lm hlm a ha)⟩

lemma populateMprSelectorSet_true (h : n.state.TrueIn G mainAddress)
    (horiginator : G.Adj mainAddress msg.originatorAddress) :
    (n.populateMprSelectorSet msg hello).state.TrueIn G mainAddress := by
  refine foldl_inv (I := fun k : Node D => k.state.TrueIn G mainAddress) _ ?_ h
  rintro k lm - hk
  refine foldl_inv (I := fun k : Node D => k.state.TrueIn G mainAddress) _ ?_ hk
  rintro k a - hk
  simp only [mprSelectorStep]
  split
  · split
    · exact hk.insertMprSelectorTuple horiginator
    · exact hk.setMprSelectorExpiration _ _
  · exact hk

lemma processTc_true (h : n.state.TrueIn G mainAddress) {tc : Tc}
    (htc : ∀ a ∈ tc.neighborAddresses, G.Adj msg.originatorAddress a) :
    (n.processTc msg tc senderIface).state.TrueIn G mainAddress := by
  rw [processTc]
  split
  · exact h
  · split
    · exact h
    · refine foldl_inv (I := fun k : Node D => k.state.TrueIn G mainAddress) _ ?_
        { h with topology := fun t ht => h.topology t (List.mem_of_mem_filter ht) }
      intro k a ha hk
      simp only [topologyAddressStep]
      split
      · exact hk.setTopologyExpiration _ _ _
      · exact hk.insertTopologyTuple (htc a ha)

variable [OlsrDefenseStrategy D]

lemma mprComputation_true (h : n.state.TrueIn G mainAddress) :
    n.mprComputation.state.TrueIn G mainAddress := by
  refine { h with mpr := fun a ha => ?_ }
  obtain ⟨nb, hnb, rfl, -⟩ := n.eligible_mprSet a ha
  exact h.neighbor nb hnb

lemma processHello_true (h : n.state.TrueIn G n.mainAddress)
    (hsender : G.Adj n.mainAddress senderIface)
    (horiginator : G.Adj n.mainAddress msg.originatorAddress)
    (hhello : ∀ lm ∈ hello.linkMessages, ∀ a ∈ lm.neighborInterfaceAddresses,
      G.Adj msg.originatorAddress a) :
    (n.processHello msg hello receiverIface senderIface).state.TrueIn G n.mainAddress := by
  have hsensing : (n.linkSensing msg hello receiverIface senderIface).state.TrueIn G
      n.mainAddress := linkSensing_true h hsender
  have hmain : (n.linkSensing msg hello receiverIface senderIface).mainAddress = n.mainAddress :=
    mainAddress_of_fixed (n.linkSensing_fixed msg hello receiverIface senderIface)
  simp only [processHello]
  split
  · exact hsensing
  · set n₁ := n.linkSensing msg hello receiverIface senderIface
    have hneighbor : (n₁.populateNeighborSet msg hello).state.TrueIn G n.mainAddress :=
      hsensing.updateNeighbor fun _ => rfl
    rw [← hmain] at hneighbor horiginator ⊢
    set n₂ := n₁.populateNeighborSet msg hello
    have htwoHop : (n₂.populateTwoHopNeighborSet msg hello).state.TrueIn G n₂.mainAddress :=
      populateTwoHopNeighborSet_true hneighbor horiginator hhello
    exact populateMprSelectorSet_true (mprComputation_true htwoHop) horiginator

/-- The processing of a true message from a neighbor. -/
lemma processMessage_true (h : n.state.TrueIn G n.mainAddress)
    (hsender : G.Adj n.mainAddress senderIface) (hmsg : msg.TrueIn G senderIface) :
    (n.processMessage msg receiverIface senderIface).state.TrueIn G n.mainAddress := by
  rw [processMessage]
  split
  · next hello hbody =>
    obtain ⟨horiginator, hlisted⟩ := hmsg.hello hello hbody
    exact processHello_true h hsender (horiginator ▸ hsender) hlisted
  · next tc hbody => exact processTc_true h (hmsg.tc tc hbody)
  · next mid hbody => exact absurd hbody (hmsg.mid mid)
  · next hna hbody =>
    obtain ⟨as, has⟩ := n.processHna_state msg senderIface hna
    rw [has]
    exact { h with }

end Reception

/-! ### Timers -/

section Timers

variable [OlsrDefenseStrategy D] {mainAddress : Ipv4Address}

omit [OlsrDefenseStrategy D] in
lemma dropNeighbor_true (h : n.state.TrueIn G mainAddress) {tuple : LinkTuple}
    (htuple : G.Adj mainAddress tuple.neighborIfaceAddr) :
    (n.dropNeighbor tuple).state.TrueIn G mainAddress := by
  have hupdated := linkTupleUpdated_true h htuple Willingness.default
  exact { hupdated with
    twoHop := fun t ht => hupdated.twoHop t (List.mem_of_mem_filter ht)
    mprSelector := fun t ht => hupdated.mprSelector t (List.mem_of_mem_filter ht) }

lemma linkTupleTimerExpire_true (h : n.state.TrueIn G mainAddress) (a : Ipv4Address) :
    (n.linkTupleTimerExpire a).state.TrueIn G mainAddress := by
  refine linkTupleTimerExpire_state_inv (Q := OlsrState.TrueIn G mainAddress) n h ?_ ?_
  · intro tuple _ _
    exact { h with
      link := fun l hl => h.link l (List.eraseP_sublist.subset hl)
      neighbor := fun nb hnb => h.neighbor nb (List.eraseP_sublist.subset hnb) }
  · intro tuple htuple _ _ _
    have hadj := h.link tuple (List.mem_of_find?_eq_some htuple)
    rw [neighborLoss_state]
    exact mprComputation_true (dropNeighbor_true h hadj)

lemma call_true (h : n.state.TrueIn G mainAddress) (e : Event) (jitter : Time) :
    (n.call e jitter).state.TrueIn G mainAddress := by
  refine call_state_inv (Q := OlsrState.TrueIn G mainAddress) n h (fun _ => { h with })
    (fun a _ => linkTupleTimerExpire_true h a) ?_ ?_ ?_ ?_ (fun _ _ => { h with })
  · exact fun _ _ => { h with
      twoHop := fun t ht => h.twoHop t (List.eraseP_sublist.subset ht) }
  · exact fun _ _ => { h with
      mprSelector := fun t ht => h.mprSelector t (List.eraseP_sublist.subset ht) }
  · exact fun _ _ => { h with
      topology := fun t ht => h.topology t (List.eraseP_sublist.subset ht) }
  · intro a t _ ht _
    rw [OlsrState.findIfaceAssocTuple, h.ifaceAssoc] at ht
    cases ht

end Timers

end Node

/-! ### What a node computes -/

/-- The entry for an address goes back to a 2-hop tuple whose announcer was no symmetric neighbor any
more, and so is not at distance 1: it was learnt from one, or from a topology tuple whose last
address has such an entry. -/
inductive Table.Stale (tbl : Table) : (dest : Ipv4Address) → Prop where
  | twoHop {dest : Ipv4Address} {e : RoutingTableEntry} {t : TwoHopNeighborTuple}
      (he : tbl dest = some e) (horigin : e.origin = Origin.twoHop t)
      (hfar : ∀ e', tbl t.neighborMainAddr = some e' → 2 ≤ e'.distance) : Stale tbl dest
  | topology {dest : Ipv4Address} {e : RoutingTableEntry} {t : TopologyTuple}
      (he : tbl dest = some e) (horigin : e.origin = Origin.topology t)
      (hlast : Stale tbl t.lastAddr) : Stale tbl dest

/-- The next hop of an entry is a neighbor, and from there a path leads to the destination.  Over the
next hop there is one of just as many edges as the entry says, unless it is a stale one. -/
def Table.TrueIn (G : SimpleGraph Ipv4Address) (mainAddress : Ipv4Address) (tbl : Table) : Prop :=
  ∀ dest e, tbl dest = some e → G.Adj mainAddress e.nextAddr ∧ G.Reachable e.nextAddr dest ∧
    (tbl.Stale dest ∨ ∃ p : G.Walk e.nextAddr dest, p.length + 1 = e.distance)

namespace Node

variable {D : Type} {n : Node D}

/-- A stored path is one of the graph. -/
lemma KnownPath.exists_walk (h : n.state.TrueIn G n.mainAddress) {live : LinkTuple → Prop}
    {dest next : Ipv4Address} {k : ℕ} (hp : n.KnownPath live dest next k) :
    ∃ p : G.Walk next dest, p.length + 1 = k := by
  induction hp with
  | @link nb l dest hnb hsym hl hmain hlive hdest =>
    rw [getMainAddress, h.getMainAddress] at hmain
    -- The interface of the neighbor is its main address.
    obtain rfl : dest = l.neighborIfaceAddr := hdest.elim id fun heq => heq.trans hmain.symm
    exact ⟨.nil, rfl⟩
  | @twoHop t next ht hsym path ih =>
    obtain ⟨p, hp⟩ := ih
    obtain ⟨-, hadj, -⟩ := h.twoHop t ht
    exact ⟨p.concat hadj, by rw [SimpleGraph.Walk.length_concat, hp]⟩
  | @topology t next k ht hk path ih =>
    obtain ⟨p, hp⟩ := ih
    exact ⟨p.concat (h.topology t ht), by rw [SimpleGraph.Walk.length_concat, hp]⟩

/-- Without interface associations, an announcer that is no symmetric neighbor is not at
distance 1. -/
lemma FromStale.stale (hassoc : n.state.ifaceAssocSet = []) {excluded : Finset Ipv4Address}
    {dest : Ipv4Address} (hs : n.FromStale (n.coreTable excluded) dest) :
    (n.coreTable excluded).Stale dest := by
  have htable : n.coreTable excluded = n.topologyTable excluded := by
    rw [coreTable, hassoc, List.foldl_nil]
  induction hs with
  | twoHop he horigin hstale =>
    -- What is no symmetric neighbor has its entry from step 3 or later.
    refine .twoHop he horigin fun e' he' => ?_
    rw [htable] at he'
    exact topologyTable_far hassoc _ e' he' hstale
  | topology he horigin _ ih => exact .topology he horigin ih

/-- The next hops are neighbors from which the destinations can be reached. -/
lemma coreTable_reaches (h : n.state.TrueIn G n.mainAddress) (excluded : Finset Ipv4Address) :
    Lib.Holds (fun dest e => G.Adj n.mainAddress e.nextAddr ∧ G.Reachable e.nextAddr dest)
      (n.coreTable excluded) := by
  refine coreTable_holds (topologyTable_holds (twoHopTable_holds (neighborTable_holds ?_) ?_) ?_) ?_
  · intro nb l dest hreach hdest
    obtain ⟨hl, hmain, -⟩ := mem_neighborLinks.mp hreach.link
    rw [getMainAddress, h.getMainAddress] at hmain
    obtain rfl : dest = l.neighborIfaceAddr := hdest.elim id fun heq => heq.trans hmain.symm
    exact ⟨h.link l hl, .refl _⟩
  · rintro t ht - e ⟨hnext, hreach⟩
    obtain ⟨-, hadj, -⟩ := h.twoHop t ht
    exact ⟨hnext, hreach.trans hadj.reachable⟩
  · rintro t ht - e - ⟨hnext, hreach⟩
    exact ⟨hnext, hreach.trans (h.topology t ht).reachable⟩
  · intro t ht
    rw [h.ifaceAssoc] at ht
    cases ht

/-- What the core makes of true knowledge is true. -/
lemma coreTable_true (h : n.state.TrueIn G n.mainAddress) (excluded : Finset Ipv4Address) :
    (n.coreTable excluded).TrueIn G n.mainAddress := by
  intro dest e he
  obtain ⟨hnext, hreach⟩ := coreTable_reaches h excluded dest e he
  refine ⟨hnext, hreach, ?_⟩
  obtain ⟨-, ⟨a, halias, hpath⟩ | hstale⟩ := coreTable_backed dest e he
  · -- No address stands for another.
    have hself : a = dest := by
      refine Relation.ReflTransGen.cases_tail halias |>.elim Eq.symm ?_
      rintro ⟨b, -, t, ht, -⟩
      rw [h.ifaceAssoc] at ht
      cases ht
    subst hself
    exact Or.inr (hpath.exists_walk h)
  · exact Or.inl (hstale.stale h.ifaceAssoc)

/-! ### Nodes -/

variable (n) in
/-- All interfaces but the loopback have the main address. -/
def HasOneAddress : Prop :=
  ∀ i ∈ n.interfaces, i.address = loopback ∨ i.address = n.mainAddress

instance (n : Node D) : Decidable n.HasOneAddress := inferInstanceAs (Decidable (∀ i ∈ _, _))

lemma HasOneAddress.midAddresses (h : n.HasOneAddress) : n.midAddresses = [] := by
  rw [Node.midAddresses, List.filterMap_eq_nil_iff]
  rintro ⟨i, idx⟩ hi
  have haddr := h i (List.fst_mem_of_mem_zipIdx hi)
  simp only [ite_eq_right_iff, reduceCtorEq, imp_false]
  tauto

variable [OlsrDefenseStrategy D]

variable (G) in
/-- A node that knows, sends and computes what is true of the graph. -/
structure TrueIn (n : Node D) : Prop where
  isMalicious : n.isMalicious = false
  oneAddress : n.HasOneAddress
  fictitious : ∀ (d : D) now s, OlsrDefenseStrategy.requiresFictitiousNode d now s = true →
    G.Adj n.mainAddress n.fakeAddress
  state : n.state.TrueIn G n.mainAddress
  utters : n.Utters (MessageHeader.TrueIn G n.mainAddress)
  table : n.table.TrueIn G n.mainAddress
  tableAvoidingSuspects : n.tableAvoidingSuspects.TrueIn G n.mainAddress

namespace TrueIn

lemma fictitious_adj (h : n.TrueIn G) (hinjects : n.injectsFictitiousNode = true) :
    G.Adj n.mainAddress n.fakeAddress := by
  rw [injectsFictitiousNode, Bool.and_eq_true, requiresFictitiousNode] at hinjects
  have hrequires := hinjects.2
  split at hrequires
  · next d _ => exact h.fictitious d _ _ hrequires
  · cases hrequires

/-- The messages that a node generates are true. -/
lemma emits (h : n.TrueIn G) (e : Event) {m : MessageHeader} (hm : m ∈ n.emits e) :
    m.TrueIn G n.mainAddress := by
  cases e with
  | helloTimerExpire =>
    obtain rfl := List.mem_singleton.mp hm
    refine ⟨fun hello hbody => ⟨rfl, fun lm hlm a ha => ?_⟩, by simp [helloMessage],
      by simp [helloMessage]⟩
    obtain rfl := MessageBody.hello.inj hbody
    rcases mem_helloLinkMessages h.isMalicious hlm ha with ⟨l, hl, -, rfl | ⟨t, ht, -⟩⟩ | ⟨hfake, rfl⟩
    · exact h.state.link l hl
    · rw [h.state.ifaceAssoc] at ht
      cases ht
    · exact h.fictitious_adj hfake
  | tcTimerExpire =>
    rw [Node.emits] at hm
    split at hm
    · cases hm
    · obtain rfl := List.mem_singleton.mp hm
      refine ⟨by simp [tcHeader], fun tc hbody a ha => ?_, by simp [tcHeader]⟩
      obtain rfl := MessageBody.tc.inj hbody
      rcases (mem_tcAddresses h.isMalicious a).mp ha with hsel | ⟨hfake, rfl⟩
      · obtain ⟨t, ht, rfl⟩ := List.mem_map.mp hsel
        exact h.state.mprSelector t ht
      · exact h.fictitious_adj hfake
  | midTimerExpire =>
    rw [Node.emits, h.oneAddress.midAddresses] at hm
    cases hm
  | hnaTimerExpire =>
    rw [Node.emits] at hm
    split at hm
    · cases hm
    · obtain rfl := List.mem_singleton.mp hm
      exact ⟨by simp [hnaHeader], by simp [hnaHeader], by simp [hnaHeader]⟩
  | _ => cases hm

end TrueIn

/-! ### Acts -/

omit [OlsrDefenseStrategy D] in
/-- What a node has to keep. -/
lemma TrueIn.of_fixed [OlsrDefenseStrategy D] (h : n.TrueIn G) {n' : Node D}
    (hmain : n'.mainAddress = n.mainAddress) (hinterfaces : n'.interfaces = n.interfaces)
    (hmalicious : n'.isMalicious = false) (hstate : n'.state.TrueIn G n.mainAddress)
    (hutters : n'.Utters (MessageHeader.TrueIn G n.mainAddress))
    (htables : n'.tables.1.TrueIn G n.mainAddress ∧ n'.tables.2.TrueIn G n.mainAddress) :
    n'.TrueIn G where
  isMalicious := hmalicious
  oneAddress := by
    rw [HasOneAddress, hmain, hinterfaces]
    exact h.oneAddress
  fictitious := by
    rw [fakeAddress, hmain]
    exact h.fictitious
  state := by
    rw [hmain]
    exact hstate
  utters := by
    rw [hmain]
    exact hutters
  table := by
    rw [hmain]
    exact htables.1
  tableAvoidingSuspects := by
    rw [hmain]
    exact htables.2

lemma losing_state {a : Ipv4Address} {c : Node D} (h : n.losing a = some c) :
    c.state = (n.linkTupleTimerExpire a).state ∧ c.mainAddress = n.mainAddress := by
  rw [losing] at h
  split at h
  · next tuple htuple =>
    split at h
    · cases h
    · next htime =>
      split at h
      · next hlost =>
        obtain rfl := Option.some.inj h
        refine ⟨?_, mainAddress_of_fixed (n.dropNeighbor_fixed tuple)⟩
        simp [linkTupleTimerExpire, htuple, htime, hlost, neighborLoss]
      · cases h
  · cases h

/-- The tables are computed in a state that is the one an act leaves. -/
lemma computing_state {a : Act D} {c : Node D} (h : n.computing a = some c) :
    c.state = (n.perform a).state ∧ c.mainAddress = n.mainAddress := by
  cases a with
  | routingTableComputation =>
    obtain rfl := Option.some.inj h
    exact ⟨n.routingTableComputation_state.symm, rfl⟩
  | fire t e jitter =>
    cases e with
    | linkTupleTimerExpire a => exact losing_state (n := n.dequeue t _) h
    | _ => cases h
  | _ => cases h

end Node

/-- What a node of the network may meet: true messages from its neighbors. -/
def Act.TrueIn {D : Type} (G : SimpleGraph Ipv4Address) (mainAddress : Ipv4Address) : Act D → Prop
  | .recvMessage msg _ senderIface _ => G.Adj mainAddress senderIface ∧ msg.TrueIn G senderIface
  | .setAttack isMalicious _ => isMalicious = false
  | _ => True

namespace Node

variable {D : Type} [OlsrDefenseStrategy D] {n : Node D}

/-- **Step lemma.** -/
lemma TrueIn.perform (h : n.TrueIn G) {a : Act D} (ha : a.TrueIn G n.mainAddress) :
    (n.perform a).TrueIn G := by
  have hstate : (n.perform a).state.TrueIn G n.mainAddress := by
    refine perform_state_inv (Q := OlsrState.TrueIn G n.mainAddress) n (fun _ _ hs => { hs with })
      (fun _ _ hs => { hs with }) h.state ?_ ?_
    · rintro msg receiverIface senderIface jitter rfl -
      have hfixed := n.defenseHook_fixed msg senderIface
      have hmain : (n.defenseHook msg senderIface).mainAddress = n.mainAddress :=
        mainAddress_of_fixed hfixed
      have hhook : (n.defenseHook msg senderIface).state.TrueIn G n.mainAddress := by
        rw [defenseHook_state]
        exact h.state
      rw [← hmain] at hhook ⊢
      exact processMessage_true hhook (hmain ▸ ha.1) ha.2
    · intro t e jitter _
      exact call_true (n := n.dequeue t e) h.state e jitter
  have hutters : (n.perform a).Utters (MessageHeader.TrueIn G n.mainAddress) := by
    refine h.utters.perform fun m hm => ?_
    cases a with
    | fire t e jitter => exact h.emits e hm
    | recvMessage msg receiverIface senderIface jitter =>
      obtain ⟨rfl, hbody⟩ := hm
      exact ⟨fun hello hhello => absurd hhello (hbody hello), ha.2.tc, ha.2.mid⟩
    | _ => exact hm.elim
  have htables : (n.perform a).tables.1.TrueIn G n.mainAddress ∧
      (n.perform a).tables.2.TrueIn G n.mainAddress := by
    rw [n.perform_tables a]
    cases hc : n.computing a with
    | none => exact ⟨h.table, h.tableAvoidingSuspects⟩
    | some c =>
      obtain ⟨hcstate, hcmain⟩ := computing_state hc
      rw [← hcstate, ← hcmain] at hstate
      have htables := c.routingTableComputation_tables
      rw [← hcmain, Option.map_some, Option.getD_some, htables]
      exact ⟨coreTable_true hstate _, coreTable_true hstate _⟩
  have hfixed := n.perform_fixed a
  cases a with
  | advance t => exact h.of_fixed rfl rfl h.isMalicious hstate hutters htables
  | setAttack isMalicious spoofedLinksCount => exact h.of_fixed rfl rfl ha hstate hutters htables
  | _ =>
    have hfixed := hfixed (by simp) (by simp)
    exact h.of_fixed (congrArg Fixed.mainAddress hfixed) (congrArg Fixed.interfaces hfixed)
      ((congrArg Fixed.isMalicious hfixed).trans h.isMalicious) hstate hutters htables

lemma TrueIn.exec (h : n.TrueIn G) {a : Act D} (ha : a.TrueIn G n.mainAddress) :
    (n.exec a).TrueIn G := by
  rw [Node.exec]
  split
  · exact h
  · exact h.perform ha

/-- The function of an event, called without its timer. -/
lemma TrueIn.call (h : n.TrueIn G) (e : Event) (jitter : Time) : (n.call e jitter).TrueIn G := by
  have hpending : ({ n with events := (n.now, e) :: n.events } : Node D).TrueIn G :=
    { h with utters := h.utters.of_eq rfl }
  have hfire := hpending.perform (a := .fire n.now e jitter) trivial
  simpa [Node.perform, dequeue] using hfire

/-! ### The start -/

lemma startDefense_true {c : Config D} (hattack : c.isMalicious = false)
    (hone : c.node.startDefense.HasOneAddress)
    (hfictitious : ∀ (d : D) now s, OlsrDefenseStrategy.requiresFictitiousNode d now s = true →
      G.Adj c.node.startDefense.mainAddress c.node.startDefense.fakeAddress) :
    c.node.startDefense.TrueIn G := by
  have hfixed := c.node.startDefense_fixed
  have hmain : c.node.startDefense.mainAddress = c.node.chosenMainAddress :=
    congrArg Fixed.mainAddress hfixed
  have hinterfaces : c.node.startDefense.interfaces = c.node.interfaces :=
    congrArg Fixed.interfaces hfixed
  have hown : c.node.ownIfaceAssocs = [] := by
    rw [ownIfaceAssocs, List.map_eq_nil_iff, List.filter_eq_nil_iff]
    intro a ha
    obtain ⟨i, hi, rfl⟩ := List.mem_map.mp ha
    rw [← hinterfaces] at hi
    rcases hone i hi with hloop | hself
    · simp [hloop]
    · simp [hself, hmain]
  have hstate : c.node.startDefense.state = { associations := c.associations } := by
    rw [startDefense_state, hown]
    rfl
  have htables : c.node.startDefense.table = (fun _ => none) ∧
      c.node.startDefense.tableAvoidingSuspects = (fun _ => none) := by
    simp only [startDefense]
    split
    · exact ⟨rfl, rfl⟩
    · exact ⟨rfl, rfl⟩
  refine ⟨(congrArg Fixed.isMalicious hfixed).trans hattack, hone, hfictitious, ?_,
    startDefense_utters ⟨by simp [Config.node], by simp [Config.node]⟩, ?_, ?_⟩
  · rw [hstate]
    constructor <;> simp
  · intro dest e he
    rw [htables.1] at he
    cases he
  · intro dest e he
    rw [htables.2] at he
    cases he

lemma doInitialize_true {c : Config D} {jitter : Time} (hattack : c.isMalicious = false)
    (hone : (c.node.doInitialize jitter).HasOneAddress)
    (hfictitious : ∀ (d : D) now s, OlsrDefenseStrategy.requiresFictitiousNode d now s = true →
      G.Adj (c.node.doInitialize jitter).mainAddress (c.node.doInitialize jitter).fakeAddress) :
    (c.node.doInitialize jitter).TrueIn G := by
  have hfixed := (c.node.doInitialize_fixed jitter).trans c.node.startDefense_fixed.symm
  have hmain : (c.node.doInitialize jitter).mainAddress = c.node.startDefense.mainAddress :=
    congrArg Fixed.mainAddress hfixed
  have hinterfaces : (c.node.doInitialize jitter).interfaces = c.node.startDefense.interfaces :=
    congrArg Fixed.interfaces hfixed
  rw [HasOneAddress, hmain, hinterfaces] at hone
  simp only [fakeAddress, hmain] at hfictitious
  have hstart : c.node.startDefense.TrueIn G := startDefense_true hattack hone hfictitious
  simp only [doInitialize]
  split
  · exact (((hstart.call Event.helloTimerExpire jitter).call Event.tcTimerExpire jitter).call
      Event.midTimerExpire jitter).call Event.hnaTimerExpire jitter
  · exact hstart

/-! ### Labels -/

lemma TrueIn.step (h : n.TrueIn G) {l : Label D}
    (hl : ∀ a ∈ n.acts l, a.TrueIn G n.mainAddress) : (n.step l).TrueIn G := by
  have hstep : (n.step l).mainAddress = n.mainAddress ∧ (n.step l).TrueIn G := by
    refine Lib.inv_run (I := fun k : Node D => k.mainAddress = n.mainAddress ∧ k.TrueIn G)
      (P := fun _ a => a.TrueIn G n.mainAddress) ?_ ⟨rfl, h⟩
      fun x hx => hl _ (Lib.snd_mem_of_mem_trace hx)
    rintro k a ⟨hmain, hk⟩ ha
    refine ⟨?_, hk.exec (by rwa [hmain])⟩
    rw [Node.exec]
    split
    · exact hmain
    · rw [perform_mainAddress, hmain]
  exact hstep.2

end Node

/-! ### Networks -/

variable {ν D : Type} [OlsrDefenseStrategy D]

/-- A packet that arrives comes over an edge, from the main address of a node that has sent it. -/
def ComesOver (G : SimpleGraph Ipv4Address) (σ : ν → Node D) (x : ν × Label D) : Prop :=
  match x.2 with
  | .recvOlsr _ _ senderIface messages _ => G.Adj (σ x.1).mainAddress senderIface ∧
    ∃ w, (σ w).mainAddress = senderIface ∧ ∃ p ∈ (σ w).sentPackets, p.messages = messages
  | _ => True

instance [Fintype ν] [DecidableRel G.Adj] (σ : ν → Node D) :
    (x : ν × Label D) → Decidable (ComesOver G σ x)
  | (_, .recvOlsr ..) => inferInstanceAs (Decidable (_ ∧ ∃ _, _ ∧ ∃ p ∈ _, _))
  | (_, .timer ..) | (_, .macTxDrop ..) | (_, .onLocalRxDrop ..) | (_, .setDefenseStrategy ..)
  | (_, .reactivateDefenseStrategy ..) | (_, .addHostNetworkAssociation ..)
  | (_, .removeHostNetworkAssociation ..) | (_, .setAttack ..) =>
    inferInstanceAs (Decidable True)

/-- In a network of true nodes, what comes over an edge is true. -/
lemma ComesOver.acts_true {σ : ν → Node D} {v : ν} {l : Label D} (h : ComesOver G σ (v, l))
    (hσ : ∀ w, (σ w).TrueIn G) (hattack : l.startsAttack = false) :
    ∀ a ∈ (σ v).acts l, a.TrueIn G (σ v).mainAddress := by
  intro a ha
  rcases List.mem_cons.mp ha with rfl | ha
  · trivial
  · cases l with
    | recvOlsr t i senderIface messages jitter =>
      obtain ⟨hadj, w, rfl, p, hp, rfl⟩ := h
      rcases Node.mem_recvOlsrActs ha with ⟨msg, hmsg, receiverIface, rfl⟩ | rfl
      · exact ⟨hadj, (hσ w).utters.sent p hp msg hmsg⟩
      · trivial
    | setAttack t isMalicious spoofedLinksCount =>
      rw [List.mem_singleton.mp ha]
      exact hattack
    | _ =>
      rw [List.mem_singleton.mp ha]
      trivial

namespace NetworkRun

variable [DecidableEq ν] {r : NetworkRun ν D}

/-- The address of a node. -/
def address (r : NetworkRun ν D) (v : ν) : Ipv4Address := (r.start v).mainAddress

/-- A network of nodes with one address each, over the edges of a graph.  Where a defense asks for
fictitious nodes, they are counted in. -/
structure Over (G : SimpleGraph Ipv4Address) (r : NetworkRun ν D) : Prop where
  noAttack : r.NoAttack
  oneAddress : ∀ v, (r.start v).HasOneAddress
  fictitious : ∀ v (d : D) now s, OlsrDefenseStrategy.requiresFictitiousNode d now s = true →
    G.Adj (r.start v).mainAddress (r.start v).fakeAddress
  comesOver : ∀ x ∈ r.trace, ComesOver G x.1 x.2

namespace Over

lemma final_true (h : r.Over G) (v : ν) : (r.final v).TrueIn G := by
  refine Lib.inv_run_net (I := fun _ => Node.TrueIn G)
    (P := fun σ x => ComesOver G σ x ∧ x.2.startsAttack = false) ?_ (fun w => ?_) ?_ v
  · rintro σ w l hσ ⟨hover, hattack⟩
    exact (hσ w).step (hover.acts_true hσ hattack)
  · exact Node.doInitialize_true (h.noAttack.1 w) (h.oneAddress w) (h.fictitious w)
  · exact fun x hx => ⟨h.comesOver x hx, h.noAttack.2 x.2 (Lib.snd_mem_of_mem_trace hx)⟩

end Over

/-- **Static networks.**  In every run of a network without attackers over the edges of a graph,
what a node stores, sends and computes is true of the graph. -/
theorem static_truth (r : NetworkRun ν D) (h : r.Over G) (v : ν) :
    (r.final v).state.TrueIn G (r.start v).mainAddress ∧
    (r.final v).table.TrueIn G (r.start v).mainAddress ∧
    (r.final v).tableAvoidingSuspects.TrueIn G (r.start v).mainAddress ∧
    ∀ p ∈ (r.final v).sentPackets, ∀ m ∈ p.messages, m.TrueIn G (r.start v).mainAddress := by
  have hfinal := h.final_true v
  rw [← final_mainAddress]
  exact ⟨hfinal.state, hfinal.table, hfinal.tableAvoidingSuspects, hfinal.utters.sent⟩

end NetworkRun

/-! ### A line of nodes -/

section Line

/-- What happens at a node: a timer fires, or it hears the last packet of another node. -/
inductive Cue (ν : Type) where
  | timer (t : Time) (e : Event)
  | hears (t : Time) (w : ν)

/-- The label of a cue in a network. -/
def cueLabel (σ : ν → Node D) : Cue ν → Label D
  | .timer t e => .timer t e 0
  | .hears t w =>
    .recvOlsr t 0 (σ w).mainAddress (((σ w).sentPackets.getLast?.map OlsrPacket.messages).getD []) 0

/-- The labels of a list of cues. -/
def cueLabels [DecidableEq ν] (σ : ν → Node D) : List (ν × Cue ν) → List (ν × Label D)
  | [] => []
  | (v, c) :: cs =>
    (v, cueLabel σ c) :: cueLabels (Lib.netExec Node.step σ (v, cueLabel σ c)) cs

/-- Four nodes of addresses 1 to 4. -/
def lineConfig (v : Fin 4) : Config OlsrDefenseNull where
  mainAddress := UInt32.ofNat (v.val + 1)
  interfaces := [{ address := UInt32.ofNat (v.val + 1) }]
  tcInterval := Seconds 6
  midInterval := Seconds 100
  hnaInterval := Seconds 100

/-- A node sends its HELLO message, and others hear it. -/
def helloCues (t : Time) (v : Fin 4) (ws : List (Fin 4)) : List (Fin 4 × Cue (Fin 4)) :=
  (v, .timer t .helloTimerExpire) :: (v, .timer t .sendQueuedMessages) ::
    ws.map fun w => (w, .hears t v)

/-- Neighbors in the line hear each other, until the TC messages of the two nodes in the middle have
come to both ends. -/
def lineCues : List (Fin 4 × Cue (Fin 4)) :=
  ([0, 1, 2, 3].map fun v => (v, .timer 0 .sendQueuedMessages)) ++
  [(1, .hears 0 0), (1, .hears 0 2), (2, .hears 0 1), (2, .hears 0 3)] ++
  [(1, .timer 1000 (.linkTupleTimerExpire 1)), (1, .timer 1000 (.linkTupleTimerExpire 3)),
   (2, .timer 1000 (.linkTupleTimerExpire 2)), (2, .timer 1000 (.linkTupleTimerExpire 4))] ++
  helloCues (Seconds 2) 1 [0, 2] ++ helloCues (Seconds 2) 2 [1, 3] ++
  helloCues (Seconds 2) 0 [1] ++ helloCues (Seconds 2) 3 [2] ++
  helloCues (Seconds 4) 1 [0, 2] ++ helloCues (Seconds 4) 2 [1, 3] ++
  helloCues (Seconds 4) 0 [1] ++ helloCues (Seconds 4) 3 [2] ++
  helloCues (Seconds 6) 1 [2] ++ helloCues (Seconds 6) 2 [] ++
  helloCues (Seconds 6) 0 [] ++ helloCues (Seconds 6) 3 [] ++
  ([0, 1, 2, 3].map fun v => (v, .timer (Seconds 6) .tcTimerExpire)) ++
  [(1, .timer (Seconds 6) .sendQueuedMessages), (2, .timer (Seconds 6) .sendQueuedMessages),
   (0, .hears (Seconds 6) 1), (2, .hears (Seconds 6) 1), (1, .hears (Seconds 6) 2),
   (3, .hears (Seconds 6) 2)] ++
  -- Both send on what they have heard of each other.
  [(1, .timer (Seconds 6) .sendQueuedMessages), (2, .timer (Seconds 6) .sendQueuedMessages),
   (2, .hears (Seconds 6) 1), (1, .hears (Seconds 6) 2), (0, .hears (Seconds 6) 1),
   (3, .hears (Seconds 6) 2)]

def lineNetwork : NetworkRun (Fin 4) OlsrDefenseNull where
  config := lineConfig
  jitter := fun _ => 0
  labels := cueLabels (fun v => (lineConfig v).node.doInitialize 0) lineCues
  isJitter := by decide +kernel
  isRun := by decide +kernel

/-- The edges of the line. -/
def lineGraph : SimpleGraph Ipv4Address := Lib.edgeGraph [(1, 2), (2, 3), (3, 4)]

instance : DecidableRel lineGraph.Adj :=
  fun a b => inferInstanceAs (Decidable (a ≠ b ∧ (_ ∈ _ ∨ _ ∈ _)))

lemma lineNetwork_over : lineNetwork.Over lineGraph where
  noAttack := by decide +kernel
  oneAddress := by decide +kernel
  fictitious := fun _ _ _ _ h => nomatch h
  comesOver := by decide +kernel

/-- The announcer of node 3 is at distance 1. -/
lemma lineNetwork_notStale : ¬ (lineNetwork.final 0).table.Stale 4 := by
  obtain ⟨h₄, h₃, h₂⟩ : (lineNetwork.final 0).table 4 =
        some ⟨4, 2, 0, 3, .topology ⟨4, 3, 3, Seconds 24⟩⟩ ∧
      ((lineNetwork.final 0).table 3).map RoutingTableEntry.origin =
        some (.twoHop ⟨2, 3, Seconds 10⟩) ∧
      ((lineNetwork.final 0).table 2).map RoutingTableEntry.distance = some 1 := by
    decide +kernel
  obtain ⟨e₃, he₃, horigin₃⟩ := Option.map_eq_some_iff.mp h₃
  obtain ⟨e₂, he₂, hdist₂⟩ := Option.map_eq_some_iff.mp h₂
  clear h₂ h₃
  -- The table is forgotten, so that nothing tries to compute it.
  generalize (lineNetwork.final 0).table = tbl at *
  rintro (⟨he, horigin, -⟩ | ⟨he, horigin, hlast⟩)
  · obtain rfl := Option.some.inj (h₄.symm.trans he)
    cases horigin
  · obtain rfl := Option.some.inj (h₄.symm.trans he)
    cases horigin
    rcases hlast with ⟨he, horigin, hfar⟩ | ⟨he, horigin, -⟩
    · obtain rfl := Option.some.inj (he₃.symm.trans he)
      obtain rfl := Origin.twoHop.inj (horigin₃.symm.trans horigin)
      exact absurd (hfar e₂ he₂) (by omega)
    · obtain rfl := Option.some.inj (he₃.symm.trans he)
      exact nomatch horigin₃.symm.trans horigin

/-- Node 1 has heard of the last edge, and goes over node 2 to the node behind it. -/
theorem static_truth_line :
    lineGraph.Adj 3 4 ∧ ∃ p : lineGraph.Walk 2 4, p.length + 1 = 3 := by
  have htruth := NetworkRun.static_truth lineNetwork lineNetwork_over 0
  refine ⟨htruth.1.topology ⟨4, 3, 3, Seconds 24⟩ (by decide +kernel), ?_⟩
  obtain ⟨-, -, hwalk⟩ := htruth.2.1 4 ⟨4, 2, 0, 3, .topology ⟨4, 3, 3, Seconds 24⟩⟩
    (by decide +kernel)
  exact hwalk.resolve_left lineNetwork_notStale

end Line

end ManetOlsr
