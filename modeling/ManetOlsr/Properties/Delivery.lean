/-
The way of a data packet through a converged network.

`RouteOutput` and `RouteInput` look the destination of a packet up in the table of their own node
only.  In a converged network the tables fit together: each node hands the packet to one that is a
hop nearer to the destination, so that it is delivered after as many hops as the destination is
away.
-/
import ManetOlsr.Model.Forwarding
import ManetOlsr.Properties.SendEntries
import ManetOlsr.Properties.ShortestRoutes

namespace ManetOlsr

open Lib (Holds)

variable {D : Type} {G : SimpleGraph Ipv4Address}

/-! ### The send entry -/

/-- A search that finds the end of its chain at once. -/
lemma findSendEntryIn_of_next {tbl : Table} {e e₂ : RoutingTableEntry}
    (hnext : tbl e.nextAddr = some e₂) (hself : e₂.destAddr = e₂.nextAddr) :
    ∃ e', findSendEntryIn tbl e = SendEntry.found e' ∧ (e' = e ∨ e' = e₂) ∧
      e'.destAddr = e'.nextAddr := by
  by_cases hend : e.destAddr = e.nextAddr
  · have hstop : SendSearch.goesOn ⟨e, false⟩ = false := by simp [SendSearch.goesOn, hend]
    refine ⟨e, ?_, Or.inl rfl, hend⟩
    rw [findSendEntryIn, Lib.whileLoop_of_false hstop]
    simp [hstop]
  · have hgoes : SendSearch.goesOn ⟨e, false⟩ = true := by simp [SendSearch.goesOn, hend]
    have hround : SendSearch.round tbl ⟨e, false⟩ = ⟨e₂, false⟩ := by
      rw [SendSearch.round, hnext]
    have hstop : SendSearch.goesOn ⟨e₂, false⟩ = false := by simp [SendSearch.goesOn, hself]
    have hloop : Lib.whileLoop SendSearch.goesOn (SendSearch.round tbl) (2 ^ 32) ⟨e, false⟩ =
        ⟨e₂, false⟩ := by
      obtain ⟨fuel, hfuel⟩ : ∃ fuel, 2 ^ 32 = fuel + 1 := ⟨2 ^ 32 - 1, by norm_num⟩
      rw [hfuel, Lib.whileLoop_of_true hgoes, hround, Lib.whileLoop_of_false hstop]
    refine ⟨e₂, ?_, Or.inr rfl, hself⟩
    rw [findSendEntryIn, hloop]
    simp [hstop]

/-- In a table of shortest paths, the send entry leads to the next hop. -/
lemma Table.Shortest.sendEntry {tbl : Table} {mainAddress d : Ipv4Address}
    (h : tbl.Shortest G mainAddress) (hdest : ∀ a e, tbl a = some e → e.destAddr = a)
    {e : RoutingTableEntry} (he : tbl d = some e) :
    ∃ e' a, findSendEntryIn tbl e = SendEntry.found e' ∧ tbl a = some e' ∧
      e'.nextAddr = e.nextAddr := by
  obtain ⟨-, hadj, -, -⟩ := h.entry d e he
  have hsome : (tbl e.nextAddr).isSome := (h.isSome_iff _).mpr ⟨hadj.ne', hadj.reachable⟩
  obtain ⟨e₂, he₂⟩ := Option.isSome_iff_exists.mp hsome
  -- The next hop is a neighbor, to which the entry leads directly.
  obtain ⟨-, -, hreach, hdist⟩ := h.entry _ e₂ he₂
  rw [SimpleGraph.dist_eq_one_iff_adj.mpr hadj] at hdist
  have hself : e₂.nextAddr = e.nextAddr :=
    (hreach.dist_eq_zero_iff).mp (by omega)
  have hdest₂ : e₂.destAddr = e.nextAddr := hdest _ _ he₂
  obtain ⟨e', hfound, hcases, -⟩ := findSendEntryIn_of_next he₂ (hdest₂.trans hself.symm)
  rcases hcases with rfl | rfl
  · exact ⟨e', d, hfound, he, rfl⟩
  · exact ⟨e', _, hfound, he₂, hself⟩

namespace Node

variable {n : Node D}

/-! ### One node -/

/-- The interface of an entry is one that the search of `AddEntry` has found. -/
lemma coreTable_interface (excluded : Finset Ipv4Address) :
    Holds (fun _ e => ∃ a, e.interface = n.interfaceIndex a) (n.coreTable excluded) := by
  refine coreTable_holds (topologyTable_holds (twoHopTable_holds (neighborTable_holds ?_) ?_) ?_) ?_
  · exact fun nb l dest _ _ => ⟨l.localIfaceAddr, rfl⟩
  · exact fun t _ _ e he => he
  · exact fun t _ _ e _ he => he
  · exact fun t _ e he => he

/-- Every interface of a node that has one has a single address. -/
def SingleAddresses (n : Node D) : Prop :=
  n.interfaces ≠ [] ∧ ∀ i ∈ n.interfaces, i.otherAddresses = []

instance (n : Node D) : Decidable n.SingleAddresses :=
  inferInstanceAs (Decidable (¬ _ = [] ∧ ∀ i ∈ _, _))

lemma SingleAddresses.soleAddress (h : n.SingleAddresses) (a : Ipv4Address) :
    ∃ source, n.soleAddress (n.interfaceIndex a) = some source := by
  have hlt : n.interfaceIndex a < n.interfaces.length := by
    rw [interfaceIndex]
    cases hfind : n.interfaces.findIdx? fun i => i.addresses.contains a with
    | none => exact List.length_pos_of_ne_nil h.1
    | some k => exact (List.findIdx?_eq_some_iff_findIdx_eq.mp hfind).1
  refine ⟨n.interfaces[n.interfaceIndex a].address, ?_⟩
  simp [Node.soleAddress, List.getElem?_eq_getElem hlt, h.2 _ (List.getElem_mem hlt)]

variable [OlsrDefenseDataHooks D]

/-- The strategy of a node suspects nobody, nor does it when it has seen a data packet. -/
def Trusting (n : Node D) : Prop :=
  ∀ a, n.suspects a = false ∧ ∀ p gateway, (n.mapDefense fun d =>
    OlsrDefenseDataHooks.onDataPacketReceived d n.now n.state p gateway).suspects a = false

lemma sendVia_route {p : DataPacket} {e : RoutingTableEntry} {source : Ipv4Address}
    (hsole : n.soleAddress e.interface = some source) (htrusts : n.suspects e.nextAddr = false) :
    (n.sendVia p e).2 = .route ⟨p.destination, source, e.nextAddr, e.interface⟩ := by
  simp [sendVia, hsole, htrusts, handOver]

/-- What a node of a converged network does with the packets of others. -/
structure Forwards (G : SimpleGraph Ipv4Address) (n : Node D) : Prop where
  table : n.table.Shortest G n.mainAddress
  upToDate : n.UpToDate
  isMalicious : n.isMalicious = false
  oneAddress : n.HasOneAddress
  singleAddresses : n.SingleAddresses
  trusting : n.Trusting

lemma Forwards.sendEntry (h : n.Forwards G) {d : Ipv4Address} (hd : d ≠ n.mainAddress)
    (hreach : G.Reachable n.mainAddress d) :
    ∃ e e' source, n.table d = some e ∧ findSendEntryIn n.table e = .found e' ∧
      n.soleAddress e'.interface = some source ∧ G.Adj n.mainAddress e'.nextAddr ∧
      G.Reachable e'.nextAddr d ∧ G.dist e'.nextAddr d + 1 = G.dist n.mainAddress d := by
  obtain ⟨e, he⟩ := Option.isSome_iff_exists.mp ((h.table.isSome_iff d).mpr ⟨hd, hreach⟩)
  have htable : n.table = n.coreTable ∅ := congrArg Prod.fst h.upToDate
  have hdest : ∀ a e, n.table a = some e → e.destAddr = a := by
    rw [htable]
    exact fun a e he => (coreTable_next a e he).1
  obtain ⟨e', a, hfound, he', hnext⟩ := h.table.sendEntry hdest he
  have hinterface : ∃ b, e'.interface = n.interfaceIndex b := by
    rw [htable] at he'
    exact coreTable_interface ∅ a e' he'
  obtain ⟨b, hb⟩ := hinterface
  obtain ⟨source, hsole⟩ := h.singleAddresses.soleAddress b
  rw [← hb] at hsole
  refine ⟨e, e', source, he, hfound, hsole, ?_⟩
  rw [hnext]
  exact (h.table.entry d e he).2

/-- `RouteOutput` sends a packet to a node that is nearer to its destination. -/
lemma Forwards.routeOutput (h : n.Forwards G) (ipv4 : Ipv4L3Protocol) {p : DataPacket}
    (hd : p.destination ≠ n.mainAddress) (hreach : G.Reachable n.mainAddress p.destination) :
    ∃ r, (n.routeOutput ipv4 p none).2 = .route r ∧ G.Adj n.mainAddress r.gateway ∧
      G.Reachable r.gateway p.destination ∧
      G.dist r.gateway p.destination + 1 = G.dist n.mainAddress p.destination := by
  obtain ⟨e, e', source, he, hfound, hsole, hnearer⟩ := h.sendEntry hd hreach
  refine ⟨⟨p.destination, source, e'.nextAddr, e'.interface⟩, ?_, hnearer⟩
  simp only [Node.routeOutput, he, hfound, Option.any_none, Bool.false_eq_true, if_false]
  exact sendVia_route hsole (h.trusting _).1

/-- The address of a packet from another node is not one of this node's. -/
lemma Forwards.isMyOwnAddress (h : n.Forwards G) {a : Ipv4Address} (ha : a ≠ n.mainAddress) :
    n.isMyOwnAddress a = false := by
  rw [Node.isMyOwnAddress, List.any_eq_false]
  rintro ⟨i, idx⟩ hi hown
  have haddr := h.oneAddress i (List.fst_mem_of_mem_zipIdx hi)
  simp only [Bool.and_eq_true, beq_iff_eq, Bool.not_eq_true', beq_eq_false_iff_ne] at hown
  obtain ⟨⟨rfl, hloop⟩, -⟩ := hown
  exact haddr.elim hloop ha

end Node

/-! ### Networks -/

section Networks

variable [OlsrDefenseDataHooks D] {ν : Type} {σ : ν → Node D} {ipv4 : ν → Ipv4L3Protocol}
  {p : DataPacket}

variable (σ ipv4 p) in
/-- A packet that has come to a node, over whatever interface, gets to its destination in as many hops
more: each node hands it to the one that has the address of the gateway, and the last delivers it. -/
inductive Travels : ν → ℕ → Prop where
  | delivered {v : ν} (h : ∀ iif, ((σ v).routeInput (ipv4 v) p iif true).2 = .deliver) : Travels v 0
  | forwarded {v w : ν} {k : ℕ} {r : Ipv4Route}
      (h : ∀ iif, ((σ v).routeInput (ipv4 v) p iif true).2 = .route r)
      (hw : (σ w).mainAddress = r.gateway) (path : Travels w k) : Travels v (k + 1)

/-- Towards the destination a packet does not come back to its source. -/
lemma travels_of_forwards (hforwards : ∀ v, (σ v).Forwards G)
    (hnode : ∀ a b, G.Adj a b → ∃ v, (σ v).mainAddress = a)
    (hlocal : ∀ v iif, (ipv4 v).isDestinationAddress p.destination iif =
      decide (p.destination = (σ v).mainAddress))
    {k : ℕ} {v : ν} (hreach : G.Reachable (σ v).mainAddress p.destination)
    (hk : G.dist (σ v).mainAddress p.destination = k) (hsource : k < G.dist p.source p.destination) :
    Travels σ ipv4 p v k := by
  induction k generalizing v with
  | zero =>
    have hhere : p.destination = (σ v).mainAddress := (hreach.dist_eq_zero_iff.mp hk).symm
    have hother : p.source ≠ (σ v).mainAddress := by
      intro heq
      rw [heq, hk] at hsource
      exact Nat.lt_irrefl 0 hsource
    refine .delivered fun iif => ?_
    have hdeliver : (ipv4 v).isDestinationAddress p.destination iif = true := by
      rw [hlocal, decide_eq_true_eq, hhere]
    simp [Node.routeInput, (hforwards v).isMyOwnAddress hother, hdeliver]
  | succ k ih =>
    have haway : p.destination ≠ (σ v).mainAddress := by
      intro heq
      rw [heq, SimpleGraph.dist_self] at hk
      omega
    have hother : p.source ≠ (σ v).mainAddress := by
      intro heq
      rw [heq, hk] at hsource
      exact Nat.lt_irrefl _ hsource
    obtain ⟨e, e', source, he, hfound, hsole, hadj, hnext, hdist⟩ :=
      (hforwards v).sendEntry haway hreach
    obtain ⟨w, hw⟩ := hnode _ _ hadj.symm
    rw [← hw] at hnext hdist
    refine .forwarded (r := ⟨p.destination, source, e'.nextAddr, e'.interface⟩) (fun iif => ?_) hw
      (ih hnext (by omega) (by omega))
    simp only [Node.routeInput, (hforwards v).isMyOwnAddress hother, hlocal, decide_eq_false haway,
      (hforwards v).isMalicious, he, hfound, Bool.false_eq_true, if_false]
    exact Node.sendVia_route hsole (((hforwards v).trusting _).2 _ _)

end Networks

section Line

/-- A packet from one end of the line to the other. -/
def linePacket : DataPacket := ⟨0, 1, 4⟩

def lineIpv4 (v : Fin 4) : Ipv4L3Protocol where
  isDestinationAddress a _ := decide (a = (lineNetwork.start v).mainAddress)
  sourceAddressSelection _ _ := (lineNetwork.start v).mainAddress
  isForwarding _ := true

end Line

end ManetOlsr
