/-
`RunTrustDijkstra`, from the variant of the protocol for the FPNT defense.

It builds an undirected graph from the repositories, searches it for the most trusted path to every
node, and enters the first hops of these paths into the routing table.  The trust values are doubles
in the source; the search only compares them and takes minima, so that rational numbers behave the
same.  The table of the best labels so far holds `-1` and `UINT32_MAX` for a node that has none.
-/
import ManetOlsr.Model.Fpnt
import Mathlib.Data.Rat.Defs

namespace ManetOlsr

/-! ### The graph -/

/-- The variables `graph` and `allNodes`. -/
structure TrustGraph where
  graph : Ipv4Address → List Ipv4Address := fun _ => []
  allNodes : List Ipv4Address := []

namespace TrustGraph

def addEdge (g : TrustGraph) (a b : Ipv4Address) : TrustGraph :=
  if a = b then g
  else
    { graph := fun x =>
        if x = a then Lib.setInsert Ipv4Address.lt b (g.graph a)
        else if x = b then Lib.setInsert Ipv4Address.lt a (g.graph b)
        else g.graph x
      allNodes := Lib.setInsert Ipv4Address.lt b (Lib.setInsert Ipv4Address.lt a g.allNodes) }

/-- The loop over the neighbor tuples. -/
def addNeighbor (mainAddress : Ipv4Address) (g : TrustGraph) (nb : NeighborTuple) : TrustGraph :=
  if nb.status = Status.sym then g.addEdge mainAddress nb.neighborMainAddr else g

/-- The loop over the 2-hop tuples. -/
def addTwoHop (g : TrustGraph) (nb2 : TwoHopNeighborTuple) : TrustGraph :=
  g.addEdge nb2.neighborMainAddr nb2.twoHopNeighborAddr

/-- The loop over the topology tuples. -/
def addTopology (mainAddress : Ipv4Address) (g : TrustGraph) (topo : TopologyTuple) : TrustGraph :=
  if topo.lastAddr = mainAddress ∨ topo.destAddr = mainAddress then g
  else g.addEdge topo.lastAddr topo.destAddr

end TrustGraph

/-- The graph of the repositories of the node with a main address. -/
def OlsrState.trustGraph (s : OlsrState) (mainAddress : Ipv4Address) : TrustGraph :=
  let g : TrustGraph := { allNodes := Lib.setInsert Ipv4Address.lt mainAddress [] }
  let g := s.neighborSet.foldl (TrustGraph.addNeighbor mainAddress) g
  let g := s.twoHopNeighborSet.foldl TrustGraph.addTwoHop g
  s.topologySet.foldl (TrustGraph.addTopology mainAddress) g

/-! ### The search -/

structure PathState where
  trust : ℚ
  hops : ℕ
  addr : Ipv4Address
deriving DecidableEq, Repr

/-- `PathState::operator<`: more trust first, then fewer hops, then the smaller address. -/
def PathState.lt (a b : PathState) : Bool :=
  if a.trust ≠ b.trust then decide (a.trust > b.trust)
  else if a.hops ≠ b.hops then decide (a.hops < b.hops)
  else Ipv4Address.lt a.addr b.addr

/-- The variables of the search.  The queue is a `std::set`. -/
structure TrustSearch where
  maxTrust : Ipv4Address → ℚ
  hops : Ipv4Address → ℕ
  parent : Ipv4Address → Option Ipv4Address
  q : List PathState

namespace TrustSearch

def init (mainAddress : Ipv4Address) : TrustSearch where
  maxTrust a := if a = mainAddress then 1 else -1
  hops a := if a = mainAddress then 0 else 0xffffffff
  parent _ := none
  q := Lib.setInsert PathState.lt ⟨1, 0, mainAddress⟩ []

def goesOn (x : TrustSearch) : Bool := !x.q.isEmpty

/-- The relaxation step has a better label for `v`. -/
def update (x : TrustSearch) (pathTrust : ℚ) (pathHops : ℕ) (v : Ipv4Address) : Bool :=
  decide (pathTrust > x.maxTrust v) ||
    decide (pathTrust = x.maxTrust v) && decide (pathHops < x.hops v)

/-- The queue without the label that `v` had. -/
def dequeued (x : TrustSearch) (v : Ipv4Address) : List PathState :=
  if x.maxTrust v ≠ -1 then x.q.erase ⟨x.maxTrust v, x.hops v, v⟩ else x.q

/-- The loop over the neighbors of `u`, for the neighbor `v`. -/
def relax (u : Ipv4Address) (pathTrust : ℚ) (pathHops : ℕ) (x : TrustSearch) (v : Ipv4Address) :
    TrustSearch :=
  if x.update pathTrust pathHops v then
    { maxTrust := fun a => if a = v then pathTrust else x.maxTrust a
      hops := fun a => if a = v then pathHops else x.hops a
      parent := fun a => if a = v then some u else x.parent a
      q := Lib.setInsert PathState.lt ⟨pathTrust, pathHops, v⟩ (x.dequeued v) }
  else x

/-- `u_node_trust`: the source counts as trusted, and so does every node without a defense. -/
def nodeTrust (mainAddress : Ipv4Address) (getNodeTrust : Option (Ipv4Address → ℚ))
    (u : Ipv4Address) : ℚ :=
  match getNodeTrust with
  | some trust => if u = mainAddress then 1 else trust u
  | none => 1

/-- One round of the search. -/
def round (g : TrustGraph) (mainAddress : Ipv4Address) (getNodeTrust : Option (Ipv4Address → ℚ))
    (x : TrustSearch) : TrustSearch :=
  match x.q with
  | [] => x
  | top :: q =>
    (g.graph top.addr).foldl
      (relax top.addr (min top.trust (nodeTrust mainAddress getNodeTrust top.addr)) (top.hops + 1))
      { x with q := q }

end TrustSearch

namespace OlsrState

variable (s : OlsrState) (mainAddress : Ipv4Address)
  (getNodeTrust : Option (Ipv4Address → ℚ))

/-- The search, for a number of rounds. -/
def trustRounds (rounds : ℕ) : TrustSearch :=
  Lib.whileLoop TrustSearch.goesOn
    (TrustSearch.round (s.trustGraph mainAddress) mainAddress getNodeTrust) rounds
    (TrustSearch.init mainAddress)

/-- The search, which comes to its end after at most one round for each node. -/
def trustSearch : TrustSearch :=
  s.trustRounds mainAddress getNodeTrust (s.trustGraph mainAddress).allNodes.length

end OlsrState

/-! ### The routes -/

/-- The loop that goes back from `curr` to the first hop, `sanity` being the rounds that are
left. -/
def TrustSearch.firstHop (x : TrustSearch) (mainAddress : Ipv4Address) :
    ℕ → Ipv4Address → Option Ipv4Address
  | 0, _ => none
  | sanity + 1, curr =>
    match x.parent curr with
    | none => none
    | some p => if p = mainAddress then some curr else x.firstHop mainAddress sanity p

namespace Node

variable {D : Type} (n : Node D)

/-- `Ipv4::GetInterfaceForAddress`. -/
def getInterfaceForAddress (address : Ipv4Address) : Option ℕ :=
  n.interfaces.findIdx? fun i => i.addresses.contains address

/-- The link over which a first hop is reached: the first one that is symmetric and whose local
address belongs to an interface, together with that interface. -/
def linkTo (nextHop : Ipv4Address) : Option (LinkTuple × ℕ) :=
  n.state.linkSet.findSome? fun link =>
    if n.getMainAddress link.neighborIfaceAddr = nextHop ∧ link.symTime ≥ n.now then
      (n.getInterfaceForAddress link.localIfaceAddr).map fun interfaceIndex => (link, interfaceIndex)
    else none

/-- The reconstruction of the route to one destination. -/
def trustEntry (x : TrustSearch) (dest : Ipv4Address) : Option RoutingTableEntry :=
  if dest = n.mainAddress then none
  else
    match x.firstHop n.mainAddress 255 dest with
    | none => none
    | some nextHop =>
      (n.linkTo nextHop).map fun (link, interfaceIndex) =>
        ⟨dest, link.neighborIfaceAddr, interfaceIndex, x.hops dest, Origin.link link⟩

/-- The table that `RunTrustDijkstra` leaves in `m_table`, which it clears first: one entry for each
destination with a parent that it finds a route to. -/
def trustTable (getNodeTrust : Option (Ipv4Address → ℚ)) : Table :=
  n.trustEntry (n.state.trustSearch n.mainAddress getNodeTrust)

def runTrustDijkstra (getNodeTrust : Option (Ipv4Address → ℚ)) : Node D :=
  let table := n.trustTable getNodeTrust
  { n with
    table := table
    hnaRoutingTable := n.trustHnaRoutes table n.hnaRoutingTable }

end Node

end ManetOlsr
