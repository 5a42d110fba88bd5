/-
`OlsrDefenseGcop`: three contradiction rules, checked for the sender of every HELLO message, and
the two searches for a node that a fictitious node would protect, of which the hexagon search decides
whether to advertise one.

The rules read the neighbor, 2-hop neighbor and topology sets as they are when the hook is called.
`std::set` is `Finset`, and a `std::map` of sets, of which unset entries are empty, is a function.
The reasons that the rules report go to the log only and are left out.
-/
import ManetOlsr.Lib.EdgeGraph
import ManetOlsr.Model.Node
import Mathlib.Data.Finset.Prod
import Mathlib.Data.Finset.Union
import Mathlib.Data.List.Dedup
import Mathlib.Logic.Function.Basic

namespace ManetOlsr

/-- `std::map<Ipv4Address, std::set<Ipv4Address>>`. -/
abbrev Graph : Type := Ipv4Address → Finset Ipv4Address

namespace Graph

def empty : Graph := fun _ => ∅

/-- `graph[u].insert(v); graph[v].insert(u);` -/
def link (graph : Graph) (u v : Ipv4Address) : Graph :=
  let graph' := Function.update graph u (insert v (graph u))
  Function.update graph' v (insert u (graph' v))

lemma mem_link {graph : Graph} {u v a b : Ipv4Address} :
    b ∈ graph.link u v a ↔ b ∈ graph a ∨ (a = u ∧ b = v) ∨ (a = v ∧ b = u) := by
  simp only [link, Function.update_apply]
  split_ifs <;> simp_all <;> tauto

/-- Linking the ends of one tuple after another. -/
lemma foldl_link {ι : Type} (ends : ι → Ipv4Address × Ipv4Address) (l : List ι) {graph : Graph}
    {edges : List (Ipv4Address × Ipv4Address)} (h : Lib.Represents graph edges) :
    Lib.Represents (l.foldl (fun (graph : Graph) x => graph.link (ends x).1 (ends x).2) graph)
      (edges ++ l.map ends) := by
  induction l generalizing graph edges with
  | nil => simpa using h
  | cons x l ih =>
    have hedges : edges ++ (x :: l).map ends = edges ++ [ends x] ++ l.map ends := by simp
    rw [List.foldl_cons, hedges]
    exact ih (h.concat fun _ _ => mem_link)

end Graph

/-- The members of `OlsrDefenseGcop`; `attached` tells whether `m_routingProtocol` is set. -/
structure OlsrDefenseGcop where
  enabled : Bool := false
  useFictitiousNodes : Bool := true
  attached : Bool := false
  mainAddress : Ipv4Address := unsetAddress
  riskyNodes : Finset Ipv4Address := ∅
deriving DecidableEq

namespace OlsrDefenseGcop

def IsNeighbor (s : OlsrState) (a : Ipv4Address) : Prop :=
  ∃ nei ∈ s.neighborSet, nei.neighborMainAddr = a

def IsTwoHopAddress (s : OlsrState) (a : Ipv4Address) : Prop :=
  ∃ th ∈ s.twoHopNeighborSet, th.twoHopNeighborAddr = a

variable (d : OlsrDefenseGcop) (s : OlsrState)

def setup (nodeAddress : Ipv4Address) : OlsrDefenseGcop :=
  { d with attached := true, mainAddress := nodeAddress }

def isMalicious (addr : Ipv4Address) : Bool := d.enabled && decide (addr ∈ d.riskyNodes)

def getBlacklist : Finset Ipv4Address := if d.enabled then d.riskyNodes else ∅

def setEnabled (enabled : Bool) : OlsrDefenseGcop :=
  if d.enabled = enabled then d else { d with riskyNodes := ∅, enabled := enabled }

/-! ### The contradiction rules -/

/-- The fictitious node of this node. -/
def fakeAddress : Ipv4Address := d.mainAddress + 65536

/-- The addresses that a sender claims as its neighbors. -/
def claimedBy (senderAddress : Ipv4Address) : List Ipv4Address :=
  (s.twoHopNeighborSet.filter fun t => t.neighborMainAddr == senderAddress).map
    TwoHopNeighborTuple.twoHopNeighborAddr

/-- Rule 1: the sender claims a neighbor of ours that does not claim the sender, or claims our
fictitious node. -/
def checkRule1 (senderAddress : Ipv4Address) : Bool :=
  (claimedBy s senderAddress).any fun nb2hopAddr =>
    if s.neighborSet.any fun nei => nei.neighborMainAddr == nb2hopAddr then
      !s.twoHopNeighborSet.any fun v =>
        v.neighborMainAddr == nb2hopAddr && v.twoHopNeighborAddr == senderAddress
    else nb2hopAddr == d.fakeAddress

/-- The undirected edges of the topology set. -/
def topoAdj : Graph :=
  s.topologySet.foldl (fun graph tp => graph.link tp.lastAddr tp.destAddr) Graph.empty

def groupN (senderAddress : Ipv4Address) : Finset Ipv4Address :=
  (claimedBy s senderAddress).toFinset

/-- `groupZ` before the coverage sweep. -/
def groupZ (senderAddress : Ipv4Address) : Finset Ipv4Address :=
  ((s.topologySet.flatMap fun tp =>
      (if tp.lastAddr ∈ groupN s senderAddress then [tp.destAddr] else []) ++
        if tp.destAddr ∈ groupN s senderAddress then [tp.lastAddr] else []).toFinset \
    groupN s senderAddress) \ (s.neighborSet.map NeighborTuple.neighborMainAddr).toFinset

def groupM (senderAddress : Ipv4Address) : Finset Ipv4Address :=
  ((s.topologySet.filter fun tp => tp.destAddr == senderAddress).map
    TopologyTuple.lastAddr).toFinset

/-- Rule 2: the coverage sweep leaves a neighbor of a claimed neighbor that is not linked to any
node that chose the sender. -/
def checkRule2 (senderAddress : Ipv4Address) : Bool :=
  let adj := topoAdj s
  decide ((groupZ s senderAddress).filter (fun z => groupM s senderAddress ∩ adj z = ∅) ≠ ∅)

/-- Rule 3: the sender claims as many nodes outside our neighborhood as the topology set knows. -/
def checkRule3 (senderAddress : Ipv4Address) : Bool :=
  let neighbors := (s.neighborSet.map NeighborTuple.neighborMainAddr).toFinset
  let senderReachable :=
    ((claimedBy s senderAddress).filter fun a => !(a == d.mainAddress)).toFinset \ neighbors
  let netTargets :=
    ((s.topologySet.filter fun tp => !(tp.lastAddr == d.mainAddress)).map
      TopologyTuple.destAddr).toFinset \ neighbors
  decide (senderReachable.card ≥ netTargets.card)

/-- The rule engine: the flag of the sender is computed anew. -/
def evaluateContradictionRules (senderAddress : Ipv4Address) : OlsrDefenseGcop :=
  if !d.enabled || !d.attached then d
  else if d.checkRule1 s senderAddress || checkRule2 s senderAddress ||
      d.checkRule3 s senderAddress then
    { d with riskyNodes := insert senderAddress d.riskyNodes }
  else { d with riskyNodes := d.riskyNodes.erase senderAddress }

def onRecvHello (senderAddress : Ipv4Address) : OlsrDefenseGcop :=
  if !d.enabled then d else d.evaluateContradictionRules s senderAddress

/-! ### The hexagon search -/

/-- The graph of all known edges, those of this node included. -/
def fullGraph : Graph :=
  let symmetric := s.neighborSet.filter fun nei => nei.status == Status.sym
  let graph₁ := symmetric.foldl
    (fun graph nei => graph.link d.mainAddress nei.neighborMainAddr) Graph.empty
  let graph₂ := s.twoHopNeighborSet.foldl
    (fun graph th => graph.link th.neighborMainAddr th.twoHopNeighborAddr) graph₁
  s.topologySet.foldl (fun graph tp => graph.link tp.lastAddr tp.destAddr) graph₂

def blues : Finset Ipv4Address :=
  (s.twoHopNeighborSet.map TwoHopNeighborTuple.twoHopNeighborAddr).toFinset.erase d.mainAddress \
    (s.neighborSet.map NeighborTuple.neighborMainAddr).toFinset

def greens : Finset Ipv4Address :=
  (s.neighborSet.map NeighborTuple.neighborMainAddr).toFinset.erase d.mainAddress

/-- The edges from a green to a blue node. -/
def e3 (graph : Graph) : Finset (Ipv4Address × Ipv4Address) :=
  (d.greens s ×ˢ d.blues s).filter fun e => e.2 ∈ graph e.1

/-- The order of `std::pair`. -/
def edgeLt (e e' : Ipv4Address × Ipv4Address) : Bool :=
  decide (e.1 < e'.1) || (e.1 == e'.1 && decide (e.2 < e'.2))

/-- The body of the inner loop: the two edges are opposite sides of a hexagon with this node, and
a yellow node closes it. -/
def closesHexagon (graph : Graph) (firstEdge secondEdge : Ipv4Address × Ipv4Address) : Bool :=
  if firstEdge.1 = secondEdge.1 ∨ firstEdge.2 = secondEdge.2 then false
  else if secondEdge.1 ∈ graph firstEdge.1 ∨ firstEdge.1 ∈ graph secondEdge.1 ∨
      secondEdge.2 ∈ graph firstEdge.2 ∨ firstEdge.2 ∈ graph secondEdge.2 then false
  else if secondEdge.2 ∈ graph firstEdge.1 ∨ firstEdge.2 ∈ graph secondEdge.1 then false
  else
    decide ((graph firstEdge.2 ∩ graph secondEdge.2) \ (d.blues s ∪ d.greens s) ≠ ∅)

/-- `RunGcohpAlgorithm`, which goes through the pairs of edges in their order. -/
def runGcohpAlgorithm : Bool :=
  if !d.attached then false
  else
    let graph := d.fullGraph s
    decide (∃ e ∈ d.e3 s graph, ∃ e' ∈ d.e3 s graph,
      edgeLt e e' = true ∧ d.closesHexagon s graph e e' = true)

/-! ### The coverage search -/

/-- The green nodes of `RunGcopAlgorithm`, symmetric neighbors only. -/
def symmetricGreens : Finset Ipv4Address :=
  ((s.neighborSet.filter fun nei => nei.status == Status.sym).map
    NeighborTuple.neighborMainAddr).toFinset.erase d.mainAddress

/-- The blue nodes of `RunGcopAlgorithm`. -/
def uncoveredBlues : Finset Ipv4Address :=
  (s.twoHopNeighborSet.map TwoHopNeighborTuple.twoHopNeighborAddr).toFinset.erase d.mainAddress \
    d.symmetricGreens s

def allowedNodes : Finset Ipv4Address := d.symmetricGreens s ∪ d.uncoveredBlues s

/-- The subgraph `G_2`: the edges with both ends green or blue. -/
def subgraph : Graph :=
  let allowed := fun u v => decide (u ∈ d.allowedNodes s) && decide (v ∈ d.allowedNodes s)
  let graph := s.twoHopNeighborSet.foldl (fun graph th =>
    if allowed th.neighborMainAddr th.twoHopNeighborAddr then
      graph.link th.neighborMainAddr th.twoHopNeighborAddr
    else graph) Graph.empty
  s.topologySet.foldl (fun graph tp =>
    if allowed tp.lastAddr tp.destAddr then graph.link tp.lastAddr tp.destAddr else graph) graph

/-- The breadth-first search to depth 2. -/
def reachable (graph : Graph) (g : Ipv4Address) : Finset Ipv4Address :=
  let hop1 := graph g
  insert g hop1 ∪ hop1.biUnion graph

/-- `RunGcopAlgorithm`: a green node covers all blue nodes. -/
def runGcopAlgorithm : Bool :=
  if !d.attached then false
  else if d.uncoveredBlues s = ∅ then false
  else
    let graph := d.subgraph s
    decide (∃ g ∈ d.symmetricGreens s, d.uncoveredBlues s ⊆ reachable graph g)

def requiresFictitiousNode : Bool :=
  d.enabled && d.useFictitiousNodes && d.runGcohpAlgorithm s

end OlsrDefenseGcop

instance : OlsrDefenseStrategy OlsrDefenseGcop where
  setup d _ nodeAddress := d.setup nodeAddress
  isMalicious d _ addr := d.isMalicious addr
  getBlacklist d _ := d.getBlacklist
  requiresFictitiousNode d _ s := d.requiresFictitiousNode s
  onRecvHello d _ s senderAddress _ _ := d.onRecvHello s senderAddress
  onRecvTc d _ _ _ _ _ := d
  onTcGenerated d _ _ _ := d
  onMacTxFailure d _ _ _ _ := d
  onSelfReliabilityReport d _ _ _ := d
  periodicCheck d _ _ := d

end ManetOlsr
