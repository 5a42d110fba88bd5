/-
`RoutingProtocol::RoutingTableComputation` and `ComputeRoutingTableCore`.

The core builds the routing table in successive passes: the symmetric neighbors, the 2-hop
tuples, the topology tuples by increasing distance, and the interface associations.  After them
it rebuilds the HNA routing table, which is an `Ipv4StaticRouting` object, taken here as a list
of routes to which `AddNetworkRouteTo` appends.
-/
import ManetOlsr.Lib.WhileLoop
import ManetOlsr.Model.Node
import Mathlib.Logic.Function.Basic

namespace ManetOlsr

/-- `AddEntry`, with the index of the interface. -/
def Table.addEntry (tbl : Table) (dest next : Ipv4Address) (interface distance : ℕ)
    (origin : Origin) : Table :=
  Function.update tbl dest (some ⟨dest, next, interface, distance, origin⟩)

namespace Table

/-- Step 3.1 for one topology tuple, at distance `h`.  The flag is `added`. -/
def topologyStep (excluded : Finset Ipv4Address) (h : ℕ) (tbl : Table × Bool)
    (t : TopologyTuple) : Table × Bool :=
  if t.lastAddr ∈ excluded then tbl
  else
    match tbl.1 t.destAddr, tbl.1 t.lastAddr with
    | none, some lastAddrEntry =>
      if lastAddrEntry.distance = h then
        (tbl.1.addEntry t.destAddr lastAddrEntry.nextAddr lastAddrEntry.interface (h + 1)
          (Origin.topology t), true)
      else tbl
    | _, _ => tbl

/-- Step 4 for one interface association tuple. -/
def ifaceAssocStep (tbl : Table) (t : IfaceAssocTuple) : Table :=
  match tbl t.mainAddr, tbl t.ifaceAddr with
  | some entry1, none =>
    tbl.addEntry t.ifaceAddr entry1.nextAddr entry1.interface entry1.distance entry1.origin
  | _, _ => tbl

end Table

/-- Whether a route leads to the network of an association. -/
def HnaRoute.leadsTo (r : HnaRoute) (t : AssociationTuple) : Bool :=
  r.destNetwork == t.networkAddr && r.destNetworkMask == t.netmask

namespace Node

variable {D : Type} (n : Node D)

/-- The search of `AddEntry` for the interface that has an address. -/
def interfaceIndex (interfaceAddress : Ipv4Address) : ℕ :=
  (n.interfaces.findIdx? fun i => i.addresses.contains interfaceAddress).getD 0

/-! ### The table -/

/-- The links over which the first pass reaches a neighbor. -/
def neighborLinks (nb : NeighborTuple) : List LinkTuple :=
  n.state.linkSet.filter fun l =>
    n.getMainAddress l.neighborIfaceAddr == nb.neighborMainAddr && decide (l.time ≥ n.now)

/-- The entry for the interface of a neighbor at the other end of a link. -/
def addLinkEntry (tbl : Table) (l : LinkTuple) : Table :=
  tbl.addEntry l.neighborIfaceAddr l.neighborIfaceAddr (n.interfaceIndex l.localIfaceAddr) 1
    (Origin.link l)

/-- The additional entry for the main address of a neighbor, through its last link `lt`. -/
def addMainAddressEntry (nb : NeighborTuple) (links : List LinkTuple) (tbl : Table) : Table :=
  match links.getLast? with
  | some lt =>
    if links.any fun l => l.neighborIfaceAddr == nb.neighborMainAddr then tbl
    else tbl.addEntry nb.neighborMainAddr lt.neighborIfaceAddr
      (n.interfaceIndex lt.localIfaceAddr) 1 (Origin.link lt)
  | none => tbl

/-- Step 2 for one neighbor tuple. -/
def neighborStep (excluded : Finset Ipv4Address) (tbl : Table) (nb : NeighborTuple) : Table :=
  if nb.neighborMainAddr ∈ excluded then tbl
  else if nb.status = Status.sym then
    n.addMainAddressEntry nb (n.neighborLinks nb) ((n.neighborLinks nb).foldl n.addLinkEntry tbl)
  else tbl

/-- Whether step 3 may use a 2-hop tuple. -/
def usableTwoHop (t : TwoHopNeighborTuple) : Bool :=
  !(n.state.findSymNeighborTuple t.twoHopNeighborAddr).isSome &&
  !(t.twoHopNeighborAddr == n.mainAddress) &&
  n.state.neighborSet.any fun nb =>
    nb.neighborMainAddr == t.neighborMainAddr && !(nb.willingness == Willingness.never)

/-- Step 3 for one 2-hop tuple. -/
def twoHopStep (tbl : Table) (t : TwoHopNeighborTuple) : Table :=
  if n.usableTwoHop t then
    match tbl t.neighborMainAddr with
    | some entry =>
      tbl.addEntry t.twoHopNeighborAddr entry.nextAddr entry.interface 2 (Origin.twoHop t)
    | none => tbl
  else tbl

/-- The variables of the loop over the distance. -/
structure TopologyLoop where
  h : ℕ
  tbl : Table
  added : Bool

/-- One round of the loop over the distance. -/
def topologyRound (excluded : Finset Ipv4Address) (l : TopologyLoop) : TopologyLoop :=
  let r := n.state.topologySet.foldl (Table.topologyStep excluded l.h) (l.tbl, false)
  ⟨l.h + 1, r.1, r.2⟩

/-- The loop over the distance.  It runs at least once, and stops after the first round that adds
no entry. -/
def topologyLoop (excluded : Finset Ipv4Address) (tbl : Table) : TopologyLoop :=
  Lib.whileLoop TopologyLoop.added (n.topologyRound excluded) (n.state.topologySet.length + 1)
    ⟨2, tbl, true⟩

/-- The table after step 2. -/
def neighborTable (excluded : Finset Ipv4Address) : Table :=
  n.state.neighborSet.foldl (n.neighborStep excluded) fun _ => none

/-- The table after step 3. -/
def twoHopTable (excluded : Finset Ipv4Address) : Table :=
  n.state.twoHopNeighborSet.foldl n.twoHopStep (n.neighborTable excluded)

/-- The table after step 3.1. -/
def topologyTable (excluded : Finset Ipv4Address) : Table :=
  (n.topologyLoop excluded (n.twoHopTable excluded)).tbl

/-- The table that `ComputeRoutingTableCore` leaves in `m_table`. -/
def coreTable (excluded : Finset Ipv4Address) : Table :=
  n.state.ifaceAssocSet.foldl Table.ifaceAssocStep (n.topologyTable excluded)

/-! ### The HNA routing table -/

/-- The condition and the body of the loop that clears the table, over its index and the routes:
`for (i = 0; i < GetNRoutes(); i++) RemoveRoute(0)`. -/
def hnaRoutesLeft (p : ℕ × List HnaRoute) : Bool := decide (p.1 < p.2.length)

def removeHnaRoute (p : ℕ × List HnaRoute) : ℕ × List HnaRoute := (p.1 + 1, p.2.tail)

def clearHnaRoutes (routes : List HnaRoute) : List HnaRoute :=
  (Lib.whileLoop hnaRoutesLeft removeHnaRoute routes.length (0, routes)).2

/-- Step 5 for one association tuple. -/
def hnaStep (excluded : Finset Ipv4Address) (tbl : Table) (routes : List HnaRoute)
    (t : AssociationTuple) : List HnaRoute :=
  if t.gatewayAddr ∈ excluded then routes
  else if n.state.associations.any fun a =>
      a.networkAddr == t.networkAddr && a.netmask == t.netmask then routes
  else
    match tbl t.gatewayAddr with
    | none => routes
    | some gatewayEntry =>
      let route : HnaRoute := ⟨t.networkAddr, t.netmask, gatewayEntry.nextAddr,
        gatewayEntry.interface, gatewayEntry.distance⟩
      match routes.find? fun r => r.leadsTo t with
      | none => routes ++ [route]
      | some r =>
        if r.metric > gatewayEntry.distance then
          (routes.eraseP fun r => r.leadsTo t) ++ [route]
        else routes

/-- The routes that `ComputeRoutingTableCore` leaves in `m_hnaRoutingTable`. -/
def coreHnaRoutes (excluded : Finset Ipv4Address) (routes : List HnaRoute) : List HnaRoute :=
  n.state.associationSet.foldl (n.hnaStep excluded (n.coreTable excluded)) (clearHnaRoutes routes)

/-! ### The computation -/

def computeRoutingTableCore (excluded : Finset Ipv4Address) : Node D :=
  { n with
    table := n.coreTable excluded
    hnaRoutingTable := n.coreHnaRoutes excluded n.hnaRoutingTable }

def routingTableComputation [OlsrDefenseStrategy D] : Node D :=
  let blacklist := n.getBlacklist
  let n₁ :=
    if blacklist = ∅ then n
    else
      let avoiding := n.computeRoutingTableCore blacklist
      { avoiding with tableAvoidingSuspects := avoiding.table }
  let n₂ := n₁.computeRoutingTableCore ∅
  if blacklist = ∅ then { n₂ with tableAvoidingSuspects := n₂.table } else n₂

end Node

end ManetOlsr
