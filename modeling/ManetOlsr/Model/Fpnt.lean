/-
The HNA part of `RunTrustDijkstra`, from the variant of the protocol for the FPNT defense.

It clears the HNA routing table with the same loop as `ComputeRoutingTableCore`, and then adds a
route for every association tuple, without looking at the routes that are there.  The table it
reads is the one that the trust computation has left.
-/
import ManetOlsr.Model.RoutingTable

namespace ManetOlsr

namespace Node

variable {D : Type} (n : Node D)

/-- The loop for one association tuple. -/
def trustHnaStep (tbl : Table) (routes : List HnaRoute) (t : AssociationTuple) : List HnaRoute :=
  if n.state.associations.any fun a =>
      a.networkAddr == t.networkAddr && a.netmask == t.netmask then routes
  else
    match tbl t.gatewayAddr with
    | none => routes
    | some gatewayEntry =>
      routes ++ [⟨t.networkAddr, t.netmask, gatewayEntry.nextAddr, gatewayEntry.interface,
        gatewayEntry.distance⟩]

/-- The routes that `RunTrustDijkstra` leaves in `m_hnaRoutingTable`. -/
def trustHnaRoutes (tbl : Table) (routes : List HnaRoute) : List HnaRoute :=
  n.state.associationSet.foldl (n.trustHnaStep tbl) (clearHnaRoutes routes)

end Node

end ManetOlsr
