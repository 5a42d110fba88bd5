/-
`BuildSpoofTargets`.

The scan goes through the 2-hop and the topology set and returns where the list is long enough, in
the middle of a topology tuple if need be.
-/
import ManetOlsr.Model.Emission

namespace ManetOlsr

/-- The variables of `BuildSpoofTargets`, and whether it has returned. -/
structure SpoofScan where
  result : List Ipv4Address := []
  seen : List Ipv4Address := []
  returned : Bool := false

namespace SpoofScan

/-- One of the three places at which an address is looked at. -/
def offer (excluded : List Ipv4Address) (maxCount : ℕ) (s : SpoofScan) (addr : Ipv4Address) :
    SpoofScan :=
  if s.returned then s
  else if addr ∉ excluded ∧ addr ∉ s.seen then
    { result := s.result ++ [addr]
      seen := addr :: s.seen
      returned := decide (s.result.length + 1 ≥ maxCount) }
  else s

end SpoofScan

namespace Node

section BuildSpoofTargets

variable {D : Type} (n : Node D)

/-- The own addresses and the 1-hop neighbors. -/
def spoofExcluded : List Ipv4Address :=
  n.mainAddress :: (n.interfaces.flatMap Ipv4Interface.addresses ++
    n.state.neighborSet.map NeighborTuple.neighborMainAddr ++
    n.state.linkSet.map LinkTuple.neighborIfaceAddr)

/-- `BuildSpoofTargets`, with its loops and early returns. -/
def scanSpoofTargets (maxCount : ℕ) : List Ipv4Address :=
  if maxCount = 0 then []
  else
    let offer := SpoofScan.offer n.spoofExcluded maxCount
    let twoHops := n.state.twoHopNeighborSet.foldl (fun s th => offer s th.twoHopNeighborAddr) {}
    (n.state.topologySet.foldl (fun s tp => offer (offer s tp.destAddr) tp.lastAddr) twoHops).result

end BuildSpoofTargets

end Node

end ManetOlsr
