/-
The OLSR state (`olsr-state.cc`): the repositories of a node and the operations on them.

Every repository is a vector.  The `find` operations return its first match, the `erase`
operations erase the first match or every match, and only the neighbor set is inserted into
by key; the other `insert` operations append.  A definition bears the name of the operation it
models; the `set` and `update` definitions are the assignments made through a pointer that a
`Find` operation returned.
-/
import ManetOlsr.Lib.FirstMatch
import ManetOlsr.Model.Repositories

namespace ManetOlsr

structure OlsrState where
  linkSet : List LinkTuple := []
  neighborSet : List NeighborTuple := []
  twoHopNeighborSet : List TwoHopNeighborTuple := []
  topologySet : List TopologyTuple := []
  mprSet : Finset Ipv4Address := ∅
  mprSelectorSet : List MprSelectorTuple := []
  duplicateSet : List DuplicateTuple := []
  ifaceAssocSet : List IfaceAssocTuple := []
  associationSet : List AssociationTuple := []
  associations : List Association := []

namespace OlsrState

variable (s : OlsrState)

/-! ### MPR selector set -/

def findMprSelectorTuple (mainAddr : Ipv4Address) : Option MprSelectorTuple :=
  s.mprSelectorSet.find? fun t => t.mainAddr == mainAddr

def eraseMprSelectorTuple (tuple : MprSelectorTuple) : OlsrState :=
  { s with mprSelectorSet := s.mprSelectorSet.eraseP fun t => t.same tuple }

def eraseMprSelectorTuples (mainAddr : Ipv4Address) : OlsrState :=
  { s with mprSelectorSet := s.mprSelectorSet.filter fun t => !(t.mainAddr == mainAddr) }

def insertMprSelectorTuple (tuple : MprSelectorTuple) : OlsrState :=
  { s with mprSelectorSet := s.mprSelectorSet ++ [tuple] }

def setMprSelectorExpiration (mainAddr : Ipv4Address) (time : Time) : OlsrState :=
  { s with
    mprSelectorSet :=
      Lib.updateFirst (fun t => t.mainAddr == mainAddr)
        (fun t => { t with expirationTime := time }) s.mprSelectorSet }

/-! ### Neighbor set -/

def findNeighborTuple (mainAddr : Ipv4Address) : Option NeighborTuple :=
  s.neighborSet.find? fun t => t.neighborMainAddr == mainAddr

def findSymNeighborTuple (mainAddr : Ipv4Address) : Option NeighborTuple :=
  s.neighborSet.find? fun t => t.neighborMainAddr == mainAddr && t.status == Status.sym

/-- `EraseNeighborTuple`, by main address. -/
def eraseNeighborTuple (mainAddr : Ipv4Address) : OlsrState :=
  { s with neighborSet := s.neighborSet.eraseP fun t => t.neighborMainAddr == mainAddr }

def insertNeighborTuple (tuple : NeighborTuple) : OlsrState :=
  { s with
    neighborSet :=
      Lib.upsert (fun t => t.neighborMainAddr == tuple.neighborMainAddr) tuple s.neighborSet }

def setNeighborStatus (mainAddr : Ipv4Address) (status : Status) : OlsrState :=
  { s with
    neighborSet :=
      Lib.updateFirst (fun t => t.neighborMainAddr == mainAddr)
        (fun t => { t with status := status }) s.neighborSet }

def setNeighborWillingness (mainAddr : Ipv4Address) (willingness : Willingness) : OlsrState :=
  { s with
    neighborSet :=
      Lib.updateFirst (fun t => t.neighborMainAddr == mainAddr)
        (fun t => { t with willingness := willingness }) s.neighborSet }

/-! ### Two-hop neighbor set -/

def findTwoHopNeighborTuple (neighborMainAddr twoHopNeighborAddr : Ipv4Address) :
    Option TwoHopNeighborTuple :=
  s.twoHopNeighborSet.find? fun t => t.key == (neighborMainAddr, twoHopNeighborAddr)

def eraseTwoHopNeighborTuple (tuple : TwoHopNeighborTuple) : OlsrState :=
  { s with twoHopNeighborSet := s.twoHopNeighborSet.eraseP fun t => t.same tuple }

/-- `EraseTwoHopNeighborTuples(neighborMainAddr, twoHopNeighborAddr)`. -/
def eraseTwoHopNeighborTuplesTo (neighborMainAddr twoHopNeighborAddr : Ipv4Address) :
    OlsrState :=
  { s with
    twoHopNeighborSet :=
      s.twoHopNeighborSet.filter fun t => !(t.key == (neighborMainAddr, twoHopNeighborAddr)) }

/-- `EraseTwoHopNeighborTuples(neighborMainAddr)`. -/
def eraseTwoHopNeighborTuples (neighborMainAddr : Ipv4Address) : OlsrState :=
  { s with
    twoHopNeighborSet :=
      s.twoHopNeighborSet.filter fun t => !(t.neighborMainAddr == neighborMainAddr) }

def insertTwoHopNeighborTuple (tuple : TwoHopNeighborTuple) : OlsrState :=
  { s with twoHopNeighborSet := s.twoHopNeighborSet ++ [tuple] }

def setTwoHopExpiration (neighborMainAddr twoHopNeighborAddr : Ipv4Address) (time : Time) :
    OlsrState :=
  { s with
    twoHopNeighborSet :=
      Lib.updateFirst (fun t => t.key == (neighborMainAddr, twoHopNeighborAddr))
        (fun t => { t with expirationTime := time }) s.twoHopNeighborSet }

/-! ### MPR set -/

def findMprAddress (addr : Ipv4Address) : Bool := decide (addr ∈ s.mprSet)

def setMprSet (mprSet : Finset Ipv4Address) : OlsrState := { s with mprSet := mprSet }

/-! ### Duplicate set -/

def findDuplicateTuple (addr : Ipv4Address) (sequenceNumber : UInt16) :
    Option DuplicateTuple :=
  s.duplicateSet.find? fun t => t.address == addr && t.sequenceNumber == sequenceNumber

def eraseDuplicateTuple (tuple : DuplicateTuple) : OlsrState :=
  { s with duplicateSet := s.duplicateSet.eraseP fun t => t.same tuple }

def insertDuplicateTuple (tuple : DuplicateTuple) : OlsrState :=
  { s with duplicateSet := s.duplicateSet ++ [tuple] }

def updateDuplicateTuple (addr : Ipv4Address) (sequenceNumber : UInt16) (time : Time)
    (retransmitted : Bool) (iface : Ipv4Address) : OlsrState :=
  { s with
    duplicateSet :=
      Lib.updateFirst (fun t => t.address == addr && t.sequenceNumber == sequenceNumber)
        (fun t => { t with
          expirationTime := time
          retransmitted := retransmitted
          ifaceList := t.ifaceList ++ [iface] }) s.duplicateSet }

/-! ### Link set -/

def findLinkTuple (ifaceAddr : Ipv4Address) : Option LinkTuple :=
  s.linkSet.find? fun t => t.neighborIfaceAddr == ifaceAddr

/-- `FindSymLinkTuple`: the first link to the interface, provided that it is symmetric. -/
def findSymLinkTuple (ifaceAddr : Ipv4Address) (now : Time) : Option LinkTuple :=
  match s.findLinkTuple ifaceAddr with
  | some t => if t.symTime > now then some t else none
  | none => none

def eraseLinkTuple (tuple : LinkTuple) : OlsrState :=
  { s with linkSet := s.linkSet.eraseP fun t => t.same tuple }

/-- `InsertLinkTuple` of a tuple to an unknown interface, or the assignments through the pointer
that `FindLinkTuple` returns. -/
def storeLinkTuple (ifaceAddr : Ipv4Address) (tuple : LinkTuple) : OlsrState :=
  { s with
    linkSet := Lib.upsert (fun t => t.neighborIfaceAddr == ifaceAddr) tuple s.linkSet }

/-! ### Topology set -/

def findTopologyTuple (destAddr lastAddr : Ipv4Address) : Option TopologyTuple :=
  s.topologySet.find? fun t => t.key == (destAddr, lastAddr)

/-- `FindNewerTopologyTuple`: sequence numbers are compared as unsigned integers. -/
def findNewerTopologyTuple (lastAddr : Ipv4Address) (ansn : UInt16) : Option TopologyTuple :=
  s.topologySet.find? fun t => t.lastAddr == lastAddr && decide (t.sequenceNumber > ansn)

def eraseTopologyTuple (tuple : TopologyTuple) : OlsrState :=
  { s with topologySet := s.topologySet.eraseP fun t => t.same tuple }

def eraseOlderTopologyTuples (lastAddr : Ipv4Address) (ansn : UInt16) : OlsrState :=
  { s with
    topologySet :=
      s.topologySet.filter fun t => !(t.lastAddr == lastAddr && decide (t.sequenceNumber < ansn)) }

def insertTopologyTuple (tuple : TopologyTuple) : OlsrState :=
  { s with topologySet := s.topologySet ++ [tuple] }

def setTopologyExpiration (destAddr lastAddr : Ipv4Address) (time : Time) : OlsrState :=
  { s with
    topologySet :=
      Lib.updateFirst (fun t => t.key == (destAddr, lastAddr))
        (fun t => { t with expirationTime := time }) s.topologySet }

/-! ### Interface association set -/

def findIfaceAssocTuple (ifaceAddr : Ipv4Address) : Option IfaceAssocTuple :=
  s.ifaceAssocSet.find? fun t => t.ifaceAddr == ifaceAddr

def eraseIfaceAssocTuple (tuple : IfaceAssocTuple) : OlsrState :=
  { s with ifaceAssocSet := s.ifaceAssocSet.eraseP fun t => t.same tuple }

def insertIfaceAssocTuple (tuple : IfaceAssocTuple) : OlsrState :=
  { s with ifaceAssocSet := s.ifaceAssocSet ++ [tuple] }

def findNeighborInterfaces (neighborMainAddr : Ipv4Address) : List Ipv4Address :=
  (s.ifaceAssocSet.filter fun t => t.mainAddr == neighborMainAddr).map IfaceAssocTuple.ifaceAddr

/-- `RoutingProtocol::GetMainAddress`, which reads nothing but the association set. -/
def getMainAddress (ifaceAddr : Ipv4Address) : Ipv4Address :=
  match s.findIfaceAssocTuple ifaceAddr with
  | some tuple => tuple.mainAddr
  | none => ifaceAddr

lemma getMainAddress_eq_getD (a : Ipv4Address) :
    s.getMainAddress a = ((s.findIfaceAssocTuple a).map IfaceAssocTuple.mainAddr).getD a := by
  rw [getMainAddress]
  cases s.findIfaceAssocTuple a <;> rfl

/-- The main addresses are a function of the interface associations alone. -/
lemma getMainAddress_congr {s s' : OlsrState} (h : s.ifaceAssocSet = s'.ifaceAssocSet) :
    s.getMainAddress = s'.getMainAddress := by
  funext a
  simp only [getMainAddress, findIfaceAssocTuple, h]

/-! ### Host-network association set -/

def findAssociationTuple (gatewayAddr networkAddr : Ipv4Address) (netmask : Ipv4Mask) :
    Option AssociationTuple :=
  s.associationSet.find? fun t =>
    t.gatewayAddr == gatewayAddr && t.networkAddr == networkAddr && t.netmask == netmask

def eraseAssociationTuple (tuple : AssociationTuple) : OlsrState :=
  { s with associationSet := s.associationSet.eraseP fun t => t.same tuple }

def insertAssociationTuple (tuple : AssociationTuple) : OlsrState :=
  { s with associationSet := s.associationSet ++ [tuple] }

def setAssociationExpiration (gatewayAddr networkAddr : Ipv4Address) (netmask : Ipv4Mask)
    (time : Time) : OlsrState :=
  { s with
    associationSet :=
      Lib.updateFirst
        (fun t =>
          t.gatewayAddr == gatewayAddr && t.networkAddr == networkAddr && t.netmask == netmask)
        (fun t => { t with expirationTime := time }) s.associationSet }

def eraseAssociation (tuple : Association) : OlsrState :=
  { s with associations := s.associations.eraseP fun t => t == tuple }

def insertAssociation (tuple : Association) : OlsrState :=
  { s with associations := s.associations ++ [tuple] }

/-! ### Searches in the neighbor set -/

lemma findNeighborTuple_insert_self (nb : NeighborTuple) :
    (s.insertNeighborTuple nb).findNeighborTuple nb.neighborMainAddr = some nb :=
  Lib.find?_upsert_self (by simp)

lemma findNeighborTuple_insert_of_ne {nb : NeighborTuple} {a : Ipv4Address}
    (h : nb.neighborMainAddr ≠ a) :
    (s.insertNeighborTuple nb).findNeighborTuple a = s.findNeighborTuple a :=
  Lib.find?_upsert_of_disjoint (fun b hb => by simpa [beq_iff_eq.mp hb] using h) (by simp)

lemma findNeighborTuple_setStatus_self (a : Ipv4Address) (st : Status) :
    (s.setNeighborStatus a st).findNeighborTuple a =
      (s.findNeighborTuple a).map fun nb => { nb with status := st } :=
  Lib.find?_updateFirst_self fun _ h => h

lemma findNeighborTuple_setStatus_of_ne {a b : Ipv4Address} (h : a ≠ b) (st : Status) :
    (s.setNeighborStatus a st).findNeighborTuple b = s.findNeighborTuple b :=
  Lib.find?_updateFirst_of_disjoint (fun nb hnb => by simpa [beq_iff_eq.mp hnb] using h)
    fun nb hnb => by simpa [beq_iff_eq.mp hnb] using h

lemma findNeighborTuple_setWillingness_self (a : Ipv4Address) (w : Willingness) :
    (s.setNeighborWillingness a w).findNeighborTuple a =
      (s.findNeighborTuple a).map fun nb => { nb with willingness := w } :=
  Lib.find?_updateFirst_self fun _ h => h

lemma findNeighborTuple_setWillingness_of_ne {a b : Ipv4Address} (h : a ≠ b) (w : Willingness) :
    (s.setNeighborWillingness a w).findNeighborTuple b = s.findNeighborTuple b :=
  Lib.find?_updateFirst_of_disjoint (fun nb hnb => by simpa [beq_iff_eq.mp hnb] using h)
    fun nb hnb => by simpa [beq_iff_eq.mp hnb] using h

end OlsrState

end ManetOlsr
