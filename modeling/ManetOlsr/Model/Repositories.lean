/-
The tuples of the OLSR repositories (`olsr-repositories.h`).

Addresses and network masks are the 32-bit words of `Ipv4Address` and `Ipv4Mask`.
Times are counted in nanoseconds, the resolution of `ns3::Time`.  `same` is `operator==`, which
compares only some of the fields of a tuple.
-/
import ManetOlsr.Lib.OrderedSet
import Mathlib.Data.Finset.Basic
import Mathlib.Data.UInt
import Mathlib.Tactic.Common

namespace ManetOlsr

abbrev Ipv4Address : Type := UInt32

/-- `Ipv4Address::operator<`. -/
def Ipv4Address.lt (a b : Ipv4Address) : Bool := decide (a < b)

lemma Ipv4Address.comparesKeys : Lib.ComparesKeys Ipv4Address.lt UInt32.toNat where
  lt_iff a b := by rw [Ipv4Address.lt, decide_eq_true_eq, UInt32.lt_iff_toNat_lt]
  injective _ _ h := UInt32.toNat_inj.mp h

/-- `Ipv4Address()`, the value of an address that has not been set. -/
def unsetAddress : Ipv4Address := 0

abbrev Ipv4Mask : Type := UInt32

/-- `Time`, in nanoseconds. -/
abbrev Time : Type := ℤ

/-- `Seconds(s)` for a whole number of seconds. -/
def Seconds (s : ℤ) : Time := s * 1000000000

/-- `Seconds(0.000001)`, the granule that `DELAY` adds. -/
def Granule : Time := 1000

/-- `Willingness`: any byte, of which RFC 3626 names five. -/
abbrev Willingness : Type := UInt8

namespace Willingness

def never : Willingness := 0

def low : Willingness := 1

def default : Willingness := 3

def high : Willingness := 6

def always : Willingness := 7

end Willingness

structure IfaceAssocTuple where
  ifaceAddr : Ipv4Address
  mainAddr : Ipv4Address
  time : Time
deriving DecidableEq, Repr

structure LinkTuple where
  localIfaceAddr : Ipv4Address
  neighborIfaceAddr : Ipv4Address
  symTime : Time
  asymTime : Time
  time : Time
deriving DecidableEq, Repr

inductive Status where
  | notSym
  | sym
deriving DecidableEq, Repr

structure NeighborTuple where
  neighborMainAddr : Ipv4Address
  status : Status
  willingness : Willingness
deriving DecidableEq, Repr

structure TwoHopNeighborTuple where
  neighborMainAddr : Ipv4Address
  twoHopNeighborAddr : Ipv4Address
  expirationTime : Time
deriving DecidableEq, Repr

structure MprSelectorTuple where
  mainAddr : Ipv4Address
  expirationTime : Time
deriving DecidableEq, Repr

structure DuplicateTuple where
  address : Ipv4Address
  sequenceNumber : UInt16
  retransmitted : Bool
  ifaceList : List Ipv4Address
  expirationTime : Time
deriving DecidableEq, Repr

structure TopologyTuple where
  destAddr : Ipv4Address
  lastAddr : Ipv4Address
  sequenceNumber : UInt16
  expirationTime : Time
deriving DecidableEq, Repr

/-- `Association`: a network announced by this node. -/
structure Association where
  networkAddr : Ipv4Address
  netmask : Ipv4Mask
deriving DecidableEq, Repr

/-- `AssociationTuple`: a network announced by another node. -/
structure AssociationTuple where
  gatewayAddr : Ipv4Address
  networkAddr : Ipv4Address
  netmask : Ipv4Mask
  expirationTime : Time
deriving DecidableEq, Repr

namespace LinkTuple

def same (a b : LinkTuple) : Bool :=
  a.localIfaceAddr == b.localIfaceAddr && a.neighborIfaceAddr == b.neighborIfaceAddr

end LinkTuple

namespace MprSelectorTuple

def same (a b : MprSelectorTuple) : Bool := a.mainAddr == b.mainAddr

end MprSelectorTuple

namespace TwoHopNeighborTuple

/-- The pair under which a 2-hop tuple is looked up. -/
def key (t : TwoHopNeighborTuple) : Ipv4Address × Ipv4Address :=
  (t.neighborMainAddr, t.twoHopNeighborAddr)

def same (a b : TwoHopNeighborTuple) : Bool :=
  a.neighborMainAddr == b.neighborMainAddr && a.twoHopNeighborAddr == b.twoHopNeighborAddr

end TwoHopNeighborTuple

namespace TopologyTuple

/-- The pair under which a topology tuple is looked up. -/
def key (t : TopologyTuple) : Ipv4Address × Ipv4Address := (t.destAddr, t.lastAddr)

def same (a b : TopologyTuple) : Bool :=
  a.destAddr == b.destAddr && a.lastAddr == b.lastAddr && a.sequenceNumber == b.sequenceNumber

end TopologyTuple

namespace DuplicateTuple

def same (a b : DuplicateTuple) : Bool :=
  a.address == b.address && a.sequenceNumber == b.sequenceNumber

end DuplicateTuple

namespace IfaceAssocTuple

def same (a b : IfaceAssocTuple) : Bool :=
  a.ifaceAddr == b.ifaceAddr && a.mainAddr == b.mainAddr

end IfaceAssocTuple

namespace AssociationTuple

def same (a b : AssociationTuple) : Bool :=
  a.gatewayAddr == b.gatewayAddr && a.networkAddr == b.networkAddr && a.netmask == b.netmask

end AssociationTuple

end ManetOlsr
