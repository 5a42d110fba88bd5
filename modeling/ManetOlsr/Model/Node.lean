/-
The state of `RoutingProtocol` on one node, with the simulator events it has pending.

A defense strategy is an object of a class derived from `OlsrDefenseStrategy`.  Only the part
of that interface which the protocol calls while it handles control traffic is listed here;
whatever else changes a strategy (data packets, sniffed frames, queue and energy reports, its
own switches) is an event of the environment.  A strategy may read the clock, and through the
pointer `Setup` hands it the repositories of its node, so that both are arguments of its hooks;
no hook writes to the node.
-/
import ManetOlsr.Model.Header
import ManetOlsr.Model.State

namespace ManetOlsr

class OlsrDefenseStrategy (D : Type) where
  setup : D → Time → Ipv4Address → D
  isMalicious : D → Time → Ipv4Address → Bool
  getBlacklist : D → Time → Finset Ipv4Address
  requiresFictitiousNode : D → Time → OlsrState → Bool
  onRecvHello : D → Time → OlsrState → Ipv4Address → MessageHeader → Hello → D
  onRecvTc : D → Time → OlsrState → Ipv4Address → MessageHeader → Tc → D
  onTcGenerated : D → Time → OlsrState → Tc → D
  onMacTxFailure : D → Time → OlsrState → Ipv4Address → ℕ → D
  onSelfReliabilityReport : D → Time → OlsrState → UInt32 → D
  periodicCheck : D → Time → OlsrState → D

/-- `OlsrDefenseNull`, the strategy that does nothing. -/
inductive OlsrDefenseNull where
  | mk
deriving DecidableEq, Repr

instance : OlsrDefenseStrategy OlsrDefenseNull where
  setup d _ _ := d
  isMalicious _ _ _ := false
  getBlacklist _ _ := ∅
  requiresFictitiousNode _ _ _ := false
  onRecvHello d _ _ _ _ _ := d
  onRecvTc d _ _ _ _ _ := d
  onTcGenerated d _ _ _ := d
  onMacTxFailure d _ _ _ _ := d
  onSelfReliabilityReport d _ _ _ := d
  periodicCheck d _ _ := d

/-- The tuple that a routing table entry was learnt from. -/
inductive Origin where
  | link (t : LinkTuple)
  | twoHop (t : TwoHopNeighborTuple)
  | topology (t : TopologyTuple)
deriving DecidableEq, Repr

/-- An entry of the routing table.  Its origin is not in the source: it is set with the entry, and
no function reads it. -/
structure RoutingTableEntry where
  destAddr : Ipv4Address
  nextAddr : Ipv4Address
  interface : ℕ
  distance : ℕ
  origin : Origin
deriving DecidableEq, Repr

/-- `std::map<Ipv4Address, RoutingTableEntry>`. -/
abbrev Table : Type := Ipv4Address → Option RoutingTableEntry

/-- A network route of the `Ipv4StaticRouting` object, with its metric. -/
structure HnaRoute where
  destNetwork : Ipv4Address
  destNetworkMask : Ipv4Mask
  gateway : Ipv4Address
  interface : ℕ
  metric : ℕ
deriving DecidableEq, Repr

/-- An interface of `m_ipv4` with its addresses, of which there is at least one. -/
structure Ipv4Interface where
  address : Ipv4Address
  otherAddresses : List Ipv4Address := []
deriving DecidableEq, Repr

def Ipv4Interface.addresses (i : Ipv4Interface) : List Ipv4Address :=
  i.address :: i.otherAddresses

/-- The functions of the protocol that the simulator is told to call, with their arguments. -/
inductive Event where
  | helloTimerExpire
  | tcTimerExpire
  | midTimerExpire
  | hnaTimerExpire
  | sendQueuedMessages
  | handleDefenseTimer
  | dupTupleTimerExpire (address : Ipv4Address) (sequenceNumber : UInt16)
  | linkTupleTimerExpire (neighborIfaceAddr : Ipv4Address)
  | nb2hopTupleTimerExpire (neighborMainAddr twoHopNeighborAddr : Ipv4Address)
  | mprSelTupleTimerExpire (mainAddr : Ipv4Address)
  | topologyTupleTimerExpire (destAddr lastAddr : Ipv4Address)
  | ifaceAssocTupleTimerExpire (ifaceAddr : Ipv4Address)
  | associationTupleTimerExpire (gatewayAddr networkAddr : Ipv4Address) (netmask : Ipv4Mask)
deriving DecidableEq, Repr

/-- A packet as `SendPacket` hands it to the sockets. -/
structure OlsrPacket where
  packetSequenceNumber : UInt16
  messages : List MessageHeader
deriving DecidableEq, Repr

/-- A TC message as `SendTc` builds it, with the number of calls of `IncrementAnsn` so far. -/
structure GeneratedTc where
  tc : Tc
  ansnIncrements : ℕ
deriving DecidableEq, Repr

/-- The members of `RoutingProtocol`, after its attributes have been set.

The last group of fields is not in the source.  `now` and `events` are the simulator's clock and
the part of its queue that belongs to this node; `fatalError` is set where the source stops the
simulation; `sentPackets`, `generatedTcs` and `ansnIncrements` record what happened. -/
structure Node (D : Type) where
  mainAddress : Ipv4Address
  interfaces : List Ipv4Interface
  interfaceExclusions : Finset ℕ := ∅
  helloInterval : Time := Seconds 2
  tcInterval : Time := Seconds 5
  midInterval : Time := Seconds 5
  hnaInterval : Time := Seconds 5
  willingness : Willingness := Willingness.default
  isMalicious : Bool := false
  spoofedLinksCount : ℕ := 0
  defenseStrategy : Option D := none
  state : OlsrState := {}
  table : Table := fun _ => none
  tableAvoidingSuspects : Table := fun _ => none
  hnaRoutingTable : List HnaRoute := []
  packetSequenceNumber : UInt16 := 65535
  messageSequenceNumber : UInt16 := 65535
  ansn : UInt16 := 65535
  linkTupleTimerFirstTime : Bool := true
  queuedMessages : List MessageHeader := []
  localRxDrops : UInt32 := 0
  now : Time := 0
  events : List (Time × Event) := []
  fatalError : Bool := false
  sentPackets : List OlsrPacket := []
  generatedTcs : List GeneratedTc := []
  ansnIncrements : ℕ := 0

namespace Node

variable {D : Type} (n : Node D)

/-- `DELAY(time)`. -/
def delay (time : Time) : Time := if time < n.now then Granule else time - n.now + Granule

/-- `Simulator::Schedule(delay, ...)`. -/
def schedule (delay : Time) (e : Event) : Node D :=
  { n with events := n.events ++ [(n.now + delay, e)] }

/-- `Timer::IsRunning`. -/
def isRunning (e : Event) : Bool := n.events.any fun te => te.2 == e

abbrev getMainAddress (ifaceAddr : Ipv4Address) : Ipv4Address :=
  n.state.getMainAddress ifaceAddr

/-- Replace the repositories. -/
def withState (s : OlsrState) : Node D := { n with state := s }

def incrementAnsn : Node D :=
  { n with ansn := n.ansn + 1, ansnIncrements := n.ansnIncrements + 1 }

/-- `GetMessageSequenceNumber`, which increments the number before it returns it. -/
def nextMessageSequenceNumber : Node D :=
  { n with messageSequenceNumber := n.messageSequenceNumber + 1 }

/-- The holding times `OLSR_NEIGHB_HOLD_TIME`, `OLSR_TOP_HOLD_TIME`, `OLSR_MID_HOLD_TIME`,
`OLSR_HNA_HOLD_TIME` and `OLSR_DUP_HOLD_TIME`. -/
def neighbHoldTime : Time := 3 * n.helloInterval

def topHoldTime : Time := 3 * n.tcInterval

def midHoldTime : Time := 3 * n.midInterval

def hnaHoldTime : Time := 3 * n.hnaInterval

def dupHoldTime : Time := Seconds 30

/-- The blacklist that the installed strategy reports. -/
def getBlacklist [OlsrDefenseStrategy D] : Finset Ipv4Address :=
  match n.defenseStrategy with
  | some d => OlsrDefenseStrategy.getBlacklist d n.now
  | none => ∅

/-- Whether the installed strategy asks for a fictitious node. -/
def requiresFictitiousNode [OlsrDefenseStrategy D] : Bool :=
  match n.defenseStrategy with
  | some d => OlsrDefenseStrategy.requiresFictitiousNode d n.now n.state
  | none => false

/-- Run a hook of the installed strategy. -/
def mapDefense (f : D → D) : Node D := { n with defenseStrategy := n.defenseStrategy.map f }

end Node

end ManetOlsr
