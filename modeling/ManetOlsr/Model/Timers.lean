/-
The functions the simulator calls: the emission timers and the timers of the tuples.
-/
import ManetOlsr.Model.Reception

namespace ManetOlsr

namespace Node

variable {D : Type} (n : Node D)

/-! ### Emission timers -/

def helloTimerExpire [OlsrDefenseStrategy D] (jitter : Time) : Node D :=
  (n.sendHello jitter).schedule n.helloInterval Event.helloTimerExpire

def tcTimerExpire [OlsrDefenseStrategy D] (jitter : Time) : Node D :=
  (if n.state.mprSelectorSet.isEmpty then n else n.sendTc jitter).schedule n.tcInterval
    Event.tcTimerExpire

def midTimerExpire (jitter : Time) : Node D :=
  (n.sendMid jitter).schedule n.midInterval Event.midTimerExpire

def hnaTimerExpire (jitter : Time) : Node D :=
  (if n.state.associations.isEmpty then n else n.sendHna jitter).schedule n.hnaInterval
    Event.hnaTimerExpire

/-- `HandleDefenseTimer`; the queue and energy reports are left to the environment. -/
def handleDefenseTimer [OlsrDefenseStrategy D] : Node D :=
  match n.defenseStrategy with
  | none => n
  | some d =>
    let d₁ := OlsrDefenseStrategy.periodicCheck d n.now n.state
    let d₂ := OlsrDefenseStrategy.onSelfReliabilityReport d₁ n.now n.state n.localRxDrops
    { n with defenseStrategy := some d₂, localRxDrops := 0 }.schedule (Seconds 1)
      Event.handleDefenseTimer

/-! ### Tuple timers -/

/-- The shape of the tuple timers: nothing when the tuple is gone, removal when it has expired,
and otherwise another timer for the same tuple. -/
def tupleTimer {α : Type} (tuple : Option α) (expirationTime : α → Time) (remove : α → Node D)
    (e : Event) : Node D :=
  match tuple with
  | none => n
  | some t =>
    if expirationTime t < n.now then remove t else n.schedule (n.delay (expirationTime t)) e

def dupTupleTimerExpire (address : Ipv4Address) (sequenceNumber : UInt16) : Node D :=
  n.tupleTimer (n.state.findDuplicateTuple address sequenceNumber) DuplicateTuple.expirationTime
    (fun t => n.withState (n.state.eraseDuplicateTuple t))
    (Event.dupTupleTimerExpire address sequenceNumber)

def nb2hopTupleTimerExpire (neighborMainAddr twoHopNeighborAddr : Ipv4Address) : Node D :=
  n.tupleTimer (n.state.findTwoHopNeighborTuple neighborMainAddr twoHopNeighborAddr)
    TwoHopNeighborTuple.expirationTime
    (fun t => n.withState (n.state.eraseTwoHopNeighborTuple t))
    (Event.nb2hopTupleTimerExpire neighborMainAddr twoHopNeighborAddr)

def mprSelTupleTimerExpire (mainAddr : Ipv4Address) : Node D :=
  n.tupleTimer (n.state.findMprSelectorTuple mainAddr) MprSelectorTuple.expirationTime
    (fun t => (n.withState (n.state.eraseMprSelectorTuple t)).incrementAnsn)
    (Event.mprSelTupleTimerExpire mainAddr)

def topologyTupleTimerExpire (destAddr lastAddr : Ipv4Address) : Node D :=
  n.tupleTimer (n.state.findTopologyTuple destAddr lastAddr) TopologyTuple.expirationTime
    (fun t => n.withState (n.state.eraseTopologyTuple t))
    (Event.topologyTupleTimerExpire destAddr lastAddr)

def ifaceAssocTupleTimerExpire (ifaceAddr : Ipv4Address) : Node D :=
  n.tupleTimer (n.state.findIfaceAssocTuple ifaceAddr) IfaceAssocTuple.time
    (fun t => n.withState (n.state.eraseIfaceAssocTuple t))
    (Event.ifaceAssocTupleTimerExpire ifaceAddr)

def associationTupleTimerExpire (gatewayAddr networkAddr : Ipv4Address) (netmask : Ipv4Mask) :
    Node D :=
  n.tupleTimer (n.state.findAssociationTuple gatewayAddr networkAddr netmask)
    AssociationTuple.expirationTime
    (fun t => n.withState (n.state.eraseAssociationTuple t))
    (Event.associationTupleTimerExpire gatewayAddr networkAddr netmask)

/-! ### Link timers -/

def removeLinkTuple (tuple : LinkTuple) : Node D :=
  n.withState
    ((n.state.eraseNeighborTuple (n.getMainAddress tuple.neighborIfaceAddr)).eraseLinkTuple tuple)

/-- The repositories when `NeighborLoss` comes to its computations. -/
def dropNeighbor (tuple : LinkTuple) : Node D :=
  let n₁ := n.linkTupleUpdated tuple Willingness.default
  let mainAddr := n₁.getMainAddress tuple.neighborIfaceAddr
  n₁.withState ((n₁.state.eraseTwoHopNeighborTuples mainAddr).eraseMprSelectorTuples mainAddr)

def neighborLoss [OlsrDefenseStrategy D] (tuple : LinkTuple) : Node D :=
  (n.dropNeighbor tuple).mprComputation.routingTableComputation

def linkTupleTimerExpire [OlsrDefenseStrategy D] (neighborIfaceAddr : Ipv4Address) : Node D :=
  match n.state.findLinkTuple neighborIfaceAddr with
  | none => n
  | some tuple =>
    if tuple.time < n.now then n.removeLinkTuple tuple
    else if tuple.symTime < n.now then
      -- The first timer to come here only clears the flag, whichever link it belongs to.
      let n₁ :=
        if n.linkTupleTimerFirstTime then { n with linkTupleTimerFirstTime := false }
        else n.neighborLoss tuple
      n₁.schedule (n₁.delay tuple.time) (Event.linkTupleTimerExpire neighborIfaceAddr)
    else
      n.schedule (n.delay (min tuple.time tuple.symTime))
        (Event.linkTupleTimerExpire neighborIfaceAddr)

/-- A link is lost when its timer fires: it has been symmetric, or is new, until before now, and
it has not expired. -/
def losesLink (neighborIfaceAddr : Ipv4Address) : Bool :=
  (n.state.findLinkTuple neighborIfaceAddr).any fun tuple =>
    !decide (tuple.time < n.now) && decide (tuple.symTime < n.now)

/-- Call the function of an event. -/
def call [OlsrDefenseStrategy D] (e : Event) (jitter : Time) : Node D :=
  match e with
  | Event.helloTimerExpire => n.helloTimerExpire jitter
  | Event.tcTimerExpire => n.tcTimerExpire jitter
  | Event.midTimerExpire => n.midTimerExpire jitter
  | Event.hnaTimerExpire => n.hnaTimerExpire jitter
  | Event.sendQueuedMessages => n.sendQueuedMessages
  | Event.handleDefenseTimer => n.handleDefenseTimer
  | Event.dupTupleTimerExpire address sequenceNumber =>
    n.dupTupleTimerExpire address sequenceNumber
  | Event.linkTupleTimerExpire neighborIfaceAddr => n.linkTupleTimerExpire neighborIfaceAddr
  | Event.nb2hopTupleTimerExpire neighborMainAddr twoHopNeighborAddr =>
    n.nb2hopTupleTimerExpire neighborMainAddr twoHopNeighborAddr
  | Event.mprSelTupleTimerExpire mainAddr => n.mprSelTupleTimerExpire mainAddr
  | Event.topologyTupleTimerExpire destAddr lastAddr =>
    n.topologyTupleTimerExpire destAddr lastAddr
  | Event.ifaceAssocTupleTimerExpire ifaceAddr => n.ifaceAssocTupleTimerExpire ifaceAddr
  | Event.associationTupleTimerExpire gatewayAddr networkAddr netmask =>
    n.associationTupleTimerExpire gatewayAddr networkAddr netmask

end Node

end ManetOlsr
