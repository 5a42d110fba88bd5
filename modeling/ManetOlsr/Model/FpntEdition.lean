/-
The edition of the protocol for the FPNT defense, and the runs of a node with both.

While the defense is enabled, `RunTrustDijkstra` computes the routes; otherwise the passes of the
standard computation do.  TC messages carry evaluations of the addresses they advertise; what a
node makes of them is part of its inputs, since the messages of the other editions have none.  The
evaluations that a node sends itself are left out.

A packet has the header that it has on the air.  `RouteOutput` is called before the IP layer fills
that header in, with one in which only the destination and the protocol are set; `bareHeader` is
this header.
-/
import ManetOlsr.Model.Editions
import ManetOlsr.Model.FpntDefense
import ManetOlsr.Model.WatchdogEdition

namespace ManetOlsr

/-! ### Redundant MPRs -/

namespace Mpr

/-- The variables of the loop that covers each 2-hop neighbor twice; `stuck` is set where it
breaks without a node to select. -/
structure RedundantLoop where
  redundantMprSet : Finset Ipv4Address := ∅
  coverage : Ipv4Address → ℕ := fun _ => 0
  stuck : Bool := false

variable (N : List NeighborTuple) (N2 : List TwoHopNeighborTuple)

def redundancy : ℕ := 2

namespace RedundantLoop

/-- Insert a neighbor, and count what it covers. -/
def insert (x : RedundantLoop) (neighborMainAddr : Ipv4Address) : RedundantLoop :=
  { x with
    redundantMprSet := Insert.insert neighborMainAddr x.redundantMprSet
    coverage := fun a => x.coverage a +
      N2.countP fun t => t.neighborMainAddr == neighborMainAddr && t.twoHopNeighborAddr == a }

/-- The number of tuples that a neighbor would cover and that are not covered often enough. -/
def covered (x : RedundantLoop) (nb : NeighborTuple) : ℕ :=
  N2.countP fun t =>
    t.neighborMainAddr == nb.neighborMainAddr && decide (x.coverage t.twoHopNeighborAddr < redundancy)

/-- The variables `bestNode`, `bestCovered` and `bestTrust`. -/
structure Best where
  node : Option NeighborTuple := none
  covered : ℕ := 0
  trust : ℚ := -1

def better (x : RedundantLoop) (getNodeTrust : Ipv4Address → ℚ) (best : Best) (nb : NeighborTuple) :
    Best :=
  if nb.neighborMainAddr ∈ x.redundantMprSet then best
  else
    let covered := x.covered N2 nb
    if covered = 0 then best
    else
      let nbTrust := getNodeTrust nb.neighborMainAddr
      if covered > best.covered ∨ covered = best.covered ∧ nbTrust > best.trust then
        ⟨some nb, covered, nbTrust⟩
      else best

def goesOn (x : RedundantLoop) : Bool :=
  !x.stuck && N2.any fun t => decide (x.coverage t.twoHopNeighborAddr < redundancy)

def round (getNodeTrust : Ipv4Address → ℚ) (x : RedundantLoop) : RedundantLoop :=
  match (N.foldl (x.better N2 getNodeTrust) {}).node with
  | some bestNode => x.insert N2 bestNode.neighborMainAddr
  | none => { x with stuck := true }

end RedundantLoop

/-- The loop over the neighbors that are always willing. -/
def seedAlways : RedundantLoop :=
  N.foldl (fun x nb =>
    if nb.willingness == Willingness.always then x.insert N2 nb.neighborMainAddr else x) {}

/-- The MPR set of FPNT-OLSR(R).  Every round but the last inserts another neighbor. -/
def redundantMprSet (getNodeTrust : Ipv4Address → ℚ) : Finset Ipv4Address :=
  (Lib.whileLoop (RedundantLoop.goesOn N2) (RedundantLoop.round N N2 getNodeTrust) (N.length + 1)
    (seedAlways N N2)).redundantMprSet

end Mpr

/-! ### The edition -/

namespace Node

variable (n : Node OlsrDefenseFpnt)

def isTrustRoutingEnabled : Bool :=
  match n.defenseStrategy with
  | some d => d.enabled
  | none => false

/-- `GetNodeTrust` of the installed strategy. -/
def getNodeTrust : Option (Ipv4Address → ℚ) :=
  n.defenseStrategy.map fun d => d.getNodeTrust n.state

/-- What `RunTrustDijkstra` leaves in `m_table` and `m_hnaRoutingTable`. -/
def trustRoutes : Table × List HnaRoute :=
  ((n.runTrustDijkstra n.getNodeTrust).table, (n.runTrustDijkstra n.getNodeTrust).hnaRoutingTable)

/-- What the passes of the standard computation leave there. -/
def standardRoutes : Table × List HnaRoute :=
  (n.coreTable n.getBlacklist, n.coreHnaRoutes n.getBlacklist n.hnaRoutingTable)

/-- `DoInitialize` up to the timers. -/
def fpntStartDefense : Node OlsrDefenseFpnt :=
  let n₁ : Node OlsrDefenseFpnt :=
    { n with
      mainAddress := n.chosenMainAddress
      state := { n.state with ifaceAssocSet := n.state.ifaceAssocSet ++ n.ownIfaceAssocs } }
  match n₁.defenseStrategy with
  | some d =>
    { n₁ with
      defenseStrategy := some { d.setup n.chosenMainAddress with tcInterval := n.tcInterval } }.schedule
        d.checkInterval Event.handleDefenseTimer
  | none => n₁

/-- `ProcessTc` of a message with these evaluation vectors. -/
def fpntProcessTc (vectors : List EvaluationVector) (msg : MessageHeader) (tc : Tc)
    (senderIface : Ipv4Address) : Node OlsrDefenseFpnt :=
  if !n.fromSymLink senderIface then n
  else if (n.state.findNewerTopologyTuple msg.originatorAddress tc.ansn).isSome then n
  else if vectors.isEmpty then n.processTc msg tc senderIface
  else
    (n.mapDefense fun d =>
      d.onRecvEvaluationVectors msg.originatorAddress tc.neighborAddresses vectors).processTc msg tc
        senderIface

/-- `N` without the malicious neighbors, which only a defense without trust routing leaves out. -/
def fpntExcluded (a : Ipv4Address) : Bool := n.suspects a && !n.isTrustRoutingEnabled

def fpntMprSet (redundantMprCoverage : Bool) : Finset Ipv4Address :=
  match n.getNodeTrust with
  | some trust =>
    if n.isTrustRoutingEnabled && redundantMprCoverage then
      Mpr.redundantMprSet (Mpr.NWithout n.state n.fpntExcluded)
        (Mpr.N2Without n.mainAddress n.state n.fpntExcluded) trust
    else Mpr.mprSetWithout n.mainAddress n.state n.fpntExcluded
  | none => Mpr.mprSetWithout n.mainAddress n.state n.fpntExcluded

/-- The node for which `PeriodicCheck` calls `RunTrustDijkstra`, if it does. -/
def rerouting : Option (Node OlsrDefenseFpnt) :=
  match n.defenseStrategy with
  | some d =>
    if (d.periodicCheck n.now n.state).2 then
      some { n with defenseStrategy := some (d.periodicCheck n.now n.state).1 }
    else none
  | none => none

/-- `HandleDefenseTimer`; the reports about the queue and the energy are ignored by the defense. -/
def fpntHandleDefenseTimer : Node OlsrDefenseFpnt :=
  match n.defenseStrategy with
  | some d =>
    let n₁ := { n with defenseStrategy := some (d.periodicCheck n.now n.state).1 }
    let n₂ := if (d.periodicCheck n.now n.state).2 then n₁.withRoutes n₁.trustRoutes else n₁
    n₂.schedule d.checkInterval Event.handleDefenseTimer
  | none => n

end Node

/-- The protocol in `files for all defenses/FPNT`, while the TC messages come with these evaluation
vectors. -/
def fpntEdition (redundantMprCoverage : Bool) (vectors : MessageHeader → List EvaluationVector) :
    Edition OlsrDefenseFpnt where
  startDefense n := n.fpntStartDefense
  skips n msg senderIface :=
    !n.isTrustRoutingEnabled &&
      (n.suspects msg.originatorAddress || n.suspects (n.getMainAddress senderIface))
  processTc n msg tc senderIface := n.fpntProcessTc (vectors msg) msg tc senderIface
  mprSet n := n.fpntMprSet redundantMprCoverage
  routes n := if n.isTrustRoutingEnabled then n.trustRoutes else n.standardRoutes
  handleDefenseTimer n := n.fpntHandleDefenseTimer
  macTxDrop n neighbor := if neighbor = 0 then n else n.macTxDrop neighbor

/-- One of the computations of the routes, with the node that makes it. -/
inductive FpntComputation where
  | standard (z : Node OlsrDefenseFpnt)
  | trust (z : Node OlsrDefenseFpnt)

def FpntComputation.routes : FpntComputation → Table × List HnaRoute
  | standard z => z.standardRoutes
  | trust z => z.trustRoutes

namespace Node

variable (n : Node OlsrDefenseFpnt)

/-- The computation that `RoutingTableComputation` makes. -/
def fpntComputation : FpntComputation :=
  if n.isTrustRoutingEnabled then .trust n else .standard n

/-- The computation that an act makes, if it makes one. -/
def fpntComputing (v : Edition OlsrDefenseFpnt) (n : Node OlsrDefenseFpnt) (a : Act OlsrDefenseFpnt) :
    Option FpntComputation :=
  if n.fatalError then none
  else
    match a with
    | .fire t .handleDefenseTimer _ =>
      (n.dequeue t .handleDefenseTimer).rerouting.map FpntComputation.trust
    | a => (v.computing n a).map fpntComputation

end Node

/-! ### Runs -/

/-- A data packet, with the header that it has on the air and the size that the hook sees. -/
structure IpPacket where
  uid : ℕ
  size : UInt32
  header : Ipv4Header
deriving DecidableEq, Repr

def IpPacket.toDataPacket (p : IpPacket) : DataPacket :=
  ⟨p.uid, p.header.source, p.header.destination⟩

/-- The header that `UdpSocketImpl::DoSendTo` hands to `RouteOutput`. -/
def bareHeader (destination : Ipv4Address) : Ipv4Header := ⟨unsetAddress, destination, 0, 0⟩

/-- What happens to a node with the defense.  A frame is a data frame with a readable IP header, and
comes with what `MacToIpv4` answers at the time. -/
inductive FpntInput where
  | control (l : Label OlsrDefenseFpnt) (vectors : MessageHeader → List EvaluationVector)
  | routeOutput (t : Time) (p : IpPacket) (oif : Option ℕ)
  | routeInput (t : Time) (p : IpPacket) (iif : ℕ) (lcb : Bool)
  | frame (t : Time) (transmitter receiver : Mac48Address) (p : IpPacket)
      (macToIpv4 : Mac48Address → Ipv4Address)
  | setEnabled (t : Time) (enabled : Bool)

/-- The time at which an input happens. -/
def FpntInput.time : FpntInput → Time
  | control l _ => l.time
  | routeOutput t .. | routeInput t .. | frame t .. | setEnabled t _ => t

/-- What the inputs of a run depend on besides the node: the IP layer, the addresses of the Wi-Fi
devices, and the attribute `RedundantMprCoverage`. -/
structure FpntEnvironment where
  ipv4 : Ipv4L3Protocol
  ownMacs : List Mac48Address := []
  redundantMprCoverage : Bool := false

namespace Node

variable (env : FpntEnvironment) (n : Node OlsrDefenseFpnt)

/-- Tell the defense of a packet that is handed to a gateway. -/
def fpntTellForwarded (header : Ipv4Header) (p : IpPacket) (gateway : Ipv4Address) :
    Node OlsrDefenseFpnt :=
  n.mapDefense fun d =>
    d.onDataPacketForwarded n.now n.state header p.size gateway p.header.destination

/-- `RouteOutput`. -/
def fpntRouteOutput (p : IpPacket) (oif : Option ℕ) : Node OlsrDefenseFpnt :=
  match n.chooseOutput env.ipv4 p.toDataPacket oif with
  | .route q => n.fpntTellForwarded (bareHeader p.header.destination) p q.gateway
  | c => n.settle c

/-- `RouteInput`, which tells the defense of no packet that takes a network route. -/
def fpntRouteInput (p : IpPacket) (iif : ℕ) (lcb : Bool) : Node OlsrDefenseFpnt :=
  match n.chooseInput env.ipv4 p.toDataPacket iif lcb with
  | .route q =>
    if (n.table p.header.destination).isSome then n.fpntTellForwarded p.header p q.gateway else n
  | c => n.settle c

/-- `MonitorSnifferRx`. -/
def fpntMonitorSnifferRx (transmitter receiver : Mac48Address) (p : IpPacket)
    (macToIpv4 : Mac48Address → Ipv4Address) : Node OlsrDefenseFpnt :=
  if transmitter ∈ env.ownMacs then n
  else
    n.mapDefense fun d =>
      d.onNeighborForwardedPacket n.now n.state macToIpv4 transmitter receiver p.header p.size

/-- The node for which `SetEnabled` calls `RunTrustDijkstra`, if it does. -/
def toggling (enabled : Bool) : Option (Node OlsrDefenseFpnt) :=
  match n.defenseStrategy with
  | some d =>
    if d.enabled ≠ enabled ∧ d.hasProtocol = true then
      some { n with defenseStrategy := some (d.setEnabled enabled) }
    else none
  | none => none

/-- `SetEnabled`. -/
def setDefenseEnabled (enabled : Bool) : Node OlsrDefenseFpnt :=
  match n.toggling enabled with
  | some n₁ => n₁.withRoutes n₁.trustRoutes
  | none => n.mapDefense fun d => d.setEnabled enabled

/-- The effect of an input at its time. -/
def fpntNextAt : FpntInput → Node OlsrDefenseFpnt
  | .control .. => n
  | .routeOutput _ p oif => n.fpntRouteOutput env p oif
  | .routeInput _ p iif lcb => n.fpntRouteInput env p iif lcb
  | .frame _ transmitter receiver p macToIpv4 =>
    n.fpntMonitorSnifferRx env transmitter receiver p macToIpv4
  | .setEnabled _ enabled => n.setDefenseEnabled enabled

/-- The node after an input. -/
def fpntNext (x : FpntInput) : Node OlsrDefenseFpnt :=
  match x with
  | .control l vectors => (fpntEdition env.redundantMprCoverage vectors).step n l
  | x => if n.fatalError then n else (n.perform (Act.advance x.time)).fpntNextAt env x

/-- The computation that an input makes last, if it makes any. -/
def fpntComputingIn : FpntInput → Option FpntComputation
  | .control l vectors =>
    let v := fpntEdition env.redundantMprCoverage vectors
    Lib.lastWrite v.exec (fpntComputing v) n (n.acts l)
  | .setEnabled t enabled =>
    if n.fatalError then none
    else ((n.perform (Act.advance t)).toggling enabled).map FpntComputation.trust
  | _ => none

/-- The labels of this edition, none of which installs another strategy. -/
def OfFpnt : Label OlsrDefenseFpnt → Prop
  | .setDefenseStrategy .. => False
  | .reactivateDefenseStrategy _ => False
  | .onLocalRxDrop _ => False
  | _ => True

/-- An input that can happen next: no event that is due earlier is passed over. -/
def EnabledFpnt (x : FpntInput) : Prop :=
  n.fatalError = false ∧ n.now ≤ x.time ∧ (∀ te ∈ n.events, x.time ≤ te.1) ∧
  match x with
  | .control l _ => n.Enabled l ∧ OfFpnt l
  | .routeInput _ _ iif _ => iif < n.interfaces.length
  | _ => True

instance : (l : Label OlsrDefenseFpnt) → Decidable (OfFpnt l)
  | .setDefenseStrategy .. | .reactivateDefenseStrategy _ | .onLocalRxDrop _ =>
    inferInstanceAs (Decidable False)
  | .recvOlsr .. | .timer .. | .macTxDrop .. | .addHostNetworkAssociation ..
  | .removeHostNetworkAssociation .. | .setAttack .. => inferInstanceAs (Decidable True)

instance (n : Node OlsrDefenseFpnt) : (x : FpntInput) → Decidable (n.EnabledFpnt x)
  | .control .. => inferInstanceAs (Decidable (_ ∧ _ ∧ (∀ te ∈ _, _) ∧ _))
  | .routeInput .. => inferInstanceAs (Decidable (_ ∧ _ ∧ (∀ te ∈ _, _) ∧ _))
  | .routeOutput .. | .frame .. | .setEnabled .. =>
    inferInstanceAs (Decidable (_ ∧ _ ∧ (∀ te ∈ _, _) ∧ True))

/-- Each input of the list can happen when its turn comes. -/
def IsFpntRun (n : Node OlsrDefenseFpnt) : List FpntInput → Prop
  | [] => True
  | x :: xs => n.EnabledFpnt x ∧ (n.fpntNext env x).IsFpntRun xs

instance decidableIsFpntRun (n : Node OlsrDefenseFpnt) : (xs : List FpntInput) →
    Decidable (n.IsFpntRun env xs)
  | [] => inferInstanceAs (Decidable True)
  | x :: xs => @instDecidableAnd _ _ _ (decidableIsFpntRun (n.fpntNext env x) xs)

end Node

/-- A run of a node with the defense and its edition of the protocol, from the end of
`DoInitialize`.  The defense is new, and its attributes have passed their checkers. -/
structure FpntRun where
  config : Config OlsrDefenseFpnt
  strategy : OlsrDefenseFpnt
  installed : config.defenseStrategy = some strategy
  fresh : strategy.resetAccumulatedState = strategy
  checked : strategy.AttributesChecked
  jitter : Time
  isJitter : config.node.IsJitter jitter
  env : FpntEnvironment
  inputs : List FpntInput
  isRun : ((fpntEdition env.redundantMprCoverage fun _ => []).doInitialize config.node
    jitter).IsFpntRun env inputs

namespace FpntRun

variable (r : FpntRun)

def start : Node OlsrDefenseFpnt :=
  (fpntEdition r.env.redundantMprCoverage fun _ => []).doInitialize r.config.node r.jitter

/-- The inputs, each with the node it happens to. -/
def trace : List (Node OlsrDefenseFpnt × FpntInput) := Lib.trace (Node.fpntNext r.env) r.start r.inputs

/-- The node before the input at a position. -/
def nodeAt (i : ℕ) : Node OlsrDefenseFpnt :=
  Lib.run (Node.fpntNext r.env) r.start (r.inputs.take i)

/-- The last computation before the input at a position. -/
def computedAt (i : ℕ) : Option FpntComputation :=
  Lib.lastWrite (Node.fpntNext r.env) (Node.fpntComputingIn r.env) r.start (r.inputs.take i)

end FpntRun

end ManetOlsr
