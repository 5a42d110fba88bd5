/-
The edition of the protocol for the watchdog, and the runs of a node with both.

This edition takes the verdicts of the watchdog seriously: it skips the messages of malicious nodes
and those that they pass on, does not elect them, and builds no routes over them.  It knows nothing
of the frames the node hears; only the watchdog's own callbacks listen to them.  `MacTxDrop` looks
the next hop of a dropped packet up in the routing table.  `HandleDefenseTimer` does nothing.
-/
import ManetOlsr.Model.Editions
import ManetOlsr.Model.WatchdogFrames

namespace ManetOlsr

/-! ### MPRs that are not malicious -/

namespace Mpr

/-- `N` without the neighbors that are excluded. -/
def NWithout (s : OlsrState) (excluded : Ipv4Address → Bool) : List NeighborTuple :=
  (N s).filter fun t => !excluded t.neighborMainAddr

/-- `N2` without the tuples of the neighbors that are excluded. -/
def N2Without (mainAddress : Ipv4Address) (s : OlsrState) (excluded : Ipv4Address → Bool) :
    List TwoHopNeighborTuple :=
  s.twoHopNeighborSet.filter fun t =>
    !excluded t.neighborMainAddr &&
    !(t.twoHopNeighborAddr == mainAddress) &&
    (match (NWithout s excluded).find? fun neigh => neigh.neighborMainAddr == t.neighborMainAddr with
      | some neigh => !(neigh.willingness == Willingness.never)
      | none => false) &&
    !(NWithout s excluded).any fun neigh => neigh.neighborMainAddr == t.twoHopNeighborAddr

/-- The MPR set among the neighbors that are left. -/
def mprSetWithout (mainAddress : Ipv4Address) (s : OlsrState) (excluded : Ipv4Address → Bool) :
    Finset Ipv4Address :=
  let N := NWithout s excluded
  let p := selectSoleProviders (selectAlways N ⟨∅, N2Without mainAddress s excluded⟩)
  (Lib.whileLoop greedyCond (greedyRound s N) p.N2.length p).mprSet

end Mpr

namespace Node

variable (n : Node OlsrWatchdogDefense)

/-- The next hop that `MacTxDrop` finds for the destination of a packet. -/
def sendEntryOf (dest : Ipv4Address) : SendEntry :=
  match n.table dest with
  | some entry1 => findSendEntryIn n.table entry1
  | none => SendEntry.failure

/-- `MacTxDrop` for a packet to `finalDest`. -/
def watchdogMacTxDrop (finalDest : Ipv4Address) : Node OlsrWatchdogDefense :=
  match n.sendEntryOf finalDest with
  | .found sendEntry =>
    let actualNextHop := sendEntry.nextAddr
    if actualNextHop = n.mainAddress ∨ actualNextHop = 0xffffffff ∨ actualNextHop = 0 ∨
        isMulticast actualNextHop then n
    else n.macTxDrop actualNextHop
  | .failure => n
  | .endless => n.settle Choice.endless

end Node

/-- The protocol in `files for all defenses/Watchdog`. -/
def watchdogEdition : Edition OlsrWatchdogDefense where
  startDefense n := n.startDefense
  skips n msg senderIface :=
    n.suspects msg.originatorAddress || n.suspects (n.getMainAddress senderIface)
  processTc n msg tc senderIface := n.processTc msg tc senderIface
  mprSet n := Mpr.mprSetWithout n.mainAddress n.state n.suspects
  routes n := (n.coreTable n.getBlacklist, n.coreHnaRoutes n.getBlacklist n.hnaRoutingTable)
  handleDefenseTimer n := n
  macTxDrop n finalDest := n.watchdogMacTxDrop finalDest

/-- The routes avoid the nodes for which `IsMalicious` is true. -/
lemma Node.mem_getBlacklist_iff (n : Node OlsrWatchdogDefense) (a : Ipv4Address) :
    a ∈ n.getBlacklist ↔ n.suspects a = true := by
  rw [getBlacklist, suspects]
  cases n.defenseStrategy with
  | none => simp
  | some d =>
    show a ∈ d.getBlacklist ↔ d.isMalicious a = true
    rw [OlsrWatchdogDefense.getBlacklist, OlsrWatchdogDefense.isMalicious]
    cases d.enabled <;> simp

/-! ### Runs -/

namespace Node

variable (ipv4 : Ipv4L3Protocol) (n : Node OlsrWatchdogDefense)

/-- Tell the watchdog of a packet that is handed to a gateway. -/
def tellForwarded (p : DataPacket) (gateway : Ipv4Address) : Node OlsrWatchdogDefense :=
  n.mapDefense fun d => d.onDataPacketForwarded n.now p.uid gateway p.destination

/-- `RouteOutput`. -/
def watchdogRouteOutput (p : DataPacket) (oif : Option ℕ) : Node OlsrWatchdogDefense :=
  match n.chooseOutput ipv4 p oif with
  | .route r => n.tellForwarded p r.gateway
  | c => n.settle c

/-- `RouteInput`, which tells the watchdog of no packet that takes a network route. -/
def watchdogRouteInput (p : DataPacket) (iif : ℕ) (lcb : Bool) : Node OlsrWatchdogDefense :=
  match n.chooseInput ipv4 p iif lcb with
  | .route r => if (n.table p.destination).isSome then n.tellForwarded p r.gateway else n
  | c => n.settle c

/-- What is chosen for the packet of an input. -/
def choiceFor : WatchdogInput → Option Choice
  | .node (.routeOutput _ p oif) => some (n.chooseOutput ipv4 p oif)
  | .node (.routeInput _ p iif lcb) => some (n.chooseInput ipv4 p iif lcb)
  | _ => none

/-- The effect of an input at its time. -/
def editionWatchAt : WatchdogInput → Node OlsrWatchdogDefense
  | .node (.routeOutput _ p oif) => n.watchdogRouteOutput ipv4 p oif
  | .node (.routeInput _ p iif lcb) => n.watchdogRouteInput ipv4 p iif lcb
  | .node _ => n
  | .frame _ f =>
    n.mapDefense fun d => if d.attached then d.snifferRxCallback n.now n.state f else d
  | .phyRxDrop _ => n.mapDefense fun d => if d.attached then d.phyRxDropCallback else d
  | .periodicCheck t id => n.watchAt (.periodicCheck t id)
  | .setup t => n.watchAt (.setup t)
  | .setEnabled t enabled => n.watchAt (.setEnabled t enabled)

/-- The node after an input. -/
def editionWatch (x : WatchdogInput) : Node OlsrWatchdogDefense :=
  match x with
  | .node (.control l) => watchdogEdition.step n l
  | x => if n.fatalError then n else (n.perform (Act.advance x.time)).editionWatchAt ipv4 x

/-- The node whose routes an input computes, if it computes any. -/
def editionComputing (n : Node OlsrWatchdogDefense) : WatchdogInput → Option (Node OlsrWatchdogDefense)
  | .node (.control l) => watchdogEdition.computingIn n l
  | _ => none

/-- Each input of the list can happen when its turn comes. -/
def IsEditionRun (n : Node OlsrWatchdogDefense) : List WatchdogInput → Prop
  | [] => True
  | x :: xs => n.EnabledWatchdog x ∧ (n.editionWatch ipv4 x).IsEditionRun xs

instance decidableIsEditionRun (n : Node OlsrWatchdogDefense) : (xs : List WatchdogInput) →
    Decidable (n.IsEditionRun ipv4 xs)
  | [] => inferInstanceAs (Decidable True)
  | x :: xs => @instDecidableAnd _ _ _ (decidableIsEditionRun (n.editionWatch ipv4 x) xs)

end Node

/-- A run of a node with the watchdog and its edition of the protocol, from the end of
`DoInitialize`.  The watchdog is new. -/
structure WatchdogEditionRun where
  config : Config OlsrWatchdogDefense
  strategy : OlsrWatchdogDefense
  installed : config.defenseStrategy = some strategy
  fresh : strategy.checks = [] ∧ strategy.pendingByNeighbor = []
  jitter : Time
  isJitter : config.node.IsJitter jitter
  ipv4 : Ipv4L3Protocol
  inputs : List WatchdogInput
  isRun : (watchdogEdition.doInitialize config.node jitter).IsEditionRun ipv4 inputs

namespace WatchdogEditionRun

variable (r : WatchdogEditionRun)

def start : Node OlsrWatchdogDefense := watchdogEdition.doInitialize r.config.node r.jitter

/-- The inputs, each with the node it happens to. -/
def trace : List (Node OlsrWatchdogDefense × WatchdogInput) :=
  Lib.trace (Node.editionWatch r.ipv4) r.start r.inputs

/-- The node before the input at a position. -/
def nodeAt (i : ℕ) : Node OlsrWatchdogDefense :=
  Lib.run (Node.editionWatch r.ipv4) r.start (r.inputs.take i)

/-- The node whose routes were computed last before the input at a position. -/
def computedAt (i : ℕ) : Option (Node OlsrWatchdogDefense) :=
  Lib.lastWrite (Node.editionWatch r.ipv4) Node.editionComputing r.start (r.inputs.take i)

end WatchdogEditionRun

end ManetOlsr
