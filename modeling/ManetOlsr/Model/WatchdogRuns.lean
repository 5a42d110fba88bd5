/-
Runs of a node with a watchdog.

Two callbacks listen to every frame that the node hears: `MonitorSnifferRx` of the protocol, which
tells the strategy, and `SnifferRxCallback` of the watchdog itself, which is connected when the
watchdog has been set up.  They are called in this order, the order in which they were connected.
The same holds for the frames that the PHY drops.

A run is a list of inputs: those of the node, the calls of `PeriodicCheck` that the watchdog has
scheduled, the calls of `Setup` and `SetEnabled`, and the frames.  The inputs of the node by which
another strategy is installed, or that stand for a frame, are left out.
-/
import ManetOlsr.Model.Settled
import ManetOlsr.Model.Watchdog

namespace ManetOlsr

/-! ### Frames -/

/-- What follows the MAC header of a data frame: its size in bytes, the protocol named by the
LLC/SNAP header of 8 bytes, and of the IP header of 20 bytes after it the first byte and the
addresses. -/
structure FrameBody where
  size : ℕ
  llcType : UInt16
  verIhl : UInt8
  ipSource : Ipv4Address
  ipDestination : Ipv4Address
deriving DecidableEq, Repr

namespace FrameBody

variable (body : FrameBody)

/-- `Ipv4Header::Deserialize` refuses to decode a header of another version. -/
def isVersion4 : Bool := body.verIhl >>> 4 == 4

/-- What `PeekHeader` returns for the IP header. -/
def peekIpHeader : ℕ := if body.isVersion4 then (body.verIhl &&& 0x0f).toNat * 4 else 0

/-- There is room for both headers, and the IP header can be read. -/
def hasIpHeader : Bool := decide (8 + 20 ≤ body.size) && body.peekIpHeader != 0

end FrameBody

inductive WifiFrame where
  | rts (transmitter receiver : Mac48Address)
  | cts (receiver : Mac48Address)
  | data (transmitter receiver : Mac48Address) (uid : ℕ) (body : FrameBody)
  | other
deriving DecidableEq, Repr

/-- `MonitorSnifferRx`, which tells the strategy of a data frame if it carries an IP header. -/
def Node.monitorSnifferRx {D : Type} [OlsrDefenseDataHooks D] (n : Node D) : WifiFrame → Node D
  | .data transmitter receiver uid body =>
    if body.hasIpHeader then
      n.mapDefense fun d => OlsrDefenseDataHooks.onSniffed d n.now n.state
        (.data transmitter receiver ⟨uid, body.ipSource, body.ipDestination⟩)
    else n
  | .rts transmitter receiver =>
    n.mapDefense fun d => OlsrDefenseDataHooks.onSniffed d n.now n.state (.rts transmitter receiver)
  | .cts receiver =>
    n.mapDefense fun d => OlsrDefenseDataHooks.onSniffed d n.now n.state (.cts receiver)
  | .other => n

/-- The source is the one that a header has before it is read if the header cannot be decoded. -/
def tryExtractIpSource (body : FrameBody) : Option Ipv4Address :=
  if body.size < 8 then none
  else if body.llcType ≠ 0x0800 then none
  else if body.size - 8 < 20 then none
  else some (if body.isVersion4 then body.ipSource else unsetAddress)

namespace OlsrWatchdogDefense

/-- The address of the transmitter of a broadcast frame is learned. -/
def learn (d : OlsrWatchdogDefense) (txMac rxMac : Mac48Address) (body : FrameBody) :
    OlsrWatchdogDefense :=
  if rxMac = Mac48Address.getBroadcast then
    match tryExtractIpSource body with
    | some srcIp =>
      if srcIp = unsetAddress then d
      else { d with macToIp := Lib.mapSet macLt txMac srcIp d.macToIp }
    | none => d
  else d

def snifferRxCallback (d : OlsrWatchdogDefense) (now : Time) (s : OlsrState) :
    WifiFrame → OlsrWatchdogDefense
  | .rts tx _ =>
    if !d.enabled then d
    else if tx = d.myMacAddress then d
    else d.onRtsReceived tx
  | .cts rx => if !d.enabled then d else d.onCtsReceived rx
  | .data txMac rxMac uid body =>
    if !d.enabled then d
    else if txMac = d.myMacAddress then d
    else (d.learn txMac rxMac body).onNeighborForwardedPacket now s txMac rxMac uid
  | .other => d

end OlsrWatchdogDefense

/-! ### Inputs -/

inductive WatchdogInput where
  | node (x : Input OlsrWatchdogDefense)
  | periodicCheck (t : Time) (id : ℕ)
  | setup (t : Time)
  | setEnabled (t : Time) (enabled : Bool)
  | frame (t : Time) (f : WifiFrame)
  | phyRxDrop (t : Time)

/-- The time at which an input happens. -/
def WatchdogInput.time : WatchdogInput → Time
  | node x => x.time
  | periodicCheck t _ | setup t | setEnabled t _ | frame t _ | phyRxDrop t => t

/-- The inputs of a node that neither install another strategy nor stand for a frame. -/
def Input.OfNode {D : Type} : Input D → Prop
  | .control (.setDefenseStrategy ..) => False
  | .control (.onLocalRxDrop _) => False
  | .monitorSnifferRx .. => False
  | _ => True

namespace Node

variable (ipv4 : Ipv4L3Protocol) (n : Node OlsrWatchdogDefense)

/-- The calls of `PeriodicCheck` that are pending. -/
def checks : List (ℕ × Time) :=
  match n.defenseStrategy with
  | some d => d.checks
  | none => []

/-- Both callbacks for a frame. -/
def hear (f : WifiFrame) : Node OlsrWatchdogDefense :=
  (n.monitorSnifferRx f).mapDefense fun d =>
    if d.attached then d.snifferRxCallback n.now n.state f else d

/-- Both callbacks for a frame that the PHY drops. -/
def dropFrame : Node OlsrWatchdogDefense :=
  { n with localRxDrops := n.localRxDrops + 1 }.mapDefense fun d =>
    if d.attached then d.phyRxDropCallback else d

/-- The effect of an input at its time. -/
def watchAt : WatchdogInput → Node OlsrWatchdogDefense
  | .node _ => n
  | .periodicCheck t id =>
    n.mapDefense fun d => { d with checks := d.checks.erase (id, t) }.periodicCheck n.now
  | .setup _ => n.mapDefense fun d => d.setup n.now n.mainAddress
  | .setEnabled _ enabled => n.mapDefense fun d => d.setEnabled n.now enabled
  | .frame _ f => n.hear f
  | .phyRxDrop _ => n.dropFrame

/-- The node after an input. -/
def watch (x : WatchdogInput) : Node OlsrWatchdogDefense :=
  match x with
  | .node y => n.next ipv4 y
  | x => if n.fatalError then n else (n.perform (Act.advance x.time)).watchAt x

/-- An input that can happen next: no event that is due earlier is passed over. -/
def EnabledWatchdog (x : WatchdogInput) : Prop :=
  n.fatalError = false ∧ n.now ≤ x.time ∧ (∀ te ∈ n.events, x.time ≤ te.1) ∧
  (∀ c ∈ n.checks, x.time ≤ c.2) ∧
  match x with
  | .node y => n.EnabledInput y ∧ y.OfNode
  | .periodicCheck t id => (id, t) ∈ n.checks
  | _ => True

/-- Each input of the list can happen when its turn comes. -/
def IsWatchdogRun (n : Node OlsrWatchdogDefense) : List WatchdogInput → Prop
  | [] => True
  | x :: xs => n.EnabledWatchdog x ∧ (n.watch ipv4 x).IsWatchdogRun xs

instance {D : Type} : (x : Input D) → Decidable x.OfNode
  | .control (.setDefenseStrategy ..) | .control (.onLocalRxDrop _) | .monitorSnifferRx .. =>
    inferInstanceAs (Decidable False)
  | .control (.recvOlsr ..) | .control (.timer ..) | .control (.macTxDrop ..)
  | .control (.reactivateDefenseStrategy _) | .control (.addHostNetworkAssociation ..)
  | .control (.removeHostNetworkAssociation ..) | .control (.setAttack ..)
  | .routeOutput .. | .routeInput .. | .queueStatusReport .. | .energyStateUpdate .. =>
    inferInstanceAs (Decidable True)

instance : (x : WatchdogInput) → Decidable (n.EnabledWatchdog x)
  | .node _ => inferInstanceAs (Decidable (_ ∧ _ ∧ (∀ te ∈ _, _) ∧ (∀ c ∈ _, _) ∧ _ ∧ _))
  | .periodicCheck .. => inferInstanceAs (Decidable (_ ∧ _ ∧ (∀ te ∈ _, _) ∧ (∀ c ∈ _, _) ∧ _))
  | .setup _ | .setEnabled .. | .frame .. | .phyRxDrop _ =>
    inferInstanceAs (Decidable (_ ∧ _ ∧ (∀ te ∈ _, _) ∧ (∀ c ∈ _, _) ∧ True))

instance decidableIsWatchdogRun (n : Node OlsrWatchdogDefense) : (xs : List WatchdogInput) →
    Decidable (n.IsWatchdogRun ipv4 xs)
  | [] => inferInstanceAs (Decidable True)
  | x :: xs => @instDecidableAnd _ _ _ (decidableIsWatchdogRun (n.watch ipv4 x) xs)

end Node

/-- A run of a node with a watchdog, from the end of `DoInitialize`. -/
structure WatchdogRun where
  config : Config OlsrWatchdogDefense
  strategy : OlsrWatchdogDefense
  installed : config.defenseStrategy = some strategy
  fresh : strategy.checks = [] ∧ strategy.rotations = []
  jitter : Time
  isJitter : config.node.IsJitter jitter
  ipv4 : Ipv4L3Protocol
  inputs : List WatchdogInput
  isRun : (config.node.doInitialize jitter).IsWatchdogRun ipv4 inputs

namespace WatchdogRun

variable (r : WatchdogRun)

def start : Node OlsrWatchdogDefense := r.config.node.doInitialize r.jitter

/-- The inputs, each with the node it happens to. -/
def trace : List (Node OlsrWatchdogDefense × WatchdogInput) :=
  Lib.trace (Node.watch r.ipv4) r.start r.inputs

/-- The node at the end. -/
def final : Node OlsrWatchdogDefense := Lib.run (Node.watch r.ipv4) r.start r.inputs

/-- The node before every input, and at the end. -/
def nodes : List (Node OlsrWatchdogDefense) := r.trace.map Prod.fst ++ [r.final]

end WatchdogRun

end ManetOlsr
