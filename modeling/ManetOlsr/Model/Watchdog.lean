/-
`OlsrWatchdogDefense`.

The watchdog remembers the packets it has handed to each neighbor, listens for their
retransmission, and takes every packet that is not heard again in time as evidence against the
neighbor, unless the MAC layer explains the silence.  It checks the evidence in `PeriodicCheck`, an
event that reschedules itself.

The clock and the repositories of the node are arguments, as for every strategy.  The events of the
watchdog are kept with its state: `checks` are the calls of `PeriodicCheck` that the simulator has
pending, with their identifiers.  `rotations` records when the MAC windows were rotated,
`selfDropsRaised` by how much `m_selfDropsWindow` has been raised so far, and `ownWifi` is the
address of the Wi-Fi device that `AttachWifiTraces` comes to last, if the watchdog finds its node
and the node has one.
-/
import ManetOlsr.Model.Forwarding
import Mathlib.Data.Rat.Defs

namespace ManetOlsr

namespace OlsrWatchdogDefense

structure PendingPacket where
  packetUid : ℕ
  finalDest : Ipv4Address
  sentTime : Time
deriving DecidableEq, Repr

structure NeighborStats where
  packetsSentTo : UInt32 := 0
  packetsForwarded : UInt32 := 0
  notForwardedEvidence : UInt32 := 0
  macTxFailures : UInt32 := 0
  rtsFromThisNode : UInt32 := 0
  dataFromThisNode : UInt32 := 0
  lastActivityTime : Time := 0
  rtsInWindow : UInt32 := 0
  ctsInWindow : UInt32 := 0
  rtsPrevWindow : UInt32 := 0
  ctsPrevWindow : UInt32 := 0
  onProbation : Bool := false
  probationUntil : Time := 0
  evidenceAtProbationStart : UInt32 := 0
  blacklistedAt : Time := 0
deriving DecidableEq, Repr

end OlsrWatchdogDefense

open OlsrWatchdogDefense in
/-- The members of `OlsrWatchdogDefense`, with the defaults of its attributes. -/
structure OlsrWatchdogDefense where
  hasProtocol : Bool := false
  mainAddress : Ipv4Address := unsetAddress
  myMacAddress : Mac48Address := 0
  blacklist : List Ipv4Address := []
  pendingByNeighbor : List (Ipv4Address × List PendingPacket) := []
  neighborStats : List (Ipv4Address × NeighborStats) := []
  macToIp : List (Mac48Address × Ipv4Address) := []
  selfDropsWindow : UInt32 := 0
  selfDropsPrevWindow : UInt32 := 0
  periodicEvent : ℕ := 0
  attached : Bool := false
  forwardTimeout : Time := 500000000
  periodicInterval : Time := Seconds 1
  warmupDuration : Time := Seconds 15
  probationDuration : Time := Seconds 2
  blacklistThreshold : UInt32 := 3
  selfDropsThreshold : UInt32 := 5
  macFailureThreshold : UInt32 := 3
  macFailureRateThresh : ℚ := 2 / 5
  minDataObservations : UInt32 := 2
  rtsCtsDiscrepancyThresh : UInt32 := 1
  blacklistDuration : Time := Seconds 30
  verifyOnwardHop : Bool := true
  enabled : Bool := true
  warmupUntil : Time := 0
  ownWifi : Option Mac48Address := none
  checks : List (ℕ × Time) := []
  scheduled : ℕ := 0
  rotations : List Time := []
  selfDropsRaised : ℕ := 0
deriving DecidableEq

namespace OlsrWatchdogDefense

variable (d : OlsrWatchdogDefense) (now : Time) (s : OlsrState)

/-! ### The tables -/

def macLt (a b : Mac48Address) : Bool := decide (a.toNat < b.toNat)

/-- `m_neighborStats[neighbor]`, which is inserted when it is read for the first time. -/
def statsOf (neighbor : Ipv4Address) : NeighborStats :=
  (Lib.mapFind d.neighborStats neighbor).getD {}

def setStats (neighbor : Ipv4Address) (st : NeighborStats) : OlsrWatchdogDefense :=
  { d with neighborStats := Lib.mapSet Ipv4Address.lt neighbor st d.neighborStats }

def pendingOf (neighbor : Ipv4Address) : List PendingPacket :=
  (Lib.mapFind d.pendingByNeighbor neighbor).getD []

def setPending (neighbor : Ipv4Address) (vec : List PendingPacket) : OlsrWatchdogDefense :=
  { d with pendingByNeighbor := Lib.mapSet Ipv4Address.lt neighbor vec d.pendingByNeighbor }

def lookupIpFromMac (mac : Mac48Address) : Ipv4Address :=
  (Lib.mapFind d.macToIp mac).getD unsetAddress

/-! ### Setup -/

/-- `Simulator::Schedule(m_periodicInterval, &PeriodicCheck)`. -/
def schedulePeriodicCheck : OlsrWatchdogDefense :=
  { d with
    scheduled := d.scheduled + 1
    periodicEvent := d.scheduled + 1
    checks := d.checks ++ [(d.scheduled + 1, now + d.periodicInterval)] }

/-- `Simulator::Cancel(m_periodicEvent)`, which does nothing if the event is not pending. -/
def cancelPeriodicEvent : OlsrWatchdogDefense :=
  { d with checks := d.checks.filter fun c => !(c.1 == d.periodicEvent) }

def attachWifiTraces : OlsrWatchdogDefense :=
  match d.ownWifi with
  | some mac => { d with attached := true, myMacAddress := mac }
  | none => { d with attached := false }

def setup (nodeAddress : Ipv4Address) : OlsrWatchdogDefense :=
  let d := { d with hasProtocol := true, mainAddress := nodeAddress }.attachWifiTraces
  let d := d.cancelPeriodicEvent.schedulePeriodicCheck now
  { d with warmupUntil := now + d.warmupDuration }

def resetAccumulatedState : OlsrWatchdogDefense :=
  { d with
    blacklist := []
    pendingByNeighbor := []
    neighborStats := []
    macToIp := []
    selfDropsWindow := 0
    selfDropsPrevWindow := 0
    warmupUntil := now + d.warmupDuration }

def setEnabled (enabled : Bool) : OlsrWatchdogDefense :=
  if d.enabled = enabled then d else { d with enabled := enabled }.resetAccumulatedState now

/-! ### The verdicts -/

def isMalicious (addr : Ipv4Address) : Bool := d.enabled && d.blacklist.contains addr

def getBlacklist : Finset Ipv4Address := if d.enabled then d.blacklist.toFinset else ∅

/-! ### Data packets -/

def onDataPacketForwarded (uid : ℕ) (nextHop finalDest : Ipv4Address) : OlsrWatchdogDefense :=
  if !d.enabled then d
  else if nextHop = d.mainAddress then d
  else if nextHop = finalDest then d
  else if nextHop = 0xffffffff ∨ nextHop = 0 ∨ isMulticast nextHop then d
  else if d.isMalicious nextHop then d
  else
    let d := d.setPending nextHop (d.pendingOf nextHop ++ [⟨uid, finalDest, now⟩])
    let st := d.statsOf nextHop
    d.setStats nextHop { st with packetsSentTo := st.packetsSentTo + 1, lastActivityTime := now }

def onMacTxFailure (neighbor : Ipv4Address) (count : ℕ) : OlsrWatchdogDefense :=
  if !d.enabled then d
  else if neighbor = unsetAddress ∨ neighbor = 0xffffffff ∨ isMulticast neighbor then d
  else
    let st := d.statsOf neighbor
    let d := d.setStats neighbor
      { st with macTxFailures := st.macTxFailures + UInt32.ofNat count }
    match Lib.mapFind d.pendingByNeighbor neighbor with
    | some (_ :: vec) => d.setPending neighbor vec
    | _ => d

/-! ### Sniffed frames -/

def isKnownNode (addr : Ipv4Address) : Bool :=
  if addr = unsetAddress ∨ addr = d.mainAddress then false
  else if !d.hasProtocol then false
  else
    (s.neighborSet.any fun n => n.neighborMainAddr == addr) ||
    (s.twoHopNeighborSet.any fun n2 =>
      n2.twoHopNeighborAddr == addr || n2.neighborMainAddr == addr) ||
    s.topologySet.any fun t => t.destAddr == addr || t.lastAddr == addr

def isPlausibleOnwardHop (receiver : Mac48Address) (forwarder : Ipv4Address) : Bool :=
  if !d.verifyOnwardHop then true
  else if receiver = Mac48Address.getBroadcast ∨ receiver.isGroup then false
  else if receiver = d.myMacAddress then false
  else
    let rxIp := d.lookupIpFromMac receiver
    if rxIp = unsetAddress then true
    else if rxIp = d.mainAddress ∨ rxIp = forwarder then false
    else d.isKnownNode s rxIp

/-- The search of `OnNeighborForwardedPacket` for the packet among those that are pending. -/
def creditForward (txIp : Ipv4Address) (receiver : Mac48Address) (uid : ℕ) : OlsrWatchdogDefense :=
  let vec := d.pendingOf txIp
  if !(vec.any fun pp => pp.packetUid == uid) then d
  else if !d.isPlausibleOnwardHop s receiver txIp then d
  else
    let st := d.statsOf txIp
    (d.setPending txIp (vec.eraseP fun pp => pp.packetUid == uid)).setStats txIp
      { st with packetsForwarded := st.packetsForwarded + 1 }

def onNeighborForwardedPacket (transmitter receiver : Mac48Address) (uid : ℕ) :
    OlsrWatchdogDefense :=
  if !d.enabled then d
  else
    let txIp := d.lookupIpFromMac transmitter
    if txIp = unsetAddress then d
    else
      let st := d.statsOf txIp
      (d.setStats txIp
        { st with dataFromThisNode := st.dataFromThisNode + 1, lastActivityTime := now }
        ).creditForward s txIp receiver uid

def onRtsReceived (sender : Mac48Address) : OlsrWatchdogDefense :=
  if !d.enabled then d
  else if sender = d.myMacAddress then d
  else
    let ip := d.lookupIpFromMac sender
    if ip = unsetAddress then d
    else
      let st := d.statsOf ip
      d.setStats ip
        { st with
          rtsFromThisNode := st.rtsFromThisNode + 1
          rtsInWindow := st.rtsInWindow + 1 }

def onCtsReceived (rtsSender : Mac48Address) : OlsrWatchdogDefense :=
  if !d.enabled then d
  else if rtsSender = d.myMacAddress then d
  else
    let ip := d.lookupIpFromMac rtsSender
    if ip = unsetAddress then d
    else
      let st := d.statsOf ip
      d.setStats ip { st with ctsInWindow := st.ctsInWindow + 1 }

/-- `m_selfDropsWindow += count`. -/
def raiseSelfDrops (count : UInt32) : OlsrWatchdogDefense :=
  { d with
    selfDropsWindow := d.selfDropsWindow + count
    selfDropsRaised := d.selfDropsRaised + count.toNat }

def onSelfReliabilityReport (localDropsCount : UInt32) : OlsrWatchdogDefense :=
  if !d.enabled then d else d.raiseSelfDrops localDropsCount

def phyRxDropCallback : OlsrWatchdogDefense :=
  if !d.enabled then d else d.raiseSelfDrops 1

/-! ### The periodic check -/

def collisionSuspectedFor (st : NeighborStats) : Bool :=
  let rts := st.rtsInWindow + st.rtsPrevWindow
  let cts := st.ctsInWindow + st.ctsPrevWindow
  if cts ≥ rts then false else decide (rts - cts ≥ d.rtsCtsDiscrepancyThresh)

def localMacStatus : Bool :=
  decide (d.selfDropsWindow + d.selfDropsPrevWindow ≤ 2 * d.selfDropsThreshold)

def evaluateMissingForward (neighbor : Ipv4Address) : OlsrWatchdogDefense :=
  if now < d.warmupUntil then d
  else if !d.localMacStatus then d
  else
    let st := d.statsOf neighbor
    if st.macTxFailures > d.macFailureThreshold then d.setStats neighbor st
    else if d.collisionSuspectedFor st then d.setStats neighbor st
    else d.setStats neighbor { st with notForwardedEvidence := st.notForwardedEvidence + 1 }

/-- The pending packets of a neighbor that have waited for too long. -/
def timedOut (pp : PendingPacket) : Bool := decide (now - pp.sentTime > d.forwardTimeout)

/-- What step 1 of `PeriodicCheck` makes of the packets of one neighbor. -/
def evaluateTimedOut (d' : OlsrWatchdogDefense) (kv : Ipv4Address × List PendingPacket) :
    OlsrWatchdogDefense :=
  (kv.2.filter (d.timedOut now)).foldl (fun d' _ => d'.evaluateMissingForward now kv.1) d'

/-- Step 1 of `PeriodicCheck`. -/
def ageOut : OlsrWatchdogDefense :=
  { d.pendingByNeighbor.foldl (d.evaluateTimedOut now) d with
    pendingByNeighbor := d.pendingByNeighbor.filterMap fun kv =>
      let vec := kv.2.filter fun pp => !d.timedOut now pp
      if vec.isEmpty then none else some (kv.1, vec) }

/-- A fraction of the packets handed to the neighbor has been lost at the MAC layer. -/
def linkUnhealthy (st : NeighborStats) : Bool :=
  decide (st.packetsSentTo > 0) &&
    decide ((st.macTxFailures.toNat : ℚ) / st.packetsSentTo.toNat ≥ d.macFailureRateThresh)

def maybeBlacklist (neighbor : Ipv4Address) : OlsrWatchdogDefense :=
  if d.blacklist.contains neighbor then d
  else
    match Lib.mapFind d.neighborStats neighbor with
    | none => d
    | some st =>
      if st.notForwardedEvidence < d.blacklistThreshold then d
      else if st.dataFromThisNode < d.minDataObservations then d
      else if d.linkUnhealthy st then d
      else if !st.onProbation then
        d.setStats neighbor
          { st with
            onProbation := true
            probationUntil := now + d.probationDuration
            evidenceAtProbationStart := st.notForwardedEvidence }
      else if now < st.probationUntil then d
      else if st.notForwardedEvidence - st.evidenceAtProbationStart < d.blacklistThreshold / 2 then
        d.setStats neighbor
          { st with
            onProbation := false
            probationUntil := 0
            notForwardedEvidence := st.notForwardedEvidence / 2
            evidenceAtProbationStart := 0 }
      else
        { d with blacklist := Lib.setInsert Ipv4Address.lt neighbor d.blacklist }.setStats neighbor
          { st with blacklistedAt := now }

/-- The loop of `ReleaseExpiredBlacklist` for one address. -/
def releaseExpired (d : OlsrWatchdogDefense) (addr : Ipv4Address) : OlsrWatchdogDefense :=
  match Lib.mapFind d.neighborStats addr with
  | none => d
  | some st =>
    if st.blacklistedAt = 0 then d
    else if now - st.blacklistedAt < d.blacklistDuration then d
    else
      { d with blacklist := d.blacklist.erase addr }.setStats addr
        { st with
          notForwardedEvidence := 0
          onProbation := false
          probationUntil := 0
          evidenceAtProbationStart := 0
          blacklistedAt := 0 }

def releaseExpiredBlacklist : OlsrWatchdogDefense :=
  if d.blacklistDuration = 0 then d else d.blacklist.foldl (releaseExpired now) d

def rotateMacWindows : OlsrWatchdogDefense :=
  { d with
    neighborStats := d.neighborStats.map fun kv =>
      (kv.1, { kv.2 with
        rtsPrevWindow := kv.2.rtsInWindow
        ctsPrevWindow := kv.2.ctsInWindow
        rtsInWindow := 0
        ctsInWindow := 0 })
    selfDropsPrevWindow := d.selfDropsWindow
    selfDropsWindow := 0
    rotations := d.rotations ++ [now] }

/-- Step 2 of `PeriodicCheck`. -/
def maybeBlacklistAll : OlsrWatchdogDefense :=
  (d.neighborStats.map Prod.fst).foldl (fun d' neighbor => d'.maybeBlacklist now neighbor) d

def periodicCheck : OlsrWatchdogDefense :=
  if !d.enabled then d.schedulePeriodicCheck now
  else
    (((((d.ageOut now).maybeBlacklistAll now).releaseExpiredBlacklist now).rotateMacWindows
      now)).schedulePeriodicCheck now

end OlsrWatchdogDefense

instance : OlsrDefenseStrategy OlsrWatchdogDefense where
  setup d now nodeAddress := d.setup now nodeAddress
  isMalicious d _ addr := d.isMalicious addr
  getBlacklist d _ := d.getBlacklist
  requiresFictitiousNode _ _ _ := false
  onRecvHello d _ _ _ _ _ := d
  onRecvTc d _ _ _ _ _ := d
  onTcGenerated d _ _ _ := d
  onMacTxFailure d _ _ neighbor count := d.onMacTxFailure neighbor count
  onSelfReliabilityReport d _ _ localDropsCount := d.onSelfReliabilityReport localDropsCount
  periodicCheck d now _ := d.periodicCheck now

instance : OlsrDefenseDataHooks OlsrWatchdogDefense where
  onDataPacketReceived d _ _ _ _ := d
  onDataPacketForwarded d now _ p nextHop :=
    d.onDataPacketForwarded now p.uid nextHop p.destination
  onDataPacketDropped d _ _ _ _ := d
  onSniffed d now s frame :=
    match frame with
    | .data transmitter receiver p => d.onNeighborForwardedPacket now s transmitter receiver p.uid
    | .rts transmitter _ => d.onRtsReceived transmitter
    | .cts receiver => d.onCtsReceived receiver
  onQueueStatusReport d _ _ _ _ := d
  onEnergyStateUpdate d _ _ _ _ := d

end ManetOlsr
