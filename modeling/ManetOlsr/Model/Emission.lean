/-
The messages a node generates (`SendHello`, `SendTc`, `SendMid`, `SendHna`), and their way
through the queue to the sockets.

The random jitter of a message delays the next transmission only when no transmission is
scheduled yet; it is an argument of the functions that queue messages.
-/
import ManetOlsr.Model.Node

namespace ManetOlsr

namespace Node

variable {D : Type} (n : Node D)

/-! ### The queue -/

def queueMessage (message : MessageHeader) (delay : Time) : Node D :=
  let n' := { n with queuedMessages := n.queuedMessages ++ [message] }
  if n.isRunning Event.sendQueuedMessages then n'
  else n'.schedule delay Event.sendQueuedMessages

def sendPacket (containedMessages : List MessageHeader) : Node D :=
  { n with
    packetSequenceNumber := n.packetSequenceNumber + 1
    sentPackets := n.sentPackets ++ [⟨n.packetSequenceNumber + 1, containedMessages⟩] }

/-- `SendQueuedMessages`: packets of at most `OLSR_MAX_MSGS` messages. -/
def sendQueuedMessages : Node D :=
  let n' := (n.queuedMessages.toChunks 64).foldl sendPacket n
  { n' with queuedMessages := [] }

/-! ### Spoofed links and the fictitious node -/

def buildSpoofTargets (maxCount : ℕ) : List Ipv4Address :=
  let excluded := n.mainAddress :: (n.interfaces.flatMap Ipv4Interface.addresses ++
    n.state.neighborSet.map NeighborTuple.neighborMainAddr ++
    n.state.linkSet.map LinkTuple.neighborIfaceAddr)
  let known := n.state.twoHopNeighborSet.map TwoHopNeighborTuple.twoHopNeighborAddr ++
    n.state.topologySet.flatMap fun t => [t.destAddr, t.lastAddr]
  ((known.filter fun a => !excluded.contains a).eraseDups).take maxCount

/-- The targets `SendHello` and `SendTc` spoof: none unless the node is malicious. -/
def spoofTargets : List Ipv4Address :=
  if n.isMalicious && n.spoofedLinksCount > 0 then n.buildSpoofTargets n.spoofedLinksCount else []

/-- `Ipv4Address(m_mainAddress.Get() + 65536)`. -/
def fakeAddress : Ipv4Address := n.mainAddress + 65536

/-- Whether `SendHello` and `SendTc` advertise the fictitious node. -/
def injectsFictitiousNode [OlsrDefenseStrategy D] : Bool :=
  !n.isMalicious && n.requiresFictitiousNode

/-! ### HELLO -/

def helloLinkType (l : LinkTuple) : LinkType :=
  if l.symTime ≥ n.now then LinkType.symLink
  else if l.asymTime ≥ n.now then LinkType.asymLink
  else LinkType.lostLink

/-- The neighbor type of a link, unless its neighbor is unknown. -/
def helloNeighborType (l : LinkTuple) : Option NeighborType :=
  if n.state.findMprAddress (n.getMainAddress l.neighborIfaceAddr) then
    some NeighborType.mprNeigh
  else
    match n.state.findNeighborTuple (n.getMainAddress l.neighborIfaceAddr) with
    | some nb =>
      match nb.status with
      | Status.sym => some NeighborType.symNeigh
      | Status.notSym => some NeighborType.notNeigh
    | none => none

/-- What `SendHello` says of a link. -/
def helloLinkMessage (l : LinkTuple) : Option LinkMessage :=
  if n.getMainAddress l.localIfaceAddr = n.mainAddress ∧ l.time ≥ n.now then
    (n.helloNeighborType l).map fun neighborType =>
      { linkCode := makeLinkCode (n.helloLinkType l) neighborType
        neighborInterfaceAddresses :=
          l.neighborIfaceAddr :: n.state.findNeighborInterfaces l.neighborIfaceAddr }
  else none

/-- The link code of spoofed links and of the fictitious node. -/
def symLinkCode : UInt8 := makeLinkCode LinkType.symLink NeighborType.symNeigh

def helloLinkMessages [OlsrDefenseStrategy D] : List LinkMessage :=
  n.state.linkSet.filterMap n.helloLinkMessage ++
  (if n.spoofTargets.isEmpty then [] else [⟨symLinkCode, n.spoofTargets⟩]) ++
  if n.injectsFictitiousNode then [⟨symLinkCode, [n.fakeAddress]⟩] else []

/-- The HELLO message of this moment. -/
def helloMessage [OlsrDefenseStrategy D] : MessageHeader where
  vTime := setVTime n.neighbHoldTime
  originatorAddress := n.mainAddress
  timeToLive := 1
  hopCount := 0
  messageSequenceNumber := n.messageSequenceNumber + 1
  body := MessageBody.hello
    { hTime := setVTime n.helloInterval
      willingness := if n.isMalicious then Willingness.always else n.willingness
      linkMessages := n.helloLinkMessages }

def sendHello [OlsrDefenseStrategy D] (jitter : Time) : Node D :=
  n.nextMessageSequenceNumber.queueMessage n.helloMessage jitter

/-! ### TC -/

/-- The ANSN of the next TC message: an attacker adds 200 to it, modulo `OLSR_MAX_SEQ_NUM`. -/
def tcAnsn : UInt16 :=
  if n.isMalicious then UInt16.ofNat ((n.ansn.toNat + 200) % 65535) else n.ansn

/-- Append an address unless it is there. -/
def pushNew (addrs : List Ipv4Address) (addr : Ipv4Address) : List Ipv4Address :=
  if addrs.contains addr then addrs else addrs ++ [addr]

/-- The addresses that the next TC message advertises. -/
def tcAddresses [OlsrDefenseStrategy D] : List Ipv4Address :=
  let selectors := n.state.mprSelectorSet.map MprSelectorTuple.mainAddr
  let withFake := if n.injectsFictitiousNode then pushNew selectors n.fakeAddress else selectors
  n.spoofTargets.foldl pushNew withFake

def tcMessage [OlsrDefenseStrategy D] : Tc := ⟨n.tcAddresses, n.tcAnsn⟩

def sendTc [OlsrDefenseStrategy D] (jitter : Time) : Node D :=
  let tc := n.tcMessage
  let n₁ := { n.nextMessageSequenceNumber with
    ansn := n.tcAnsn
    generatedTcs := n.generatedTcs ++ [GeneratedTc.mk tc n.ansnIncrements] }
  let n₂ := n₁.mapDefense fun d => OlsrDefenseStrategy.onTcGenerated d n.now n.state tc
  n₂.queueMessage
    { vTime := setVTime n.topHoldTime
      originatorAddress := n.mainAddress
      timeToLive := 255
      hopCount := 0
      messageSequenceNumber := n.messageSequenceNumber + 1
      body := MessageBody.tc tc } jitter

/-! ### MID and HNA -/

/-- `Ipv4Address("127.0.0.1")`. -/
def loopback : Ipv4Address := 0x7f000001

/-- The interface addresses a MID message announces. -/
def midAddresses : List Ipv4Address :=
  n.interfaces.zipIdx.filterMap fun (i, idx) =>
    if i.address ≠ n.mainAddress ∧ i.address ≠ loopback ∧ idx ∉ n.interfaceExclusions then
      some i.address
    else none

def sendMid (jitter : Time) : Node D :=
  if n.midAddresses.isEmpty then n
  else
    n.nextMessageSequenceNumber.queueMessage
      { vTime := setVTime n.midHoldTime
        originatorAddress := n.mainAddress
        timeToLive := 255
        hopCount := 0
        messageSequenceNumber := n.messageSequenceNumber + 1
        body := MessageBody.mid ⟨n.midAddresses⟩ } jitter

def sendHna (jitter : Time) : Node D :=
  if n.state.associations.isEmpty then n.nextMessageSequenceNumber
  else
    n.nextMessageSequenceNumber.queueMessage
      { vTime := setVTime n.hnaHoldTime
        originatorAddress := n.mainAddress
        timeToLive := 255
        hopCount := 0
        messageSequenceNumber := n.messageSequenceNumber + 1
        body := MessageBody.hna ⟨n.state.associations⟩ } jitter

end Node

end ManetOlsr
