/-
The processing of received messages: `ProcessHello` with `LinkSensing` and the `Populate`
functions, `ProcessTc`, `ProcessMid`, `ProcessHna` and `ForwardDefault`.

`linkSensing` stops the simulation with `NS_FATAL_ERROR` when a link message of type
`UNSPEC_LINK` lists the receiving interface.  The model then sets `fatalError`, after which a
node does nothing any more.
-/
import ManetOlsr.Model.Emission
import ManetOlsr.Model.Mpr
import ManetOlsr.Model.RoutingTable

namespace ManetOlsr

namespace Node

variable {D : Type} (n : Node D)

/-! ### Neighbor tuples follow link tuples -/

def addNeighborTuple (tuple : NeighborTuple) : Node D :=
  (n.withState (n.state.insertNeighborTuple tuple)).incrementAnsn

def linkTupleAdded (tuple : LinkTuple) (willingness : Willingness) : Node D :=
  n.addNeighborTuple
    { neighborMainAddr := n.getMainAddress tuple.neighborIfaceAddr
      willingness := willingness
      status := if tuple.symTime ≥ n.now then Status.sym else Status.notSym }

/-- Whether some link to the node of that main address is symmetric. -/
def hasSymmetricLink (mainAddr : Ipv4Address) : Bool :=
  n.state.linkSet.any fun l =>
    n.getMainAddress l.neighborIfaceAddr == mainAddr && decide (l.symTime ≥ n.now)

def linkTupleUpdated (tuple : LinkTuple) (willingness : Willingness) : Node D :=
  let mainAddr := n.getMainAddress tuple.neighborIfaceAddr
  let n' := if (n.state.findNeighborTuple mainAddr).isNone then n.linkTupleAdded tuple willingness
    else n
  n'.withState (n'.state.setNeighborStatus mainAddr
    (if n'.hasSymmetricLink mainAddr then Status.sym else Status.notSym))

/-! ### Link sensing -/

/-- The test of `LinkSensing` for invalid advertised links. -/
def invalidLinkCode (linkCode : UInt8) : Bool :=
  (LinkType.ofLinkCode linkCode == LinkType.symLink &&
    NeighborType.ofLinkCode linkCode == NeighborType.notNeigh) ||
  NeighborType.ofLinkCode linkCode == NeighborType.unknown

/-- The variables of the loop of `LinkSensing` over the link messages. -/
structure Sensing where
  link : LinkTuple
  updated : Bool
  badLinkType : Bool

/-- The loop of `LinkSensing` for one link message.  Only the first occurrence of the receiving
interface counts. -/
def sensingStep (vTime : Time) (receiverIface : Ipv4Address) (x : Sensing) (m : LinkMessage) :
    Sensing :=
  if invalidLinkCode m.linkCode then x
  else if m.neighborInterfaceAddresses.contains receiverIface then
    match LinkType.ofLinkCode m.linkCode with
    | LinkType.lostLink =>
      { x with link := { x.link with symTime := n.now - Seconds 1 }, updated := true }
    | LinkType.symLink | LinkType.asymLink =>
      { x with
        link := { x.link with
          symTime := n.now + vTime
          time := n.now + vTime + n.neighbHoldTime }
        updated := true }
    | LinkType.unspecLink => { x with badLinkType := true }
  else x

/-- The link tuple that `LinkSensing` creates for an unknown interface. -/
def newLinkTuple (vTime : Time) (receiverIface senderIface : Ipv4Address) : LinkTuple where
  localIfaceAddr := receiverIface
  neighborIfaceAddr := senderIface
  symTime := n.now - Seconds 1
  asymTime := 0
  time := n.now + vTime

/-- The link tuple that `LinkSensing` leaves, with its flags. -/
def sensedLink (msg : MessageHeader) (hello : Hello) (receiverIface senderIface : Ipv4Address) :
    Sensing :=
  let vTime := getVTime msg.vTime
  let stored := n.state.findLinkTuple senderIface
  let link := stored.getD (n.newLinkTuple vTime receiverIface senderIface)
  let x := hello.linkMessages.foldl (n.sensingStep vTime receiverIface)
    ⟨{ link with asymTime := n.now + vTime }, stored.isSome, false⟩
  { x with link := { x.link with time := max x.link.time x.link.asymTime } }

/-- `LinkTupleAdded` and the timer of a link that `LinkSensing` has created. -/
def linkTupleCreated (link : LinkTuple) (willingness : Willingness) : Node D :=
  (n.linkTupleAdded link willingness).schedule (n.delay (min link.time link.symTime))
    (Event.linkTupleTimerExpire link.neighborIfaceAddr)

def linkSensing (msg : MessageHeader) (hello : Hello) (receiverIface senderIface : Ipv4Address) :
    Node D :=
  let x := n.sensedLink msg hello receiverIface senderIface
  let n₁ := n.withState (n.state.storeLinkTuple senderIface x.link)
  if x.badLinkType then { n₁ with fatalError := true }
  else
    let n₂ := if x.updated then n₁.linkTupleUpdated x.link hello.willingness else n₁
    if (n.state.findLinkTuple senderIface).isNone then
      n₂.linkTupleCreated x.link hello.willingness
    else n₂

/-! ### The rest of a HELLO message -/

def populateNeighborSet (msg : MessageHeader) (hello : Hello) : Node D :=
  n.withState (n.state.setNeighborWillingness msg.originatorAddress hello.willingness)

/-- `PopulateTwoHopNeighborSet` for one address of a link message. -/
def twoHopAddressStep (msg : MessageHeader) (neighborType : NeighborType) (n : Node D)
    (addr : Ipv4Address) : Node D :=
  let nb2hopAddr := n.getMainAddress addr
  match neighborType with
  | NeighborType.symNeigh | NeighborType.mprNeigh =>
    if nb2hopAddr = n.mainAddress then n
    else
      let expirationTime := n.now + getVTime msg.vTime
      match n.state.findTwoHopNeighborTuple msg.originatorAddress nb2hopAddr with
      | none =>
        (n.withState (n.state.insertTwoHopNeighborTuple
          ⟨msg.originatorAddress, nb2hopAddr, expirationTime⟩)).schedule
            (n.delay expirationTime)
            (Event.nb2hopTupleTimerExpire msg.originatorAddress nb2hopAddr)
      | some _ =>
        n.withState (n.state.setTwoHopExpiration msg.originatorAddress nb2hopAddr expirationTime)
  | NeighborType.notNeigh =>
    n.withState (n.state.eraseTwoHopNeighborTuplesTo msg.originatorAddress nb2hopAddr)
  | NeighborType.unknown => n

/-- `PopulateTwoHopNeighborSet` for one link message. -/
def twoHopLinkMessageStep (msg : MessageHeader) (n : Node D) (m : LinkMessage) : Node D :=
  m.neighborInterfaceAddresses.foldl
    (twoHopAddressStep msg (NeighborType.ofLinkCode m.linkCode)) n

/-- The link messages are processed once for every symmetric link to the originator. -/
def populateTwoHopNeighborSet (msg : MessageHeader) (hello : Hello) : Node D :=
  let links := n.state.linkSet.filter fun l =>
    n.getMainAddress l.neighborIfaceAddr == msg.originatorAddress && !decide (l.symTime < n.now)
  links.foldl (fun n _ => hello.linkMessages.foldl (twoHopLinkMessageStep msg) n) n

/-- `PopulateMprSelectorSet` for one address of a link message of type `MPR_NEIGH`. -/
def mprSelectorStep (msg : MessageHeader) (n : Node D) (addr : Ipv4Address) : Node D :=
  if n.getMainAddress addr = n.mainAddress then
    let expirationTime := n.now + getVTime msg.vTime
    match n.state.findMprSelectorTuple msg.originatorAddress with
    | none =>
      (n.withState (n.state.insertMprSelectorTuple
        ⟨msg.originatorAddress, expirationTime⟩)).incrementAnsn.schedule
          (n.delay expirationTime) (Event.mprSelTupleTimerExpire msg.originatorAddress)
    | some _ =>
      n.withState (n.state.setMprSelectorExpiration msg.originatorAddress expirationTime)
  else n

/-- Here the neighbor type is the link code shifted by two bits, without a mask. -/
def populateMprSelectorSet (msg : MessageHeader) (hello : Hello) : Node D :=
  (hello.linkMessages.filter fun m => m.linkCode.toNat / 4 == NeighborType.mprNeigh.toNat).foldl
    (fun n m => m.neighborInterfaceAddresses.foldl (mprSelectorStep msg) n) n

def processHello [OlsrDefenseStrategy D] (msg : MessageHeader) (hello : Hello)
    (receiverIface senderIface : Ipv4Address) : Node D :=
  let n₁ := n.linkSensing msg hello receiverIface senderIface
  if n₁.fatalError then n₁
  else
    let n₂ := (n₁.populateNeighborSet msg hello).populateTwoHopNeighborSet msg hello
    n₂.mprComputation.populateMprSelectorSet msg hello

/-! ### TC, MID and HNA messages -/

/-- `ProcessTc` for one advertised address. -/
def topologyAddressStep (msg : MessageHeader) (ansn : UInt16) (n : Node D) (addr : Ipv4Address) :
    Node D :=
  let expirationTime := n.now + getVTime msg.vTime
  match n.state.findTopologyTuple addr msg.originatorAddress with
  | some _ => n.withState (n.state.setTopologyExpiration addr msg.originatorAddress expirationTime)
  | none =>
    (n.withState (n.state.insertTopologyTuple
      ⟨addr, msg.originatorAddress, ansn, expirationTime⟩)).schedule
        (n.delay expirationTime) (Event.topologyTupleTimerExpire addr msg.originatorAddress)

/-- Whether a message comes from a symmetric neighbor: `FindSymLinkTuple` finds a link. -/
def fromSymLink (senderIface : Ipv4Address) : Bool :=
  (n.state.findSymLinkTuple senderIface n.now).isSome

def processTc (msg : MessageHeader) (tc : Tc) (senderIface : Ipv4Address) : Node D :=
  if !n.fromSymLink senderIface then n
  else if (n.state.findNewerTopologyTuple msg.originatorAddress tc.ansn).isSome then n
  else
    tc.neighborAddresses.foldl (topologyAddressStep msg tc.ansn)
      (n.withState (n.state.eraseOlderTopologyTuples msg.originatorAddress tc.ansn))

/-- `ProcessMid` for one interface address: every tuple that associates it with the originator is
refreshed, and when there is none a new one is added. -/
def midAddressStep (msg : MessageHeader) (n : Node D) (addr : Ipv4Address) : Node D :=
  let time := n.now + getVTime msg.vTime
  let listed := fun t : IfaceAssocTuple =>
    t.ifaceAddr == addr && t.mainAddr == msg.originatorAddress
  if n.state.ifaceAssocSet.any listed then
    n.withState { n.state with
      ifaceAssocSet := n.state.ifaceAssocSet.map fun t =>
        if listed t then { t with time := time } else t }
  else
    (n.withState (n.state.insertIfaceAssocTuple ⟨addr, msg.originatorAddress, time⟩)).schedule
      (n.delay time) (Event.ifaceAssocTupleTimerExpire addr)

/-- Step 3 of `ProcessMid`: the neighbor addresses become main addresses. -/
def remapNeighbors : Node D :=
  n.withState { n.state with
    neighborSet := n.state.neighborSet.map fun t =>
      { t with neighborMainAddr := n.getMainAddress t.neighborMainAddr }
    twoHopNeighborSet := n.state.twoHopNeighborSet.map fun t =>
      { t with
        neighborMainAddr := n.getMainAddress t.neighborMainAddr
        twoHopNeighborAddr := n.getMainAddress t.twoHopNeighborAddr } }

def processMid (msg : MessageHeader) (mid : Mid) (senderIface : Ipv4Address) : Node D :=
  if !n.fromSymLink senderIface then n
  else (mid.interfaceAddresses.foldl (midAddressStep msg) n).remapNeighbors

/-- `ProcessHna` for one announced network. -/
def associationStep (msg : MessageHeader) (n : Node D) (a : Association) : Node D :=
  let expirationTime := n.now + getVTime msg.vTime
  match n.state.findAssociationTuple msg.originatorAddress a.networkAddr a.netmask with
  | some _ =>
    n.withState (n.state.setAssociationExpiration msg.originatorAddress a.networkAddr a.netmask
      expirationTime)
  | none =>
    (n.withState (n.state.insertAssociationTuple
      ⟨msg.originatorAddress, a.networkAddr, a.netmask, expirationTime⟩)).schedule
        (n.delay expirationTime)
        (Event.associationTupleTimerExpire msg.originatorAddress a.networkAddr a.netmask)

def processHna (msg : MessageHeader) (hna : Hna) (senderIface : Ipv4Address) : Node D :=
  if !n.fromSymLink senderIface then n
  else hna.associations.foldl (associationStep msg) n

/-! ### Forwarding -/

/-- The message as `ForwardDefault` sends it on. -/
def forwardedMessage (msg : MessageHeader) : MessageHeader :=
  { msg with timeToLive := msg.timeToLive - 1, hopCount := msg.hopCount + 1 }

def forwardDefault (msg : MessageHeader) (duplicated : Option DuplicateTuple)
    (localIface senderAddress : Ipv4Address) (jitter : Time) : Node D :=
  if !n.fromSymLink senderAddress then n
  else if duplicated.any DuplicateTuple.retransmitted then n
  else
    let retransmitted := decide (msg.timeToLive > 1) &&
      (n.state.findMprSelectorTuple (n.getMainAddress senderAddress)).isSome
    let n₁ := if retransmitted then n.queueMessage (forwardedMessage msg) jitter else n
    let expirationTime := n.now + dupHoldTime
    match duplicated with
    | some _ =>
      n₁.withState (n₁.state.updateDuplicateTuple msg.originatorAddress
        msg.messageSequenceNumber expirationTime retransmitted localIface)
    | none =>
      (n₁.withState (n₁.state.insertDuplicateTuple
        { address := msg.originatorAddress
          sequenceNumber := msg.messageSequenceNumber
          retransmitted := retransmitted
          ifaceList := [localIface]
          expirationTime := expirationTime })).schedule dupHoldTime
            (Event.dupTupleTimerExpire msg.originatorAddress msg.messageSequenceNumber)

/-! ### The loop of `RecvOlsr` -/

/-- The hook of the defense strategy, which sees every message before it is filtered. -/
def defenseHook [OlsrDefenseStrategy D] (msg : MessageHeader) (senderIface : Ipv4Address) :
    Node D :=
  match msg.body with
  | MessageBody.hello hello =>
    n.mapDefense fun d => OlsrDefenseStrategy.onRecvHello d n.now n.state senderIface msg hello
  | MessageBody.tc tc =>
    n.mapDefense fun d => OlsrDefenseStrategy.onRecvTc d n.now n.state senderIface msg tc
  | MessageBody.mid _ => n
  | MessageBody.hna _ => n

/-- The dispatch on the message type. -/
def processMessage [OlsrDefenseStrategy D] (msg : MessageHeader)
    (receiverIface senderIface : Ipv4Address) : Node D :=
  match msg.body with
  | MessageBody.hello hello => n.processHello msg hello receiverIface senderIface
  | MessageBody.tc tc => n.processTc msg tc senderIface
  | MessageBody.mid mid => n.processMid msg mid senderIface
  | MessageBody.hna hna => n.processHna msg hna senderIface

/-- Messages that have no time left to live or come from the node itself are skipped. -/
def ignores (msg : MessageHeader) : Bool :=
  msg.timeToLive == 0 || msg.originatorAddress == n.mainAddress

/-- `FindDuplicateTuple` for a message. -/
def duplicateOf (msg : MessageHeader) : Option DuplicateTuple :=
  n.state.findDuplicateTuple msg.originatorAddress msg.messageSequenceNumber

/-- Whether a message is processed: it is not ignored, and it is not a duplicate. -/
def reads (msg : MessageHeader) : Bool := !n.ignores msg && (n.duplicateOf msg).isNone

/-- Whether a message goes to `ForwardDefault` after it has been read. -/
def doForwarding (msg : MessageHeader) (receiverIface : Ipv4Address) : Bool :=
  (match msg.body with
    | MessageBody.hello _ => false
    | _ => true) &&
  !((n.duplicateOf msg).any fun d => d.ifaceList.contains receiverIface)

/-- The body of the loop of `RecvOlsr` over the messages of a packet. -/
def recvMessage [OlsrDefenseStrategy D] (msg : MessageHeader)
    (receiverIface senderIface : Ipv4Address) (jitter : Time) : Node D :=
  if n.ignores msg then n
  else
    let n₁ := n.defenseHook msg senderIface
    let n₂ :=
      if (n.duplicateOf msg).isNone then n₁.processMessage msg receiverIface senderIface else n₁
    if n.doForwarding msg receiverIface then
      n₂.forwardDefault msg (n.duplicateOf msg) receiverIface senderIface jitter
    else n₂

/-- The guards of `RecvOlsr`: the interface runs OLSR, and the sender is another node. -/
def acceptsFrom (recvInterface : ℕ) (senderIface : Ipv4Address) : Bool :=
  decide (recvInterface ∉ n.interfaceExclusions) &&
    !n.interfaces.any fun i => i.addresses.contains senderIface

end Node

end ManetOlsr
