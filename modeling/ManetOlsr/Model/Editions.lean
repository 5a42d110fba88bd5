/-
Editions of the protocol.

The directory `files for all defenses` has a copy of the protocol for each of the other defenses,
which is put in the place of the file of the main tree.  An `Edition` collects the functions that
such a copy replaces: how `DoInitialize` sets the strategy up, which messages `RecvOlsr` skips after
the hooks have seen them, `ProcessTc`, `MprComputation`, `RoutingTableComputation`,
`HandleDefenseTimer` and `MacTxDrop`.  The other functions are those of the main tree, and so are the
labels of a run; the address of a `macTxDrop` is the one that the edition reads off the frame.

No copy has a table that avoids suspects, and none chooses another route when the next hop is a
suspect.
-/
import ManetOlsr.Model.Forwarding
import ManetOlsr.Model.Settled

namespace ManetOlsr

structure Edition (D : Type) where
  startDefense : Node D → Node D
  skips : Node D → MessageHeader → Ipv4Address → Bool
  processTc : Node D → MessageHeader → Tc → Ipv4Address → Node D
  mprSet : Node D → Finset Ipv4Address
  routes : Node D → Table × List HnaRoute
  handleDefenseTimer : Node D → Node D
  macTxDrop : Node D → Ipv4Address → Node D

namespace Node

variable {D : Type} (n : Node D)

/-- `m_table` and `m_hnaRoutingTable`. -/
def routes : Table × List HnaRoute := (n.table, n.hnaRoutingTable)

def withRoutes (x : Table × List HnaRoute) : Node D :=
  { n with table := x.1, hnaRoutingTable := x.2 }

/-! ### Data packets -/

/-- The route over a send entry. -/
def sendTo (p : DataPacket) (entry2 : RoutingTableEntry) : Choice :=
  match n.soleAddress entry2.interface with
  | none => Choice.fatalError
  | some source => Choice.route ⟨p.destination, source, entry2.nextAddr, entry2.interface⟩

/-- What `RouteOutput` chooses. -/
def chooseOutput (ipv4 : Ipv4L3Protocol) (p : DataPacket) (oif : Option ℕ) : Choice :=
  match n.table p.destination with
  | some entry1 =>
    match findSendEntryIn n.table entry1 with
    | .found entry2 =>
      if oif.any fun i => !(i == entry2.interface) then Choice.noRoute else n.sendTo p entry2
    | .failure => Choice.fatalError
    | .endless => Choice.endless
  | none => n.hnaRouteOutput ipv4 p oif

/-- What `RouteInput` chooses. -/
def chooseInput (ipv4 : Ipv4L3Protocol) (p : DataPacket) (iif : ℕ) (lcb : Bool) : Choice :=
  if n.isMyOwnAddress p.source then Choice.consumed
  else if ipv4.isDestinationAddress p.destination iif then
    if lcb then Choice.deliver else Choice.noRoute
  else if n.isMalicious then Choice.consumed
  else
    match n.table p.destination with
    | some entry1 =>
      match findSendEntryIn n.table entry1 with
      | .found entry2 => n.sendTo p entry2
      | .failure => Choice.fatalError
      | .endless => Choice.endless
    | none => n.hnaRouteInput ipv4 p iif lcb

/-- The node after a choice: the simulation may have stopped. -/
def settle : Choice → Node D
  | .fatalError | .endless => { n with fatalError := true }
  | _ => n

end Node

namespace Edition

variable {D : Type} (v : Edition D) (n : Node D)

def mprComputation : Node D := n.withState (n.state.setMprSet (v.mprSet n))

def routingTableComputation : Node D := n.withRoutes (v.routes n)

/-! ### Messages -/

def processHello (msg : MessageHeader) (hello : Hello) (receiverIface senderIface : Ipv4Address) :
    Node D :=
  let n₁ := n.linkSensing msg hello receiverIface senderIface
  if n₁.fatalError then n₁
  else
    let n₂ := (n₁.populateNeighborSet msg hello).populateTwoHopNeighborSet msg hello
    (v.mprComputation n₂).populateMprSelectorSet msg hello

def processMessage (msg : MessageHeader) (receiverIface senderIface : Ipv4Address) : Node D :=
  match msg.body with
  | MessageBody.hello hello => v.processHello n msg hello receiverIface senderIface
  | MessageBody.tc tc => v.processTc n msg tc senderIface
  | MessageBody.mid mid => n.processMid msg mid senderIface
  | MessageBody.hna hna => n.processHna msg hna senderIface

variable [OlsrDefenseStrategy D]

/-- The body of the loop of `RecvOlsr` over the messages of a packet. -/
def recvMessage (msg : MessageHeader) (receiverIface senderIface : Ipv4Address) (jitter : Time) :
    Node D :=
  if n.ignores msg then n
  else
    let n₁ := n.defenseHook msg senderIface
    if v.skips n₁ msg senderIface then n₁
    else
      let n₂ :=
        if (n.duplicateOf msg).isNone then v.processMessage n₁ msg receiverIface senderIface
        else n₁
      if n.doForwarding msg receiverIface then
        n₂.forwardDefault msg (n.duplicateOf msg) receiverIface senderIface jitter
      else n₂

/-! ### Timers -/

omit [OlsrDefenseStrategy D] in
def neighborLoss (tuple : LinkTuple) : Node D :=
  v.routingTableComputation (v.mprComputation (n.dropNeighbor tuple))

omit [OlsrDefenseStrategy D] in
def linkTupleTimerExpire (neighborIfaceAddr : Ipv4Address) : Node D :=
  match n.state.findLinkTuple neighborIfaceAddr with
  | none => n
  | some tuple =>
    if tuple.time < n.now then n.removeLinkTuple tuple
    else if tuple.symTime < n.now then
      let n₁ :=
        if n.linkTupleTimerFirstTime then { n with linkTupleTimerFirstTime := false }
        else v.neighborLoss n tuple
      n₁.schedule (n₁.delay tuple.time) (Event.linkTupleTimerExpire neighborIfaceAddr)
    else
      n.schedule (n.delay (min tuple.time tuple.symTime))
        (Event.linkTupleTimerExpire neighborIfaceAddr)

def call (e : Event) (jitter : Time) : Node D :=
  match e with
  | Event.handleDefenseTimer => v.handleDefenseTimer n
  | Event.linkTupleTimerExpire neighborIfaceAddr => v.linkTupleTimerExpire n neighborIfaceAddr
  | e => n.call e jitter

def doInitialize (jitter : Time) : Node D :=
  let n₁ := v.startDefense n
  if n₁.canRunOlsr then
    (((n₁.helloTimerExpire jitter).tcTimerExpire jitter).midTimerExpire jitter).hnaTimerExpire
      jitter
  else n₁

/-! ### Steps -/

/-- The effect of an act on a node that has not stopped. -/
def perform (a : Act D) : Node D :=
  match a with
  | .recvMessage msg receiverIface senderIface jitter =>
    v.recvMessage n msg receiverIface senderIface jitter
  | .routingTableComputation => v.routingTableComputation n
  | .fire t e jitter => v.call (n.dequeue t e) e jitter
  | .macTxDrop address => v.macTxDrop n address
  | a => n.perform a

def exec (n : Node D) (a : Act D) : Node D := if n.fatalError then n else v.perform n a

/-- The effect of a label. -/
def step (n : Node D) (l : Label D) : Node D := Lib.run v.exec n (n.acts l)

/-! ### Where the routes come from -/

omit [OlsrDefenseStrategy D] in
/-- The node as `NeighborLoss` has it when the timer of a link comes to compute the routes. -/
def losing (a : Ipv4Address) : Option (Node D) :=
  match n.state.findLinkTuple a with
  | some tuple =>
    if tuple.time < n.now then none
    else if tuple.symTime < n.now ∧ n.linkTupleTimerFirstTime = false then
      some (v.mprComputation (n.dropNeighbor tuple))
    else none
  | none => none

omit [OlsrDefenseStrategy D] in
/-- The node whose routes an act computes, if it computes any. -/
def computing (n : Node D) (a : Act D) : Option (Node D) :=
  if n.fatalError then none
  else
    match a with
    | .routingTableComputation => some n
    | .fire t (.linkTupleTimerExpire a) _ => v.losing (n.dequeue t (.linkTupleTimerExpire a)) a
    | _ => none

/-- The node whose routes a label computes last. -/
def computingIn (n : Node D) (l : Label D) : Option (Node D) :=
  Lib.lastWrite v.exec v.computing n (n.acts l)

/-! ### What the functions leave alone -/

section Frames

open Node (IgnoresMessages)

variable {v n} {β : Type} {g : Node D → β} (hg : IgnoresMessages g) (msg : MessageHeader)
  (receiverIface senderIface : Ipv4Address)

include hg

omit [OlsrDefenseStrategy D] in
lemma processHello_frame (hello : Hello) :
    g (v.processHello n msg hello receiverIface senderIface) = g n := by
  simp only [processHello]
  split
  · rw [hg.linkSensing]
  · rw [hg.populateMprSelectorSet, mprComputation, hg.withState, hg.populateTwoHopNeighborSet,
      hg.populateNeighborSet, hg.linkSensing]

variable (htc : ∀ n msg tc senderIface, g (v.processTc n msg tc senderIface) = g n)

include htc

omit [OlsrDefenseStrategy D] in
lemma processMessage_frame : g (v.processMessage n msg receiverIface senderIface) = g n := by
  rw [processMessage]
  split
  · exact processHello_frame hg msg receiverIface senderIface _
  · exact htc n msg _ senderIface
  · exact hg.processMid msg senderIface _
  · exact hg.processHna msg senderIface _

/-- What a message changes is changed by the hook. -/
lemma recvMessage_frame (hhook : g (n.defenseHook msg senderIface) = g n) (jitter : Time) :
    g (v.recvMessage n msg receiverIface senderIface jitter) = g n := by
  simp only [recvMessage]
  split
  · rfl
  · split
    · exact hhook
    · split <;> split <;> simp only [hg.forwardDefault, processMessage_frame hg _ _ _ htc, hhook]

omit [OlsrDefenseStrategy D] htc in
lemma mprComputation_dropNeighbor_frame (tuple : LinkTuple) :
    g (v.mprComputation (n.dropNeighbor tuple)) = g n := by
  rw [mprComputation, hg.withState, hg.dropNeighbor]

end Frames

/-! ### The routes -/

omit [OlsrDefenseStrategy D] in
lemma routes_ignoresMessages : Node.IgnoresMessages (Node.routes (D := D)) where
  state _ _ := rfl
  events _ _ := rfl
  ansn _ _ _ := rfl
  messageSequenceNumber _ _ := rfl
  queuedMessages _ _ := rfl
  sentPackets _ _ _ := rfl
  fatalError _ _ := rfl

omit [OlsrDefenseStrategy D] in
lemma linkTupleTimerExpire_routes (a : Ipv4Address) :
    (v.linkTupleTimerExpire n a).routes = ((v.losing n a).map v.routes).getD n.routes := by
  cases hfind : n.state.findLinkTuple a with
  | none =>
    simp only [linkTupleTimerExpire, losing, hfind]
    rfl
  | some tuple =>
    simp only [linkTupleTimerExpire, losing, hfind]
    by_cases htime : tuple.time < n.now
    · rw [if_pos htime, if_pos htime]
      rfl
    · rw [if_neg htime, if_neg htime]
      by_cases hsym : tuple.symTime < n.now
      · cases hfirst : n.linkTupleTimerFirstTime with
        | true =>
          rw [if_pos hsym, if_pos rfl, if_neg (by simp)]
          rfl
        | false =>
          rw [if_pos hsym, if_neg (by simp), if_pos ⟨hsym, rfl⟩]
          rfl
      · rw [if_neg hsym, if_neg fun h => hsym h.1]
        rfl

lemma tcTimerExpire_routes (jitter : Time) : (n.tcTimerExpire jitter).routes = n.routes := by
  have hg := routes_ignoresMessages (D := D)
  rw [Node.tcTimerExpire, hg.schedule]
  split
  · rfl
  · rw [Node.sendTc, hg.queueMessage]
    rfl

lemma doInitialize_routes (jitter : Time) :
    (v.doInitialize n jitter).routes = (v.startDefense n).routes := by
  have hg := routes_ignoresMessages (D := D)
  simp only [doInitialize]
  split
  · rw [hg.hnaTimerExpire, hg.midTimerExpire, tcTimerExpire_routes, hg.helloTimerExpire]
  · rfl

/-- Only the computations write the routes, the defense timer apart. -/
lemma exec_routes (hdrop : ∀ n x, (v.macTxDrop n x).routes = n.routes)
    (htc : ∀ n msg tc senderIface, (v.processTc n msg tc senderIface).routes = n.routes) (a : Act D)
    (hfire : ∀ t jitter, a = .fire t .handleDefenseTimer jitter →
      (v.exec n a).routes = n.routes) :
    (v.exec n a).routes = ((v.computing n a).map v.routes).getD n.routes := by
  have hg := routes_ignoresMessages (D := D)
  by_cases hrunning : n.fatalError = true
  · simp only [exec, computing, if_pos hrunning]
    rfl
  · have hdefense : ∀ (m : Node D) (f : D → D), (m.mapDefense f).routes = m.routes :=
      fun _ _ => rfl
    simp only [exec, computing, if_neg hrunning]
    cases a with
    | recvMessage msg receiverIface senderIface jitter =>
      refine recvMessage_frame hg msg receiverIface senderIface htc ?_ jitter
      obtain ⟨f, hf⟩ := n.defenseHook_eq_mapDefense msg senderIface
      rw [hf, hdefense]
    | routingTableComputation => rfl
    | macTxDrop x => exact hdrop n x
    | reactivateDefenseStrategy =>
      simp only [perform, Node.perform, Node.reactivateDefenseStrategy]
      split
      · rfl
      · split <;> rfl
    | addHostNetworkAssociation =>
      simp only [perform, Node.perform, Node.addHostNetworkAssociation]
      split <;> rfl
    | fire t e jitter =>
      cases e with
      | handleDefenseTimer =>
        have hkeep := hfire t jitter rfl
        rwa [exec, if_neg hrunning] at hkeep
      | linkTupleTimerExpire x => exact linkTupleTimerExpire_routes v (n.dequeue t _) x
      | helloTimerExpire => exact hg.helloTimerExpire (n := n.dequeue t _) jitter
      | tcTimerExpire => exact tcTimerExpire_routes (n.dequeue t _) jitter
      | midTimerExpire => exact hg.midTimerExpire (n := n.dequeue t _) jitter
      | hnaTimerExpire => exact hg.hnaTimerExpire (n := n.dequeue t _) jitter
      | sendQueuedMessages => exact hg.sendQueuedMessages (n := n.dequeue t _)
      | _ => exact hg.tupleTimer (n := n.dequeue t _) _ fun _ => rfl
    | _ => rfl

/-- A label leaves the routes that it has computed last. -/
lemma step_routes (hdrop : ∀ n x, (v.macTxDrop n x).routes = n.routes)
    (htc : ∀ n msg tc senderIface, (v.processTc n msg tc senderIface).routes = n.routes)
    (htimer : ∀ n, (v.handleDefenseTimer n).routes = n.routes) (l : Label D) :
    (v.step n l).routes = ((v.computingIn n l).map v.routes).getD n.routes := by
  refine Lib.run_eq_lastWrite (fun m a => exec_routes v m hdrop htc a ?_) n (n.acts l)
  rintro t jitter rfl
  rw [exec]
  split
  · rfl
  · exact htimer (m.dequeue t _)

/-! ### The strategy -/

section Readings

variable {γ : Type}

/-- The messages of OLSR do not change what `φ` reads off a strategy. -/
structure IgnoresOlsr (φ : D → γ) : Prop where
  onRecvHello d now s senderIface msg hello :
    φ (OlsrDefenseStrategy.onRecvHello d now s senderIface msg hello) = φ d
  onRecvTc d now s senderIface msg tc :
    φ (OlsrDefenseStrategy.onRecvTc d now s senderIface msg tc) = φ d
  onTcGenerated d now s tc : φ (OlsrDefenseStrategy.onTcGenerated d now s tc) = φ d

lemma ignoresOlsr_of_deaf (hD : Deaf D) (φ : D → γ) : IgnoresOlsr φ where
  onRecvHello d _ _ _ _ _ := congrArg φ (hD.onRecvHello d _ _ _ _ _)
  onRecvTc d _ _ _ _ _ := congrArg φ (hD.onRecvTc d _ _ _ _ _)
  onTcGenerated d _ _ _ := congrArg φ (hD.onTcGenerated d _ _ _)

/-- The main address, and what `φ` reads off the strategy. -/
def reading (φ : D → γ) (n : Node D) : Ipv4Address × Option γ :=
  (n.mainAddress, n.defenseStrategy.map φ)

variable {φ : D → γ}

omit [OlsrDefenseStrategy D] in
variable (φ) in
lemma reading_ignoresMessages : Node.IgnoresMessages (reading φ) where
  state _ _ := rfl
  events _ _ := rfl
  ansn _ _ _ := rfl
  messageSequenceNumber _ _ := rfl
  queuedMessages _ _ := rfl
  sentPackets _ _ _ := rfl
  fatalError _ _ := rfl

omit [OlsrDefenseStrategy D] in
lemma reading_mapDefense {f : D → D} (hf : ∀ d, φ (f d) = φ d) :
    reading φ (n.mapDefense f) = reading φ n := by
  have hsame : (n.defenseStrategy.map f).map φ = n.defenseStrategy.map φ := by
    rw [Option.map_map]
    exact Option.map_congr fun d _ => hf d
  exact congrArg (Prod.mk n.mainAddress) hsame

omit [OlsrDefenseStrategy D] in
lemma linkTupleTimerExpire_reading (a : Ipv4Address) :
    reading φ (v.linkTupleTimerExpire n a) = reading φ n := by
  have hg := reading_ignoresMessages φ
  rw [linkTupleTimerExpire]
  split
  · rfl
  · next tuple _ =>
    have hloss : reading φ (v.neighborLoss n tuple) = reading φ n :=
      mprComputation_dropNeighbor_frame (v := v) hg tuple
    split
    · rfl
    · split
      · rw [hg.schedule]
        split
        · rfl
        · exact hloss
      · rfl

variable (hφ : IgnoresOlsr φ)

include hφ

lemma defenseHook_reading (msg : MessageHeader) (senderIface : Ipv4Address) :
    reading φ (n.defenseHook msg senderIface) = reading φ n := by
  rw [Node.defenseHook]
  split
  · exact reading_mapDefense n fun d => hφ.onRecvHello d _ _ _ _ _
  · exact reading_mapDefense n fun d => hφ.onRecvTc d _ _ _ _ _
  · rfl
  · rfl

lemma tcTimerExpire_reading (jitter : Time) :
    reading φ (n.tcTimerExpire jitter) = reading φ n := by
  have hg := reading_ignoresMessages φ
  rw [Node.tcTimerExpire, hg.schedule]
  split
  · rfl
  · simp only [Node.sendTc]
    rw [hg.queueMessage, reading_mapDefense _ fun d => hφ.onTcGenerated d _ _ _]
    rfl

lemma doInitialize_reading (jitter : Time) :
    reading φ (v.doInitialize n jitter) = reading φ (v.startDefense n) := by
  have hg := reading_ignoresMessages φ
  simp only [doInitialize]
  split
  · rw [hg.hnaTimerExpire, hg.midTimerExpire, tcTimerExpire_reading _ hφ, hg.helloTimerExpire]
  · rfl

/-- An act that is not about the strategy leaves what the messages of OLSR leave. -/
lemma exec_reading
    (htc : ∀ n msg tc senderIface, reading φ (v.processTc n msg tc senderIface) = reading φ n)
    {a : Act D} (hfire : ∀ t jitter, a ≠ .fire t .handleDefenseTimer jitter)
    (hdrop : ∀ x, a ≠ .macTxDrop x) (hset : ∀ d, a ≠ .setDefenseStrategy d)
    (hreact : a ≠ .reactivateDefenseStrategy) :
    reading φ (v.exec n a) = reading φ n := by
  have hg := reading_ignoresMessages φ
  rw [exec]
  split
  · rfl
  · cases a with
    | recvMessage msg receiverIface senderIface jitter =>
      exact recvMessage_frame hg msg receiverIface senderIface htc
        (defenseHook_reading n hφ msg senderIface) jitter
    | macTxDrop x => exact absurd rfl (hdrop x)
    | setDefenseStrategy d => exact absurd rfl (hset d)
    | reactivateDefenseStrategy => exact absurd rfl hreact
    | addHostNetworkAssociation =>
      simp only [perform, Node.perform, Node.addHostNetworkAssociation]
      split <;> rfl
    | fire t e jitter =>
      cases e with
      | handleDefenseTimer => exact absurd rfl (hfire t jitter)
      | linkTupleTimerExpire x => exact linkTupleTimerExpire_reading v (n.dequeue t _) x
      | helloTimerExpire => exact hg.helloTimerExpire (n := n.dequeue t _) jitter
      | tcTimerExpire => exact tcTimerExpire_reading (n.dequeue t _) hφ jitter
      | midTimerExpire => exact hg.midTimerExpire (n := n.dequeue t _) jitter
      | hnaTimerExpire => exact hg.hnaTimerExpire (n := n.dequeue t _) jitter
      | sendQueuedMessages => exact hg.sendQueuedMessages (n := n.dequeue t _)
      | _ => exact hg.tupleTimer (n := n.dequeue t _) _ fun _ => rfl
    | _ => rfl

end Readings

/-- A label of one act besides the passing of time. -/
lemma step_of_acts_eq {n : Node D} (hn : n.fatalError = false) {l : Label D} {a : Act D}
    (hl : n.acts l = [.advance l.time, a]) :
    v.step n l = v.perform (n.perform (.advance l.time)) a := by
  have hadv : v.exec n (.advance l.time) = n.perform (.advance l.time) := by
    rw [exec, if_neg (by simp [hn])]
    rfl
  rw [step, hl, Lib.run_cons, Lib.run_cons, Lib.run_nil, hadv, exec,
    if_neg (by simpa [Node.perform] using hn)]

end Edition

end ManetOlsr
