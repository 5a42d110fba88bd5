/-
What the processing of messages leaves to others: the strategy, which only its hooks change, and
the two routing tables, which only `RoutingTableComputation` writes.
-/
import ManetOlsr.Model.Frames

namespace ManetOlsr

/-- The strategy and the routing tables of a node. -/
structure Settled (D : Type) where
  defenseStrategy : Option D
  table : Table
  tableAvoidingSuspects : Table

namespace Node

variable {D : Type} (n : Node D)

def settled : Settled D where
  defenseStrategy := n.defenseStrategy
  table := n.table
  tableAvoidingSuspects := n.tableAvoidingSuspects

variable {n} in
lemma defenseStrategy_of_settled {n' : Node D} (h : n'.settled = n.settled) :
    n'.defenseStrategy = n.defenseStrategy :=
  congrArg Settled.defenseStrategy h

/-- A member of the node that neither the processing of messages changes nor their emission. -/
structure IgnoresMessages {β : Type} (g : Node D → β) : Prop where
  state : ∀ (n : Node D) s, g { n with state := s } = g n
  events : ∀ (n : Node D) es, g { n with events := es } = g n
  ansn : ∀ (n : Node D) a k, g { n with ansn := a, ansnIncrements := k } = g n
  messageSequenceNumber : ∀ (n : Node D) k, g { n with messageSequenceNumber := k } = g n
  queuedMessages : ∀ (n : Node D) ms, g { n with queuedMessages := ms } = g n
  sentPackets : ∀ (n : Node D) k ps,
    g { n with packetSequenceNumber := k, sentPackets := ps } = g n
  fatalError : ∀ (n : Node D) b, g { n with fatalError := b } = g n

namespace IgnoresMessages

variable {n} {β : Type} {g : Node D → β} (hg : IgnoresMessages g)
include hg

/-! ### Emission -/

section Emission

variable (s : OlsrState) (t : Time) (e : Event) (m : MessageHeader) (jitter : Time)

lemma withState : g (n.withState s) = g n := hg.state n s

lemma schedule : g (n.schedule t e) = g n := hg.events n _

lemma incrementAnsn : g n.incrementAnsn = g n := hg.ansn n _ _

lemma nextMessageSequenceNumber : g n.nextMessageSequenceNumber = g n :=
  hg.messageSequenceNumber n _

lemma queueMessage : g (n.queueMessage m t) = g n := by
  simp only [Node.queueMessage]
  split
  · exact hg.queuedMessages n _
  · rw [hg.schedule, hg.queuedMessages]

lemma sendQueuedMessages : g n.sendQueuedMessages = g n := by
  rw [Node.sendQueuedMessages, hg.queuedMessages]
  exact foldl_eq g (f := sendPacket) (fun n _ => hg.sentPackets n _ _) _ n

lemma midTimerExpire : g (n.midTimerExpire jitter) = g n := by
  rw [Node.midTimerExpire, hg.schedule, sendMid]
  split
  · rfl
  · rw [hg.queueMessage, hg.nextMessageSequenceNumber]

lemma hnaTimerExpire : g (n.hnaTimerExpire jitter) = g n := by
  rw [Node.hnaTimerExpire, hg.schedule]
  split
  · rfl
  · rw [sendHna]
    split
    · rw [hg.nextMessageSequenceNumber]
    · rw [hg.queueMessage, hg.nextMessageSequenceNumber]

lemma helloTimerExpire [OlsrDefenseStrategy D] : g (n.helloTimerExpire jitter) = g n := by
  rw [Node.helloTimerExpire, hg.schedule, sendHello, hg.queueMessage, hg.nextMessageSequenceNumber]

/-- The timers of the tuples, when the removal of the tuple changes nothing. -/
lemma tupleTimer {α : Type} {tuple : Option α} {exp : α → Time} {remove : α → Node D}
    (hremove : ∀ x, g (remove x) = g n) : g (n.tupleTimer tuple exp remove e) = g n := by
  cases tuple with
  | none => rfl
  | some x =>
    simp only [Node.tupleTimer]
    split
    · exact hremove x
    · exact hg.schedule _ _

end Emission

/-! ### Reception -/

section Reception

variable (msg : MessageHeader) (hello : Hello) (tuple : LinkTuple) (w : Willingness)
  (receiverIface senderIface : Ipv4Address)

lemma linkTupleAdded : g (n.linkTupleAdded tuple w) = g n := by
  rw [Node.linkTupleAdded, addNeighborTuple, hg.incrementAnsn, hg.withState]

lemma linkTupleUpdated : g (n.linkTupleUpdated tuple w) = g n := by
  simp only [Node.linkTupleUpdated]
  split
  · rw [hg.withState, hg.linkTupleAdded]
  · rw [hg.withState]

lemma linkTupleCreated : g (n.linkTupleCreated tuple w) = g n := by
  rw [Node.linkTupleCreated, hg.schedule, hg.linkTupleAdded]

lemma linkSensing : g (n.linkSensing msg hello receiverIface senderIface) = g n := by
  simp only [Node.linkSensing]
  split
  · rw [hg.fatalError, hg.withState]
  · split <;> split <;> simp only [hg.linkTupleCreated, hg.linkTupleUpdated, hg.withState]

lemma populateNeighborSet : g (n.populateNeighborSet msg hello) = g n := hg.withState _

lemma twoHopAddressStep (nt : NeighborType) (addr : Ipv4Address) :
    g (Node.twoHopAddressStep msg nt n addr) = g n := by
  simp only [Node.twoHopAddressStep]
  split
  · split
    · rfl
    · split <;> simp only [hg.schedule, hg.withState]
  · split
    · rfl
    · split <;> simp only [hg.schedule, hg.withState]
  · rw [hg.withState]
  · rfl

lemma populateTwoHopNeighborSet : g (n.populateTwoHopNeighborSet msg hello) = g n := by
  refine foldl_eq g (fun n _ => ?_) _ n
  refine foldl_eq g (fun n m => ?_) _ n
  exact foldl_eq g (fun n a => hg.twoHopAddressStep msg _ a) _ n

lemma mprSelectorStep (addr : Ipv4Address) : g (Node.mprSelectorStep msg n addr) = g n := by
  simp only [Node.mprSelectorStep]
  split
  · split <;> simp only [hg.schedule, hg.incrementAnsn, hg.withState]
  · rfl

lemma populateMprSelectorSet : g (n.populateMprSelectorSet msg hello) = g n := by
  refine foldl_eq g (fun n m => ?_) _ n
  exact foldl_eq g (fun n a => hg.mprSelectorStep msg a) _ n

lemma topologyAddressStep (ansn : UInt16) (addr : Ipv4Address) :
    g (Node.topologyAddressStep msg ansn n addr) = g n := by
  simp only [Node.topologyAddressStep]
  split <;> simp only [hg.schedule, hg.withState]

lemma processTc (tc : Tc) : g (n.processTc msg tc senderIface) = g n := by
  rw [Node.processTc]
  split
  · rfl
  · split
    · rfl
    · rw [foldl_eq g (fun n a => hg.topologyAddressStep msg tc.ansn a), hg.withState]

lemma midAddressStep (addr : Ipv4Address) : g (Node.midAddressStep msg n addr) = g n := by
  simp only [Node.midAddressStep]
  split <;> simp only [hg.schedule, hg.withState]

lemma processMid (mid : Mid) : g (n.processMid msg mid senderIface) = g n := by
  rw [Node.processMid]
  split
  · rfl
  · rw [remapNeighbors, hg.withState, foldl_eq g (fun n a => hg.midAddressStep msg a)]

lemma associationStep (a : Association) : g (Node.associationStep msg n a) = g n := by
  simp only [Node.associationStep]
  split <;> simp only [hg.schedule, hg.withState]

lemma processHna (hna : Hna) : g (n.processHna msg hna senderIface) = g n := by
  rw [Node.processHna]
  split
  · rfl
  · exact foldl_eq g (fun n a => hg.associationStep msg a) _ n

lemma forwardDefault (duplicated : Option DuplicateTuple) (jitter : Time) :
    g (n.forwardDefault msg duplicated receiverIface senderIface jitter) = g n := by
  simp only [Node.forwardDefault]
  split
  · rfl
  · split
    · rfl
    · split <;> split <;> simp only [hg.schedule, hg.withState, hg.queueMessage]

lemma dropNeighbor : g (n.dropNeighbor tuple) = g n := by
  rw [Node.dropNeighbor, hg.withState, hg.linkTupleUpdated]

variable [OlsrDefenseStrategy D]

lemma mprComputation : g n.mprComputation = g n := hg.withState _

lemma processHello : g (n.processHello msg hello receiverIface senderIface) = g n := by
  simp only [Node.processHello]
  split
  · rw [hg.linkSensing]
  · rw [hg.populateMprSelectorSet, hg.mprComputation, hg.populateTwoHopNeighborSet,
      hg.populateNeighborSet, hg.linkSensing]

lemma processMessage : g (n.processMessage msg receiverIface senderIface) = g n := by
  rw [Node.processMessage]
  split
  · exact hg.processHello msg _ receiverIface senderIface
  · exact hg.processTc msg senderIface _
  · exact hg.processMid msg senderIface _
  · exact hg.processHna msg senderIface _

/-- What a message changes is changed by the hook. -/
lemma recvMessage {jitter : Time} (hign : n.ignores msg = false) :
    g (n.recvMessage msg receiverIface senderIface jitter) = g (n.defenseHook msg senderIface) := by
  simp only [Node.recvMessage, hign, Bool.false_eq_true, if_false]
  split <;> split <;> simp only [hg.forwardDefault, hg.processMessage]

end Reception

end IgnoresMessages

lemma settled_ignoresMessages : IgnoresMessages (settled (D := D)) where
  state _ _ := rfl
  events _ _ := rfl
  ansn _ _ _ := rfl
  messageSequenceNumber _ _ := rfl
  queuedMessages _ _ := rfl
  sentPackets _ _ _ := rfl
  fatalError _ _ := rfl

/-! ### The routing tables -/

/-- The two routing tables. -/
def tables : Table × Table := (n.table, n.tableAvoidingSuspects)

variable {n} in
lemma tables_of_settled {n' : Node D} (h : n'.settled = n.settled) : n'.tables = n.tables :=
  congrArg (fun s => (s.table, s.tableAvoidingSuspects)) h

@[simp] lemma mapDefense_tables (f : D → D) : (n.mapDefense f).tables = n.tables := rfl

variable [OlsrDefenseStrategy D]

lemma routingTableComputation_tables :
    n.routingTableComputation.tables = (n.coreTable ∅, n.coreTable n.getBlacklist) :=
  Prod.ext n.routingTableComputation_table n.routingTableComputation_tableAvoidingSuspects

lemma defenseHook_tables (msg : MessageHeader) (senderIface : Ipv4Address) :
    (n.defenseHook msg senderIface).tables = n.tables := by
  obtain ⟨f, hf⟩ := n.defenseHook_eq_mapDefense msg senderIface
  rw [hf, mapDefense_tables]

lemma recvMessage_tables (msg : MessageHeader) (receiverIface senderIface : Ipv4Address)
    (jitter : Time) : (n.recvMessage msg receiverIface senderIface jitter).tables = n.tables := by
  cases hign : n.ignores msg with
  | true => simp [recvMessage, hign]
  | false =>
    rw [tables_of_settled (settled_ignoresMessages.recvMessage msg receiverIface senderIface hign),
      defenseHook_tables]

/-- The hook of `SendTc` changes the strategy, but no table. -/
lemma tcTimerExpire_tables (jitter : Time) : (n.tcTimerExpire jitter).tables = n.tables := by
  rw [tcTimerExpire]
  split
  · rfl
  · simp only [sendTc, queueMessage, schedule]
    split <;> rfl

/-- The node as `NeighborLoss` has it when the timer of a link comes to compute the tables. -/
def losing (a : Ipv4Address) : Option (Node D) :=
  match n.state.findLinkTuple a with
  | some tuple =>
    if tuple.time < n.now then none
    else if tuple.symTime < n.now ∧ n.linkTupleTimerFirstTime = false then
      some (n.dropNeighbor tuple).mprComputation
    else none
  | none => none

/-- The node whose tables an act computes, if it computes any. -/
def computing : Act D → Option (Node D)
  | .routingTableComputation => some n
  | .fire t (.linkTupleTimerExpire a) _ => (n.dequeue t (.linkTupleTimerExpire a)).losing a
  | _ => none

lemma linkTupleTimerExpire_tables (a : Ipv4Address) :
    (n.linkTupleTimerExpire a).tables =
      ((n.losing a).map fun c => c.routingTableComputation.tables).getD n.tables := by
  cases hfind : n.state.findLinkTuple a with
  | none =>
    simp only [linkTupleTimerExpire, losing, hfind]
    rfl
  | some tuple =>
    by_cases htime : tuple.time < n.now
    · simp only [linkTupleTimerExpire, losing, hfind, if_pos htime]
      rfl
    · by_cases hsym : tuple.symTime < n.now
      · cases hfirst : n.linkTupleTimerFirstTime with
        | true =>
          simp [linkTupleTimerExpire, losing, hfind, hfirst, htime, hsym]
          rfl
        | false =>
          simp [linkTupleTimerExpire, losing, hfind, hfirst, htime, hsym]
          rfl
      · simp only [linkTupleTimerExpire, losing, hfind, if_neg htime, hsym,
          false_and, if_false]
        rfl

/-- Only the computations write the tables. -/
lemma perform_tables (a : Act D) :
    (n.perform a).tables =
      ((n.computing a).map fun c => c.routingTableComputation.tables).getD n.tables := by
  cases a with
  | recvMessage => exact n.recvMessage_tables _ _ _ _
  | reactivateDefenseStrategy =>
    simp only [perform, reactivateDefenseStrategy]
    split
    · rfl
    · split <;> rfl
  | addHostNetworkAssociation =>
    simp only [perform, addHostNetworkAssociation]
    split <;> rfl
  | fire t e jitter =>
    have hsettled := settled_ignoresMessages (D := D)
    have hdequeue : (n.dequeue t e).tables = n.tables := rfl
    cases e with
    | helloTimerExpire => exact tables_of_settled (hsettled.helloTimerExpire jitter)
    | tcTimerExpire => exact (n.dequeue t _).tcTimerExpire_tables jitter
    | midTimerExpire => exact tables_of_settled (hsettled.midTimerExpire jitter)
    | hnaTimerExpire => exact tables_of_settled (hsettled.hnaTimerExpire jitter)
    | sendQueuedMessages => exact tables_of_settled hsettled.sendQueuedMessages
    | handleDefenseTimer =>
      simp only [perform, call, handleDefenseTimer]
      split <;> rfl
    | linkTupleTimerExpire a => exact (n.dequeue t _).linkTupleTimerExpire_tables a
    | _ => exact tables_of_settled (hsettled.tupleTimer _ fun _ => rfl)
  | _ => rfl

end Node

/-! ### A strategy that is deaf to control traffic -/

/-- The hooks on messages do nothing. -/
structure Deaf (D : Type) [OlsrDefenseStrategy D] : Prop where
  onRecvHello : ∀ (d : D) now s senderIface msg hello,
    OlsrDefenseStrategy.onRecvHello d now s senderIface msg hello = d
  onRecvTc : ∀ (d : D) now s senderIface msg tc,
    OlsrDefenseStrategy.onRecvTc d now s senderIface msg tc = d
  onTcGenerated : ∀ (d : D) now s tc, OlsrDefenseStrategy.onTcGenerated d now s tc = d

namespace Deaf

variable {D : Type} [OlsrDefenseStrategy D] (hD : Deaf D) (n : Node D)
include hD

omit [OlsrDefenseStrategy D] hD in
lemma mapDefense_eq {f : D → D} (hf : ∀ d, f d = d) : n.mapDefense f = n := by
  have hid : f = id := funext hf
  rw [Node.mapDefense, hid, Option.map_id, id_eq]

lemma defenseHook_eq (msg : MessageHeader) (senderIface : Ipv4Address) :
    n.defenseHook msg senderIface = n := by
  rw [Node.defenseHook]
  split
  · exact mapDefense_eq n fun d => hD.onRecvHello d _ _ _ _ _
  · exact mapDefense_eq n fun d => hD.onRecvTc d _ _ _ _ _
  · rfl
  · rfl

lemma recvMessage_defenseStrategy (msg : MessageHeader) (receiverIface senderIface : Ipv4Address)
    (jitter : Time) :
    (n.recvMessage msg receiverIface senderIface jitter).defenseStrategy = n.defenseStrategy := by
  cases hign : n.ignores msg with
  | true => simp [Node.recvMessage, hign]
  | false =>
    have h : (n.recvMessage msg receiverIface senderIface jitter).settled = _ :=
      Node.settled_ignoresMessages.recvMessage msg receiverIface senderIface hign
    rw [hD.defenseHook_eq] at h
    exact Node.defenseStrategy_of_settled h

lemma tcTimerExpire_defenseStrategy (jitter : Time) :
    (n.tcTimerExpire jitter).defenseStrategy = n.defenseStrategy := by
  rw [Node.tcTimerExpire]
  split
  · rfl
  · simp only [Node.sendTc]
    rw [mapDefense_eq _ fun d => hD.onTcGenerated d _ _ _]
    exact Node.defenseStrategy_of_settled (Node.settled_ignoresMessages.queueMessage _ _)

omit hD in
lemma linkTupleTimerExpire_defenseStrategy (a : Ipv4Address) :
    (n.linkTupleTimerExpire a).defenseStrategy = n.defenseStrategy := by
  rw [Node.linkTupleTimerExpire]
  split
  · rfl
  · next tuple _ =>
    have hloss : (n.neighborLoss tuple).defenseStrategy = n.defenseStrategy :=
      (Node.routingTableComputation_defenseStrategy _).trans
        (Node.defenseStrategy_of_settled (Node.settled_ignoresMessages.dropNeighbor tuple))
    split
    · rfl
    · split
      · simp only [Node.schedule_defenseStrategy]
        split
        · rfl
        · exact hloss
      · rfl

lemma doInitialize_defenseStrategy (jitter : Time) :
    (n.doInitialize jitter).defenseStrategy = n.startDefense.defenseStrategy := by
  simp only [Node.doInitialize]
  split
  · have hsettled := Node.settled_ignoresMessages (D := D)
    rw [Node.defenseStrategy_of_settled (hsettled.hnaTimerExpire jitter),
      Node.defenseStrategy_of_settled (hsettled.midTimerExpire jitter),
      hD.tcTimerExpire_defenseStrategy,
      Node.defenseStrategy_of_settled (hsettled.helloTimerExpire jitter)]
  · rfl

/-- An act changes the strategy only if it is about the strategy. -/
lemma perform_defenseStrategy {a : Act D}
    (hfire : ∀ t jitter, a ≠ .fire t .handleDefenseTimer jitter) (hdrop : ∀ x, a ≠ .macTxDrop x)
    (hset : ∀ d, a ≠ .setDefenseStrategy d) (hreact : a ≠ .reactivateDefenseStrategy) :
    (n.perform a).defenseStrategy = n.defenseStrategy := by
  cases a with
  | recvMessage msg receiverIface senderIface jitter =>
    exact hD.recvMessage_defenseStrategy n msg receiverIface senderIface jitter
  | routingTableComputation => exact Node.routingTableComputation_defenseStrategy n
  | macTxDrop x => exact absurd rfl (hdrop x)
  | setDefenseStrategy d => exact absurd rfl (hset d)
  | reactivateDefenseStrategy => exact absurd rfl hreact
  | addHostNetworkAssociation =>
    simp only [Node.perform, Node.addHostNetworkAssociation]
    split <;> rfl
  | fire t e jitter =>
    have hsettled := Node.settled_ignoresMessages (D := D)
    cases e with
    | handleDefenseTimer => exact absurd rfl (hfire t jitter)
    | helloTimerExpire => exact Node.defenseStrategy_of_settled (hsettled.helloTimerExpire jitter)
    | tcTimerExpire => exact hD.tcTimerExpire_defenseStrategy (n.dequeue t _) jitter
    | midTimerExpire => exact Node.defenseStrategy_of_settled (hsettled.midTimerExpire jitter)
    | hnaTimerExpire => exact Node.defenseStrategy_of_settled (hsettled.hnaTimerExpire jitter)
    | sendQueuedMessages => exact Node.defenseStrategy_of_settled hsettled.sendQueuedMessages
    | linkTupleTimerExpire x => exact linkTupleTimerExpire_defenseStrategy (n.dequeue t _) x
    | _ => exact Node.defenseStrategy_of_settled (hsettled.tupleTimer _ fun _ => rfl)
  | _ => rfl

end Deaf

/-! ### What no hook changes -/

/-- No hook of the strategy changes what `φ` reads off it. -/
structure HooksKeep {D γ : Type} [OlsrDefenseStrategy D] (φ : D → γ) : Prop where
  setup : ∀ (d : D) now a, φ (OlsrDefenseStrategy.setup d now a) = φ d
  onRecvHello : ∀ (d : D) now s senderIface msg hello,
    φ (OlsrDefenseStrategy.onRecvHello d now s senderIface msg hello) = φ d
  onRecvTc : ∀ (d : D) now s senderIface msg tc,
    φ (OlsrDefenseStrategy.onRecvTc d now s senderIface msg tc) = φ d
  onTcGenerated : ∀ (d : D) now s tc, φ (OlsrDefenseStrategy.onTcGenerated d now s tc) = φ d
  onMacTxFailure : ∀ (d : D) now s neighbor count,
    φ (OlsrDefenseStrategy.onMacTxFailure d now s neighbor count) = φ d
  onSelfReliabilityReport : ∀ (d : D) now s drops,
    φ (OlsrDefenseStrategy.onSelfReliabilityReport d now s drops) = φ d
  periodicCheck : ∀ (d : D) now s, φ (OlsrDefenseStrategy.periodicCheck d now s) = φ d

namespace HooksKeep

variable {D γ : Type} [OlsrDefenseStrategy D] {φ : D → γ} (hφ : HooksKeep φ) (n : Node D)

omit [OlsrDefenseStrategy D] in
lemma map_mapDefense {f : D → D} (hf : ∀ d, φ (f d) = φ d) :
    (n.mapDefense f).defenseStrategy.map φ = n.defenseStrategy.map φ := by
  rw [Node.mapDefense, Option.map_map]
  exact Option.map_congr fun d _ => hf d

include hφ

lemma defenseHook (msg : MessageHeader) (senderIface : Ipv4Address) :
    (n.defenseHook msg senderIface).defenseStrategy.map φ = n.defenseStrategy.map φ := by
  rw [Node.defenseHook]
  split
  · exact map_mapDefense n fun d => hφ.onRecvHello d _ _ _ _ _
  · exact map_mapDefense n fun d => hφ.onRecvTc d _ _ _ _ _
  · rfl
  · rfl

lemma recvMessage (msg : MessageHeader) (receiverIface senderIface : Ipv4Address)
    (jitter : Time) :
    (n.recvMessage msg receiverIface senderIface jitter).defenseStrategy.map φ =
      n.defenseStrategy.map φ := by
  cases hign : n.ignores msg with
  | true => simp [Node.recvMessage, hign]
  | false =>
    have h : (n.recvMessage msg receiverIface senderIface jitter).settled = _ :=
      Node.settled_ignoresMessages.recvMessage msg receiverIface senderIface hign
    rw [Node.defenseStrategy_of_settled h]
    exact hφ.defenseHook n msg senderIface

lemma tcTimerExpire (jitter : Time) :
    (n.tcTimerExpire jitter).defenseStrategy.map φ = n.defenseStrategy.map φ := by
  rw [Node.tcTimerExpire]
  split
  · rfl
  · simp only [Node.sendTc]
    have hqueue : ∀ (k : Node D) m, (k.queueMessage m jitter).defenseStrategy =
        k.defenseStrategy := fun k m =>
      Node.defenseStrategy_of_settled (Node.settled_ignoresMessages.queueMessage _ _)
    rw [Node.schedule_defenseStrategy, hqueue]
    exact map_mapDefense _ fun d => hφ.onTcGenerated d _ _ _

lemma handleDefenseTimer :
    n.handleDefenseTimer.defenseStrategy.map φ = n.defenseStrategy.map φ := by
  rw [Node.handleDefenseTimer]
  split
  · rfl
  · next d hd =>
    rw [Node.schedule_defenseStrategy, hd]
    exact congrArg some ((hφ.onSelfReliabilityReport _ _ _ _).trans (hφ.periodicCheck d _ _))

/-- An act leaves what `φ` reads, unless it exchanges the strategy. -/
lemma perform {a : Act D} (hset : ∀ d, a ≠ .setDefenseStrategy d) :
    (n.perform a).defenseStrategy.map φ = n.defenseStrategy.map φ := by
  cases a with
  | recvMessage msg receiverIface senderIface jitter =>
    exact hφ.recvMessage n msg receiverIface senderIface jitter
  | routingTableComputation =>
    exact congrArg (Option.map φ) (Node.routingTableComputation_defenseStrategy n)
  | macTxDrop x => exact map_mapDefense n fun d => hφ.onMacTxFailure d _ _ _ _
  | setDefenseStrategy d => exact absurd rfl (hset d)
  | reactivateDefenseStrategy =>
    simp only [Node.perform, Node.reactivateDefenseStrategy]
    split
    · rfl
    · next d hd =>
      rw [hd]
      split <;> exact congrArg some (hφ.setup d _ _)
  | addHostNetworkAssociation =>
    simp only [Node.perform, Node.addHostNetworkAssociation]
    split <;> rfl
  | fire t e jitter =>
    have hsettled := Node.settled_ignoresMessages (D := D)
    have hsame : ∀ {k k' : Node D}, k'.settled = k.settled →
        k'.defenseStrategy.map φ = k.defenseStrategy.map φ := fun h =>
      congrArg (Option.map φ) (Node.defenseStrategy_of_settled h)
    cases e with
    | handleDefenseTimer => exact hφ.handleDefenseTimer (n.dequeue t _)
    | helloTimerExpire => exact hsame (hsettled.helloTimerExpire (n := n.dequeue t _) jitter)
    | tcTimerExpire => exact hφ.tcTimerExpire (n.dequeue t _) jitter
    | midTimerExpire => exact hsame (hsettled.midTimerExpire (n := n.dequeue t _) jitter)
    | hnaTimerExpire => exact hsame (hsettled.hnaTimerExpire (n := n.dequeue t _) jitter)
    | sendQueuedMessages => exact hsame (hsettled.sendQueuedMessages (n := n.dequeue t _))
    | linkTupleTimerExpire x =>
      exact congrArg (Option.map φ) (Deaf.linkTupleTimerExpire_defenseStrategy (n.dequeue t _) x)
    | _ => exact hsame (hsettled.tupleTimer (n := n.dequeue t _) _ fun _ => rfl)
  | _ => rfl

end HooksKeep

end ManetOlsr
