/-
What the timers put into the queue.

Four of the events that a node waits for make it generate a message: `emits` is the message, as it
stands at the end of the queue afterwards (`call_outbox`).  All else that a node ever sends are
messages that it sends on for others.  `SendQueuedMessages` sends what is in the queue and leaves
nothing there (`sendQueuedMessages_sent`).
-/
import ManetOlsr.Model.Agenda

namespace ManetOlsr

namespace Node

variable {D : Type} [OlsrDefenseStrategy D] (n : Node D)

/-- The TC message of this moment, with its header. -/
def tcHeader : MessageHeader where
  vTime := setVTime n.topHoldTime
  originatorAddress := n.mainAddress
  timeToLive := 255
  hopCount := 0
  messageSequenceNumber := n.messageSequenceNumber + 1
  body := MessageBody.tc n.tcMessage

omit [OlsrDefenseStrategy D] in
/-- The MID message of this moment. -/
def midHeader : MessageHeader where
  vTime := setVTime n.midHoldTime
  originatorAddress := n.mainAddress
  timeToLive := 255
  hopCount := 0
  messageSequenceNumber := n.messageSequenceNumber + 1
  body := MessageBody.mid ⟨n.midAddresses⟩

omit [OlsrDefenseStrategy D] in
/-- The HNA message of this moment. -/
def hnaHeader : MessageHeader where
  vTime := setVTime n.hnaHoldTime
  originatorAddress := n.mainAddress
  timeToLive := 255
  hopCount := 0
  messageSequenceNumber := n.messageSequenceNumber + 1
  body := MessageBody.hna ⟨n.state.associations⟩

/-- The messages that the function of an event generates. -/
def emits : Event → List MessageHeader
  | .helloTimerExpire => [n.helloMessage]
  | .tcTimerExpire => if n.state.mprSelectorSet.isEmpty then [] else [n.tcHeader]
  | .midTimerExpire => if n.midAddresses.isEmpty then [] else [n.midHeader]
  | .hnaTimerExpire => if n.state.associations.isEmpty then [] else [n.hnaHeader]
  | _ => []

omit [OlsrDefenseStrategy D] in
@[simp] lemma queueMessage_outbox (m : MessageHeader) (delay : Time) :
    (n.queueMessage m delay).outbox = (n.queuedMessages ++ [m], n.sentPackets) := by
  rw [queueMessage]
  split <;> rfl

omit [OlsrDefenseStrategy D] in
@[simp] lemma schedule_outbox (t : Time) (e : Event) : (n.schedule t e).outbox = n.outbox := rfl

lemma sendHello_outbox (jitter : Time) :
    (n.sendHello jitter).outbox = (n.queuedMessages ++ [n.helloMessage], n.sentPackets) :=
  queueMessage_outbox _ _ _

lemma sendTc_outbox (jitter : Time) :
    (n.sendTc jitter).outbox = (n.queuedMessages ++ [n.tcHeader], n.sentPackets) :=
  queueMessage_outbox _ _ _

omit [OlsrDefenseStrategy D] in
lemma outbox_append_nil : n.outbox = (n.queuedMessages ++ [], n.sentPackets) := by
  rw [List.append_nil]
  rfl

omit [OlsrDefenseStrategy D] in
lemma sendMid_outbox (jitter : Time) : (n.sendMid jitter).outbox =
    (n.queuedMessages ++ (if n.midAddresses.isEmpty then [] else [n.midHeader]), n.sentPackets) := by
  rw [sendMid]
  split
  · exact n.outbox_append_nil
  · exact queueMessage_outbox _ _ _

omit [OlsrDefenseStrategy D] in
lemma sendHna_outbox (jitter : Time) (h : n.state.associations.isEmpty = false) :
    (n.sendHna jitter).outbox = (n.queuedMessages ++ [n.hnaHeader], n.sentPackets) := by
  rw [sendHna, h]
  exact queueMessage_outbox _ _ _

omit [OlsrDefenseStrategy D] in
lemma tupleTimer_outbox {α : Type} {tuple : Option α} {exp : α → Time} {remove : α → Node D}
    {e : Event} (hremove : ∀ t, (remove t).outbox = n.outbox) :
    (n.tupleTimer tuple exp remove e).outbox = n.outbox := by
  cases tuple with
  | none => rfl
  | some t =>
    simp only [tupleTimer]
    split
    · exact hremove t
    · rfl

lemma linkTupleTimerExpire_outbox (a : Ipv4Address) :
    (n.linkTupleTimerExpire a).outbox = n.outbox := by
  simp only [linkTupleTimerExpire]
  split
  · rfl
  · split
    · rfl
    · split
      · split
        · rfl
        · exact neighborLoss_outbox _
      · rfl

lemma handleDefenseTimer_outbox : n.handleDefenseTimer.outbox = n.outbox := by
  rw [handleDefenseTimer]
  split <;> rfl

/-- **What an event puts into the queue.** -/
theorem call_outbox {e : Event} (he : e ≠ .sendQueuedMessages) (jitter : Time) :
    (n.call e jitter).outbox = (n.queuedMessages ++ n.emits e, n.sentPackets) := by
  cases e with
  | sendQueuedMessages => exact absurd rfl he
  | helloTimerExpire => exact n.sendHello_outbox jitter
  | tcTimerExpire =>
    simp only [call, tcTimerExpire, schedule_outbox, emits]
    split
    · exact n.outbox_append_nil
    · exact n.sendTc_outbox jitter
  | midTimerExpire => exact n.sendMid_outbox jitter
  | hnaTimerExpire =>
    simp only [call, hnaTimerExpire, schedule_outbox, emits]
    split
    · exact n.outbox_append_nil
    · next hsome => exact n.sendHna_outbox jitter (Bool.eq_false_iff.mpr hsome)
  | handleDefenseTimer => exact n.handleDefenseTimer_outbox.trans n.outbox_append_nil
  | linkTupleTimerExpire a => exact (n.linkTupleTimerExpire_outbox a).trans n.outbox_append_nil
  | _ =>
    refine (n.tupleTimer_outbox ?_).trans n.outbox_append_nil
    exact fun _ => rfl

variable {n} {P : MessageHeader → Prop}

omit [OlsrDefenseStrategy D] in
lemma Utters.append (h : n.Utters P) {n' : Node D} {ms : List MessageHeader}
    (hn' : n'.outbox = (n.queuedMessages ++ ms, n.sentPackets)) (hms : ∀ m ∈ ms, P m) :
    n'.Utters P := by
  obtain ⟨hqueue, hsent⟩ := Prod.mk.inj hn'
  refine ⟨?_, ?_⟩
  · rw [hqueue]
    exact fun m hm => (List.mem_append.mp hm).elim (h.queued m) (hms m)
  · rw [hsent]
    exact h.sent

/-- What is generated does not depend on what is pending. -/
lemma dequeue_emits (t : Time) (e e' : Event) :
    (n.dequeue t e).emits e' = n.emits e' := by
  cases e' <;> rfl

omit [OlsrDefenseStrategy D] in
lemma forwardDefault_outbox (msg : MessageHeader) (duplicated : Option DuplicateTuple)
    (localIface senderAddress : Ipv4Address) (jitter : Time) :
    ∃ ms, (n.forwardDefault msg duplicated localIface senderAddress jitter).outbox =
      (n.queuedMessages ++ ms, n.sentPackets) ∧ ∀ m ∈ ms, m = forwardedMessage msg := by
  simp only [forwardDefault]
  split
  · exact ⟨[], n.outbox_append_nil, by simp⟩
  · split
    · exact ⟨[], n.outbox_append_nil, by simp⟩
    · generalize (decide (msg.timeToLive > 1) &&
        (n.state.findMprSelectorTuple (n.getMainAddress senderAddress)).isSome) = b
      cases b with
      | false =>
        refine ⟨[], ?_, by simp⟩
        split
        · exact n.outbox_append_nil
        · exact n.outbox_append_nil
      | true =>
        refine ⟨[forwardedMessage msg], ?_, by simp⟩
        split
        · exact n.queueMessage_outbox _ _
        · exact n.queueMessage_outbox _ _

lemma recvMessage_outbox (msg : MessageHeader) (receiverIface senderIface : Ipv4Address)
    (jitter : Time) :
    ∃ ms, (n.recvMessage msg receiverIface senderIface jitter).outbox =
      (n.queuedMessages ++ ms, n.sentPackets) ∧
        ∀ m ∈ ms, m = forwardedMessage msg ∧ ∀ hello, msg.body ≠ .hello hello := by
  simp only [recvMessage]
  split
  · exact ⟨[], n.outbox_append_nil, by simp⟩
  · have hhook : Schedules (fun _ => True) n (n.defenseHook msg senderIface) :=
      n.defenseHook_schedules msg senderIface
    have hread : (if (n.duplicateOf msg).isNone = true then
        (n.defenseHook msg senderIface).processMessage msg receiverIface senderIface
      else n.defenseHook msg senderIface).outbox = n.outbox := by
      split
      · exact (hhook.trans (processMessage_schedules _ msg receiverIface senderIface)).outbox
      · exact hhook.outbox
    generalize (if (n.duplicateOf msg).isNone = true then
        (n.defenseHook msg senderIface).processMessage msg receiverIface senderIface
      else n.defenseHook msg senderIface) = n₂ at hread ⊢
    obtain ⟨hqueue, hsent⟩ := Prod.mk.inj hread
    split
    · next hforward =>
      obtain ⟨ms, hms, hcopies⟩ := n₂.forwardDefault_outbox msg (n.duplicateOf msg) receiverIface
        senderIface jitter
      rw [hqueue, hsent] at hms
      refine ⟨ms, hms, fun m hm => ⟨hcopies m hm, fun hello hbody => ?_⟩⟩
      simp [doForwarding, hbody] at hforward
    · exact ⟨[], hread.trans n.outbox_append_nil, by simp⟩

/-- A message that an act puts into the queue: one that it generates, or one that it sends on. -/
def Queues (n : Node D) (m : MessageHeader) : Act D → Prop
  | .fire _ e _ => m ∈ n.emits e
  | .recvMessage msg .. => m = forwardedMessage msg ∧ ∀ hello, msg.body ≠ .hello hello
  | _ => False

/-- **What an act puts into the queue.** -/
theorem perform_outbox {a : Act D} (ha : ∀ t jitter, a ≠ .fire t .sendQueuedMessages jitter) :
    ∃ ms, (n.perform a).outbox = (n.queuedMessages ++ ms, n.sentPackets) ∧
      ∀ m ∈ ms, n.Queues m a := by
  cases a with
  | recvMessage msg receiverIface senderIface jitter =>
    exact n.recvMessage_outbox msg receiverIface senderIface jitter
  | fire t e jitter =>
    have he : e ≠ .sendQueuedMessages := fun heq => ha t jitter (heq ▸ rfl)
    refine ⟨n.emits e, ?_, fun m hm => hm⟩
    rw [← dequeue_emits t e e]
    exact (n.dequeue t e).call_outbox he jitter
  | routingTableComputation =>
    exact ⟨[], routingTableComputation_outbox.trans n.outbox_append_nil, by simp⟩
  | reactivateDefenseStrategy =>
    refine ⟨[], ?_, by simp⟩
    simp only [perform, reactivateDefenseStrategy]
    split
    · exact n.outbox_append_nil
    · split
      · exact n.outbox_append_nil
      · exact n.outbox_append_nil
  | addHostNetworkAssociation =>
    refine ⟨[], ?_, by simp⟩
    simp only [perform, addHostNetworkAssociation]
    split
    · exact n.outbox_append_nil
    · exact n.outbox_append_nil
  | advance | macTxDrop | onLocalRxDrop | setDefenseStrategy | removeHostNetworkAssociation
  | setAttack => exact ⟨[], n.outbox_append_nil, by simp⟩

/-- What holds of the messages that an act queues goes on to hold of all. -/
lemma Utters.perform (h : n.Utters P) {a : Act D} (hP : ∀ m, n.Queues m a → P m) :
    (n.perform a).Utters P := by
  by_cases ha : ∃ t jitter, a = .fire t .sendQueuedMessages jitter
  · obtain ⟨t, jitter, rfl⟩ := ha
    have hdequeue : (n.dequeue t .sendQueuedMessages).Utters P := h.of_eq rfl
    exact sendQueuedMessages_utters hdequeue
  · obtain ⟨ms, hms, hqueues⟩ := n.perform_outbox fun t jitter heq => ha ⟨t, jitter, heq⟩
    exact h.append hms fun m hm => hP m (hqueues m hm)

/-! ### The messages of the node itself -/

/-- A message of its own, with the greatest time to live unless it is a HELLO message. -/
def Owns (n : Node D) (m : MessageHeader) : Prop :=
  m.originatorAddress = n.mainAddress ∧
    ((∀ hello, m.body ≠ .hello hello) → m.timeToLive = 255)

lemma owns_of_mem_emits {e : Event} {m : MessageHeader} (hm : m ∈ n.emits e) : n.Owns m := by
  cases e with
  | helloTimerExpire =>
    obtain rfl := List.mem_singleton.mp hm
    exact ⟨rfl, fun hbody => absurd rfl (hbody _)⟩
  | tcTimerExpire | midTimerExpire | hnaTimerExpire =>
    rw [emits] at hm
    split at hm
    · cases hm
    · obtain rfl := List.mem_singleton.mp hm
      exact ⟨rfl, fun _ => rfl⟩
  | _ => cases hm

/-- A node starts with messages of its own. -/
lemma doInitialize_owns (jitter : Time) (hqueue : n.queuedMessages = []) :
    (n.doInitialize jitter).sentPackets = n.sentPackets ∧
      ∀ m ∈ (n.doInitialize jitter).queuedMessages, (n.doInitialize jitter).Owns m := by
  have hstart : n.startDefense.sentPackets = n.sentPackets ∧
      ∀ m ∈ n.startDefense.queuedMessages, n.startDefense.Owns m := by
    have hout : n.startDefense.outbox = ([], n.sentPackets) := by
      rw [← hqueue]
      simp only [startDefense]
      split <;> rfl
    obtain ⟨hq, hs⟩ := Prod.mk.inj hout
    exact ⟨hs, by simp [hq]⟩
  have hcall : ∀ (k : Node D) (e : Event), e ≠ .sendQueuedMessages →
      (k.sentPackets = n.sentPackets ∧ ∀ m ∈ k.queuedMessages, k.Owns m) →
      (k.call e jitter).sentPackets = n.sentPackets ∧
        ∀ m ∈ (k.call e jitter).queuedMessages, (k.call e jitter).Owns m := by
    rintro k e he ⟨hs, hq⟩
    obtain ⟨hqueue', hsent'⟩ := Prod.mk.inj (k.call_outbox he jitter)
    have hmain : (k.call e jitter).mainAddress = k.mainAddress :=
      congrArg Fixed.mainAddress (k.call_fixed e jitter)
    refine ⟨hsent'.trans hs, fun m hm => ?_⟩
    rw [hqueue'] at hm
    rw [Owns, hmain]
    exact (List.mem_append.mp hm).elim (hq m) owns_of_mem_emits
  simp only [doInitialize]
  split
  · exact hcall _ .hnaTimerExpire (by simp) (hcall _ .midTimerExpire (by simp)
      (hcall _ .tcTimerExpire (by simp) (hcall _ .helloTimerExpire (by simp) hstart)))
  · exact hstart

/-! ### Sending -/

section Sending

omit [OlsrDefenseStrategy D]

/-- The messages that have been sent, in their order. -/
def sentMessages (n : Node D) : List MessageHeader := n.sentPackets.flatMap OlsrPacket.messages

lemma flatten_toChunksGo {α : Type} (k : ℕ) (xs : List α) (acc₁ : Array α)
    (acc₂ : Array (List α)) :
    (List.toChunks.go k xs acc₁ acc₂).flatten = acc₂.toList.flatten ++ (acc₁.toList ++ xs) := by
  induction xs generalizing acc₁ acc₂ with
  | nil => simp [List.toChunks.go]
  | cons x xs ih =>
    rw [List.toChunks.go]
    split
    · simp [ih]
    · simp [ih]

lemma flatten_toChunks {α : Type} (k : ℕ) (l : List α) : (l.toChunks k).flatten = l := by
  cases l with
  | nil => cases k <;> rfl
  | cons x xs =>
    cases k with
    | zero => simp [List.toChunks]
    | succ k => simp [List.toChunks, flatten_toChunksGo]

lemma foldl_sendPacket_sentMessages (cs : List (List MessageHeader)) (n : Node D) :
    (cs.foldl sendPacket n).sentMessages = n.sentMessages ++ cs.flatten := by
  induction cs generalizing n with
  | nil => simp
  | cons c cs ih =>
    have hfirst : (n.sendPacket c).sentMessages = n.sentMessages ++ c := by
      simp [sendPacket, sentMessages]
    rw [List.foldl_cons, ih, hfirst, List.flatten_cons, List.append_assoc]

/-- **All that has been queued is sent.** -/
theorem sendQueuedMessages_sent :
    n.sendQueuedMessages.sentMessages = n.sentMessages ++ n.queuedMessages ∧
      n.sendQueuedMessages.queuedMessages = [] := by
  refine ⟨?_, rfl⟩
  show ((n.queuedMessages.toChunks 64).foldl sendPacket n).sentMessages = _
  rw [foldl_sendPacket_sentMessages, flatten_toChunks]

end Sending

end Node

end ManetOlsr
