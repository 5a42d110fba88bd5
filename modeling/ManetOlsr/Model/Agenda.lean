/-
What a node does later: the events it has scheduled and the messages it has queued.

The processing of a message schedules events at the end of the queue of the simulator and queues
nothing for the sockets; `Schedules` says so, and of what kind the events are.  Messages are queued
by the emission timers and by `ForwardDefault`, and what is sent has been queued before.
-/
import ManetOlsr.Model.Frames

namespace ManetOlsr

namespace Node

variable {D : Type} {n n₁ n₂ n₃ : Node D} {kind kind' : Event → Prop}

/-- The second node has scheduled events of a kind, and is no further otherwise. -/
def EventsGrow (kind : Event → Prop) (n n' : Node D) : Prop :=
  ∃ es, n'.events = n.events ++ es ∧ ∀ te ∈ es, kind te.2

/-- The messages that wait for the sockets, and the packets that have gone to them. -/
def outbox (n : Node D) : List MessageHeader × List OlsrPacket := (n.queuedMessages, n.sentPackets)

/-- The second node has scheduled events of a kind, and queued or sent no message. -/
structure Schedules (kind : Event → Prop) (n n' : Node D) : Prop where
  events : EventsGrow kind n n'
  outbox : n'.outbox = n.outbox

lemma EventsGrow.of_eq (h : n₂.events = n₁.events) : EventsGrow kind n₁ n₂ :=
  ⟨[], by simpa using h, by simp⟩

lemma EventsGrow.trans (h : EventsGrow kind n₁ n₂) (h' : EventsGrow kind n₂ n₃) :
    EventsGrow kind n₁ n₃ := by
  obtain ⟨es, hes, hkind⟩ := h
  obtain ⟨es', hes', hkind'⟩ := h'
  refine ⟨es ++ es', by rw [hes', hes, List.append_assoc], fun te hte => ?_⟩
  rcases List.mem_append.mp hte with hte | hte
  · exact hkind te hte
  · exact hkind' te hte

lemma EventsGrow.mono (h : EventsGrow kind n₁ n₂) (hkind : ∀ e, kind e → kind' e) :
    EventsGrow kind' n₁ n₂ := by
  obtain ⟨es, hes, hes'⟩ := h
  exact ⟨es, hes, fun te hte => hkind _ (hes' te hte)⟩

lemma EventsGrow.schedule (n : Node D) {t : Time} {e : Event} (he : kind e) :
    EventsGrow kind n (n.schedule t e) :=
  ⟨[(n.now + t, e)], rfl, by simpa using he⟩

lemma EventsGrow.mem (h : EventsGrow kind n₁ n₂) {te : Time × Event} (hte : te ∈ n₁.events) :
    te ∈ n₂.events := by
  obtain ⟨es, hes, -⟩ := h
  rw [hes]
  exact List.mem_append_left _ hte

namespace Schedules

lemma queuedMessages (h : Schedules kind n₁ n₂) : n₂.queuedMessages = n₁.queuedMessages :=
  congrArg Prod.fst h.outbox

lemma of_eq (hevents : n₂.events = n₁.events) (houtbox : n₂.outbox = n₁.outbox) :
    Schedules kind n₁ n₂ :=
  ⟨.of_eq hevents, houtbox⟩

lemma refl (n : Node D) : Schedules kind n n := .of_eq rfl rfl

lemma trans (h : Schedules kind n₁ n₂) (h' : Schedules kind n₂ n₃) : Schedules kind n₁ n₃ :=
  ⟨h.events.trans h'.events, h'.outbox.trans h.outbox⟩

lemma mono (h : Schedules kind n₁ n₂) (hkind : ∀ e, kind e → kind' e) : Schedules kind' n₁ n₂ :=
  ⟨h.events.mono hkind, h.outbox⟩

/-- A change that schedules nothing, followed by the scheduling of an event. -/
lemma schedule {t : Time} {e : Event} (he : kind e) (hevents : n₂.events = n₁.events)
    (houtbox : n₂.outbox = n₁.outbox) : Schedules kind n₁ (n₂.schedule t e) :=
  ⟨(EventsGrow.of_eq hevents).trans (.schedule n₂ he), houtbox⟩

lemma foldl {α : Type} {f : Node D → α → Node D} (hf : ∀ n a, Schedules kind n (f n a))
    (l : List α) (n : Node D) : Schedules kind n (l.foldl f n) :=
  foldl_inv (I := fun n' => Schedules kind n n') l (fun n' a _ h => h.trans (hf n' a)) (refl n)

end Schedules

/-! ### Link sensing -/

section Reception

variable (n : Node D) (msg : MessageHeader) (hello : Hello) (tuple : LinkTuple) (w : Willingness)
  (receiverIface senderIface : Ipv4Address)

lemma linkTupleUpdated_schedules : Schedules kind n (n.linkTupleUpdated tuple w) := by
  simp only [linkTupleUpdated]
  split <;> exact .of_eq rfl rfl

lemma linkTupleCreated_schedules :
    Schedules (fun e => ∃ a, e = Event.linkTupleTimerExpire a) n (n.linkTupleCreated tuple w) :=
  .schedule ⟨tuple.neighborIfaceAddr, rfl⟩ rfl rfl

lemma linkSensing_schedules : Schedules (fun e => ∃ a, e = Event.linkTupleTimerExpire a) n
    (n.linkSensing msg hello receiverIface senderIface) := by
  simp only [linkSensing]
  generalize n.sensedLink msg hello receiverIface senderIface = x
  have hstored : Schedules (fun e => ∃ a, e = Event.linkTupleTimerExpire a) n
      (n.withState (n.state.storeLinkTuple senderIface x.link)) := .of_eq rfl rfl
  split
  · exact hstored.trans (.of_eq rfl rfl)
  · split <;> split
    · exact (hstored.trans (linkTupleUpdated_schedules _ _ _)).trans
        (linkTupleCreated_schedules _ _ _)
    · exact hstored.trans (linkTupleCreated_schedules _ _ _)
    · exact hstored.trans (linkTupleUpdated_schedules _ _ _)
    · exact hstored

/-! ### Tuples with a timer -/

lemma twoHopAddressStep_schedules (nt : NeighborType) (addr : Ipv4Address) :
    Schedules (fun e => ∃ a, e = Event.nb2hopTupleTimerExpire msg.originatorAddress a) n
      (twoHopAddressStep msg nt n addr) := by
  simp only [twoHopAddressStep]
  split
  · split
    · exact .refl n
    · split
      · exact .schedule ⟨_, rfl⟩ rfl rfl
      · exact .of_eq rfl rfl
  · split
    · exact .refl n
    · split
      · exact .schedule ⟨_, rfl⟩ rfl rfl
      · exact .of_eq rfl rfl
  · exact .of_eq rfl rfl
  · exact .refl n

lemma populateTwoHopNeighborSet_schedules :
    Schedules (fun e => ∃ a, e = Event.nb2hopTupleTimerExpire msg.originatorAddress a) n
      (n.populateTwoHopNeighborSet msg hello) := by
  refine .foldl (fun n _ => ?_) _ n
  refine .foldl (fun n m => ?_) _ n
  exact .foldl (fun n a => n.twoHopAddressStep_schedules msg _ a) _ n

lemma mprSelectorStep_schedules (addr : Ipv4Address) :
    Schedules (fun e => e = Event.mprSelTupleTimerExpire msg.originatorAddress) n
      (mprSelectorStep msg n addr) := by
  simp only [mprSelectorStep]
  split
  · split
    · exact .schedule rfl rfl rfl
    · exact .of_eq rfl rfl
  · exact .refl n

lemma populateMprSelectorSet_schedules :
    Schedules (fun e => e = Event.mprSelTupleTimerExpire msg.originatorAddress) n
      (n.populateMprSelectorSet msg hello) := by
  refine .foldl (fun n m => ?_) _ n
  exact .foldl (fun n a => n.mprSelectorStep_schedules msg a) _ n

lemma topologyAddressStep_schedules (ansn : UInt16) (addr : Ipv4Address) :
    Schedules (fun e => e = Event.topologyTupleTimerExpire addr msg.originatorAddress) n
      (topologyAddressStep msg ansn n addr) := by
  simp only [topologyAddressStep]
  split
  · exact .of_eq rfl rfl
  · exact .schedule rfl rfl rfl

lemma processTc_schedules (tc : Tc) :
    Schedules (fun e => ∃ a, e = Event.topologyTupleTimerExpire a msg.originatorAddress) n
      (n.processTc msg tc senderIface) := by
  rw [processTc]
  split
  · exact .refl n
  · split
    · exact .refl n
    · have hsteps := Schedules.foldl (fun n a =>
        (n.topologyAddressStep_schedules msg tc.ansn a).mono fun e he =>
          (⟨a, he⟩ : ∃ a, e = Event.topologyTupleTimerExpire a msg.originatorAddress))
        tc.neighborAddresses
        (n.withState (n.state.eraseOlderTopologyTuples msg.originatorAddress tc.ansn))
      exact ⟨hsteps.events, hsteps.outbox⟩

lemma midAddressStep_schedules (addr : Ipv4Address) :
    Schedules (fun e => e = Event.ifaceAssocTupleTimerExpire addr) n (midAddressStep msg n addr) := by
  simp only [midAddressStep]
  split
  · exact .of_eq rfl rfl
  · exact .schedule rfl rfl rfl

lemma processMid_schedules (mid : Mid) :
    Schedules (fun e => ∃ a, e = Event.ifaceAssocTupleTimerExpire a) n
      (n.processMid msg mid senderIface) := by
  rw [processMid]
  split
  · exact .refl n
  · have hsteps := Schedules.foldl (fun n a =>
      (n.midAddressStep_schedules msg a).mono fun e he =>
        (⟨a, he⟩ : ∃ a, e = Event.ifaceAssocTupleTimerExpire a)) mid.interfaceAddresses n
    exact ⟨hsteps.events, hsteps.outbox⟩

lemma associationStep_schedules (a : Association) :
    Schedules (fun e => ∃ g x m, e = Event.associationTupleTimerExpire g x m) n
      (associationStep msg n a) := by
  simp only [associationStep]
  split
  · exact .of_eq rfl rfl
  · exact .schedule ⟨_, _, _, rfl⟩ rfl rfl

lemma processHna_schedules (hna : Hna) :
    Schedules (fun e => ∃ g x m, e = Event.associationTupleTimerExpire g x m) n
      (n.processHna msg hna senderIface) := by
  rw [processHna]
  split
  · exact .refl n
  · exact .foldl (fun n a => n.associationStep_schedules msg a) _ n

variable [OlsrDefenseStrategy D]

lemma defenseHook_schedules : Schedules kind n (n.defenseHook msg senderIface) := by
  obtain ⟨f, hf⟩ := n.defenseHook_eq_mapDefense msg senderIface
  rw [hf]
  exact .of_eq rfl rfl

lemma mprComputation_schedules : Schedules kind n n.mprComputation := .of_eq rfl rfl

lemma processHello_schedules :
    Schedules (fun _ => True) n (n.processHello msg hello receiverIface senderIface) := by
  have hsensing : Schedules (fun _ => True) n
      (n.linkSensing msg hello receiverIface senderIface) :=
    (n.linkSensing_schedules msg hello receiverIface senderIface).mono fun _ _ => trivial
  simp only [processHello]
  split
  · exact hsensing
  · generalize n.linkSensing msg hello receiverIface senderIface = n₁ at hsensing ⊢
    have hneighbor : Schedules (fun _ => True) n₁ (n₁.populateNeighborSet msg hello) :=
      .of_eq rfl rfl
    have htwoHop : Schedules (fun _ => True) (n₁.populateNeighborSet msg hello)
        ((n₁.populateNeighborSet msg hello).populateTwoHopNeighborSet msg hello) :=
      (populateTwoHopNeighborSet_schedules _ msg hello).mono fun _ _ => trivial
    refine hsensing.trans (hneighbor.trans (htwoHop.trans ?_))
    generalize (n₁.populateNeighborSet msg hello).populateTwoHopNeighborSet msg hello = n₂
    exact n₂.mprComputation_schedules.trans
      ((n₂.mprComputation.populateMprSelectorSet_schedules msg hello).mono fun _ _ => trivial)

/-- The processing of a message schedules events, and queues nothing. -/
lemma processMessage_schedules :
    Schedules (fun _ => True) n (n.processMessage msg receiverIface senderIface) := by
  rw [processMessage]
  split
  · exact n.processHello_schedules msg _ receiverIface senderIface
  · exact (n.processTc_schedules msg senderIface _).mono fun _ _ => trivial
  · exact (n.processMid_schedules msg senderIface _).mono fun _ _ => trivial
  · exact (n.processHna_schedules msg senderIface _).mono fun _ _ => trivial

end Reception

/-! ### Emission, forwarding and timers -/

/-- The events that belong to the node itself: its emissions and the timer of its strategy. -/
def IsOwnEvent : Event → Prop
  | Event.helloTimerExpire | Event.tcTimerExpire | Event.midTimerExpire | Event.hnaTimerExpire
  | Event.sendQueuedMessages | Event.handleDefenseTimer => True
  | _ => False

section Timers

variable (n : Node D) (jitter : Time)

lemma EventsGrow.refl : EventsGrow kind n n := .of_eq rfl

/-- A change that schedules nothing before it and nothing after it, but an event in between. -/
lemma EventsGrow.thenSchedule {n₁ n₂ : Node D} {t : Time} {e : Event} (h : EventsGrow kind n₁ n₂)
    (he : kind e) : EventsGrow kind n₁ (n₂.schedule t e) :=
  h.trans (.schedule n₂ he)

lemma queueMessage_eventsGrow (m : MessageHeader) (t : Time) :
    EventsGrow IsOwnEvent n (n.queueMessage m t) := by
  rw [queueMessage]
  split
  · exact .of_eq rfl
  · exact EventsGrow.thenSchedule (.of_eq rfl) trivial

lemma sendMid_eventsGrow : EventsGrow IsOwnEvent n (n.sendMid jitter) := by
  rw [sendMid]
  split
  · exact .refl n
  · exact n.nextMessageSequenceNumber.queueMessage_eventsGrow _ jitter

lemma sendHna_eventsGrow : EventsGrow IsOwnEvent n (n.sendHna jitter) := by
  rw [sendHna]
  split
  · exact .of_eq rfl
  · exact n.nextMessageSequenceNumber.queueMessage_eventsGrow _ jitter

lemma midTimerExpire_eventsGrow : EventsGrow IsOwnEvent n (n.midTimerExpire jitter) :=
  (n.sendMid_eventsGrow jitter).thenSchedule trivial

lemma hnaTimerExpire_eventsGrow : EventsGrow IsOwnEvent n (n.hnaTimerExpire jitter) := by
  rw [hnaTimerExpire]
  refine .thenSchedule ?_ trivial
  split
  · exact .refl n
  · exact n.sendHna_eventsGrow jitter

/-- A loop over packets schedules nothing. -/
lemma sendQueuedMessages_eventsGrow : EventsGrow kind n n.sendQueuedMessages := by
  refine .of_eq ?_
  exact foldl_eq events (f := sendPacket) (fun _ _ => rfl) _ n

lemma tupleTimer_eventsGrow {α : Type} {tuple : Option α} {exp : α → Time} {remove : α → Node D}
    {e : Event} (hremove : ∀ t, (remove t).events = n.events) :
    EventsGrow (fun e' => IsOwnEvent e' ∨ e' = e) n (n.tupleTimer tuple exp remove e) := by
  cases tuple with
  | none => exact .refl n
  | some t =>
    simp only [tupleTimer]
    split
    · exact .of_eq (hremove t)
    · exact .schedule n (Or.inr rfl)

lemma forwardDefault_eventsGrow (msg : MessageHeader) (duplicated : Option DuplicateTuple)
    (localIface senderAddress : Ipv4Address) :
    EventsGrow (fun e => IsOwnEvent e ∨ ∃ a q, e = Event.dupTupleTimerExpire a q) n
      (n.forwardDefault msg duplicated localIface senderAddress jitter) := by
  simp only [forwardDefault]
  split
  · exact .refl n
  · split
    · exact .refl n
    · generalize (decide (msg.timeToLive > 1) &&
        (n.state.findMprSelectorTuple (n.getMainAddress senderAddress)).isSome) = b
      have hqueue : EventsGrow (fun e => IsOwnEvent e ∨ ∃ a q, e = Event.dupTupleTimerExpire a q) n
          (if b = true then n.queueMessage (forwardedMessage msg) jitter else n) := by
        split
        · exact (n.queueMessage_eventsGrow _ jitter).mono fun _ h => Or.inl h
        · exact .refl n
      split
      · exact hqueue.trans (.of_eq rfl)
      · exact (hqueue.trans (.of_eq rfl)).thenSchedule (Or.inr ⟨_, _, rfl⟩)

variable [OlsrDefenseStrategy D]

lemma helloTimerExpire_eventsGrow : EventsGrow IsOwnEvent n (n.helloTimerExpire jitter) := by
  refine .thenSchedule ?_ trivial
  exact n.nextMessageSequenceNumber.queueMessage_eventsGrow _ jitter

lemma sendTc_eventsGrow : EventsGrow IsOwnEvent n (n.sendTc jitter) := by
  rw [sendTc]
  refine .trans ?_ (queueMessage_eventsGrow _ _ jitter)
  exact .of_eq rfl

lemma tcTimerExpire_eventsGrow : EventsGrow IsOwnEvent n (n.tcTimerExpire jitter) := by
  rw [tcTimerExpire]
  refine .thenSchedule ?_ trivial
  split
  · exact .refl n
  · exact n.sendTc_eventsGrow jitter

lemma handleDefenseTimer_eventsGrow : EventsGrow IsOwnEvent n n.handleDefenseTimer := by
  rw [handleDefenseTimer]
  split
  · exact .refl n
  · exact EventsGrow.thenSchedule (.of_eq rfl) trivial

lemma routingTableComputation_events : n.routingTableComputation.events = n.events := by
  simp only [routingTableComputation]
  split <;> rfl

lemma neighborLoss_events (tuple : LinkTuple) : (n.neighborLoss tuple).events = n.events := by
  rw [neighborLoss, routingTableComputation_events]
  show (n.linkTupleUpdated tuple Willingness.default).events = n.events
  simp only [linkTupleUpdated]
  split <;> rfl

/-- The function of an event schedules events of the node itself, and the same event again. -/
lemma call_eventsGrow (e : Event) :
    EventsGrow (fun e' => IsOwnEvent e' ∨ e' = e) n (n.call e jitter) := by
  cases e with
  | helloTimerExpire => exact (n.helloTimerExpire_eventsGrow jitter).mono fun _ => Or.inl
  | tcTimerExpire => exact (n.tcTimerExpire_eventsGrow jitter).mono fun _ => Or.inl
  | midTimerExpire => exact (n.midTimerExpire_eventsGrow jitter).mono fun _ => Or.inl
  | hnaTimerExpire => exact (n.hnaTimerExpire_eventsGrow jitter).mono fun _ => Or.inl
  | sendQueuedMessages => exact n.sendQueuedMessages_eventsGrow
  | handleDefenseTimer => exact n.handleDefenseTimer_eventsGrow.mono fun _ => Or.inl
  | linkTupleTimerExpire a =>
    simp only [call, linkTupleTimerExpire]
    split
    · exact .refl n
    · split
      · exact .of_eq rfl
      · split
        · refine .thenSchedule (.of_eq ?_) (Or.inr rfl)
          split
          · rfl
          · exact n.neighborLoss_events _
        · exact .schedule n (Or.inr rfl)
  | _ => exact n.tupleTimer_eventsGrow fun _ => rfl

/-- An act that is neither a reception nor the firing of a timer schedules events of the node itself
only. -/
lemma perform_eventsGrow {a : Act D}
    (hrecv : ∀ msg receiverIface senderIface jitter,
      a ≠ Act.recvMessage msg receiverIface senderIface jitter)
    (hfire : ∀ t e jitter, a ≠ Act.fire t e jitter) : EventsGrow IsOwnEvent n (n.perform a) := by
  cases a with
  | recvMessage => exact absurd rfl (hrecv _ _ _ _)
  | fire => exact absurd rfl (hfire _ _ _)
  | routingTableComputation => exact .of_eq n.routingTableComputation_events
  | reactivateDefenseStrategy =>
    simp only [perform, reactivateDefenseStrategy]
    split
    · exact .refl n
    · split
      · exact .of_eq rfl
      · exact EventsGrow.thenSchedule (.of_eq rfl) trivial
  | addHostNetworkAssociation =>
    simp only [perform, addHostNetworkAssociation]
    split <;> exact .of_eq rfl
  | advance | macTxDrop | onLocalRxDrop | setDefenseStrategy | removeHostNetworkAssociation
  | setAttack => exact .of_eq rfl

lemma doInitialize_eventsGrow : EventsGrow IsOwnEvent n (n.doInitialize jitter) := by
  have hstart : EventsGrow IsOwnEvent n n.startDefense := by
    simp only [startDefense]
    split
    · exact EventsGrow.thenSchedule (.of_eq rfl) trivial
    · exact .of_eq rfl
  simp only [doInitialize]
  split
  · exact (((hstart.trans (helloTimerExpire_eventsGrow _ jitter)).trans
      (tcTimerExpire_eventsGrow _ jitter)).trans (midTimerExpire_eventsGrow _ jitter)).trans
        (hnaTimerExpire_eventsGrow _ jitter)
  · exact hstart

end Timers

/-! ### What a node has queued and sent -/

/-- Every message that a node has queued or sent has a property. -/
structure Utters (P : MessageHeader → Prop) (n : Node D) : Prop where
  queued : ∀ m ∈ n.queuedMessages, P m
  sent : ∀ p ∈ n.sentPackets, ∀ m ∈ p.messages, P m

section Utters

variable {P : MessageHeader → Prop} {n' : Node D}

lemma Utters.of_eq (h : Utters P n) (houtbox : n'.outbox = n.outbox) : Utters P n' := by
  obtain ⟨hqueue, hsent⟩ := Prod.mk.inj houtbox
  refine ⟨?_, ?_⟩
  · rw [hqueue]
    exact h.queued
  · rw [hsent]
    exact h.sent

lemma Utters.schedule (h : Utters P n) (t : Time) (e : Event) : Utters P (n.schedule t e) :=
  ⟨h.queued, h.sent⟩

lemma queueMessage_utters (h : Utters P n) {m : MessageHeader} (hm : P m) (t : Time) :
    Utters P (n.queueMessage m t) := by
  have hqueued : ∀ m' ∈ n.queuedMessages ++ [m], P m' := by
    intro m' hm'
    rcases List.mem_append.mp hm' with hm' | hm'
    · exact h.queued m' hm'
    · rwa [List.mem_singleton.mp hm']
  rw [queueMessage]
  split
  · exact ⟨hqueued, h.sent⟩
  · exact ⟨hqueued, h.sent⟩

/-- The packets hold what was queued. -/
lemma mem_of_mem_toChunksGo {α : Type} (k : ℕ) {xs : List α} {acc₁ : Array α}
    {acc₂ : Array (List α)} {c : List α} (hc : c ∈ List.toChunks.go k xs acc₁ acc₂) {a : α}
    (ha : a ∈ c) : a ∈ xs ∨ a ∈ acc₁ ∨ ∃ c' ∈ acc₂, a ∈ c' := by
  induction xs generalizing acc₁ acc₂ with
  | nil =>
    simp only [List.toChunks.go, Array.mem_toList_iff, Array.mem_push] at hc
    rcases hc with hc | rfl
    · exact Or.inr (Or.inr ⟨c, hc, ha⟩)
    · exact Or.inr (Or.inl (by simpa using ha))
  | cons x xs ih =>
    rw [List.toChunks.go] at hc
    split at hc
    · rcases ih hc with h | h | ⟨c', hc', h⟩
      · exact Or.inl (List.mem_cons_of_mem x h)
      · -- The next packet starts with the element.
        have hx : a = x := by simpa using h
        exact Or.inl (by simp [hx])
      · rcases Array.mem_push.mp hc' with hc' | rfl
        · exact Or.inr (Or.inr ⟨c', hc', h⟩)
        · exact Or.inr (Or.inl (by simpa using h))
    · rcases ih hc with h | h | h
      · exact Or.inl (List.mem_cons_of_mem x h)
      · rcases Array.mem_push.mp h with h | rfl
        · exact Or.inr (Or.inl h)
        · exact Or.inl (by simp)
      · exact Or.inr (Or.inr h)

lemma mem_of_mem_toChunks {α : Type} {k : ℕ} {l c : List α} (hc : c ∈ l.toChunks k) {a : α}
    (ha : a ∈ c) : a ∈ l := by
  cases l with
  | nil => cases k <;> simp [List.toChunks] at hc
  | cons x xs =>
    cases k with
    | zero =>
      have hc : c = x :: xs := by simpa [List.toChunks] using hc
      rwa [hc] at ha
    | succ k =>
      rcases mem_of_mem_toChunksGo _ hc ha with h | h | ⟨c', hc', -⟩
      · exact List.mem_cons_of_mem x h
      · simp only [List.mem_toArray, List.mem_singleton] at h
        simp [h]
      · simp at hc'

lemma sendQueuedMessages_utters (h : Utters P n) : Utters P n.sendQueuedMessages := by
  refine ⟨by simp [sendQueuedMessages], ?_⟩
  have hsend : ∀ k : Node D, (∀ p ∈ k.sentPackets, ∀ m ∈ p.messages, P m) →
      ∀ c ∈ n.queuedMessages.toChunks 64, ∀ p ∈ (k.sendPacket c).sentPackets, ∀ m ∈ p.messages,
        P m := by
    intro k hk c hc p hp m hm
    rcases List.mem_append.mp hp with hp | hp
    · exact hk p hp m hm
    · rw [List.mem_singleton.mp hp] at hm
      exact h.queued m (mem_of_mem_toChunks hc hm)
  exact foldl_inv (I := fun k : Node D => ∀ p ∈ k.sentPackets, ∀ m ∈ p.messages, P m) _
    (fun k c hc hk => hsend k hk c hc) h.sent

lemma forwardDefault_utters (h : Utters P n) {msg : MessageHeader}
    (hmsg : P (forwardedMessage msg)) (duplicated : Option DuplicateTuple)
    (localIface senderAddress : Ipv4Address) (jitter : Time) :
    Utters P (n.forwardDefault msg duplicated localIface senderAddress jitter) := by
  simp only [forwardDefault]
  split
  · exact h
  · split
    · exact h
    · generalize (decide (msg.timeToLive > 1) &&
        (n.state.findMprSelectorTuple (n.getMainAddress senderAddress)).isSome) = b
      have hqueue :
          Utters P (if b = true then n.queueMessage (forwardedMessage msg) jitter else n) := by
        split
        · exact queueMessage_utters h hmsg jitter
        · exact h
      split
      · exact hqueue.of_eq rfl
      · exact hqueue.of_eq rfl

lemma tupleTimer_utters (h : Utters P n) {α : Type} {tuple : Option α} {exp : α → Time}
    {remove : α → Node D} {e : Event} (hremove : ∀ t, (remove t).outbox = n.outbox) :
    Utters P (n.tupleTimer tuple exp remove e) := by
  cases tuple with
  | none => exact h
  | some t =>
    simp only [tupleTimer]
    split
    · exact h.of_eq (hremove t)
    · exact h.of_eq rfl

variable [OlsrDefenseStrategy D]

/-- A message of the node itself, as one of the emission timers generates it. -/
structure Generates (n : Node D) (m : MessageHeader) : Prop where
  originator : m.originatorAddress = n.mainAddress
  hello : ∀ hello, m.body = .hello hello → hello.linkMessages = n.helloLinkMessages
  mid : ∀ mid, m.body = .mid mid → mid.interfaceAddresses = n.midAddresses

/-- A message that the function of an event generates: a HELLO message is the one of this moment. -/
structure Issues (n : Node D) (e : Event) (m : MessageHeader) : Prop extends n.Generates m where
  helloTimer : ∀ hello, m.body = .hello hello → e = Event.helloTimerExpire ∧ m = n.helloMessage

omit [OlsrDefenseStrategy D] in
lemma routingTableComputation_outbox [OlsrDefenseStrategy D] :
    n.routingTableComputation.outbox = n.outbox := by
  simp only [routingTableComputation]
  split <;> rfl

lemma neighborLoss_outbox (tuple : LinkTuple) : (n.neighborLoss tuple).outbox = n.outbox := by
  have hmpr (m : Node D) : m.mprComputation.outbox = m.outbox := rfl
  rw [neighborLoss, routingTableComputation_outbox, hmpr, dropNeighbor]
  show (n.linkTupleUpdated tuple Willingness.default).outbox = n.outbox
  simp only [linkTupleUpdated]
  split <;> rfl

lemma sendTc_utters (h : Utters P n)
    (hP : ∀ m, n.Generates m → (∀ hello, m.body ≠ .hello hello) → P m) (jitter : Time) :
    Utters P (n.sendTc jitter) := by
  have hnext : Utters P { n.nextMessageSequenceNumber with
      ansn := n.tcAnsn
      generatedTcs := n.generatedTcs ++ [GeneratedTc.mk n.tcMessage n.ansnIncrements] } :=
    ⟨h.queued, h.sent⟩
  have hhook : ∀ (k : Node D) f, Utters P k → Utters P (k.mapDefense f) :=
    fun k f hk => ⟨hk.queued, hk.sent⟩
  simp only [sendTc]
  refine queueMessage_utters (hhook _ _ hnext) (hP _ ?_ fun hello hbody => by cases hbody) jitter
  exact ⟨rfl, (fun hello hbody => by cases hbody), (fun mid hbody => by cases hbody)⟩

/-- What the function of an event queues are messages of the node itself. -/
lemma call_utters (h : Utters P n) (e : Event) (hP : ∀ m, n.Issues e m → P m) (jitter : Time) :
    Utters P (n.call e jitter) := by
  have hnext : Utters P n.nextMessageSequenceNumber := h.of_eq rfl
  have hother : ∀ m, n.Generates m → (∀ hello, m.body ≠ .hello hello) → P m :=
    fun m hm hbody => hP m ⟨hm, fun hello hhello => absurd hhello (hbody hello)⟩
  cases e with
  | helloTimerExpire =>
    refine (queueMessage_utters hnext (hP n.helloMessage ?_) jitter).schedule _ _
    refine ⟨⟨rfl, fun hello hbody => ?_, (fun mid hbody => by cases hbody)⟩, fun _ _ => ⟨rfl, rfl⟩⟩
    rw [← MessageBody.hello.inj hbody]
  | tcTimerExpire =>
    simp only [call, tcTimerExpire]
    split
    · exact h.schedule _ _
    · exact (sendTc_utters h hother jitter).schedule _ _
  | midTimerExpire =>
    simp only [call, midTimerExpire, sendMid]
    split
    · exact h.schedule _ _
    · refine (queueMessage_utters hnext (hother _ ?_ ?_) jitter).schedule _ _
      · refine ⟨rfl, (fun hello hbody => by cases hbody), fun mid hbody => ?_⟩
        rw [← MessageBody.mid.inj hbody]
      · exact fun hello hbody => by cases hbody
  | hnaTimerExpire =>
    simp only [call, hnaTimerExpire, sendHna]
    split
    · exact h.schedule _ _
    · refine (queueMessage_utters hnext (hother _ ?_ ?_) jitter).schedule _ _
      · exact ⟨rfl, (fun hello hbody => by cases hbody), (fun mid hbody => by cases hbody)⟩
      · exact fun hello hbody => by cases hbody
  | sendQueuedMessages => exact sendQueuedMessages_utters h
  | handleDefenseTimer =>
    simp only [call, handleDefenseTimer]
    split
    · exact h
    · exact h.of_eq rfl
  | linkTupleTimerExpire a =>
    simp only [call, linkTupleTimerExpire]
    split
    · exact h
    · split
      · exact h.of_eq rfl
      · split
        · split
          · exact h.of_eq rfl
          · exact (h.of_eq (neighborLoss_outbox _)).schedule _ _
        · exact h.schedule _ _
  -- The timers of the other tuples send nothing.
  | _ => exact tupleTimer_utters h fun _ => rfl

/-- What is not a HELLO message may be sent on. -/
lemma recvMessage_utters (h : Utters P n) {msg : MessageHeader} {receiverIface : Ipv4Address}
    (hmsg : (∀ hello, msg.body ≠ .hello hello) → P (forwardedMessage msg))
    (senderIface : Ipv4Address) (jitter : Time) :
    Utters P (n.recvMessage msg receiverIface senderIface jitter) := by
  simp only [recvMessage]
  split
  · exact h
  · have hhook : Schedules (fun _ => True) n (n.defenseHook msg senderIface) :=
      n.defenseHook_schedules msg senderIface
    have hread : Utters P (if (n.duplicateOf msg).isNone = true then
        (n.defenseHook msg senderIface).processMessage msg receiverIface senderIface
      else n.defenseHook msg senderIface) := by
      split
      · exact h.of_eq (hhook.trans (processMessage_schedules _ msg receiverIface senderIface)).outbox
      · exact h.of_eq hhook.outbox
    split
    · next hforward =>
      refine forwardDefault_utters hread (hmsg fun hello hbody => ?_) _ _ _ _
      simp [doForwarding, hbody] at hforward
    · exact hread

lemma startDefense_utters (h : Utters P n) : Utters P n.startDefense := by
  simp only [startDefense]
  split
  · exact h.of_eq rfl
  · exact h.of_eq rfl

/-- What an act can add to what a node utters: messages of its own, and messages it sends on. -/
lemma perform_utters (h : Utters P n) {a : Act D}
    (hrecv : ∀ msg receiverIface senderIface jitter,
      a = Act.recvMessage msg receiverIface senderIface jitter →
      (∀ hello, msg.body ≠ .hello hello) → P (forwardedMessage msg))
    (hP : ∀ t e jitter, a = Act.fire t e jitter → ∀ m, n.Issues e m → P m) :
    Utters P (n.perform a) := by
  cases a with
  | recvMessage msg receiverIface senderIface jitter =>
    exact recvMessage_utters h (hrecv _ _ _ _ rfl) senderIface jitter
  | fire t e jitter =>
    have hdequeue : Utters P (n.dequeue t e) := h.of_eq rfl
    refine call_utters hdequeue e (fun m hm => hP t e jitter rfl m ?_) jitter
    exact ⟨⟨hm.originator, hm.hello, hm.mid⟩, hm.helloTimer⟩
  | routingTableComputation => exact h.of_eq routingTableComputation_outbox
  | reactivateDefenseStrategy =>
    simp only [perform, reactivateDefenseStrategy]
    split
    · exact h
    · split
      · exact h.of_eq rfl
      · exact h.of_eq rfl
  | addHostNetworkAssociation =>
    simp only [perform, addHostNetworkAssociation]
    split
    · exact h
    · exact h.of_eq rfl
  | advance | macTxDrop | onLocalRxDrop | setDefenseStrategy | removeHostNetworkAssociation
  | setAttack => exact h.of_eq rfl

end Utters

end Node

end ManetOlsr
