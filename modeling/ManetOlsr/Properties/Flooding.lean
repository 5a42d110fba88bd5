/-
A flooded message is processed and retransmitted at most once.

The duplicate tuple of a message decides on both.  It is created by `ForwardDefault`, in the step in
which the message has been processed, or is found there and keeps its flag once this is set.  A
step that queues a copy sets the flag, which stands until the tuple expires: over a part of a run
in which the tuple stays stored, the copies queued and the flag at the start add up to one at most.
-/
import ManetOlsr.Model.Agenda
import ManetOlsr.Model.Scenario

namespace ManetOlsr

/-- Whether an act receives a message with a key of the duplicate set. -/
def Act.carries {D : Type} (addr : Ipv4Address) (sequenceNumber : UInt16) : Act D → Bool
  | recvMessage msg .. =>
    msg.originatorAddress == addr && msg.messageSequenceNumber == sequenceNumber
  | _ => false

/-- The key of a duplicate tuple. -/
def DuplicateTuple.key (t : DuplicateTuple) : Ipv4Address × UInt16 := (t.address, t.sequenceNumber)

namespace Node

variable {D : Type} {n : Node D} {addr : Ipv4Address} {sequenceNumber : UInt16}

/-! ### Searches for duplicate tuples -/

variable (n) in
/-- There is at most one duplicate tuple for a key. -/
def DuplicatesDistinct : Prop := (n.state.duplicateSet.map DuplicateTuple.key).Nodup

variable (n addr sequenceNumber) in
/-- Whether a duplicate tuple is stored. -/
def stored : Bool := (n.state.findDuplicateTuple addr sequenceNumber).isSome

variable (n addr sequenceNumber) in
/-- Whether a duplicate tuple is stored whose flag is set. -/
def relayed : Bool :=
  (n.state.findDuplicateTuple addr sequenceNumber).any DuplicateTuple.retransmitted

section Searches

variable (s : OlsrState) {d : DuplicateTuple}

lemma findDuplicateTuple_key
    (h : s.findDuplicateTuple addr sequenceNumber = some d) : d.key = (addr, sequenceNumber) := by
  have hfound := List.find?_some h
  simp only [Bool.and_eq_true, beq_iff_eq] at hfound
  exact Prod.ext hfound.1 hfound.2

lemma findDuplicateTuple_insert_self (h : s.findDuplicateTuple d.address d.sequenceNumber = none) :
    (s.insertDuplicateTuple d).findDuplicateTuple d.address d.sequenceNumber = some d := by
  rw [OlsrState.findDuplicateTuple] at h
  rw [OlsrState.findDuplicateTuple, OlsrState.insertDuplicateTuple, List.find?_append, h]
  simp

lemma findDuplicateTuple_insert_of_ne (h : (addr, sequenceNumber) ≠ d.key) :
    (s.insertDuplicateTuple d).findDuplicateTuple addr sequenceNumber =
      s.findDuplicateTuple addr sequenceNumber := by
  rw [OlsrState.findDuplicateTuple, OlsrState.insertDuplicateTuple, List.find?_append]
  have hd : (d.address == addr && d.sequenceNumber == sequenceNumber) = false := by
    rw [← Bool.not_eq_true, Bool.and_eq_true, beq_iff_eq, beq_iff_eq]
    rintro ⟨rfl, rfl⟩
    exact h rfl
  simp [hd, OlsrState.findDuplicateTuple]

lemma findDuplicateTuple_update_self (t : Time) (b : Bool) (i : Ipv4Address) :
    (s.updateDuplicateTuple addr sequenceNumber t b i).findDuplicateTuple addr sequenceNumber =
      (s.findDuplicateTuple addr sequenceNumber).map fun d =>
        { d with expirationTime := t, retransmitted := b, ifaceList := d.ifaceList ++ [i] } :=
  Lib.find?_updateFirst_self fun _ h => h

lemma findDuplicateTuple_update_of_ne {a : Ipv4Address} {q : UInt16}
    (h : (addr, sequenceNumber) ≠ (a, q)) (t : Time) (b : Bool) (i : Ipv4Address) :
    (s.updateDuplicateTuple a q t b i).findDuplicateTuple addr sequenceNumber =
      s.findDuplicateTuple addr sequenceNumber := by
  have hdisjoint : ∀ d : DuplicateTuple, (d.address == a && d.sequenceNumber == q) = true →
      (d.address == addr && d.sequenceNumber == sequenceNumber) = false := by
    intro d hd
    rw [Bool.and_eq_true, beq_iff_eq, beq_iff_eq] at hd
    rw [← Bool.not_eq_true, Bool.and_eq_true, beq_iff_eq, beq_iff_eq, hd.1, hd.2]
    rintro ⟨rfl, rfl⟩
    exact h rfl
  exact Lib.find?_updateFirst_of_disjoint hdisjoint fun d hd => hdisjoint d hd

lemma findDuplicateTuple_erase_of_ne (h : (addr, sequenceNumber) ≠ d.key) :
    (s.eraseDuplicateTuple d).findDuplicateTuple addr sequenceNumber =
      s.findDuplicateTuple addr sequenceNumber := by
  refine Lib.find?_eraseP_of_disjoint (fun d' hd' => ?_) _
  rw [DuplicateTuple.same, Bool.and_eq_true, beq_iff_eq, beq_iff_eq] at hd'
  rw [← Bool.not_eq_true, Bool.and_eq_true, beq_iff_eq, beq_iff_eq, hd'.1, hd'.2]
  rintro ⟨rfl, rfl⟩
  exact h rfl

end Searches

/-! ### What forwarding does -/

/-- The message is considered for forwarding, and retransmitted if `b`. -/
structure Considers (msg : MessageHeader) (b : Bool) (n n' : Node D) : Prop where
  queuedMessages : n'.queuedMessages = n.queuedMessages ++ if b then [forwardedMessage msg] else []
  live : b = true → 1 < msg.timeToLive
  tuple : ∃ d, n'.duplicateOf msg = some d ∧ d.retransmitted = b
  others : ∀ addr sequenceNumber,
    (addr, sequenceNumber) ≠ (msg.originatorAddress, msg.messageSequenceNumber) →
    n'.state.findDuplicateTuple addr sequenceNumber =
      n.state.findDuplicateTuple addr sequenceNumber
  distinct : n.DuplicatesDistinct → n'.DuplicatesDistinct

@[simp] lemma queueMessage_queuedMessages (m : MessageHeader) (t : Time) :
    (n.queueMessage m t).queuedMessages = n.queuedMessages ++ [m] := by
  rw [queueMessage]
  split <;> rfl

/-- An update leaves the keys of the duplicate tuples alone. -/
lemma updateDuplicateTuple_keys (s : OlsrState) (t : Time) (b : Bool) (i : Ipv4Address) :
    (s.updateDuplicateTuple addr sequenceNumber t b i).duplicateSet.map DuplicateTuple.key =
      s.duplicateSet.map DuplicateTuple.key :=
  Lib.map_updateFirst fun _ _ _ => rfl

lemma DuplicatesDistinct.insert {d : DuplicateTuple} (h : n.DuplicatesDistinct)
    (hnew : n.state.findDuplicateTuple d.address d.sequenceNumber = none) :
    ((n.state.insertDuplicateTuple d).duplicateSet.map DuplicateTuple.key).Nodup := by
  refine Lib.nodup_append_key h fun d' hd' hkey => ?_
  have hno := List.find?_eq_none.mp hnew d' hd'
  obtain ⟨haddr, hseq⟩ := Prod.mk.inj hkey
  rw [haddr, hseq] at hno
  simp at hno

/-- The tuple that `ForwardDefault` leaves for a message, with its flag. -/
lemma considers_of_state {msg : MessageHeader} {n' : Node D} {b : Bool} {t : Time}
    {localIface : Ipv4Address}
    (hqueue : n'.queuedMessages = n.queuedMessages ++ if b then [forwardedMessage msg] else [])
    (hlive : b = true → 1 < msg.timeToLive)
    (hstate : n'.state = match n.duplicateOf msg with
      | some _ => n.state.updateDuplicateTuple msg.originatorAddress msg.messageSequenceNumber t b
        localIface
      | none => n.state.insertDuplicateTuple
        ⟨msg.originatorAddress, msg.messageSequenceNumber, b, [localIface], t⟩) :
    Considers msg b n n' := by
  cases hdup : n.duplicateOf msg with
  | some d =>
    rw [hdup] at hstate
    dsimp only at hstate
    refine ⟨hqueue, hlive, ?_, fun addr sequenceNumber hne => ?_, fun hdistinct => ?_⟩
    · rw [duplicateOf] at hdup
      rw [duplicateOf, hstate, findDuplicateTuple_update_self, hdup]
      exact ⟨_, rfl, rfl⟩
    · rw [hstate, findDuplicateTuple_update_of_ne _ hne]
    · rw [DuplicatesDistinct, hstate, updateDuplicateTuple_keys]
      exact hdistinct
  | none =>
    rw [hdup] at hstate
    dsimp only at hstate
    refine ⟨hqueue, hlive, ?_, fun addr sequenceNumber hne => ?_, fun hdistinct => ?_⟩
    · rw [duplicateOf, hstate]
      exact ⟨_, findDuplicateTuple_insert_self _ hdup, rfl⟩
    · rw [hstate, findDuplicateTuple_insert_of_ne _ hne]
    · rw [DuplicatesDistinct, hstate]
      exact hdistinct.insert hdup

/-- `ForwardDefault` does nothing, or considers a message that has not been retransmitted. -/
lemma forwardDefault_cases (msg : MessageHeader) (localIface senderAddress : Ipv4Address)
    (jitter : Time) :
    n.forwardDefault msg (n.duplicateOf msg) localIface senderAddress jitter = n ∨
      (n.duplicateOf msg).any DuplicateTuple.retransmitted = false ∧
        ∃ b, Considers msg b n
          (n.forwardDefault msg (n.duplicateOf msg) localIface senderAddress jitter) := by
  simp only [forwardDefault]
  split
  · exact Or.inl rfl
  · split
    · exact Or.inl rfl
    · next hflag =>
      generalize hb : (decide (msg.timeToLive > 1) &&
        (n.state.findMprSelectorTuple (n.getMainAddress senderAddress)).isSome) = b
      have hlive : b = true → 1 < msg.timeToLive := by
        rintro rfl
        rw [Bool.and_eq_true, decide_eq_true_iff] at hb
        exact hb.1
      generalize hn₁ : (if b = true then n.queueMessage (forwardedMessage msg) jitter else n) = n₁
      have hstate : n₁.state = n.state := by
        rw [← hn₁]
        split <;> simp
      have hqueue : n₁.queuedMessages =
          n.queuedMessages ++ if b then [forwardedMessage msg] else [] := by
        rw [← hn₁]
        split <;> simp
      refine Or.inr ⟨by simpa using hflag, b, ?_⟩
      split
      · next d hd => exact considers_of_state hqueue hlive (by rw [hd, ← hstate]; rfl)
      · next hd => exact considers_of_state hqueue hlive (by rw [hd, ← hstate]; rfl)

/-! ### What the reception of a message does -/

section Reception

variable [OlsrDefenseStrategy D]

lemma processMessage_duplicateSet (msg : MessageHeader) (receiverIface senderIface : Ipv4Address) :
    (n.processMessage msg receiverIface senderIface).state.duplicateSet = n.state.duplicateSet := by
  rw [processMessage]
  split
  · obtain ⟨_, _, _, _, _, hstate⟩ := n.processHello_state msg receiverIface senderIface ‹Hello›
    rw [hstate]
  · obtain ⟨_, hstate⟩ := n.processTc_state msg senderIface ‹Tc›
    rw [hstate]
  · obtain ⟨_, _, _, hstate⟩ := n.processMid_state msg senderIface ‹Mid›
    rw [hstate]
  · obtain ⟨_, hstate⟩ := n.processHna_state msg senderIface ‹Hna›
    rw [hstate]

/-- A message leaves the duplicate tuples and the queue alone, or it is considered for forwarding
and has not been retransmitted before. -/
lemma recvMessage_cases (msg : MessageHeader) (receiverIface senderIface : Ipv4Address)
    (jitter : Time) :
    (n.recvMessage msg receiverIface senderIface jitter).state.duplicateSet =
        n.state.duplicateSet ∧
      (n.recvMessage msg receiverIface senderIface jitter).queuedMessages = n.queuedMessages ∨
    (n.duplicateOf msg).any DuplicateTuple.retransmitted = false ∧
      ∃ b, Considers msg b n (n.recvMessage msg receiverIface senderIface jitter) := by
  simp only [recvMessage]
  split
  · exact Or.inl ⟨rfl, rfl⟩
  · -- The processing changes neither the duplicate tuples nor the queue.
    generalize hn₂ : (if (n.duplicateOf msg).isNone = true then
      (n.defenseHook msg senderIface).processMessage msg receiverIface senderIface
      else n.defenseHook msg senderIface) = n₂
    have hhooked : Schedules (fun _ => True) n (n.defenseHook msg senderIface) :=
      n.defenseHook_schedules msg senderIface
    have hhook := hhooked.queuedMessages
    have hset : n₂.state.duplicateSet = n.state.duplicateSet := by
      rw [← hn₂]
      split
      · rw [processMessage_duplicateSet, defenseHook_state]
      · rw [defenseHook_state]
    have hqueue : n₂.queuedMessages = n.queuedMessages := by
      rw [← hn₂]
      split
      · rw [((n.defenseHook msg senderIface).processMessage_schedules msg receiverIface
          senderIface).queuedMessages, hhook]
      · exact hhook
    have hfind : n₂.state.findDuplicateTuple = n.state.findDuplicateTuple := by
      funext addr sequenceNumber
      rw [OlsrState.findDuplicateTuple, hset, OlsrState.findDuplicateTuple]
    have hdup : n₂.duplicateOf msg = n.duplicateOf msg := by rw [duplicateOf, hfind, duplicateOf]
    split
    · rw [← hdup]
      rcases n₂.forwardDefault_cases msg receiverIface senderIface jitter with
        hsame | ⟨hflag, b, h⟩
      · left
        rw [hsame]
        exact ⟨hset, hqueue⟩
      · refine Or.inr ⟨hflag, b, h.queuedMessages.trans (by rw [hqueue]), h.live, h.tuple,
          fun addr sequenceNumber hne => ?_, fun hdistinct => h.distinct ?_⟩
        · rw [h.others addr sequenceNumber hne, hfind]
        · rwa [DuplicatesDistinct, hset]
    · exact Or.inl ⟨hset, hqueue⟩

/-! ### What the other acts do -/

/-- The other acts erase at most one duplicate tuple. -/
lemma perform_duplicateSet {a : Act D}
    (ha : ∀ msg receiverIface senderIface jitter,
      a ≠ Act.recvMessage msg receiverIface senderIface jitter) :
    (n.perform a).state.duplicateSet = n.state.duplicateSet ∨
      ∃ d ∈ n.state.duplicateSet,
        (n.perform a).state.duplicateSet = (n.state.eraseDuplicateTuple d).duplicateSet := by
  cases a with
  | recvMessage msg receiverIface senderIface jitter => exact absurd rfl (ha _ _ _ _)
  | fire t e jitter =>
    have hdequeue : (n.dequeue t e).state = n.state := rfl
    let Same := fun s : OlsrState => s.duplicateSet = n.state.duplicateSet
    cases e with
    | dupTupleTimerExpire addr sequenceNumber =>
      simp only [perform, call, dupTupleTimerExpire, hdequeue]
      cases hfind : n.state.findDuplicateTuple addr sequenceNumber with
      | none => exact Or.inl rfl
      | some d =>
        simp only [tupleTimer]
        split
        · exact Or.inr ⟨d, List.mem_of_find?_eq_some hfind, rfl⟩
        · exact Or.inl rfl
    | linkTupleTimerExpire a =>
      left
      refine linkTupleTimerExpire_state_inv (Q := Same) _ rfl (fun _ _ _ => rfl) ?_
      intro tuple _ _ _ _
      obtain ⟨ns, hns⟩ := (n.dequeue t _).dropNeighbor_state tuple
      rw [neighborLoss_state, hns]
      rfl
    | nb2hopTupleTimerExpire | mprSelTupleTimerExpire | topologyTupleTimerExpire
    | ifaceAssocTupleTimerExpire | associationTupleTimerExpire =>
      exact Or.inl (tupleTimer_state_inv (Q := Same) _ rfl fun _ _ _ => rfl)
    | helloTimerExpire | tcTimerExpire | midTimerExpire | hnaTimerExpire | sendQueuedMessages
    | handleDefenseTimer =>
      left
      simp [perform, call]
  | addHostNetworkAssociation =>
    left
    rw [perform, addHostNetworkAssociation]
    split <;> rfl
  | routingTableComputation => exact Or.inl (by rw [perform, routingTableComputation_state])
  | reactivateDefenseStrategy => exact Or.inl (by rw [perform, reactivateDefenseStrategy_state])
  | advance | macTxDrop | onLocalRxDrop | setDefenseStrategy | removeHostNetworkAssociation
  | setAttack => exact Or.inl rfl

/-- A duplicate tuple that is still stored after one of these acts is as it was. -/
lemma perform_findDuplicate (hn : n.DuplicatesDistinct) {a : Act D}
    (ha : ∀ msg receiverIface senderIface jitter,
      a ≠ Act.recvMessage msg receiverIface senderIface jitter)
    (hstored : (n.perform a).stored addr sequenceNumber = true) :
    (n.perform a).state.findDuplicateTuple addr sequenceNumber =
      n.state.findDuplicateTuple addr sequenceNumber := by
  rcases perform_duplicateSet (n := n) ha with hsame | ⟨d, hd, herase⟩
  · rw [OlsrState.findDuplicateTuple, hsame, OlsrState.findDuplicateTuple]
  · have hfind : (n.perform a).state.findDuplicateTuple addr sequenceNumber =
        (n.state.eraseDuplicateTuple d).findDuplicateTuple addr sequenceNumber := by
      rw [OlsrState.findDuplicateTuple, herase, OlsrState.findDuplicateTuple]
    by_cases hkey : (addr, sequenceNumber) = d.key
    · -- The tuple of the key has been erased, and there is no other.
      obtain ⟨d', hd'⟩ := Option.isSome_iff_exists.mp hstored
      rw [hfind] at hd'
      refine absurd ((findDuplicateTuple_key _ hd').trans hkey) ?_
      refine Lib.key_ne_of_mem_eraseP hn (fun b hb => ?_) ⟨d, hd, ?_⟩
        (List.mem_of_find?_eq_some hd')
      · rw [DuplicateTuple.same, Bool.and_eq_true, beq_iff_eq, beq_iff_eq] at hb
        exact Prod.ext hb.1 hb.2
      · simp [DuplicateTuple.same]
    · rw [hfind, findDuplicateTuple_erase_of_ne _ hkey]

/-- **Step lemma.**  There stays at most one duplicate tuple for a key. -/
lemma DuplicatesDistinct.perform (hn : n.DuplicatesDistinct) (a : Act D) :
    (n.perform a).DuplicatesDistinct := by
  by_cases ha : ∃ msg receiverIface senderIface jitter,
      a = Act.recvMessage msg receiverIface senderIface jitter
  · obtain ⟨msg, receiverIface, senderIface, jitter, rfl⟩ := ha
    rcases n.recvMessage_cases msg receiverIface senderIface jitter with ⟨hset, -⟩ | ⟨-, b, h⟩
    · rw [DuplicatesDistinct, Node.perform, hset]
      exact hn
    · exact h.distinct hn
  · have hother : ∀ msg receiverIface senderIface jitter,
        a ≠ Act.recvMessage msg receiverIface senderIface jitter :=
      fun msg receiverIface senderIface jitter h => ha ⟨_, _, _, _, h⟩
    rcases perform_duplicateSet (n := n) hother with hsame | ⟨d, -, herase⟩
    · rw [DuplicatesDistinct, hsame]
      exact hn
    · rw [DuplicatesDistinct, herase]
      exact Lib.nodup_of_sublist List.eraseP_sublist hn

/-! ### Parts of runs -/

/-- Whether an act that receives a message with the key queues a message. -/
def requeues (addr : Ipv4Address) (sequenceNumber : UInt16) (x : Node D × Act D) : Bool :=
  x.2.carries addr sequenceNumber && decide ((x.1.exec x.2).queuedMessages ≠ x.1.queuedMessages)

omit [OlsrDefenseStrategy D] in
lemma relayed_of_find {n' : Node D} (h : n'.state.findDuplicateTuple addr sequenceNumber =
    n.state.findDuplicateTuple addr sequenceNumber) :
    n'.relayed addr sequenceNumber = n.relayed addr sequenceNumber := by
  rw [relayed, relayed, h]

/-- **Step lemma.**  While the tuple stays stored its flag stays set, and an act that queues a copy
finds the flag cleared and sets it. -/
lemma exec_relayed (hn : n.DuplicatesDistinct) {a : Act D}
    (hstored : (n.exec a).stored addr sequenceNumber = true) :
    (n.relayed addr sequenceNumber = true → (n.exec a).relayed addr sequenceNumber = true) ∧
      (requeues addr sequenceNumber (n, a) = true → n.relayed addr sequenceNumber = false ∧
        (n.exec a).relayed addr sequenceNumber = true) := by
  cases hrunning : n.fatalError with
  | true =>
    have hexec : n.exec a = n := if_pos hrunning
    simp [requeues, hexec]
  | false =>
    have hexec : n.exec a = n.perform a := if_neg (by simp [hrunning])
    rw [hexec] at hstored ⊢
    rw [requeues, hexec]
    -- Only a reception can set the flag or requeue the message.
    by_cases ha : ∃ msg receiverIface senderIface jitter,
        a = Act.recvMessage msg receiverIface senderIface jitter
    · obtain ⟨msg, receiverIface, senderIface, jitter, rfl⟩ := ha
      rcases n.recvMessage_cases msg receiverIface senderIface jitter with
        ⟨hset, hqueue⟩ | ⟨hflag, b, h⟩
      · have hfind : (n.recvMessage msg receiverIface senderIface
            jitter).state.findDuplicateTuple addr sequenceNumber =
              n.state.findDuplicateTuple addr sequenceNumber := by
          rw [OlsrState.findDuplicateTuple, hset, OlsrState.findDuplicateTuple]
        simp only [perform, relayed_of_find hfind, hqueue]
        simp
      · -- and only a reception of this message
        by_cases hkey : (addr, sequenceNumber) =
            (msg.originatorAddress, msg.messageSequenceNumber)
        · obtain ⟨rfl, rfl⟩ := Prod.mk.inj hkey
          obtain ⟨d, hd, hb⟩ := h.tuple
          have hbefore : n.relayed msg.originatorAddress msg.messageSequenceNumber = false := hflag
          refine ⟨fun hset => ?_, fun hqueues => ⟨hbefore, ?_⟩⟩
          · rw [hbefore] at hset
            cases hset
          · rw [duplicateOf] at hd
            rw [perform, relayed, hd]
            cases b with
            | true => simp [hb]
            | false =>
              have hqueue := h.queuedMessages
              simp only [Bool.false_eq_true, if_false, List.append_nil] at hqueue
              simp [perform, hqueue] at hqueues
        · have hcarries : Act.carries addr sequenceNumber
              (Act.recvMessage msg receiverIface senderIface jitter : Act D) = false := by
            rw [Act.carries, ← Bool.not_eq_true, Bool.and_eq_true, beq_iff_eq, beq_iff_eq]
            rintro ⟨rfl, rfl⟩
            exact hkey rfl
          rw [perform, relayed_of_find (h.others _ _ hkey), hcarries]
          simp
    · have hother : ∀ msg receiverIface senderIface jitter,
          a ≠ Act.recvMessage msg receiverIface senderIface jitter :=
        fun msg receiverIface senderIface jitter h => ha ⟨_, _, _, _, h⟩
      have hcarries : a.carries addr sequenceNumber = false := by
        cases a with
        | recvMessage => exact absurd rfl (hother _ _ _ _)
        | _ => rfl
      rw [relayed_of_find (perform_findDuplicate hn hother hstored), hcarries]
      simp

/-- **Run lemma.**  Over a part of a run in which the tuple stays stored, at most one act queues a
copy, and none if the flag is set at the start. -/
lemma requeues_atMostOnce {as : List (Act D)} (hn : n.DuplicatesDistinct)
    (hstored : ∀ x ∈ Lib.trace exec n as, (x.1.exec x.2).stored addr sequenceNumber = true) :
    ((Lib.trace exec n as).filter (requeues addr sequenceNumber)).length +
      (if n.relayed addr sequenceNumber then 1 else 0) ≤ 1 := by
  induction as generalizing n with
  | nil =>
    rw [Lib.trace_nil, List.filter_nil, List.length_nil]
    split <;> omega
  | cons a as ih =>
    have hhead := hstored (n, a) (by simp)
    obtain ⟨hkeeps, hqueues⟩ := exec_relayed hn hhead
    have hrest := ih (n := n.exec a) (by
      rw [exec]
      split
      · exact hn
      · exact hn.perform a) fun x hx => hstored x (List.mem_cons_of_mem _ hx)
    rw [Lib.trace_cons]
    cases hq : requeues addr sequenceNumber (n, a) with
    | true =>
      obtain ⟨hbefore, hafter⟩ := hqueues hq
      rw [List.filter_cons_of_pos hq, List.length_cons, hbefore]
      rw [hafter, if_pos rfl] at hrest
      simp only [Bool.false_eq_true, if_false]
      omega
    | false =>
      rw [List.filter_cons_of_neg (by simp [hq])]
      cases hflag : n.relayed addr sequenceNumber with
      | true =>
        rw [hkeeps hflag] at hrest
        exact hrest
      | false =>
        simp only [Bool.false_eq_true, if_false]
        omega

/-- A message whose duplicate tuple is stored is not processed. -/
lemma recvMessage_of_stored {msg : MessageHeader} {receiverIface senderIface : Ipv4Address}
    {jitter : Time} (h : n.stored msg.originatorAddress msg.messageSequenceNumber = true) :
    n.reads msg = false ∧
      ∃ ds, (n.exec (Act.recvMessage msg receiverIface senderIface jitter)).state =
        { n.state with duplicateSet := ds } := by
  have hdup : (n.duplicateOf msg).isNone = false := by
    rw [stored] at h
    rw [duplicateOf, ← Option.not_isSome, h]
    rfl
  have hreads : n.reads msg = false := by rw [reads, hdup, Bool.and_false]
  refine ⟨hreads, ?_⟩
  rw [exec]
  split
  · exact ⟨_, rfl⟩
  · obtain ⟨ds, hds⟩ := n.recvMessage_state msg receiverIface senderIface jitter
    rw [hreads] at hds
    exact ⟨ds, hds⟩

/-- A message that is queued on reception is the received one, with a time to live that is left and
its sum with the hop count. -/
lemma recvMessage_copy {msg : MessageHeader} {receiverIface senderIface : Ipv4Address}
    {jitter : Time} (h : (n.exec (Act.recvMessage msg receiverIface senderIface
      jitter)).queuedMessages ≠ n.queuedMessages) :
    (n.exec (Act.recvMessage msg receiverIface senderIface jitter)).queuedMessages =
        n.queuedMessages ++ [forwardedMessage msg] ∧
      1 ≤ (forwardedMessage msg).timeToLive.toNat ∧
      (msg.timeToLive.toNat + msg.hopCount.toNat ≤ 255 →
        (forwardedMessage msg).timeToLive.toNat + (forwardedMessage msg).hopCount.toNat =
          msg.timeToLive.toNat + msg.hopCount.toNat) := by
  rw [exec] at *
  split at h
  · exact absurd rfl h
  · next hrunning =>
    rw [if_neg hrunning]
    rcases n.recvMessage_cases msg receiverIface senderIface jitter with
      ⟨-, hqueue⟩ | ⟨-, b, hconsiders⟩
    · exact absurd hqueue h
    · cases b with
      | false => exact absurd (hconsiders.queuedMessages.trans (by simp)) h
      | true =>
        have hlive : 1 < msg.timeToLive.toNat :=
          UInt8.lt_iff_toNat_lt.mp (hconsiders.live rfl)
        have httl : (msg.timeToLive - 1).toNat = msg.timeToLive.toNat - 1 :=
          UInt8.toNat_sub_of_le _ _ (UInt8.le_iff_toNat_le.mpr hlive.le)
        have hhop : (msg.hopCount + 1).toNat = (msg.hopCount.toNat + 1) % 256 :=
          UInt8.toNat_add _ _
        refine ⟨hconsiders.queuedMessages, ?_, fun hsum => ?_⟩
        · show 1 ≤ (msg.timeToLive - 1).toNat
          omega
        · show (msg.timeToLive - 1).toNat + (msg.hopCount + 1).toNat = _
          omega

/-- What holds of a part of a run with the messages of a key: they are processed in the first act at
most, and there only if it creates the tuple; at most one copy is queued; the flag of the tuple stays
set; and the copies are live, with the sum of the time to live and the hop count of the message. -/
structure FloodedOnce (addr : Ipv4Address) (sequenceNumber : UInt16)
    (part : List (Node D × Act D)) : Prop where
  processed : ∀ x ∈ part, ∀ msg receiverIface senderIface jitter,
    x.2 = Act.recvMessage msg receiverIface senderIface jitter →
    msg.originatorAddress = addr → msg.messageSequenceNumber = sequenceNumber →
    (x.1.stored addr sequenceNumber = false ∧ part.head? = some x) ∨
      x.1.reads msg = false ∧ ∃ ds, (x.1.exec x.2).state = { x.1.state with duplicateSet := ds }
  once : (part.filter (requeues addr sequenceNumber)).length ≤ 1
  flag : ∀ x ∈ part, x.1.relayed addr sequenceNumber = true →
    (x.1.exec x.2).relayed addr sequenceNumber = true
  copies : ∀ x ∈ part, ∀ msg receiverIface senderIface jitter,
    x.2 = Act.recvMessage msg receiverIface senderIface jitter →
    (x.1.exec x.2).queuedMessages ≠ x.1.queuedMessages →
    (x.1.exec x.2).queuedMessages = x.1.queuedMessages ++ [forwardedMessage msg] ∧
      1 ≤ (forwardedMessage msg).timeToLive.toNat ∧
      (msg.timeToLive.toNat + msg.hopCount.toNat ≤ 255 →
        (forwardedMessage msg).timeToLive.toNat + (forwardedMessage msg).hopCount.toNat =
          msg.timeToLive.toNat + msg.hopCount.toNat)

/-- After the first act of the part, the tuple is stored. -/
lemma stored_or_head {as : List (Act D)}
    (hstored : ∀ x ∈ Lib.trace exec n as, (x.1.exec x.2).stored addr sequenceNumber = true)
    {x : Node D × Act D} (hx : x ∈ Lib.trace exec n as) :
    x.1.stored addr sequenceNumber = true ∨ (Lib.trace exec n as).head? = some x := by
  cases as with
  | nil => simp at hx
  | cons a as =>
    rcases List.mem_cons.mp hx with rfl | hx
    · exact Or.inr rfl
    · left
      refine Lib.inv_trace (I := fun n : Node D => n.stored addr sequenceNumber = true)
        (P := fun n a => (n.exec a).stored addr sequenceNumber = true) (fun _ _ _ h => h)
        (hstored (n, a) (by simp)) (fun y hy => hstored y (List.mem_cons_of_mem _ hy)) x hx

lemma DuplicatesDistinct.exec (hn : n.DuplicatesDistinct) (a : Act D) :
    (n.exec a).DuplicatesDistinct := by
  rw [Node.exec]
  split
  · exact hn
  · exact hn.perform a

lemma floodedOnce {as : List (Act D)} (hn : n.DuplicatesDistinct)
    (hstored : ∀ x ∈ Lib.trace exec n as, (x.1.exec x.2).stored addr sequenceNumber = true) :
    FloodedOnce addr sequenceNumber (Lib.trace exec n as) where
  processed x hx msg receiverIface senderIface jitter hact haddr hseq := by
    subst haddr
    subst hseq
    cases hbefore : x.1.stored msg.originatorAddress msg.messageSequenceNumber with
    | true =>
      rw [hact]
      exact Or.inr (recvMessage_of_stored hbefore)
    | false =>
      refine Or.inl ⟨rfl, (stored_or_head hstored hx).resolve_left ?_⟩
      simp [hbefore]
  once := le_trans (Nat.le_add_right _ _) (requeues_atMostOnce hn hstored)
  flag x hx := by
    have hdistinct : x.1.DuplicatesDistinct :=
      Lib.inv_trace (I := DuplicatesDistinct) (P := fun _ _ => True) (fun _ a h _ => h.exec a) hn
        (fun _ _ => trivial) x hx
    exact (exec_relayed hdistinct (hstored x hx)).1
  copies x _ msg receiverIface senderIface jitter hact hqueues := by
    rw [hact] at hqueues ⊢
    exact recvMessage_copy hqueues

end Reception

end Node

/-- **Flooded at most once.**  Over every part of every run in which a duplicate tuple is stored
after each act, the messages with its key are processed in the act that creates it only, one copy
of them is queued at most, the flag is never cleared, and a copy is live and keeps the sum of the
time to live and the hop count. -/
theorem flooding_atMostOnce {D : Type} [OlsrDefenseStrategy D] (r : Run D) (addr : Ipv4Address)
    (sequenceNumber : UInt16) {pre part post : List (Node D × Act D)}
    (hsplit : r.trace = pre ++ part ++ post)
    (hstored : ∀ x ∈ part, (x.1.exec x.2).stored addr sequenceNumber = true) :
    Node.FloodedOnce addr sequenceNumber part := by
  rw [List.append_assoc] at hsplit
  obtain ⟨before, rest, -, -, hrest⟩ := Lib.trace_eq_append hsplit
  obtain ⟨as, after, -, rfl, -⟩ := Lib.trace_eq_append hrest.symm
  have hstart : r.start.DuplicatesDistinct := by
    rw [Node.DuplicatesDistinct, Run.start, Node.doInitialize_state]
    exact List.nodup_nil
  refine Node.floodedOnce ?_ hstored
  exact Lib.inv_run (I := Node.DuplicatesDistinct) (P := fun _ _ => True)
    (fun _ a h _ => h.exec a) hstart fun _ _ => trivial

section Examples

open Scenario

/-- Node 2 has chosen this node as an MPR, and node 3 is a neighbor as well.  Both deliver the same
TC message of node 5. -/
def twoCopies : Run OlsrDefenseNull where
  config := quiet
  jitter := 0
  labels := [recv 0 2 (hello 2 [mprLinks [1]]), recv 0 2 (flooded 5 1 (.tc ⟨[6], 1⟩)),
    recv 0 3 (hello 3 [symLinks [1]]), recv 0 3 (flooded 5 1 (.tc ⟨[6], 1⟩))]
  isJitter := quiet_isJitter
  isRun := by decide +kernel

theorem flooding_atMostOnce_twoCopies :
    ((twoCopies.trace.drop 4).filter (Node.requeues 5 1)).length = 1 ∧
      Node.FloodedOnce 5 1 (twoCopies.trace.drop 4) := by
  have hsplit : twoCopies.trace = twoCopies.trace.take 4 ++ twoCopies.trace.drop 4 ++ [] := by
    simp
  exact ⟨by decide +kernel, flooding_atMostOnce twoCopies 5 1 hsplit (by decide +kernel)⟩

end Examples

end ManetOlsr
