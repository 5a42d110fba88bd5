/-
MPR flooding.

A TC, MID or HNA message is to come to every node although few nodes send it on: `ForwardDefault`
does so only for a message that it has from an MPR selector, and only when this is the first copy.
What a node does with the copies of a message follows a flood over relays (`Lib.Flood`), where the
relays are the MPRs.  So in a static network each node that can be reached reads the message, if no
copy gets lost and each has been heard before the next is sent.  The message starts with
a time to live of 255, which is enough for 254 nodes.
-/
import ManetOlsr.Lib.Flood
import ManetOlsr.Properties.Flooding
import ManetOlsr.Properties.ShortestRoutes

namespace ManetOlsr

open Lib (Flood RelaysCover)

/-- Whether a message is a copy of the flooded one.  HELLO messages are not flooded. -/
def MessageHeader.isCopy (addr : Ipv4Address) (sequenceNumber : UInt16) (m : MessageHeader) :
    Bool :=
  m.originatorAddress == addr && m.messageSequenceNumber == sequenceNumber &&
    match m.body with
    | .hello _ => false
    | _ => true

variable {addr : Ipv4Address} {sequenceNumber : UInt16}

lemma MessageHeader.isCopy_key {m : MessageHeader} (h : m.isCopy addr sequenceNumber = true) :
    (m.originatorAddress, m.messageSequenceNumber) = (addr, sequenceNumber) ∧
      ∀ hello, m.body ≠ .hello hello := by
  rw [isCopy, Bool.and_eq_true, Bool.and_eq_true, beq_iff_eq, beq_iff_eq] at h
  refine ⟨Prod.ext h.1.1 h.1.2, fun hello hbody => ?_⟩
  rw [hbody] at h
  exact Bool.false_ne_true h.2

namespace Node

variable {D : Type} {n : Node D}

variable (n addr sequenceNumber) in
/-- A copy waits for the sockets. -/
def hasQueued : Bool := n.queuedMessages.any (MessageHeader.isCopy addr sequenceNumber)

variable (n addr sequenceNumber) in
/-- A copy has been sent. -/
def hasSent : Bool := n.sentMessages.any (MessageHeader.isCopy addr sequenceNumber)

variable (addr sequenceNumber) in
/-- A copy comes over a symmetric link to the main address of a node that knows whether it is a relay
of the sender. -/
def HearsWell (relays : Ipv4Address → Set Ipv4Address) (n : Node D) : Act D → Prop
  | .recvMessage msg receiverIface senderIface _ => msg.isCopy addr sequenceNumber = true →
    receiverIface = n.mainAddress ∧ n.fromSymLink senderIface = true ∧
      ((n.state.findMprSelectorTuple senderIface).isSome = true ↔ n.mainAddress ∈ relays senderIface)
  | _ => True

/-! ### The first copy -/

section FirstCopy

variable (msg : MessageHeader) (receiverIface : Ipv4Address) {senderIface : Ipv4Address}
  (jitter : Time)

/-- Whether `ForwardDefault` sends a message on when it has not done so before. -/
def relaysFor (n : Node D) (msg : MessageHeader) (senderAddress : Ipv4Address) : Bool :=
  decide (msg.timeToLive > 1) &&
    (n.state.findMprSelectorTuple (n.getMainAddress senderAddress)).isSome

lemma forwardDefault_first (hsym : n.fromSymLink senderIface = true) :
    (n.forwardDefault msg none receiverIface senderIface jitter).outbox =
        (n.queuedMessages ++ (if n.relaysFor msg senderIface then [forwardedMessage msg] else []),
          n.sentPackets) ∧
      (n.forwardDefault msg none receiverIface senderIface jitter).state =
        n.state.insertDuplicateTuple ⟨msg.originatorAddress, msg.messageSequenceNumber,
          n.relaysFor msg senderIface, [receiverIface], n.now + dupHoldTime⟩ := by
  have hflag : (decide (msg.timeToLive > 1) &&
      (n.state.findMprSelectorTuple (n.getMainAddress senderIface)).isSome) =
        n.relaysFor msg senderIface := rfl
  simp only [forwardDefault, hsym, Option.any_none, Bool.not_true, Bool.false_eq_true, if_false,
    hflag]
  generalize n.relaysFor msg senderIface = b
  cases b with
  | false => exact ⟨n.outbox_append_nil, rfl⟩
  | true => exact ⟨n.queueMessage_outbox _ _, by simp⟩

variable {msg}

/-- What the processing of a flooded message leaves alone. -/
lemma processMessage_frame [OlsrDefenseStrategy D] (senderIface : Ipv4Address)
    (hbody : ∀ hello, msg.body ≠ .hello hello) :
    (n.processMessage msg receiverIface senderIface).state.linkSet = n.state.linkSet ∧
    (n.processMessage msg receiverIface senderIface).state.mprSelectorSet =
      n.state.mprSelectorSet ∧
    (n.processMessage msg receiverIface senderIface).state.duplicateSet = n.state.duplicateSet := by
  rw [processMessage]
  split
  · next hello hhello => exact absurd hhello (hbody hello)
  · obtain ⟨_, hstate⟩ := n.processTc_state msg senderIface ‹Tc›
    rw [hstate]
    exact ⟨rfl, rfl, rfl⟩
  · obtain ⟨_, _, _, hstate⟩ := n.processMid_state msg senderIface ‹Mid›
    rw [hstate]
    exact ⟨rfl, rfl, rfl⟩
  · obtain ⟨_, hstate⟩ := n.processHna_state msg senderIface ‹Hna›
    rw [hstate]
    exact ⟨rfl, rfl, rfl⟩

/-- A node reads the first copy, keeps it in mind, and sends it on for an MPR selector. -/
lemma recvMessage_first [OlsrDefenseStrategy D] {G : SimpleGraph Ipv4Address}
    (htrue : n.state.TrueIn G n.mainAddress) (hsender : G.Adj n.mainAddress senderIface)
    (hmsg : msg.TrueIn G senderIface) (hcopy : msg.isCopy addr sequenceNumber = true)
    (hreads : n.reads msg = true) (hsym : n.fromSymLink senderIface = true) :
    ∃ b t, (b = true ↔ msg.timeToLive > 1 ∧
        (n.state.findMprSelectorTuple senderIface).isSome = true) ∧
      (n.recvMessage msg receiverIface senderIface jitter).outbox =
        (n.queuedMessages ++ (if b then [forwardedMessage msg] else []), n.sentPackets) ∧
      (n.recvMessage msg receiverIface senderIface jitter).state.duplicateSet =
        n.state.duplicateSet ++ [⟨addr, sequenceNumber, b, [receiverIface], t⟩] := by
  obtain ⟨hkey, hbody⟩ := MessageHeader.isCopy_key hcopy
  obtain ⟨rfl, rfl⟩ := Prod.mk.inj hkey
  rw [reads, Bool.and_eq_true, Bool.not_eq_true', Option.isNone_iff_eq_none] at hreads
  obtain ⟨hheeds, hdup⟩ := hreads
  have hforward : n.doForwarding msg receiverIface = true := by
    rw [doForwarding, hdup]
    cases hmb : msg.body with
    | hello hello => exact absurd hmb (hbody hello)
    | _ => rfl
  have hrecv : n.recvMessage msg receiverIface senderIface jitter =
      ((n.defenseHook msg senderIface).processMessage msg receiverIface senderIface).forwardDefault
        msg none receiverIface senderIface jitter := by
    simp [recvMessage, hheeds, hdup, hforward]
  rw [hrecv]
  -- The node after the message has been processed.
  have hhook := n.defenseHook_state msg senderIface
  have hfixed := n.defenseHook_fixed msg senderIface
  have hschedules : Schedules (fun _ => True) n
      ((n.defenseHook msg senderIface).processMessage msg receiverIface senderIface) :=
    .trans (n.defenseHook_schedules msg senderIface)
      (processMessage_schedules _ msg receiverIface senderIface)
  obtain ⟨hlinks, hselectors, hduplicates⟩ := processMessage_frame
    (n := n.defenseHook msg senderIface) receiverIface senderIface hbody
  rw [hhook] at hlinks hselectors hduplicates
  have htrue₁ : (n.defenseHook msg senderIface).state.TrueIn G
      (n.defenseHook msg senderIface).mainAddress := by
    rw [hhook, mainAddress_of_fixed hfixed]
    exact htrue
  have htrue₂ : ((n.defenseHook msg senderIface).processMessage msg receiverIface
      senderIface).state.TrueIn G (n.defenseHook msg senderIface).mainAddress :=
    processMessage_true htrue₁ ((mainAddress_of_fixed hfixed).symm ▸ hsender) hmsg
  have hnow := now_of_fixed (((n.defenseHook msg senderIface).processMessage_fixed msg receiverIface
    senderIface).trans hfixed)
  generalize (n.defenseHook msg senderIface).processMessage msg receiverIface senderIface = n₂
    at *
  have hsym₂ : n₂.fromSymLink senderIface = true := by
    rw [fromSymLink, OlsrState.findSymLinkTuple, OlsrState.findLinkTuple, hlinks, hnow]
    exact hsym
  obtain ⟨hout, hstate⟩ := forwardDefault_first msg receiverIface jitter hsym₂
  obtain ⟨hqueue, hsent⟩ := Prod.mk.inj hschedules.outbox
  refine ⟨n₂.relaysFor msg senderIface, n₂.now + dupHoldTime, ?_, ?_, ?_⟩
  · rw [relaysFor, Node.getMainAddress, htrue₂.getMainAddress, OlsrState.findMprSelectorTuple,
      hselectors, Bool.and_eq_true, decide_eq_true_iff]
    rfl
  · rw [hout, hqueue, hsent]
  · rw [hstate]
    exact congrArg (· ++ _) hduplicates

/-- Of a message that is no copy nothing is kept under the key of the copies. -/
lemma recvMessage_other [OlsrDefenseStrategy D] (senderIface : Ipv4Address)
    (hcopy : msg.isCopy addr sequenceNumber = false) :
    (n.recvMessage msg receiverIface senderIface jitter).state.findDuplicateTuple addr
      sequenceNumber = n.state.findDuplicateTuple addr sequenceNumber := by
  have hsame : ∀ n' : Node D, n'.state.duplicateSet = n.state.duplicateSet →
      n'.state.findDuplicateTuple addr sequenceNumber =
        n.state.findDuplicateTuple addr sequenceNumber := by
    intro n' hset
    rw [OlsrState.findDuplicateTuple, hset, OlsrState.findDuplicateTuple]
  by_cases hhello : ∃ hello, msg.body = .hello hello
  · -- A HELLO message is not considered for forwarding.
    obtain ⟨hello, hbody⟩ := hhello
    have hforward : n.doForwarding msg receiverIface = false := by simp [doForwarding, hbody]
    refine hsame _ ?_
    simp only [recvMessage, hforward, Bool.false_eq_true, if_false]
    split
    · rfl
    · split
      · rw [processMessage_duplicateSet, defenseHook_state]
      · rw [defenseHook_state]
  · rcases n.recvMessage_cases msg receiverIface senderIface jitter with ⟨hset, -⟩ | ⟨-, b, h⟩
    · exact hsame _ hset
    · refine h.others addr sequenceNumber fun hkey => ?_
      obtain ⟨rfl, rfl⟩ := Prod.mk.inj hkey
      rw [MessageHeader.isCopy] at hcopy
      cases hbody : msg.body with
      | hello hello => exact hhello ⟨hello, hbody⟩
      | _ => simp [hbody] at hcopy

/-- A node does not read a copy that it has had on the same interface. -/
lemma recvMessage_again [OlsrDefenseStrategy D] (senderIface : Ipv4Address) {d : DuplicateTuple}
    (hd : n.duplicateOf msg = some d) (hiface : receiverIface ∈ d.ifaceList) :
    (n.recvMessage msg receiverIface senderIface jitter).state = n.state ∧
      (n.recvMessage msg receiverIface senderIface jitter).outbox = n.outbox := by
  have hforward : n.doForwarding msg receiverIface = false := by simp [doForwarding, hd, hiface]
  simp only [recvMessage, hforward, hd, Option.isNone_some, Bool.false_eq_true, if_false]
  split
  · exact ⟨rfl, rfl⟩
  · have hhook : Schedules (fun _ => True) n (n.defenseHook msg senderIface) :=
      n.defenseHook_schedules msg senderIface
    exact ⟨n.defenseHook_state msg senderIface, hhook.outbox⟩

end FirstCopy

/-! ### A node and the flood -/

section Mirrors

variable {ν : Type} [DecidableEq ν] {N : SimpleGraph ν} {relays : ν → Set ν} {s : ν}

variable (addr sequenceNumber) in
/-- The source sends the message with the greatest time to live, and each relay takes one off. -/
def Lives (f : Flood N relays s) (v : ν) (m : MessageHeader) : Prop :=
  m.isCopy addr sequenceNumber = true → v = s ∧ m.timeToLive = 255 ∨
    ∃ u, f.first v = some u ∧ v ∈ relays u ∧ 254 ≤ m.timeToLive.toNat + f.senders.idxOf u

variable (addr sequenceNumber) in
/-- What a node has done with the copies is what the flood says of it. -/
structure Mirrors (f : Flood N relays s) (v : ν) (n : Node D) : Prop where
  stored : v ≠ s → (n.stored addr sequenceNumber = true ↔ (f.first v).isSome = true)
  arrivedAt : ∀ d, n.state.findDuplicateTuple addr sequenceNumber = some d →
    n.mainAddress ∈ d.ifaceList
  distinct : n.DuplicatesDistinct
  sent : n.hasSent addr sequenceNumber = true ↔ v ∈ f.senders
  due : ∀ u, f.first v = some u → v ∈ relays u →
    v ∈ f.senders ∨ n.hasQueued addr sequenceNumber = true
  utters : n.Utters (Lives addr sequenceNumber f v)

namespace Mirrors

variable {f f' : Flood N relays s} {v : ν} {n' : Node D}

/-- What happens elsewhere. -/
lemma advances (h : Mirrors addr sequenceNumber f v n) {w : ν} (hf : Flood.Advances f f' w)
    (hne : v ≠ w) : Mirrors addr sequenceNumber f' v n where
  stored := by
    rw [hf.first v hne]
    exact h.stored
  arrivedAt := h.arrivedAt
  distinct := h.distinct
  sent := h.sent.trans (hf.mem v hne).symm
  due := by
    rw [hf.first v hne, hf.mem v hne]
    exact h.due
  utters := by
    have hlives : ∀ m, Lives addr sequenceNumber f v m → Lives addr sequenceNumber f' v m := by
      intro m hm hcopy
      refine (hm hcopy).imp_right ?_
      rintro ⟨u, hu, hrelay, httl⟩
      refine ⟨u, (hf.first v hne).trans hu, hrelay, ?_⟩
      rwa [hf.idxOf u (f.heard v u hu).1]
    exact ⟨fun m hm => hlives m (h.utters.queued m hm),
      fun p hp m hm => hlives m (h.utters.sent p hp m hm)⟩

/-- A node that has come no further with the message. -/
lemma idle (h : Mirrors addr sequenceNumber f v n) {ms : List MessageHeader}
    (hmain : n'.mainAddress = n.mainAddress) (hdistinct : n'.DuplicatesDistinct)
    (hfind : n'.state.findDuplicateTuple addr sequenceNumber =
      n.state.findDuplicateTuple addr sequenceNumber)
    (hout : n'.outbox = (n.queuedMessages ++ ms, n.sentPackets))
    (hms : ∀ m ∈ ms, Lives addr sequenceNumber f v m) : Mirrors addr sequenceNumber f v n' := by
  obtain ⟨hqueue, hsent⟩ := Prod.mk.inj hout
  refine ⟨?_, ?_, hdistinct, ?_, ?_, h.utters.append hout hms⟩
  · rw [Node.stored, hfind]
    exact h.stored
  · rw [hfind, hmain]
    exact h.arrivedAt
  · rw [hasSent, sentMessages, hsent]
    exact h.sent
  · intro u hu hrelay
    refine (h.due u hu hrelay).imp_right fun hqueued => ?_
    rw [hasQueued, hqueue, List.any_append, Bool.or_eq_true]
    exact Or.inl hqueued

/-- A node that has heard the message for the first time. -/
lemma hear (h : Mirrors addr sequenceNumber f v n) {w : ν} (hw : w ∈ f.senders) (hadj : N.Adj w v)
    (hv : v ≠ s) (hfirst : f.first v = none) {msg : MessageHeader} {b : Bool} {t : Time}
    (hmain : n'.mainAddress = n.mainAddress) (hdistinct : n'.DuplicatesDistinct)
    (hset : n'.state.duplicateSet =
      n.state.duplicateSet ++ [⟨addr, sequenceNumber, b, [n.mainAddress], t⟩])
    (hout : n'.outbox = (n.queuedMessages ++ (if b then [forwardedMessage msg] else []),
      n.sentPackets))
    (hcopy : msg.isCopy addr sequenceNumber = true) (hb : b = true ↔ v ∈ relays w)
    (httl : 255 ≤ msg.timeToLive.toNat + f.senders.idxOf w) (hlive : 1 < msg.timeToLive.toNat) :
    Mirrors addr sequenceNumber (f.hear v w hw hadj hv hfirst) v n' := by
  have hself : (f.hear v w hw hadj hv hfirst).first v = some w := Function.update_self _ _ _
  have hnone : n.state.findDuplicateTuple addr sequenceNumber = none := by
    have hstored := (not_congr (h.stored hv)).mpr (by simp [hfirst])
    rwa [Node.stored, Bool.not_eq_true, Option.isSome_eq_false_iff, Option.isNone_iff_eq_none]
      at hstored
  have hfind : n'.state.findDuplicateTuple addr sequenceNumber =
      some ⟨addr, sequenceNumber, b, [n.mainAddress], t⟩ := by
    rw [OlsrState.findDuplicateTuple] at hnone
    rw [OlsrState.findDuplicateTuple, hset, List.find?_append, hnone]
    simp
  obtain ⟨hqueue, hsent⟩ := Prod.mk.inj hout
  -- Nothing of the message has been queued or sent before.
  have hlives : ∀ m, Lives addr sequenceNumber f v m →
      Lives addr sequenceNumber (f.hear v w hw hadj hv hfirst) v m := by
    intro m hm hm'
    rcases hm hm' with ⟨hvs, -⟩ | ⟨u, hu, -⟩
    · exact absurd hvs hv
    · rw [hfirst] at hu
      cases hu
  have hforwarded : (forwardedMessage msg).timeToLive.toNat = msg.timeToLive.toNat - 1 :=
    UInt8.toNat_sub_of_le _ _ (UInt8.le_iff_toNat_le.mpr hlive.le)
  refine ⟨fun _ => ?_, ?_, hdistinct, ?_, ?_, ?_⟩
  · rw [Node.stored, hfind, hself]
    exact Iff.rfl
  · rintro d hd
    rw [hfind] at hd
    rw [← Option.some.inj hd, hmain]
    exact List.mem_singleton_self _
  · rw [hasSent, sentMessages, hsent]
    exact h.sent
  · intro u hu hrelay
    rw [hself] at hu
    obtain rfl := Option.some.inj hu
    right
    rw [hasQueued, hqueue, hb.mpr hrelay, List.any_append]
    simp only [if_true, List.any_cons, List.any_nil, Bool.or_false, Bool.or_eq_true]
    exact Or.inr hcopy
  · refine Utters.append (n := n) ⟨fun m hm => hlives m (h.utters.queued m hm),
      fun p hp m hm => hlives m (h.utters.sent p hp m hm)⟩ hout fun m hm _ => ?_
    right
    cases hbv : b with
    | false =>
      rw [hbv] at hm
      cases hm
    | true =>
      rw [hbv] at hm
      obtain rfl := List.mem_singleton.mp hm
      refine ⟨w, hself, hb.mp hbv, ?_⟩
      rw [hforwarded]
      have hsenders : (f.hear v w hw hadj hv hfirst).senders = f.senders := rfl
      rw [hsenders]
      omega

/-- A node that has sent what it has queued. -/
lemma sendQueuedMessages (h : Mirrors addr sequenceNumber f v n)
    (hall : n.hasQueued addr sequenceNumber = true → n.hasSent addr sequenceNumber = false →
      f.AllHeard) :
    ∃ f', Flood.Advances f f' v ∧ f'.first = f.first ∧
      Mirrors addr sequenceNumber f' v n.sendQueuedMessages := by
  obtain ⟨hmessages, hempty⟩ := n.sendQueuedMessages_sent
  have hsent : n.sendQueuedMessages.hasSent addr sequenceNumber =
      (n.hasSent addr sequenceNumber || n.hasQueued addr sequenceNumber) := by
    rw [hasSent, hmessages, List.any_append]
    rfl
  have hmain : n.sendQueuedMessages.mainAddress = n.mainAddress :=
    mainAddress_of_fixed n.sendQueuedMessages_fixed
  have hdistinct : n.sendQueuedMessages.DuplicatesDistinct := by
    rw [DuplicatesDistinct, sendQueuedMessages_state]
    exact h.distinct
  by_cases hnew : n.hasQueued addr sequenceNumber = true ∧ n.hasSent addr sequenceNumber = false
  · obtain ⟨hqueued, hunsent⟩ := hnew
    have hv : v ∉ f.senders := by
      rw [← h.sent, hunsent]
      simp
    have hrelay : v = s ∨ ∃ u, f.first v = some u ∧ v ∈ relays u := by
      obtain ⟨m, hm, hcopy⟩ := List.any_eq_true.mp hqueued
      refine (h.utters.queued m hm hcopy).imp (fun hs => hs.1) ?_
      rintro ⟨u, hu, hmem, -⟩
      exact ⟨u, hu, hmem⟩
    have hall' := hall hqueued hunsent
    refine ⟨f.send v hv hrelay hall', Flood.send_advances hv hrelay hall', rfl, ?_⟩
    have hmem : v ∈ (f.send v hv hrelay hall').senders :=
      List.mem_append_right _ (List.mem_singleton_self v)
    have hlives : ∀ m, Lives addr sequenceNumber f v m →
        Lives addr sequenceNumber (f.send v hv hrelay hall') v m := by
      intro m hm hcopy
      refine (hm hcopy).imp_right ?_
      rintro ⟨u, hu, hmem, httl⟩
      refine ⟨u, hu, hmem, ?_⟩
      rwa [(Flood.send_advances hv hrelay hall').idxOf u (f.heard v u hu).1]
    refine ⟨?_, ?_, hdistinct, ?_, fun _ _ _ => Or.inl hmem, ?_⟩
    · rw [Node.stored, sendQueuedMessages_state]
      exact h.stored
    · rw [sendQueuedMessages_state, hmain]
      exact h.arrivedAt
    · rw [hsent, hqueued, Bool.or_true]
      exact ⟨fun _ => hmem, fun _ => rfl⟩
    · exact sendQueuedMessages_utters ⟨fun m hm => hlives m (h.utters.queued m hm),
        fun p hp m hm => hlives m (h.utters.sent p hp m hm)⟩
  · refine ⟨f, Flood.Advances.refl f v, rfl, ?_, ?_, hdistinct, ?_, fun u hu hrelay => ?_, ?_⟩
    · rw [Node.stored, sendQueuedMessages_state]
      exact h.stored
    · rw [sendQueuedMessages_state, hmain]
      exact h.arrivedAt
    · rw [hsent, Bool.or_eq_true, ← h.sent]
      refine ⟨fun hor => ?_, Or.inl⟩
      by_contra hunsent
      exact hnew ⟨hor.resolve_left hunsent, by simpa using hunsent⟩
    · by_contra hnot
      rw [not_or, ← h.sent, Bool.not_eq_true] at hnot
      exact hnew ⟨(h.due u hu hrelay).resolve_left (by rw [← h.sent, hnot.1]; simp), hnot.1⟩
    · exact sendQueuedMessages_utters h.utters

/-! ### Acts -/

variable [OlsrDefenseStrategy D] {G : SimpleGraph Ipv4Address}

/-- What is received: a message that is no copy, a copy that is not read, or the first copy. -/
lemma recvMessage (h : Mirrors addr sequenceNumber f v n) (htrue : n.TrueIn G) {msg : MessageHeader}
    (receiverIface : Ipv4Address) {senderIface : Ipv4Address} (jitter : Time)
    (hsender : G.Adj n.mainAddress senderIface) (hmsg : msg.TrueIn G senderIface)
    (hmain : n.mainAddress = addr ↔ v = s) (hfew : f.senders.length ≤ 254)
    (hcopy : msg.isCopy addr sequenceNumber = true →
      receiverIface = n.mainAddress ∧ n.fromSymLink senderIface = true ∧
      ∃ w ∈ f.senders, N.Adj w v ∧ Lives addr sequenceNumber f w msg ∧
        ((n.state.findMprSelectorTuple senderIface).isSome = true ↔ v ∈ relays w)) :
    ∃ f', Flood.Advances f f' v ∧
      Mirrors addr sequenceNumber f' v
        (n.recvMessage msg receiverIface senderIface jitter) ∧
      ((f'.first v).isSome → (f.first v).isSome ∨
        msg.isCopy addr sequenceNumber = true ∧ n.reads msg = true) := by
  have hfixed := n.recvMessage_fixed msg receiverIface senderIface jitter
  have hmain' : (n.recvMessage msg receiverIface senderIface jitter).mainAddress =
      n.mainAddress := mainAddress_of_fixed hfixed
  have hdistinct : (n.recvMessage msg receiverIface senderIface jitter).DuplicatesDistinct :=
    h.distinct.perform (Act.recvMessage msg receiverIface senderIface jitter)
  cases hiscopy : msg.isCopy addr sequenceNumber with
  | false =>
    obtain ⟨ms, hms, hqueues⟩ := n.recvMessage_outbox msg receiverIface senderIface jitter
    refine ⟨f, Flood.Advances.refl f v, h.idle hmain' hdistinct
      (recvMessage_other receiverIface jitter senderIface hiscopy) hms ?_, Or.inl⟩
    intro m hm hm'
    obtain ⟨rfl, -⟩ := hqueues m hm
    have hno : msg.isCopy addr sequenceNumber = true := hm'
    rw [hiscopy] at hno
    cases hno
  | true =>
    obtain ⟨hiface, hsym, w, hw, hadj, hlives, hselects⟩ := hcopy hiscopy
    obtain ⟨hkey, -⟩ := MessageHeader.isCopy_key hiscopy
    obtain ⟨horiginator, hnumber⟩ := Prod.mk.inj hkey
    by_cases hv : v = s
    · -- The source ignores its own message.
      have hignores : n.ignores msg = true := by
        rw [ignores, horiginator, hmain.mpr hv]
        simp
      have hsame : n.recvMessage msg receiverIface senderIface jitter = n := by
        simp [Node.recvMessage, hignores]
      rw [hsame]
      exact ⟨f, Flood.Advances.refl f v, h, Or.inl⟩
    cases hstored : n.stored addr sequenceNumber with
    | true =>
      obtain ⟨d, hd⟩ := Option.isSome_iff_exists.mp hstored
      have hdup : n.duplicateOf msg = some d := by rwa [duplicateOf, horiginator, hnumber]
      have hin : receiverIface ∈ d.ifaceList := hiface ▸ h.arrivedAt d hd
      obtain ⟨hstate, hout⟩ := recvMessage_again receiverIface jitter senderIface hdup hin
      refine ⟨f, Flood.Advances.refl f v, ?_, Or.inl⟩
      exact h.idle hmain' hdistinct (by rw [hstate]) (hout.trans n.outbox_append_nil) (by simp)
    | false =>
      have hfirst : f.first v = none := by
        have hnot := (not_congr (h.stored hv)).mp (by simp [hstored])
        rwa [Bool.not_eq_true, Option.isSome_eq_false_iff, Option.isNone_iff_eq_none] at hnot
      -- The copy is live.
      have hidx : f.senders.idxOf w < f.senders.length := List.idxOf_lt_length_iff.mpr hw
      have httl : 255 ≤ msg.timeToLive.toNat + f.senders.idxOf w := by
        rcases hlives hiscopy with ⟨-, httl⟩ | ⟨u, hu, -, httl⟩
        · rw [httl]
          exact Nat.le_add_right 255 _
        · rcases f.relayed w hw with rfl | ⟨u', hu', -, hlt⟩
          · rw [f.first_source] at hu
            cases hu
          · obtain rfl := Option.some.inj (hu.symm.trans hu')
            omega
      have hlive : 1 < msg.timeToLive.toNat := by omega
      have hreads : n.reads msg = true := by
        have hzero : msg.timeToLive ≠ 0 := by
          intro hzero
          rw [hzero] at hlive
          cases hlive
        have hother : addr ≠ n.mainAddress := fun heq => hv (hmain.mp heq.symm)
        have hdup : n.duplicateOf msg = none := by
          rw [duplicateOf, horiginator, hnumber]
          rwa [Node.stored, Option.isSome_eq_false_iff, Option.isNone_iff_eq_none] at hstored
        simp [reads, ignores, hzero, horiginator, hother, hdup]
      obtain ⟨b, t, hb, hout, hset⟩ := recvMessage_first receiverIface jitter htrue.state hsender
        hmsg hiscopy hreads hsym
      rw [hiface] at hset
      refine ⟨f.hear v w hw hadj hv hfirst, Flood.hear_advances hw hadj hv hfirst, ?_,
        fun _ => Or.inr ⟨rfl, hreads⟩⟩
      refine h.hear hw hadj hv hfirst hmain' hdistinct (by rw [hiface]; exact hset) hout hiscopy
        (hb.trans ?_) httl hlive
      rw [hselects]
      exact and_iff_right (UInt8.lt_iff_toNat_lt.mpr hlive)

/-- The other acts. -/
lemma perform (h : Mirrors addr sequenceNumber f v n) {a : Act D}
    (hmain : n.mainAddress = addr → v = s)
    (hrecv : ∀ msg receiverIface senderIface jitter,
      a ≠ Act.recvMessage msg receiverIface senderIface jitter)
    (hsend : ∀ t jitter, a ≠ Act.fire t .sendQueuedMessages jitter)
    (hkept : n.stored addr sequenceNumber = true →
      (n.perform a).stored addr sequenceNumber = true) :
    Mirrors addr sequenceNumber f v (n.perform a) := by
  have hfind : (n.perform a).state.findDuplicateTuple addr sequenceNumber =
      n.state.findDuplicateTuple addr sequenceNumber := by
    cases hstored : n.stored addr sequenceNumber with
    | true => exact perform_findDuplicate h.distinct hrecv (hkept hstored)
    | false =>
      rw [Node.stored, Option.isSome_eq_false_iff, Option.isNone_iff_eq_none] at hstored
      rw [hstored]
      refine List.find?_eq_none.mpr fun d hd => List.find?_eq_none.mp hstored d ?_
      rcases perform_duplicateSet (n := n) hrecv with hsame | ⟨d', -, herase⟩
      · rwa [hsame] at hd
      · rw [herase] at hd
        exact List.eraseP_sublist.subset hd
  obtain ⟨ms, hms, hqueues⟩ := n.perform_outbox hsend
  refine h.idle (n.perform_mainAddress a) (h.distinct.perform a) hfind hms fun m hm hcopy => ?_
  left
  have hm' := hqueues m hm
  obtain ⟨hkey, hbody⟩ := MessageHeader.isCopy_key hcopy
  cases a with
  | fire t e jitter =>
    obtain ⟨horiginator, httl⟩ := owns_of_mem_emits hm'
    exact ⟨hmain (horiginator.symm.trans (Prod.mk.inj hkey).1), httl hbody⟩
  | recvMessage msg receiverIface senderIface jitter => exact absurd rfl (hrecv _ _ _ _)
  | _ => exact hm'.elim

omit [OlsrDefenseStrategy D] in
/-- Before the message has been generated. -/
lemma start (hset : n.state.duplicateSet = []) (hsent : n.sentPackets = [])
    (hmain : n.mainAddress = addr → v = s) (howns : ∀ m ∈ n.queuedMessages, n.Owns m) :
    Mirrors addr sequenceNumber (Flood.unsent : Flood N relays s) v n where
  stored := by
    intro _
    simp [Node.stored, OlsrState.findDuplicateTuple, hset, Flood.unsent]
  arrivedAt := by
    intro d hd
    rw [OlsrState.findDuplicateTuple, hset] at hd
    cases hd
  distinct := by
    rw [DuplicatesDistinct, hset]
    exact List.nodup_nil
  sent := by simp [hasSent, sentMessages, hsent, Flood.unsent]
  due := by simp [Flood.unsent]
  utters := by
    refine ⟨fun m hm hcopy => ?_, by simp [hsent]⟩
    obtain ⟨hkey, hbody⟩ := MessageHeader.isCopy_key hcopy
    obtain ⟨horiginator, httl⟩ := howns m hm
    exact Or.inl ⟨hmain (horiginator.symm.trans (Prod.mk.inj hkey).1), httl hbody⟩

end Mirrors

end Mirrors

end Node

/-! ### Networks -/

section Labels

variable {D ν : Type} {G : SimpleGraph Ipv4Address}

/-- What a node receives has been sent by the node with the address of the sender. -/
lemma ComesOver.sender {σ : ν → Node D} {v : ν} {l : Label D} {msg : MessageHeader}
    {receiverIface senderIface : Ipv4Address} {jitter : Time} (h : ComesOver G σ (v, l))
    (hact : Act.recvMessage msg receiverIface senderIface jitter ∈ (σ v).acts l) :
    ∃ w, (σ w).mainAddress = senderIface ∧ ∃ p ∈ (σ w).sentPackets, msg ∈ p.messages := by
  rcases List.mem_cons.mp hact with hact | hact
  · cases hact
  · cases l with
    | recvOlsr t i senderIface' messages jitter' =>
      obtain ⟨-, w, hw, p, hp, rfl⟩ := h
      rcases Node.mem_recvOlsrActs hact with ⟨msg', hmsg', _, heq⟩ | heq
      · cases heq
        exact ⟨w, hw, p, hp, hmsg'⟩
      · cases heq
    | _ => cases List.mem_singleton.mp hact

/-- A timer fires at the node as it was, but for the time. -/
lemma label_of_fire [OlsrDefenseStrategy D] {n k : Node D} {l : Label D} {t : Time} {e : Event} {jitter : Time}
    (h : (k, Act.fire t e jitter) ∈ Lib.trace Node.exec n (n.acts l)) :
    l = .timer t e jitter ∧ k.mainAddress = n.mainAddress ∧ k.state = n.state ∧
      k.outbox = n.outbox := by
  rcases List.mem_cons.mp h with h | h
  · cases h
  · cases l with
    | timer t' e' jitter' =>
      cases List.mem_singleton.mp h
      refine ⟨rfl, ?_⟩
      rw [Node.exec]
      split
      · exact ⟨rfl, rfl, rfl⟩
      · exact ⟨rfl, rfl, rfl⟩
    | recvOlsr t' i senderIface messages jitter' =>
      rcases Node.mem_recvOlsrActs (Lib.snd_mem_of_mem_trace h) with ⟨_, _, _, heq⟩ | heq
      · cases heq
      · cases heq
    | _ => cases List.mem_singleton.mp (Lib.snd_mem_of_mem_trace h)

end Labels

section Networks

variable {D : Type} [OlsrDefenseStrategy D] {G : SimpleGraph Ipv4Address} {ν : Type}
  [DecidableEq ν]

namespace NetworkRun

variable (r : NetworkRun ν D) (s : ν) (sequenceNumber : UInt16)

/-- In a network, the neighbors of the nodes that have sent a copy have it. -/
def CopiesHeard (G : SimpleGraph Ipv4Address) (σ : ν → Node D) : Prop :=
  ∀ u, (σ u).hasSent (r.address s) sequenceNumber = true →
    ∀ w, G.Adj (r.address u) (r.address w) → w ≠ s →
      (σ w).stored (r.address s) sequenceNumber = true

/-- A node has read a copy. -/
def HasRead (v : ν) : Prop :=
  ∃ n msg receiverIface senderIface jitter,
    r.Performs v n (.recvMessage msg receiverIface senderIface jitter) ∧
      msg.isCopy (r.address s) sequenceNumber = true ∧ n.reads msg = true

/-- In the course of the run a message of a node is flooded.  The nodes know of which neighbors they are
MPRs; where a copy has arrived, this is not forgotten; a node sends a copy when those sent before
have been heard; and at the end all have been sent and heard. -/
structure Floods (G : SimpleGraph Ipv4Address) : Prop where
  receives : ∀ v n a, r.Performs v n a →
    n.HearsWell (r.address s) sequenceNumber (relaysOf r.final) a
  kept : ∀ v n a, r.Performs v n a → n.stored (r.address s) sequenceNumber = true →
    (n.perform a).stored (r.address s) sequenceNumber = true
  spaced : ∀ x ∈ r.trace, ∀ t jitter, x.2.2 = .timer t .sendQueuedMessages jitter →
    (x.1 x.2.1).hasQueued (r.address s) sequenceNumber = true →
    (x.1 x.2.1).hasSent (r.address s) sequenceNumber = false →
      r.CopiesHeard s sequenceNumber G x.1
  sent : (r.final s).hasSent (r.address s) sequenceNumber = true
  noneQueued : ∀ v, (r.final v).hasQueued (r.address s) sequenceNumber = false
  heard : r.CopiesHeard s sequenceNumber G r.final

/-- The MPRs that a node has at the end. -/
def mprs (v : ν) : Set ν := {w | r.address w ∈ relaysOf r.final (r.address v)}

/-- A flood that the nodes of a network mirror. -/
structure Reflects {G : SimpleGraph Ipv4Address} (f : Flood (G.comap r.address) r.mprs s)
    (σ : ν → Node D) : Prop where
  mirrors : ∀ v, Node.Mirrors (r.address s) sequenceNumber f v (σ v)
  read : ∀ v, (f.first v).isSome → r.HasRead s sequenceNumber v

variable {r s sequenceNumber}

lemma Reflects.allHeard {f : Flood (G.comap r.address) r.mprs s} {σ : ν → Node D}
    (hf : r.Reflects s sequenceNumber f σ) (hheard : r.CopiesHeard s sequenceNumber G σ) :
    f.AllHeard := by
  intro u hu w huw hw
  exact ((hf.mirrors w).stored hw).mp (hheard u ((hf.mirrors u).sent.mpr hu) w huw hw)

section Steps

variable (h : r.Over G) (hinj : Function.Injective r.address) (hcard : ∀ l : List ν, l.Nodup →
  l.length ≤ 254) (hflood : r.Floods s sequenceNumber G)

include h hinj hcard hflood

/-- **Step lemma.**  Each act of a node goes on with the flood, or leaves it alone. -/
lemma reflects_act {σ : ν → Node D} {v : ν} {l : Label D} (hx : (σ, v, l) ∈ r.trace)
    (haddress : ∀ w, (σ w).mainAddress = r.address w) {n : Node D} {a : Act D}
    (ha : (n, a) ∈ Lib.trace Node.exec (σ v) ((σ v).acts l)) (htrue : n.TrueIn G)
    (hact : a.TrueIn G n.mainAddress) (hmain : n.mainAddress = r.address v)
    {f : Flood (G.comap r.address) r.mprs s}
    (hf : r.Reflects s sequenceNumber f (Function.update σ v n)) :
    ∃ f' : Flood (G.comap r.address) r.mprs s,
      r.Reflects s sequenceNumber f' (Function.update σ v (n.exec a)) := by
  rw [Node.exec]
  split
  · exact ⟨f, hf⟩
  next hrunning =>
  have hperforms : r.Performs v n a := ⟨by simpa using hrunning, (σ, v, l), hx, rfl, ha⟩
  have hown : n.mainAddress = r.address s ↔ v = s := by
    rw [hmain]
    exact hinj.eq_iff
  have hnode : Node.Mirrors (r.address s) sequenceNumber f v n := by
    have hself := hf.mirrors v
    rwa [Function.update_self] at hself
  have hothers : ∀ w, w ≠ v → Node.Mirrors (r.address s) sequenceNumber f w (σ w) := by
    intro w hw
    have hother := hf.mirrors w
    rwa [Function.update_of_ne hw] at hother
  -- It is enough to say what happens at the node.
  suffices hsuff : ∃ f', Flood.Advances f f' v ∧
      Node.Mirrors (r.address s) sequenceNumber f' v (n.perform a) ∧
      ((f'.first v).isSome → (f.first v).isSome ∨ r.HasRead s sequenceNumber v) by
    obtain ⟨f', hadvances, hmirrors, hread⟩ := hsuff
    refine ⟨f', fun w => ?_, fun w hw => ?_⟩
    · by_cases hwv : w = v
      · subst hwv
        rwa [Function.update_self]
      · rw [Function.update_of_ne hwv]
        exact (hothers w hwv).advances hadvances hwv
    · by_cases hwv : w = v
      · subst hwv
        exact (hread hw).elim (hf.read w) id
      · rw [hadvances.first w hwv] at hw
        exact hf.read w hw
  by_cases hrecv : ∃ msg receiverIface senderIface jitter,
      a = Act.recvMessage msg receiverIface senderIface jitter
  · obtain ⟨msg, receiverIface, senderIface, jitter, rfl⟩ := hrecv
    obtain ⟨w, rfl, p, hp, hmsg⟩ := (h.comesOver _ hx).sender (Lib.snd_mem_of_mem_trace ha)
    have hwv : w ≠ v := by
      rintro rfl
      refine G.loopless.irrefl (r.address w) ?_
      have hadj := hact.1
      rwa [hmain, haddress] at hadj
    have hcopy : msg.isCopy (r.address s) sequenceNumber = true →
        receiverIface = n.mainAddress ∧ n.fromSymLink (σ w).mainAddress = true ∧
        ∃ w' ∈ f.senders, (G.comap r.address).Adj w' v ∧
          Node.Lives (r.address s) sequenceNumber f w' msg ∧
          ((n.state.findMprSelectorTuple (σ w).mainAddress).isSome = true ↔ v ∈ r.mprs w') := by
      intro hcopy
      obtain ⟨hiface, hsym, hselects⟩ := hflood.receives v n _ hperforms hcopy
      refine ⟨hiface, hsym, w, (hothers w hwv).sent.mp ?_, ?_, ?_, ?_⟩
      · exact List.any_eq_true.mpr ⟨msg, List.mem_flatMap.mpr ⟨p, hp, hmsg⟩, hcopy⟩
      · have hadj := hact.1.symm
        rwa [hmain, haddress] at hadj
      · exact (hothers w hwv).utters.sent p hp msg hmsg
      · rw [hselects, hmain, haddress]
        exact Iff.rfl
    obtain ⟨f', hadvances, hmirrors, hread⟩ := hnode.recvMessage htrue receiverIface jitter hact.1
      hact.2 hown (hcard _ f.nodup) hcopy
    refine ⟨f', hadvances, hmirrors, fun hsome => (hread hsome).imp_right ?_⟩
    rintro ⟨hcopy, hreads⟩
    exact ⟨n, msg, receiverIface, _, jitter, hperforms, hcopy, hreads⟩
  · have hother : ∀ msg receiverIface senderIface jitter,
        a ≠ Act.recvMessage msg receiverIface senderIface jitter :=
      fun msg receiverIface senderIface jitter heq => hrecv ⟨_, _, _, _, heq⟩
    by_cases hsend : ∃ t jitter, a = Act.fire t .sendQueuedMessages jitter
    · obtain ⟨t, jitter, rfl⟩ := hsend
      obtain ⟨rfl, -, hstate, hout⟩ := label_of_fire ha
      obtain ⟨hqueue, hsent⟩ := Prod.mk.inj hout
      have hbefore : r.Reflects s sequenceNumber f σ := by
        refine ⟨fun w => ?_, hf.read⟩
        by_cases hwv : w = v
        · subst hwv
          have hdistinct : (σ w).DuplicatesDistinct := by
            rw [Node.DuplicatesDistinct, ← hstate]
            exact hnode.distinct
          exact hnode.idle (by rw [hmain, haddress]) hdistinct (by rw [hstate])
            (hout.symm.trans n.outbox_append_nil) (by simp)
        · exact hothers w hwv
      have hdequeue : Node.Mirrors (r.address s) sequenceNumber f v
          (n.dequeue t .sendQueuedMessages) :=
        hnode.idle rfl hnode.distinct rfl n.outbox_append_nil (by simp)
      obtain ⟨f', hadvances, hfirst, hmirrors⟩ := hdequeue.sendQueuedMessages fun hq hs => by
        refine hbefore.allHeard (hflood.spaced _ hx t jitter rfl ?_ ?_)
        · rw [Node.hasQueued, ← hqueue]
          exact hq
        · rw [Node.hasSent, Node.sentMessages, ← hsent]
          exact hs
      exact ⟨f', hadvances, hmirrors, fun hsome => Or.inl (by rwa [hfirst] at hsome)⟩
    · exact ⟨f, Flood.Advances.refl f v, hnode.perform hown.mp hother
        (fun t jitter heq => hsend ⟨t, jitter, heq⟩) (hflood.kept v n a hperforms), Or.inl⟩

/-- **Run lemma.** -/
lemma reflects_final : ∃ f : Flood (G.comap r.address) r.mprs s,
    r.Reflects s sequenceNumber f r.final := by
  suffices hsuff : (∀ w, (r.final w).TrueIn G ∧ (r.final w).mainAddress = r.address w) ∧
      ∃ f : Flood (G.comap r.address) r.mprs s, r.Reflects s sequenceNumber f r.final from hsuff.2
  refine Lib.inv_run (I := fun σ : ν → Node D =>
    (∀ w, (σ w).TrueIn G ∧ (σ w).mainAddress = r.address w) ∧
      ∃ f : Flood (G.comap r.address) r.mprs s, r.Reflects s sequenceNumber f σ)
    (P := fun σ x => (σ, x) ∈ r.trace) ?_ ?_ fun _ hx => hx
  · rintro σ ⟨v, l⟩ ⟨hσ, hf⟩ hx
    have hattack : l.startsAttack = false :=
      h.noAttack.2 (v, l) (Lib.snd_mem_of_mem_trace hx)
    have hacts := (h.comesOver _ hx).acts_true (fun w => (hσ w).1) hattack
    -- The acts of the label, one after another.
    have hnode : (((σ v).step l).TrueIn G ∧ ((σ v).step l).mainAddress = r.address v) ∧
        ∃ f : Flood (G.comap r.address) r.mprs s,
          r.Reflects s sequenceNumber f (Function.update σ v ((σ v).step l)) := by
      refine Lib.inv_run (I := fun n => (n.TrueIn G ∧ n.mainAddress = r.address v) ∧
          ∃ f : Flood (G.comap r.address) r.mprs s,
            r.Reflects s sequenceNumber f (Function.update σ v n))
        (P := fun n a => (n, a) ∈ Lib.trace Node.exec (σ v) ((σ v).acts l)) ?_ ⟨hσ v, ?_⟩
        fun _ hy => hy
      · rintro n a ⟨⟨htrue, hmain⟩, f, hf⟩ ha
        have hact : a.TrueIn G n.mainAddress := by
          rw [hmain, ← (hσ v).2]
          exact hacts a (Lib.snd_mem_of_mem_trace ha)
        refine ⟨⟨htrue.exec hact, ?_⟩, reflects_act h hinj hcard hflood hx (fun w => (hσ w).2) ha
          htrue hact hmain hf⟩
        rw [Node.exec]
        split
        · exact hmain
        · rw [Node.perform_mainAddress, hmain]
      · rwa [Function.update_eq_self]
    refine ⟨fun w => ?_, hnode.2⟩
    by_cases hw : v = w
    · subst hw
      rw [Lib.netExec_self]
      exact hnode.1
    · rw [Lib.netExec_of_ne σ hw]
      exact hσ w
  · refine ⟨fun w => ⟨Node.doInitialize_true (h.noAttack.1 w) (h.oneAddress w) (h.fictitious w),
      rfl⟩, Flood.unsent, fun w => ?_, by simp [Flood.unsent]⟩
    obtain ⟨hsent, howns⟩ := (r.config w).node.doInitialize_owns (r.jitter w) rfl
    exact Node.Mirrors.start (by rw [start, Node.doInitialize_state]; rfl) hsent
      (fun heq => hinj heq) howns

end Steps

/-! ### The nodes and their addresses -/

/-- Over the addresses of nodes, whatever can be reached is reached over nodes. -/
lemma reachable_comap (hnode : ∀ a b, G.Adj a b → ∃ v, r.address v = a)
    (hinj : Function.Injective r.address) {v : ν} (hv : G.Reachable (r.address s) (r.address v)) :
    (G.comap r.address).Reachable s v := by
  suffices hsuff : ∀ a b, G.Walk a b → ∀ u, r.address u = a →
      ∃ w, r.address w = b ∧ (G.comap r.address).Reachable u w by
    obtain ⟨p⟩ := hv
    obtain ⟨w, hw, hreach⟩ := hsuff _ _ p s rfl
    exact hinj hw ▸ hreach
  intro a b p
  induction p using SimpleGraph.Walk.concatRec with
  | Hnil => exact fun u hu => ⟨u, hu, .rfl⟩
  | Hconcat p hbc ih =>
    rintro u rfl
    obtain ⟨x, rfl, hx⟩ := ih u rfl
    obtain ⟨w, rfl⟩ := hnode _ _ hbc.symm
    exact ⟨w, rfl, hx.trans (SimpleGraph.Adj.reachable hbc)⟩

/-- The MPRs of the nodes cover what is two hops away. -/
lemma mprs_cover (hover : r.Over G) (hknown : NeighborhoodsKnown G r.final)
    (hinj : Function.Injective r.address) : RelaysCover (G.comap r.address) r.mprs := by
  have hcover := hknown.relaysCover fun v => (hover.final_true v).state
  constructor
  · exact fun v m hm => hcover.adj _ _ hm
  · rintro v w ⟨hne, hfar, u, hvu, huw⟩
    obtain ⟨m, hm, hmw⟩ := hcover.covers (r.address v) (r.address w)
      ⟨fun heq => hne (hinj heq), hfar, r.address u, hvu, huw⟩
    obtain ⟨x, hx⟩ := hknown.node _ _ hmw
    rw [final_mainAddress] at hx
    obtain rfl : r.address x = m := hx
    exact ⟨x, hm, hmw⟩

end NetworkRun

end Networks

/-! ### The line -/

section Line

variable {D : Type}

instance (relays : List (Ipv4Address × Ipv4Address)) (n : Node D) : (a : Act D) →
    Decidable (n.HearsWell addr sequenceNumber (fun b => {m | (b, m) ∈ relays}) a)
  | .recvMessage .. => inferInstanceAs (Decidable (_ → _ ∧ _ ∧ (_ ↔ _ ∈ relays)))
  | .advance .. | .routingTableComputation | .fire .. | .macTxDrop .. | .onLocalRxDrop
  | .setDefenseStrategy .. | .reactivateDefenseStrategy | .addHostNetworkAssociation ..
  | .removeHostNetworkAssociation .. | .setAttack .. => inferInstanceAs (Decidable True)

lemma NetworkRun.forall_performs [OlsrDefenseStrategy D] {ν : Type} [DecidableEq ν]
    {r : NetworkRun ν D} {P : Node D → Act D → Prop}
    (h : ∀ x ∈ r.trace, ∀ y ∈ Lib.trace Node.exec (x.1 x.2.1) ((x.1 x.2.1).acts x.2.2), P y.1 y.2)
    {v : ν} {n : Node D} {a : Act D} (ha : r.Performs v n a) : P n a := by
  obtain ⟨-, x, hx, rfl, hy⟩ := ha
  exact h x hx (n, a) hy

open AlongMembers

/-- The nodes of the line with their MPRs. -/
def lineRelays : List (Ipv4Address × Ipv4Address) := [(1, 2), (2, 3), (3, 2), (4, 3)]

lemma lineNetwork_relaysOf : relaysOf lineNetwork.final = fun b => {m | (b, m) ∈ lineRelays} := by
  have hmpr : ∀ v, ∀ m ∈ (lineNetwork.final v).state.mprSet,
      ((lineNetwork.final v).mainAddress, m) ∈ lineRelays := by decide +kernel
  have hrelay : ∀ e ∈ lineRelays, ∃ v, (lineNetwork.final v).mainAddress = e.1 ∧
      e.2 ∈ (lineNetwork.final v).state.mprSet := by decide +kernel
  funext b
  ext m
  constructor
  · rintro ⟨v, rfl, hm⟩
    exact hmpr v m hm
  · exact hrelay (b, m)

/-- The queued messages are sent. -/
def Label.sendsQueued : Label D → Bool
  | .timer _ .sendQueuedMessages _ => true
  | _ => false

/-- The TC message of the second node is flooded. -/
lemma lineNetwork_floods : lineNetwork.Floods 1 4 lineGraph where
  receives := by
    rw [lineNetwork_relaysOf]
    refine fun v n a => NetworkRun.forall_performs (P := fun n a =>
      n.HearsWell 2 4 (fun b => {m | (b, m) ∈ lineRelays}) a) ?_
    decide +kernel
  kept := by
    refine fun v n a => NetworkRun.forall_performs (P := fun n a =>
      n.stored 2 4 = true → (n.perform a).stored 2 4 = true) ?_
    decide +kernel
  spaced := by
    have hspaced : ∀ x ∈ lineNetwork.trace,
        (x.1 x.2.1).hasQueued 2 4 = true → (x.1 x.2.1).hasSent 2 4 = false →
        x.2.2.sendsQueued = true →
        ∀ u, (x.1 u).hasSent 2 4 = true → ∀ w, lineGraph.Adj (lineNetwork.address u)
          (lineNetwork.address w) → w ≠ 1 → (x.1 w).stored 2 4 = true := by
      decide +kernel
    intro x hx t jitter hl hq hs
    refine hspaced x hx hq hs ?_
    rw [hl]
    rfl
  sent := by decide +kernel
  noneQueued := by decide +kernel
  heard := by
    have hheard : ∀ u, (lineNetwork.final u).hasSent 2 4 = true → ∀ w, lineGraph.Adj
        (lineNetwork.address u) (lineNetwork.address w) → w ≠ 1 →
        (lineNetwork.final w).stored 2 4 = true := by
      decide +kernel
    exact hheard

end Line

end ManetOlsr
