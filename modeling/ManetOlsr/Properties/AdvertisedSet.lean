/-
What TC messages advertise, and the ANSN.

A TC message advertises the MPR selectors, and the fictitious node when the defense asks for one.
Receivers compare ANSNs only, so that two messages with one ANSN have to advertise the same.
Selectors come and go with an increment of the ANSN, except in `NeighborLoss`, and the fictitious
node comes and goes without one.
-/
import ManetOlsr.Model.Frames
import ManetOlsr.Model.Scenario

namespace ManetOlsr

/-- The MPR selectors of a node and the members that tell how it has announced them. -/
structure Announcement where
  selectors : List Ipv4Address
  ansn : UInt16
  ansnIncrements : ℕ
  generatedTcs : List GeneratedTc

/-- Without a TC message, either everything stays or the ANSN is incremented. -/
def Announcement.Next (a a' : Announcement) : Prop :=
  a'.generatedTcs = a.generatedTcs ∧ (a' = a ∨ a.ansnIncrements < a'.ansnIncrements)

namespace Announcement.Next

lemma refl (a : Announcement) : a.Next a := ⟨rfl, Or.inl rfl⟩

lemma of_eq {a a' : Announcement} (h : a' = a) : a.Next a' := h ▸ refl a

lemma trans {a b c : Announcement} (hab : a.Next b) (hbc : b.Next c) : a.Next c := by
  refine ⟨hbc.1.trans hab.1, ?_⟩
  rcases hab.2 with rfl | hlt
  · exact hbc.2
  · rcases hbc.2 with rfl | hlt'
    · exact Or.inr hlt
    · exact Or.inr (hlt.trans hlt')

end Announcement.Next

namespace Node

variable {D : Type} (n : Node D)

def announcement : Announcement where
  selectors := n.state.mprSelectorSet.map MprSelectorTuple.mainAddr
  ansn := n.ansn
  ansnIncrements := n.ansnIncrements
  generatedTcs := n.generatedTcs

/-! ### Functions that announce nothing -/

section Frames

variable (t : Time) (e : Event) (m msg : MessageHeader) (a : Ipv4Address) (f : D → D)
  (jitter : Time)

@[simp] lemma schedule_announcement : (n.schedule t e).announcement = n.announcement := rfl

@[simp] lemma mapDefense_announcement : (n.mapDefense f).announcement = n.announcement := rfl

@[simp] lemma nextMessageSequenceNumber_announcement :
    n.nextMessageSequenceNumber.announcement = n.announcement := rfl

@[simp] lemma queueMessage_announcement :
    (n.queueMessage m t).announcement = n.announcement := by
  rw [queueMessage]
  split <;> rfl

@[simp] lemma sendQueuedMessages_announcement :
    n.sendQueuedMessages.announcement = n.announcement :=
  foldl_eq announcement (f := sendPacket) (fun _ _ => rfl) _ n

@[simp] lemma midTimerExpire_announcement :
    (n.midTimerExpire jitter).announcement = n.announcement := by
  rw [midTimerExpire, sendMid]
  split <;> simp

@[simp] lemma hnaTimerExpire_announcement :
    (n.hnaTimerExpire jitter).announcement = n.announcement := by
  rw [hnaTimerExpire, sendHna]
  split <;> simp

lemma twoHopAddressStep_announcement (nt : NeighborType) :
    (twoHopAddressStep msg nt n a).announcement = n.announcement := by
  simp only [twoHopAddressStep]
  split
  · split
    · rfl
    · split <;> rfl
  · split
    · rfl
    · split <;> rfl
  · rfl
  · rfl

@[simp] lemma populateTwoHopNeighborSet_announcement (hello : Hello) :
    (n.populateTwoHopNeighborSet msg hello).announcement = n.announcement := by
  refine foldl_eq announcement (fun n _ => ?_) _ n
  refine foldl_eq announcement (fun n m => ?_) _ n
  exact foldl_eq announcement (fun n a => n.twoHopAddressStep_announcement msg a _) _ n

@[simp] lemma populateNeighborSet_announcement (hello : Hello) :
    (n.populateNeighborSet msg hello).announcement = n.announcement := rfl

@[simp] lemma processTc_announcement (tc : Tc) (senderIface : Ipv4Address) :
    (n.processTc msg tc senderIface).announcement = n.announcement := by
  rw [processTc]
  split
  · rfl
  · split
    · rfl
    · refine foldl_eq announcement (fun n a => ?_) _ _
      simp only [topologyAddressStep]
      split <;> rfl

@[simp] lemma processMid_announcement (mid : Mid) (senderIface : Ipv4Address) :
    (n.processMid msg mid senderIface).announcement = n.announcement := by
  rw [processMid]
  split
  · rfl
  · refine foldl_eq announcement (fun n a => ?_) _ n
    simp only [midAddressStep]
    split <;> rfl

@[simp] lemma processHna_announcement (hna : Hna) (senderIface : Ipv4Address) :
    (n.processHna msg hna senderIface).announcement = n.announcement := by
  rw [processHna]
  split
  · rfl
  · refine foldl_eq announcement (fun n a => ?_) _ n
    simp only [associationStep]
    split <;> rfl

@[simp] lemma forwardDefault_announcement (duplicated : Option DuplicateTuple)
    (localIface senderAddress : Ipv4Address) :
    (n.forwardDefault msg duplicated localIface senderAddress jitter).announcement =
      n.announcement := by
  have hqueue := n.queueMessage_announcement jitter (forwardedMessage msg)
  simp only [forwardDefault]
  split
  · rfl
  · split
    · rfl
    · split <;> split <;> first | exact hqueue | rfl

lemma tupleTimer_announcement {α : Type} {tuple : Option α} {exp : α → Time}
    {remove : α → Node D} (h : ∀ t, (remove t).announcement = n.announcement) :
    (n.tupleTimer tuple exp remove e).announcement = n.announcement := by
  cases tuple with
  | none => rfl
  | some t =>
    simp only [tupleTimer]
    split
    · exact h t
    · rfl

variable [OlsrDefenseStrategy D]

@[simp] lemma helloTimerExpire_announcement :
    (n.helloTimerExpire jitter).announcement = n.announcement := by
  simp [helloTimerExpire, sendHello]

@[simp] lemma handleDefenseTimer_announcement :
    n.handleDefenseTimer.announcement = n.announcement := by
  rw [handleDefenseTimer]
  split <;> rfl

@[simp] lemma reactivateDefenseStrategy_announcement :
    n.reactivateDefenseStrategy.announcement = n.announcement := by
  rw [reactivateDefenseStrategy]
  split
  · rfl
  · dsimp only
    split <;> rfl

@[simp] lemma routingTableComputation_announcement :
    n.routingTableComputation.announcement = n.announcement := by
  simp only [routingTableComputation]
  split <;> rfl

@[simp] lemma mprComputation_announcement : n.mprComputation.announcement = n.announcement := rfl

end Frames

/-! ### Functions that change the selectors or the ANSN -/

section Changes

variable (msg : MessageHeader) (hello : Hello) (tuple : LinkTuple) (w : Willingness)
  (receiverIface senderIface a : Ipv4Address)

lemma linkTupleAdded_next : n.announcement.Next (n.linkTupleAdded tuple w).announcement :=
  ⟨rfl, Or.inr (Nat.lt_succ_self _)⟩

lemma linkTupleUpdated_next : n.announcement.Next (n.linkTupleUpdated tuple w).announcement := by
  simp only [linkTupleUpdated]
  split
  · exact n.linkTupleAdded_next tuple w
  · exact Announcement.Next.refl _

lemma linkSensing_next :
    n.announcement.Next (n.linkSensing msg hello receiverIface senderIface).announcement := by
  simp only [linkSensing]
  set x := n.sensedLink msg hello receiverIface senderIface
  set n₁ := n.withState (n.state.storeLinkTuple senderIface x.link)
  have h₁ : n.announcement.Next n₁.announcement := Announcement.Next.refl _
  have h₂ : n.announcement.Next (n₁.linkTupleUpdated x.link hello.willingness).announcement :=
    h₁.trans (n₁.linkTupleUpdated_next x.link hello.willingness)
  generalize n₁.linkTupleUpdated x.link hello.willingness = n₂ at h₂ ⊢
  split
  · exact h₁
  · split <;> split
    · exact h₂.trans (linkTupleAdded_next _ _ _)
    · exact h₁.trans (linkTupleAdded_next _ _ _)
    · exact h₂
    · exact h₁

/-- A new selector comes with an increment; a known one is refreshed. -/
lemma mprSelectorStep_next : n.announcement.Next (mprSelectorStep msg n a).announcement := by
  simp only [mprSelectorStep]
  split
  · split
    · exact ⟨rfl, Or.inr (Nat.lt_succ_self _)⟩
    · have hselectors : (n.state.setMprSelectorExpiration msg.originatorAddress
          (n.now + getVTime msg.vTime)).mprSelectorSet.map MprSelectorTuple.mainAddr =
          n.state.mprSelectorSet.map MprSelectorTuple.mainAddr :=
        Lib.map_updateFirst fun _ _ _ => rfl
      exact Announcement.Next.of_eq (congrArg
        (Announcement.mk · n.ansn n.ansnIncrements n.generatedTcs) hselectors)
  · exact Announcement.Next.refl _

lemma populateMprSelectorSet_next :
    n.announcement.Next (n.populateMprSelectorSet msg hello).announcement := by
  refine foldl_inv (I := fun n' => n.announcement.Next n'.announcement) _ (fun n' m _ h => ?_)
    (Announcement.Next.refl _)
  exact foldl_inv (I := fun n' => n.announcement.Next n'.announcement) _
    (fun n' a _ h => h.trans (n'.mprSelectorStep_next msg a)) h

/-- The timer of a selector removes it with an increment. -/
lemma mprSelTupleTimerExpire_next :
    n.announcement.Next (n.mprSelTupleTimerExpire a).announcement := by
  simp only [mprSelTupleTimerExpire, tupleTimer]
  split
  · exact Announcement.Next.refl _
  · split
    · exact ⟨rfl, Or.inr (Nat.lt_succ_self _)⟩
    · exact Announcement.Next.refl _

variable [OlsrDefenseStrategy D]

lemma processHello_next :
    n.announcement.Next (n.processHello msg hello receiverIface senderIface).announcement := by
  have h₁ := n.linkSensing_next msg hello receiverIface senderIface
  simp only [processHello]
  set n₁ := n.linkSensing msg hello receiverIface senderIface
  split
  · exact h₁
  · have h₂ := populateMprSelectorSet_next
      ((n₁.populateNeighborSet msg hello).populateTwoHopNeighborSet msg hello).mprComputation msg
      hello
    simp only [mprComputation_announcement, populateTwoHopNeighborSet_announcement,
      populateNeighborSet_announcement] at h₂
    exact h₁.trans h₂

lemma recvMessage_next (jitter : Time) :
    n.announcement.Next (n.recvMessage msg receiverIface senderIface jitter).announcement := by
  obtain ⟨f, hf⟩ := n.defenseHook_eq_mapDefense msg senderIface
  have hprocess : n.announcement.Next
      ((n.mapDefense f).processMessage msg receiverIface senderIface).announcement := by
    rw [← n.mapDefense_announcement f, processMessage]
    split
    · exact processHello_next _ _ _ _ _
    all_goals exact Announcement.Next.of_eq (by simp)
  have hskip : n.announcement.Next (n.mapDefense f).announcement := Announcement.Next.refl _
  simp only [recvMessage, hf]
  split
  · exact Announcement.Next.refl _
  · split <;> split
    · rwa [forwardDefault_announcement]
    · rwa [forwardDefault_announcement]
    · exact hprocess
    · exact hskip

/-- What `NeighborLoss` has to find so as not to change the advertised set in silence: no selector
to erase, or no neighbor tuple, so that `LinkTupleAdded` increments the ANSN. -/
def LossKeepsSelectors (n : Node D) (neighborIfaceAddr : Ipv4Address) : Prop :=
  ∀ tuple ∈ n.state.findLinkTuple neighborIfaceAddr, ¬ tuple.time < n.now →
    tuple.symTime < n.now → n.linkTupleTimerFirstTime = false →
    (∀ t ∈ n.state.mprSelectorSet, t.mainAddr ≠ n.getMainAddress tuple.neighborIfaceAddr) ∨
      n.state.findNeighborTuple (n.getMainAddress tuple.neighborIfaceAddr) = none

instance (n : Node D) (a : Ipv4Address) : Decidable (n.LossKeepsSelectors a) :=
  inferInstanceAs (Decidable (∀ tuple ∈ n.state.findLinkTuple a, _ → _ → _ → _ ∨ _))

lemma neighborLoss_next
    (h : (∀ t ∈ n.state.mprSelectorSet, t.mainAddr ≠ n.getMainAddress tuple.neighborIfaceAddr) ∨
      n.state.findNeighborTuple (n.getMainAddress tuple.neighborIfaceAddr) = none) :
    n.announcement.Next (n.neighborLoss tuple).announcement := by
  rw [neighborLoss, routingTableComputation_announcement, mprComputation_announcement]
  obtain ⟨ns, hns⟩ := n.dropNeighbor_state tuple
  have hupdated : n.announcement.Next (n.linkTupleUpdated tuple Willingness.default).announcement :=
    n.linkTupleUpdated_next tuple Willingness.default
  rcases h with hno | hnone
  · -- Nothing is erased from the selectors.
    have hselectors : (n.dropNeighbor tuple).state.mprSelectorSet = n.state.mprSelectorSet := by
      rw [hns]
      exact List.filter_eq_self.mpr fun t ht => by simpa using hno t ht
    have hsame : (n.dropNeighbor tuple).announcement =
        (n.linkTupleUpdated tuple Willingness.default).announcement := by
      obtain ⟨ns', hns'⟩ := n.linkTupleUpdated_state tuple Willingness.default
      rw [announcement, announcement, hselectors, hns']
      rfl
    rw [hsame]
    exact hupdated
  · have hincrement : (n.dropNeighbor tuple).ansnIncrements = n.ansnIncrements + 1 := by
      simp [dropNeighbor, linkTupleUpdated, hnone, linkTupleAdded, addNeighborTuple, incrementAnsn,
        withState]
    have htcs : (n.dropNeighbor tuple).generatedTcs = n.generatedTcs := hupdated.1
    refine ⟨htcs, Or.inr ?_⟩
    show n.ansnIncrements < (n.dropNeighbor tuple).ansnIncrements
    omega

lemma linkTupleTimerExpire_next (h : n.LossKeepsSelectors a) :
    n.announcement.Next (n.linkTupleTimerExpire a).announcement := by
  simp only [linkTupleTimerExpire]
  split
  · exact Announcement.Next.refl _
  · next tuple htuple =>
    split
    · exact Announcement.Next.refl _
    · next htime =>
      split
      · next hsym =>
        split
        · exact Announcement.Next.refl _
        · next hflag =>
          have hlost := n.neighborLoss_next tuple (h tuple htuple htime hsym (by simpa using hflag))
          generalize n.neighborLoss tuple = lost at hlost ⊢
          exact hlost
      · exact Announcement.Next.refl _

/-- Every event but the timer of TC messages. -/
lemma call_next {e : Event} {jitter : Time} (htc : e ≠ Event.tcTimerExpire)
    (hloss : ∀ a, e = Event.linkTupleTimerExpire a → n.LossKeepsSelectors a) :
    n.announcement.Next (n.call e jitter).announcement := by
  cases e with
  | tcTimerExpire => exact absurd rfl htc
  | linkTupleTimerExpire a => exact n.linkTupleTimerExpire_next a (hloss a rfl)
  | mprSelTupleTimerExpire a => exact n.mprSelTupleTimerExpire_next a
  | dupTupleTimerExpire | nb2hopTupleTimerExpire | topologyTupleTimerExpire
  | ifaceAssocTupleTimerExpire | associationTupleTimerExpire =>
    exact Announcement.Next.of_eq (n.tupleTimer_announcement _ fun _ => rfl)
  | helloTimerExpire | midTimerExpire | hnaTimerExpire | sendQueuedMessages
  | handleDefenseTimer => exact Announcement.Next.of_eq (by simp [call])

end Changes

end Node

/-! ### TC messages -/

/-- TC messages generated without an increment in between agree: with each other, and, up to the
fictitious node, with what is to be announced now. -/
structure TcsAgree (fake : Ipv4Address) (a : Announcement) : Prop where
  past : ∀ g ∈ a.generatedTcs, g.ansnIncrements ≤ a.ansnIncrements
  current : ∀ g ∈ a.generatedTcs, g.ansnIncrements = a.ansnIncrements →
    g.tc.ansn = a.ansn ∧ ∀ addr ≠ fake, addr ∈ g.tc.neighborAddresses ↔ addr ∈ a.selectors
  agree : ∀ g ∈ a.generatedTcs, ∀ g' ∈ a.generatedTcs, g.ansnIncrements = g'.ansnIncrements →
    g.tc.ansn = g'.tc.ansn ∧
      ∀ addr, addr ∈ g.tc.neighborAddresses ↔ addr ∈ g'.tc.neighborAddresses

lemma TcsAgree.next {fake : Ipv4Address} {a a' : Announcement} (h : TcsAgree fake a)
    (hnext : a.Next a') : TcsAgree fake a' := by
  obtain ⟨htcs, rfl | hlt⟩ := hnext
  · exact h
  · constructor
    · intro g hg
      rw [htcs] at hg
      exact (h.past g hg).trans hlt.le
    · intro g hg heq
      rw [htcs] at hg
      have hle := h.past g hg
      omega
    · rw [htcs]
      exact h.agree

/-- A new TC message that announces what is to be announced keeps the messages in agreement. -/
lemma TcsAgree.append {fake : Ipv4Address} {a : Announcement} (h : TcsAgree fake a) {tc : Tc}
    (hansn : tc.ansn = a.ansn)
    (hselectors : ∀ addr ≠ fake, addr ∈ tc.neighborAddresses ↔ addr ∈ a.selectors)
    (hfake : ∀ g ∈ a.generatedTcs, g.ansnIncrements = a.ansnIncrements →
      (fake ∈ g.tc.neighborAddresses ↔ fake ∈ tc.neighborAddresses)) :
    TcsAgree fake
      { a with generatedTcs := a.generatedTcs ++ [GeneratedTc.mk tc a.ansnIncrements] } := by
  have hold : ∀ g ∈ a.generatedTcs, g.ansnIncrements = a.ansnIncrements →
      g.tc.ansn = tc.ansn ∧
        ∀ addr, addr ∈ g.tc.neighborAddresses ↔ addr ∈ tc.neighborAddresses := by
    intro g hg heq
    obtain ⟨hga, hgs⟩ := h.current g hg heq
    refine ⟨hga.trans hansn.symm, fun addr => ?_⟩
    by_cases haddr : addr = fake
    · rw [haddr]
      exact hfake g hg heq
    · rw [hgs addr haddr, hselectors addr haddr]
  constructor
  · intro g hg
    rcases List.mem_append.mp hg with hg | hg
    · exact h.past g hg
    · rw [List.mem_singleton.mp hg]
  · intro g hg heq
    rcases List.mem_append.mp hg with hg | hg
    · exact h.current g hg heq
    · rw [List.mem_singleton.mp hg]
      exact ⟨hansn, hselectors⟩
  · intro g hg g' hg' heq
    rcases List.mem_append.mp hg with hg | hg <;> rcases List.mem_append.mp hg' with hg' | hg'
    · exact h.agree g hg g' hg' heq
    · rw [List.mem_singleton.mp hg'] at heq ⊢
      exact hold g hg heq
    · rw [List.mem_singleton.mp hg] at heq ⊢
      obtain ⟨hansn', haddrs⟩ := hold g' hg' heq.symm
      exact ⟨hansn'.symm, fun addr => (haddrs addr).symm⟩
    · rw [List.mem_singleton.mp hg, List.mem_singleton.mp hg']
      exact ⟨rfl, fun _ => Iff.rfl⟩

namespace Node

variable {D : Type} [OlsrDefenseStrategy D] {n : Node D}

lemma mem_tcAddresses (hattack : n.isMalicious = false) (addr : Ipv4Address) :
    addr ∈ n.tcAddresses ↔
      addr ∈ n.announcement.selectors ∨ n.injectsFictitiousNode = true ∧ addr = n.fakeAddress := by
  have hspoof : n.spoofTargets = [] := by simp [spoofTargets, hattack]
  have hselectors : n.announcement.selectors =
    n.state.mprSelectorSet.map MprSelectorTuple.mainAddr := rfl
  simp only [tcAddresses, hspoof, List.foldl_nil, ← hselectors]
  cases n.injectsFictitiousNode with
  | false => simp
  | true =>
    simp only [if_true, pushNew, true_and]
    split
    · next hmem =>
      refine ⟨Or.inl, ?_⟩
      rintro (h | rfl)
      · exact h
      · exact List.contains_iff_mem.mp hmem
    · simp

/-- What a TC message has to satisfy: it advertises the fictitious node if and only if the messages
since the last increment did. -/
def TcKeepsFictitiousNode (n : Node D) : Prop :=
  n.state.mprSelectorSet ≠ [] → ∀ g ∈ n.generatedTcs, g.ansnIncrements = n.ansnIncrements →
    (n.fakeAddress ∈ g.tc.neighborAddresses ↔
      n.injectsFictitiousNode = true ∨ n.fakeAddress ∈ n.announcement.selectors)

/-- What an act has to satisfy for TC messages to agree. -/
def KeepsAnnouncement (n : Node D) : Act D → Prop
  | .fire _ (.linkTupleTimerExpire a) _ => n.LossKeepsSelectors a
  | .fire _ .tcTimerExpire _ => n.TcKeepsFictitiousNode
  | _ => True

instance (n : Node D) : Decidable n.TcKeepsFictitiousNode :=
  inferInstanceAs (Decidable (_ → ∀ g ∈ _, _ → _))

instance (n : Node D) : (a : Act D) → Decidable (n.KeepsAnnouncement a)
  | .fire _ (.linkTupleTimerExpire a) _ => inferInstanceAs (Decidable (n.LossKeepsSelectors a))
  | .fire _ .tcTimerExpire _ => inferInstanceAs (Decidable n.TcKeepsFictitiousNode)
  | .fire _ .helloTimerExpire _ | .fire _ .midTimerExpire _ | .fire _ .hnaTimerExpire _
  | .fire _ .sendQueuedMessages _ | .fire _ .handleDefenseTimer _
  | .fire _ (.dupTupleTimerExpire ..) _ | .fire _ (.nb2hopTupleTimerExpire ..) _
  | .fire _ (.mprSelTupleTimerExpire ..) _ | .fire _ (.topologyTupleTimerExpire ..) _
  | .fire _ (.ifaceAssocTupleTimerExpire ..) _ | .fire _ (.associationTupleTimerExpire ..) _
  | .recvMessage .. | .advance .. | .routingTableComputation | .macTxDrop .. | .onLocalRxDrop
  | .setDefenseStrategy .. | .reactivateDefenseStrategy | .addHostNetworkAssociation ..
  | .removeHostNetworkAssociation .. | .setAttack .. => inferInstanceAs (Decidable True)

lemma tcTimerExpire_agree (h : TcsAgree n.fakeAddress n.announcement)
    (hattack : n.isMalicious = false) (hkeeps : n.TcKeepsFictitiousNode) (jitter : Time) :
    TcsAgree n.fakeAddress (n.tcTimerExpire jitter).announcement := by
  rw [tcTimerExpire, schedule_announcement]
  split
  · exact h
  · next hne =>
    have hansn : n.tcAnsn = n.ansn := by simp [tcAnsn, hattack]
    have hsend : (n.sendTc jitter).announcement =
        { n.announcement with
          generatedTcs := n.announcement.generatedTcs ++
            [GeneratedTc.mk n.tcMessage n.announcement.ansnIncrements] } := by
      simp only [sendTc, queueMessage_announcement, mapDefense_announcement]
      rw [announcement, announcement]
      simp [hansn, nextMessageSequenceNumber]
    rw [hsend]
    refine h.append hansn (fun addr haddr => ?_) fun g hg heq => ?_
    · rw [tcMessage, mem_tcAddresses hattack]
      exact or_iff_left fun hfake => haddr hfake.2
    · rw [tcMessage, mem_tcAddresses hattack, or_comm]
      simpa using hkeeps (by simpa using hne) g hg heq

/-- **Step lemma.**  TC messages agree after every act that meets the conditions. -/
lemma perform_agree (h : TcsAgree n.fakeAddress n.announcement) {a : Act D}
    (hattack : n.isMalicious = false) (hkeeps : n.KeepsAnnouncement a) :
    TcsAgree (n.perform a).fakeAddress (n.perform a).announcement := by
  have hfake : (n.perform a).fakeAddress = n.fakeAddress := by
    rw [fakeAddress, perform_mainAddress, fakeAddress]
  rw [hfake]
  cases a with
  | recvMessage msg receiverIface senderIface jitter =>
    exact h.next (n.recvMessage_next msg receiverIface senderIface jitter)
  | fire t e jitter =>
    by_cases htc : e = Event.tcTimerExpire
    · subst htc
      exact tcTimerExpire_agree (n := n.dequeue t Event.tcTimerExpire) h hattack hkeeps jitter
    · refine h.next ((n.dequeue t e).call_next htc ?_)
      rintro a rfl
      exact hkeeps
  | addHostNetworkAssociation =>
    rw [perform, addHostNetworkAssociation]
    split <;> exact h
  | routingTableComputation => rwa [perform, routingTableComputation_announcement]
  | reactivateDefenseStrategy => rwa [perform, reactivateDefenseStrategy_announcement]
  | advance | macTxDrop | onLocalRxDrop | setDefenseStrategy | setAttack
  | removeHostNetworkAssociation => exact h

/-- No TC message is sent at the start. -/
lemma doInitialize_generatedTcs (c : Config D) (jitter : Time) :
    (c.node.doInitialize jitter).announcement.generatedTcs = [] := by
  have hstart : c.node.startDefense.announcement = c.node.announcement := by
    simp only [startDefense]
    split <;> rfl
  have hhello : (c.node.startDefense.helloTimerExpire jitter).announcement =
      c.node.announcement := (helloTimerExpire_announcement _ _).trans hstart
  have hnone : (c.node.startDefense.helloTimerExpire jitter).state.mprSelectorSet = [] := by
    rw [helloTimerExpire_state, startDefense_state]
    rfl
  have htc : ((c.node.startDefense.helloTimerExpire jitter).tcTimerExpire jitter).announcement =
      c.node.announcement := by
    rw [tcTimerExpire, hnone]
    exact hhello
  simp only [doInitialize]
  split
  · rw [hnaTimerExpire_announcement, midTimerExpire_announcement, htc]
    rfl
  · rw [hstart]
    rfl

end Node

/-- **The advertised set changes with the ANSN.**  In every run without an attack that meets the
conditions, any two TC messages without an increment of the ANSN between them carry the same ANSN
and advertise the same set. -/
theorem tcs_agree {D : Type} [OlsrDefenseStrategy D] (r : Run D)
    (hattack : ∀ x ∈ r.trace, x.1.isMalicious = false)
    (h : ∀ x ∈ r.trace, x.1.KeepsAnnouncement x.2) :
    ∀ g ∈ r.final.generatedTcs, ∀ g' ∈ r.final.generatedTcs,
      g.ansnIncrements = g'.ansnIncrements → g.tc.ansn = g'.tc.ansn ∧
        ∀ a, a ∈ g.tc.neighborAddresses ↔ a ∈ g'.tc.neighborAddresses := by
  have hstart : r.start.announcement.generatedTcs = [] :=
    Node.doInitialize_generatedTcs r.config r.jitter
  have hfinal := r.final_inv (I := fun n => TcsAgree n.fakeAddress n.announcement)
    (P := fun n a => n.isMalicious = false ∧ n.KeepsAnnouncement a)
    ⟨by simp [hstart], by simp [hstart], by simp [hstart]⟩
    (fun n a _ hn hP => Node.perform_agree hn hP.1 hP.2) fun x hx => ⟨hattack x hx, h x hx⟩
  exact hfinal.agree

section Examples

open Scenario

/-- Node 1 sends a TC message every three seconds. -/
def everyThreeSeconds : Config OlsrDefenseNull := { quiet with tcInterval := Seconds 3 }

/-- What happens after the HELLO messages of 4, 2 and 3: the link to 4 is lost, a TC message is
sent, the link to 2 is lost, and another TC message is sent. -/
def betweenTcs : List (Label OlsrDefenseNull) :=
  [Label.timer 0 Event.sendQueuedMessages 0,
    Label.timer 2000001000 (Event.linkTupleTimerExpire 4) 0,
    Label.timer (Seconds 3) Event.tcTimerExpire 0,
    Label.timer (Seconds 3) Event.sendQueuedMessages 0,
    Label.timer 4000001000 (Event.linkTupleTimerExpire 2) 0]

/-- Nodes 2 and 3 have selected node 1. -/
def lostSelector : Run OlsrDefenseNull where
  config := everyThreeSeconds
  jitter := 0
  labels := [recv 0 4 (hello 4 [symLinks [1]]), recv 0 2 (hello 2 [mprLinks [1]] 0x06),
    recv 0 3 (hello 3 [mprLinks [1]] 0x07)] ++ betweenTcs ++
      [Label.timer 4000001000 (Event.mprSelTupleTimerExpire 2) 0,
        Label.timer (Seconds 6) Event.tcTimerExpire 0]
  isJitter := by decide
  isRun := by decide +kernel

/-- Only node 3 has selected node 1. -/
def keptSelector : Run OlsrDefenseNull where
  config := everyThreeSeconds
  jitter := 0
  labels := [recv 0 4 (hello 4 [symLinks [1]]), recv 0 2 (hello 2 [symLinks [1]] 0x06),
    recv 0 3 (hello 3 [mprLinks [1]] 0x07)] ++ betweenTcs ++
      [Label.timer (Seconds 6) Event.tcTimerExpire 0]
  isJitter := by decide
  isRun := by decide +kernel

theorem tcs_agree_keptSelector :
    keptSelector.final.generatedTcs.length = 2 ∧
    ∀ g ∈ keptSelector.final.generatedTcs, ∀ g' ∈ keptSelector.final.generatedTcs,
      g.ansnIncrements = g'.ansnIncrements → g.tc.ansn = g'.tc.ansn ∧
        ∀ a, a ∈ g.tc.neighborAddresses ↔ a ∈ g'.tc.neighborAddresses :=
  ⟨by decide +kernel, tcs_agree keptSelector (by decide +kernel) (by decide +kernel)⟩

/-- The second of two TC messages with the ANSN 7 does not advertise node 2 any more. -/
theorem lostSelector_disagree :
    (∀ x ∈ lostSelector.trace, x.1.isMalicious = false) ∧
    ∃ g ∈ lostSelector.final.generatedTcs, ∃ g' ∈ lostSelector.final.generatedTcs,
      g.ansnIncrements = g'.ansnIncrements ∧ g.tc.ansn = g'.tc.ansn ∧
        ¬ ∀ a, a ∈ g.tc.neighborAddresses ↔ a ∈ g'.tc.neighborAddresses := by
  refine ⟨by decide +kernel, ⟨⟨[2, 3], 7⟩, 8⟩, by decide +kernel, ⟨⟨[3], 7⟩, 8⟩, by decide +kernel,
    rfl, rfl, fun h => ?_⟩
  exact absurd ((h 2).mp (by decide)) (by decide)

end Examples

end ManetOlsr
