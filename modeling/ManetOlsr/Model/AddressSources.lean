/-
Where a node has its addresses from.

A link is made for the interface that a HELLO message comes from, and an interface association for
an address that a MID message lists under its originator, or that the node has itself.  Nothing else
adds to these two repositories, so that all their addresses have been heard or told.
-/
import ManetOlsr.Model.TimedTuples

namespace ManetOlsr

/-- The links lead to interfaces that were heard, and the associations were told. -/
structure OlsrState.Sourced (heard : Ipv4Address → Prop) (told : Ipv4Address → Ipv4Address → Prop)
    (s : OlsrState) : Prop where
  link : ∀ l ∈ s.linkSet, heard l.neighborIfaceAddr
  ifaceAssoc : ∀ t ∈ s.ifaceAssocSet, told t.ifaceAddr t.mainAddr

variable {heard : Ipv4Address → Prop} {told : Ipv4Address → Ipv4Address → Prop}

namespace OlsrState.Sourced

variable {s s' : OlsrState}

/-- Less knowledge is as good. -/
lemma mono (h : s.Sourced heard told) (hlink : s'.linkSet ⊆ s.linkSet)
    (hassoc : s'.ifaceAssocSet ⊆ s.ifaceAssocSet) : s'.Sourced heard told :=
  ⟨fun l hl => h.link l (hlink hl), fun t ht => h.ifaceAssoc t (hassoc ht)⟩

lemma congr (h : s.Sourced heard told) (hlink : s'.linkSet = s.linkSet)
    (hassoc : s'.ifaceAssocSet = s.ifaceAssocSet) : s'.Sourced heard told :=
  h.mono (by rw [hlink]; exact List.Subset.refl _) (by rw [hassoc]; exact List.Subset.refl _)

end OlsrState.Sourced

/-- A message that a node may learn from, if it comes from this interface. -/
structure MessageHeader.Teaches (heard : Ipv4Address → Prop)
    (told : Ipv4Address → Ipv4Address → Prop) (senderIface : Ipv4Address) (m : MessageHeader) :
    Prop where
  hello : ∀ hello, m.body = .hello hello → heard senderIface
  mid : ∀ mid, m.body = .mid mid → ∀ a ∈ mid.interfaceAddresses, told a m.originatorAddress

namespace Node

variable {D : Type} {n : Node D} {msg : MessageHeader} {hello : Hello}
  {receiverIface senderIface : Ipv4Address}

lemma linkSensing_sourced (h : n.state.Sourced heard told) (hsender : heard senderIface) :
    (n.linkSensing msg hello receiverIface senderIface).state.Sourced heard told := by
  obtain ⟨ns, hns⟩ := n.linkSensing_state msg hello receiverIface senderIface
  rw [hns]
  refine ⟨fun l hl => ?_, h.ifaceAssoc⟩
  rcases Lib.mem_upsert hl with hl | rfl
  · exact h.link l hl
  · rwa [sensedLink_neighborIfaceAddr]

lemma midAddressStep_sourced (h : n.state.Sourced heard told) {addr : Ipv4Address}
    (haddr : told addr msg.originatorAddress) :
    (midAddressStep msg n addr).state.Sourced heard told := by
  simp only [midAddressStep]
  split
  · refine ⟨h.link, fun t ht => ?_⟩
    -- A refreshed tuple keeps its addresses.
    obtain ⟨t', ht', rfl⟩ := List.mem_map.mp ht
    have ht'' := h.ifaceAssoc t' ht'
    split
    · exact ht''
    · exact ht''
  · refine ⟨h.link, fun t ht => ?_⟩
    rcases List.mem_append.mp ht with ht | ht
    · exact h.ifaceAssoc t ht
    · rw [List.mem_singleton.mp ht]
      exact haddr

lemma processMid_sourced (h : n.state.Sourced heard told) {mid : Mid}
    (hmid : ∀ a ∈ mid.interfaceAddresses, told a msg.originatorAddress) :
    (n.processMid msg mid senderIface).state.Sourced heard told := by
  rw [processMid]
  split
  · exact h
  · have hfold : (mid.interfaceAddresses.foldl (midAddressStep msg) n).state.Sourced heard told := by
      refine foldl_inv (I := fun k : Node D => k.state.Sourced heard told) _ ?_ h
      intro n a ha h
      exact midAddressStep_sourced h (hmid a ha)
    exact hfold.congr rfl rfl

/-- The node has a link, not expired, to the interface, or to a neighbor that it has associated the
interface with. -/
def HasLinkFor (n : Node D) (a : Ipv4Address) : Prop :=
  ∃ l ∈ n.state.linkSet, n.now ≤ l.time ∧
    (l.neighborIfaceAddr = a ∨
      ∃ t ∈ n.state.ifaceAssocSet, t.mainAddr = l.neighborIfaceAddr ∧ t.ifaceAddr = a)

variable [OlsrDefenseStrategy D]

/-- A node that does not attack lists what it has links for, and its fictitious node if there is
one. -/
lemma mem_helloLinkMessages (h : n.isMalicious = false) {lm : LinkMessage}
    (hlm : lm ∈ n.helloLinkMessages) {a : Ipv4Address} (ha : a ∈ lm.neighborInterfaceAddresses) :
    n.HasLinkFor a ∨ n.injectsFictitiousNode = true ∧ a = n.fakeAddress := by
  have hspoof : n.spoofTargets = [] := by simp [spoofTargets, h]
  rw [helloLinkMessages, hspoof] at hlm
  rcases List.mem_append.mp hlm with hlm | hlm
  · rcases List.mem_append.mp hlm with hlm | hlm
    · obtain ⟨l, hl, hsome⟩ := List.mem_filterMap.mp hlm
      rw [helloLinkMessage] at hsome
      split at hsome
      · next hlink =>
        obtain ⟨nt, -, rfl⟩ := Option.map_eq_some_iff.mp hsome
        refine Or.inl ⟨l, hl, hlink.2, ?_⟩
        rcases List.mem_cons.mp ha with rfl | ha
        · exact Or.inl rfl
        · obtain ⟨t, ht, rfl⟩ := List.mem_map.mp ha
          have hmain := (List.mem_filter.mp ht).2
          exact Or.inr ⟨t, List.mem_of_mem_filter ht, by simpa using hmain, rfl⟩
      · simp at hsome
    · simp at hlm
  · split at hlm
    · next hinjects =>
      rw [List.mem_singleton.mp hlm] at ha
      exact Or.inr ⟨hinjects, List.mem_singleton.mp ha⟩
    · simp at hlm

lemma processHello_sourced (h : n.state.Sourced heard told) (hsender : heard senderIface) :
    (n.processHello msg hello receiverIface senderIface).state.Sourced heard told := by
  have hsensing : (n.linkSensing msg hello receiverIface senderIface).state.Sourced heard told :=
    linkSensing_sourced h hsender
  simp only [processHello]
  split
  · exact hsensing
  · obtain ⟨ths, hths⟩ := populateTwoHopNeighborSet_state
      ((n.linkSensing msg hello receiverIface senderIface).populateNeighborSet msg hello) msg hello
    obtain ⟨ms, hms⟩ := populateMprSelectorSet_state
      (((n.linkSensing msg hello receiverIface senderIface).populateNeighborSet msg
        hello).populateTwoHopNeighborSet msg hello).mprComputation msg hello
    rw [hms, mprComputation_state, hths, populateNeighborSet_state]
    exact hsensing.congr rfl rfl

lemma processMessage_sourced (h : n.state.Sourced heard told)
    (hmsg : msg.Teaches heard told senderIface) :
    (n.processMessage msg receiverIface senderIface).state.Sourced heard told := by
  rw [processMessage]
  split
  · next hello hbody => exact processHello_sourced h (hmsg.hello hello hbody)
  · next tc hbody =>
    obtain ⟨ts, hts⟩ := n.processTc_state msg senderIface tc
    rw [hts]
    exact h.congr rfl rfl
  · next mid hbody => exact processMid_sourced h (hmsg.mid mid hbody)
  · next hna hbody =>
    obtain ⟨as, has⟩ := n.processHna_state msg senderIface hna
    rw [has]
    exact h.congr rfl rfl

/-- The functions of the events only erase links. -/
lemma call_linkSet_subset (n : Node D) (e : Event) (jitter : Time) :
    (n.call e jitter).state.linkSet ⊆ n.state.linkSet := by
  have hsame : n.state.linkSet ⊆ n.state.linkSet := List.Subset.refl _
  refine call_state_inv (Q := fun s => s.linkSet ⊆ n.state.linkSet) n hsame
    (fun _ => hsame) ?_ (fun _ _ => hsame) (fun _ _ => hsame) (fun _ _ => hsame)
    (fun _ _ _ _ _ => hsame) (fun _ _ => hsame)
  rintro a -
  refine linkTupleTimerExpire_state_inv (Q := fun s => s.linkSet ⊆ n.state.linkSet) n hsame ?_ ?_
  · intro tuple _ _
    exact List.eraseP_sublist.subset
  · intro tuple _ _ _ _
    obtain ⟨ns, hns⟩ := n.dropNeighbor_state tuple
    rw [neighborLoss_state, hns]
    exact hsame

lemma call_sourced (h : n.state.Sourced heard told) (e : Event) (jitter : Time) :
    (n.call e jitter).state.Sourced heard told :=
  h.mono (n.call_linkSet_subset e jitter) (n.call_shrinks e jitter).ifaceAssocs.subset

/-- An act adds what it teaches. -/
lemma perform_sourced (h : n.state.Sourced heard told) {a : Act D}
    (hrecv : ∀ msg receiverIface senderIface jitter,
      a = .recvMessage msg receiverIface senderIface jitter → n.reads msg = true →
      msg.Teaches heard told senderIface) : (n.perform a).state.Sourced heard told := by
  refine perform_state_inv (Q := OlsrState.Sourced heard told) n ?_ ?_ h ?_ ?_
  · exact fun _ _ hs => hs.congr rfl rfl
  · exact fun _ _ hs => hs.congr rfl rfl
  · intro msg receiverIface senderIface jitter ha hreads
    have hhook : (n.defenseHook msg senderIface).state.Sourced heard told := by
      rw [defenseHook_state]
      exact h
    exact processMessage_sourced hhook (hrecv _ _ _ _ ha hreads)
  · intro t e jitter _
    exact call_sourced (n := n.dequeue t e) h e jitter

/-- A node starts with the associations of its own interfaces. -/
lemma startDefense_sourced {c : Config D} (hown : ∀ i ∈ c.interfaces,
    told i.address c.node.chosenMainAddress) : c.node.startDefense.state.Sourced heard told := by
  rw [startDefense_state]
  refine ⟨by simp [Config.node], fun t ht => ?_⟩
  have ht : t ∈ c.node.ownIfaceAssocs := by simpa [Config.node] using ht
  obtain ⟨a, ha, rfl⟩ := List.mem_map.mp ht
  obtain ⟨i, hi, rfl⟩ := List.mem_map.mp (List.mem_of_mem_filter ha)
  exact hown i hi

end Node

end ManetOlsr
