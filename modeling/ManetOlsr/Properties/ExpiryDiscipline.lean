/-
Tuples do not outlive their expiration.

The timer of a tuple is set once, when the tuple is entered, and sets itself again when it finds the
tuple refreshed.  A tuple is erased in time as long as its timer does not come too late for it:
`KeepsValidity` is the condition on the messages of a run under which that is so.
-/
import ManetOlsr.Model.Scenario
import ManetOlsr.Model.TimedTuples

namespace ManetOlsr

namespace Node

variable {D : Type} {n n' : Node D} {msg : MessageHeader}

/-! ### One address of a message -/

section Steps

variable {α κ : Type} {T : TupleSet α κ} {keys : κ → Prop} {v : Time}

lemma now_add_delay (n : Node D) {v : Time} (hv : 0 ≤ v) :
    n.now + n.delay (n.now + v) = n.now + v + Granule := by
  rw [delay, if_neg (by linarith)]
  ring

/-- The first tuple of a key is refreshed. -/
lemma Renews.refresh {p : α → Bool} {f : α → α}
    (h : T.tuples n'.state = Lib.updateFirst p f (T.tuples n.state))
    (hp : ∀ a, p a = true → keys (T.key a))
    (hf : ∀ a, T.key (f a) = T.key a ∧
      (T.tracked n.mainAddress (f a) ↔ T.tracked n.mainAddress a) ∧
      T.expiration (f a) = n.now + v) : Renews T keys v n n' := by
  refine .refreshed ?_
  rw [h]
  refine Lib.forall₂_updateFirst (fun a => ⟨rfl, Iff.rfl, Or.inl rfl⟩) fun a _ ha => ?_
  obtain ⟨hkey, htracked, hexp⟩ := hf a
  exact ⟨hkey, htracked, Or.inr ⟨hp a ha, hexp⟩⟩

/-- A tuple is entered, and its event is scheduled. -/
lemma Renews.insert {t : α} (hinsert : T.tuples n'.state = T.tuples n.state ++ [t])
    (hexp : T.expiration t = n.now + v) (hnew : ∀ b ∈ T.tuples n.state, T.key b ≠ T.key t)
    (hv : 0 ≤ v)
    (hevents : n'.events =
      n.events ++ [(n.now + n.delay (n.now + v), T.event (T.key t))]) : Renews T keys v n n' := by
  refine .inserted t hexp hnew hinsert ?_
  rw [hevents, n.now_add_delay hv]
  exact List.mem_append_right _ (List.mem_singleton_self _)

variable (n : Node D) (msg : MessageHeader)

lemma topologyAddressStep_renews {keys : Ipv4Address × Ipv4Address → Prop} (ansn : UInt16)
    {addr : Ipv4Address} (hkey : keys (addr, msg.originatorAddress)) :
    Renews TupleSet.topology keys (getVTime msg.vTime) n (topologyAddressStep msg ansn n addr) := by
  simp only [topologyAddressStep]
  split
  · refine .refresh rfl (fun a ha => ?_) fun a => ⟨rfl, Iff.rfl, rfl⟩
    rwa [← beq_iff_eq.mp ha] at hkey
  · next hnone =>
    refine .insert rfl rfl (fun b hb hsame => ?_) (getVTime_pos msg.vTime).le rfl
    exact List.find?_eq_none.mp hnone b hb (beq_iff_eq.mpr hsame)

lemma twoHopAddressStep_renews {keys : Ipv4Address × Ipv4Address → Prop} (nt : NeighborType)
    {addr : Ipv4Address}
    (hkey : nt = NeighborType.symNeigh ∨ nt = NeighborType.mprNeigh →
      keys (msg.originatorAddress, n.getMainAddress addr)) :
    Renews TupleSet.twoHopNeighbors keys (getVTime msg.vTime) n
      (twoHopAddressStep msg nt n addr) := by
  have hentered : keys (msg.originatorAddress, n.getMainAddress addr) →
      Renews TupleSet.twoHopNeighbors keys (getVTime msg.vTime) n
        (twoHopAddressStep msg NeighborType.symNeigh n addr) := by
    intro hkey
    simp only [twoHopAddressStep]
    split
    · exact .shrunk (.refl _)
    · split
      · next hnone =>
        refine .insert rfl rfl (fun b hb hsame => ?_) (getVTime_pos msg.vTime).le rfl
        exact List.find?_eq_none.mp hnone b hb (beq_iff_eq.mpr hsame)
      · refine .refresh rfl (fun a ha => ?_) fun a => ⟨rfl, Iff.rfl, rfl⟩
        rwa [← beq_iff_eq.mp ha] at hkey
  cases nt with
  | symNeigh => exact hentered (hkey (Or.inl rfl))
  | mprNeigh => exact hentered (hkey (Or.inr rfl))
  | notNeigh => exact .shrunk List.filter_sublist
  | unknown => exact .shrunk (.refl _)

lemma mprSelectorStep_renews {keys : Ipv4Address → Prop} {addr : Ipv4Address}
    (hkey : n.getMainAddress addr = n.mainAddress → keys msg.originatorAddress) :
    Renews TupleSet.mprSelectors keys (getVTime msg.vTime) n (mprSelectorStep msg n addr) := by
  simp only [mprSelectorStep]
  split
  · next hown =>
    split
    · next hnone =>
      refine .insert rfl rfl (fun b hb hsame => ?_) (getVTime_pos msg.vTime).le rfl
      exact List.find?_eq_none.mp hnone b hb (beq_iff_eq.mpr hsame)
    · refine .refresh rfl (fun a ha => ?_) fun a => ⟨rfl, Iff.rfl, rfl⟩
      rw [← beq_iff_eq.mp ha] at hkey
      exact hkey hown
  · exact .shrunk (.refl _)

lemma associationStep_renews {keys : Ipv4Address × Ipv4Address × Ipv4Mask → Prop}
    {a : Association} (hkey : keys (msg.originatorAddress, a.networkAddr, a.netmask)) :
    Renews TupleSet.associations keys (getVTime msg.vTime) n (associationStep msg n a) := by
  simp only [associationStep]
  split
  · refine .refresh rfl (fun t ht => ?_) fun t => ⟨rfl, Iff.rfl, rfl⟩
    simp only [Bool.and_eq_true, beq_iff_eq] at ht
    obtain ⟨⟨hgateway, hnetwork⟩, hmask⟩ := ht
    rwa [← hgateway, ← hnetwork, ← hmask] at hkey
  · next hnone =>
    refine .insert rfl rfl (fun b hb hsame => ?_) (getVTime_pos msg.vTime).le rfl
    obtain ⟨hgateway, hnetwork, hmask⟩ : b.gatewayAddr = msg.originatorAddress ∧
        b.networkAddr = a.networkAddr ∧ b.netmask = a.netmask := by
      simpa [TupleSet.associations] using hsame
    exact List.find?_eq_none.mp hnone b hb (by simp [hgateway, hnetwork, hmask])

/-- Nobody but the originator of a MID message has announced the interfaces it lists. -/
def Unclaimed (n : Node D) (msg : MessageHeader) (listed : List Ipv4Address) : Prop :=
  ∀ t ∈ n.state.ifaceAssocSet, t.ifaceAddr ∈ listed → t.mainAddr = msg.originatorAddress

lemma midAddressStep_renews {listed : List Ipv4Address} (hclaim : n.Unclaimed msg listed)
    {addr : Ipv4Address} (haddr : addr ∈ listed) :
    Renews TupleSet.ifaceAssocs (· ∈ listed) (getVTime msg.vTime) n (midAddressStep msg n addr) ∧
      (midAddressStep msg n addr).Unclaimed msg listed := by
  simp only [midAddressStep]
  split
  · refine ⟨.refreshed ?_, fun t ht hlisted => ?_⟩
    · refine List.forall₂_map_right_iff.mpr (List.forall₂_same.mpr fun t _ => ?_)
      split
      · next h =>
        rw [Bool.and_eq_true, beq_iff_eq] at h
        refine ⟨rfl, Iff.rfl, Or.inr ⟨?_, rfl⟩⟩
        show t.ifaceAddr ∈ listed
        rwa [h.1]
      · exact ⟨rfl, Iff.rfl, Or.inl rfl⟩
    · obtain ⟨t', ht', rfl⟩ := List.mem_map.mp ht
      revert hlisted
      split
      · exact hclaim t' ht'
      · exact hclaim t' ht'
  · next hnone =>
    refine ⟨.insert rfl rfl (fun b hb hsame => ?_) (getVTime_pos msg.vTime).le rfl,
      fun t ht hlisted => ?_⟩
    · -- A stored tuple of the interface would be one of the originator.
      have hsame : b.ifaceAddr = addr := hsame
      refine hnone (List.any_eq_true.mpr ⟨b, hb, ?_⟩)
      simp [hsame, hclaim b hb (hsame ▸ haddr)]
    · rcases List.mem_append.mp ht with ht | ht
      · exact hclaim t ht hlisted
      · rw [List.mem_singleton.mp ht]

end Steps

/-! ### The five repositories -/

/-- No tuple with a timer is still there a granule after it expired, and none will be. -/
structure TuplesOnTime (n : Node D) : Prop where
  topology : OnTime TupleSet.topology n
  twoHopNeighbors : OnTime TupleSet.twoHopNeighbors n
  mprSelectors : OnTime TupleSet.mprSelectors n
  ifaceAssocs : OnTime TupleSet.ifaceAssocs n
  associations : OnTime TupleSet.associations n

lemma TuplesOnTime.shrink (h : TuplesOnTime n) (hc : Continues n n')
    (hs : n.state.Shrinks n'.state) : TuplesOnTime n' where
  topology := h.topology.shrink hc hs.topology
  twoHopNeighbors := h.twoHopNeighbors.shrink hc hs.twoHopNeighbors
  mprSelectors := h.mprSelectors.shrink hc hs.mprSelectors
  ifaceAssocs := h.ifaceAssocs.shrink hc hs.ifaceAssocs
  associations := h.associations.shrink hc hs.associations

/-! ### Messages that renew tuples -/

section Messages

variable (n : Node D) (msg : MessageHeader) (hello : Hello)

/-- The keys of the 2-hop tuples that a HELLO message enters or renews. -/
def twoHopKeys (k : Ipv4Address × Ipv4Address) : Prop :=
  k.1 = msg.originatorAddress ∧ ∃ m ∈ hello.linkMessages,
    (NeighborType.ofLinkCode m.linkCode = NeighborType.symNeigh ∨
      NeighborType.ofLinkCode m.linkCode = NeighborType.mprNeigh) ∧
    ∃ a ∈ m.neighborInterfaceAddresses, n.getMainAddress a = k.2

/-- A HELLO message selects the node as an MPR. -/
def IsSelectedBy : Prop :=
  ∃ m ∈ hello.linkMessages, m.linkCode.toNat / 4 = NeighborType.mprNeigh.toNat ∧
    ∃ a ∈ m.neighborInterfaceAddresses, n.getMainAddress a = n.mainAddress

/-- The tuples that a message renews are renewed in time for their timers.  For a MID message, also:
no other node has claimed one of the interfaces, and no 2-hop tuple is renamed. -/
def RenewsInTime (receiverIface senderIface : Ipv4Address) : MessageBody → Prop
  | .hello hello =>
    ((n.linkSensing msg hello receiverIface senderIface).hasSymmetricLink msg.originatorAddress →
      n.Renewable TupleSet.twoHopNeighbors (n.twoHopKeys msg hello) (getVTime msg.vTime)) ∧
    n.Renewable TupleSet.mprSelectors (fun a => a = msg.originatorAddress ∧ n.IsSelectedBy hello)
      (getVTime msg.vTime)
  | .tc tc =>
    n.fromSymLink senderIface →
    n.state.findNewerTopologyTuple msg.originatorAddress tc.ansn = none →
    (n.withState (n.state.eraseOlderTopologyTuples msg.originatorAddress tc.ansn)).Renewable
      TupleSet.topology (fun k => k.1 ∈ tc.neighborAddresses ∧ k.2 = msg.originatorAddress)
      (getVTime msg.vTime)
  | .mid mid =>
    n.fromSymLink senderIface →
    n.Renewable TupleSet.ifaceAssocs (· ∈ mid.interfaceAddresses) (getVTime msg.vTime) ∧
    n.Unclaimed msg mid.interfaceAddresses ∧
    ∀ t ∈ n.state.twoHopNeighborSet,
      n.state.mainAddressAfterMid msg.originatorAddress mid.interfaceAddresses t.neighborMainAddr =
        t.neighborMainAddr ∧
      n.state.mainAddressAfterMid msg.originatorAddress mid.interfaceAddresses
        t.twoHopNeighborAddr = t.twoHopNeighborAddr
  | .hna hna =>
    n.fromSymLink senderIface →
    n.Renewable TupleSet.associations
      (fun k => k.1 = msg.originatorAddress ∧
        ∃ a ∈ hna.associations, a.networkAddr = k.2.1 ∧ a.netmask = k.2.2)
      (getVTime msg.vTime)

instance (k : Ipv4Address × Ipv4Address) : Decidable (n.twoHopKeys msg hello k) :=
  inferInstanceAs (Decidable (_ ∧ ∃ m ∈ hello.linkMessages, (_ ∨ _) ∧
    ∃ a ∈ m.neighborInterfaceAddresses, n.getMainAddress a = k.2))

instance : Decidable (n.IsSelectedBy hello) :=
  inferInstanceAs (Decidable (∃ m ∈ hello.linkMessages, _ ∧
    ∃ a ∈ m.neighborInterfaceAddresses, n.getMainAddress a = n.mainAddress))

instance (listed : List Ipv4Address) : Decidable (n.Unclaimed msg listed) :=
  inferInstanceAs (Decidable (∀ t ∈ n.state.ifaceAssocSet, _ → _))

instance (receiverIface senderIface : Ipv4Address) :
    (body : MessageBody) → Decidable (n.RenewsInTime msg receiverIface senderIface body)
  | .hello _ => inferInstanceAs (Decidable ((_ → Renewable _ _ _ _) ∧ Renewable _ _ _ _))
  | .tc _ => inferInstanceAs (Decidable (_ → _ → Renewable _ _ _ _))
  | .mid _ => inferInstanceAs (Decidable (_ → Renewable _ _ _ _ ∧ Unclaimed _ _ _ ∧
    ∀ t ∈ n.state.twoHopNeighborSet, _ ∧ _))
  | .hna _ => inferInstanceAs (Decidable (_ → Renewable _ _ _ _))

end Messages

section Processing

/-- The keys are a function of the interface associations. -/
lemma twoHopKeys_congr {hello : Hello} (h : n'.state.ifaceAssocSet = n.state.ifaceAssocSet) :
    n'.twoHopKeys msg hello = n.twoHopKeys msg hello := by
  funext k
  simp only [twoHopKeys, getMainAddress, OlsrState.getMainAddress_congr h]

lemma isSelectedBy_congr {hello : Hello} (h : n'.state.ifaceAssocSet = n.state.ifaceAssocSet)
    (hmain : n'.mainAddress = n.mainAddress) : n'.IsSelectedBy hello = n.IsSelectedBy hello := by
  simp only [IsSelectedBy, getMainAddress, OlsrState.getMainAddress_congr h, hmain]

variable {hello : Hello} {receiverIface senderIface : Ipv4Address}

lemma linkSensing_onTime (h : TuplesOnTime n) :
    TuplesOnTime (n.linkSensing msg hello receiverIface senderIface) := by
  obtain ⟨ns, hns⟩ := n.linkSensing_state msg hello receiverIface senderIface
  refine h.shrink (.of_eventsGrow (n.linkSensing_fixed msg hello receiverIface senderIface)
    (n.linkSensing_schedules msg hello receiverIface senderIface).events) ?_
  rw [hns]
  exact { OlsrState.Shrinks.refl n.state with }

/-- The loops of `PopulateTwoHopNeighborSet`: nothing changes the main addresses meanwhile. -/
lemma twoHopLoop_onTime (h : OnTime TupleSet.twoHopNeighbors n)
    (hre : n.Renewable TupleSet.twoHopNeighbors (n.twoHopKeys msg hello) (getVTime msg.vTime))
    (links : List LinkTuple) :
    OnTime TupleSet.twoHopNeighbors
      (links.foldl (fun n _ => hello.linkMessages.foldl (twoHopLinkMessageStep msg) n) n) := by
  let I := fun n' : Node D =>
    (OnTime TupleSet.twoHopNeighbors n' ∧
      n'.Renewable TupleSet.twoHopNeighbors (n.twoHopKeys msg hello) (getVTime msg.vTime)) ∧
    n'.state.ifaceAssocSet = n.state.ifaceAssocSet
  suffices I (links.foldl (fun n _ => hello.linkMessages.foldl (twoHopLinkMessageStep msg) n) n) from
    this.1.1
  refine foldl_inv links (fun n₁ _ _ h₁ => ?_) ⟨⟨h, hre⟩, rfl⟩
  refine foldl_inv hello.linkMessages (fun n₂ m hm h₂ => ?_) h₁
  refine foldl_inv m.neighborInterfaceAddresses (fun n₃ a ha h₃ => ?_) h₂
  obtain ⟨hinv, hassocs⟩ := h₃
  have hcontinues : Continues n₃ (twoHopAddressStep msg (NeighborType.ofLinkCode m.linkCode) n₃ a) :=
    .of_eventsGrow (n₃.twoHopAddressStep_fixed msg _ a) (n₃.twoHopAddressStep_schedules msg _ a).events
  have hmain : n₃.getMainAddress a = n.getMainAddress a :=
    congrFun (OlsrState.getMainAddress_congr hassocs) a
  refine ⟨OnTime.renews hinv (getVTime_pos msg.vTime).le hcontinues
    (n₃.twoHopAddressStep_renews msg _ fun hnt => ⟨rfl, m, hm, hnt, a, ha, hmain.symm⟩), ?_⟩
  obtain ⟨ths, hths⟩ := n₃.twoHopAddressStep_state msg (NeighborType.ofLinkCode m.linkCode) a
  rw [hths]
  exact hassocs

lemma populateTwoHopNeighborSet_onTime (h : TuplesOnTime n)
    (hre : n.hasSymmetricLink msg.originatorAddress →
      n.Renewable TupleSet.twoHopNeighbors (n.twoHopKeys msg hello) (getVTime msg.vTime)) :
    TuplesOnTime (n.populateTwoHopNeighborSet msg hello) := by
  have hcontinues : Continues n (n.populateTwoHopNeighborSet msg hello) :=
    .of_eventsGrow (n.populateTwoHopNeighborSet_fixed msg hello)
      (n.populateTwoHopNeighborSet_schedules msg hello).events
  obtain ⟨ths, hths⟩ := n.populateTwoHopNeighborSet_state msg hello
  refine
    { topology := h.topology.shrink hcontinues (by rw [hths]; exact .refl _)
      mprSelectors := h.mprSelectors.shrink hcontinues (by rw [hths]; exact .refl _)
      ifaceAssocs := h.ifaceAssocs.shrink hcontinues (by rw [hths]; exact .refl _)
      associations := h.associations.shrink hcontinues (by rw [hths]; exact .refl _)
      twoHopNeighbors := ?_ }
  rw [populateTwoHopNeighborSet]
  by_cases hsym : n.hasSymmetricLink msg.originatorAddress = true
  · exact twoHopLoop_onTime h.twoHopNeighbors (hre hsym) _
  · -- Without a symmetric link to the originator the message is not looked at.
    have hnone : n.state.linkSet.filter (fun l =>
        n.getMainAddress l.neighborIfaceAddr == msg.originatorAddress &&
          !decide (l.symTime < n.now)) = [] := by
      rw [List.filter_eq_nil_iff]
      intro l hl hlink
      refine hsym (List.any_eq_true.mpr ⟨l, hl, ?_⟩)
      simpa using hlink
    rw [hnone]
    exact h.twoHopNeighbors

lemma populateMprSelectorSet_onTime (h : TuplesOnTime n)
    (hre : n.Renewable TupleSet.mprSelectors
      (fun a => a = msg.originatorAddress ∧ n.IsSelectedBy hello) (getVTime msg.vTime)) :
    TuplesOnTime (n.populateMprSelectorSet msg hello) := by
  have hcontinues : Continues n (n.populateMprSelectorSet msg hello) :=
    .of_eventsGrow (n.populateMprSelectorSet_fixed msg hello)
      (n.populateMprSelectorSet_schedules msg hello).events
  obtain ⟨ms, hms⟩ := n.populateMprSelectorSet_state msg hello
  refine
    { topology := h.topology.shrink hcontinues (by rw [hms]; exact .refl _)
      twoHopNeighbors := h.twoHopNeighbors.shrink hcontinues (by rw [hms]; exact .refl _)
      ifaceAssocs := h.ifaceAssocs.shrink hcontinues (by rw [hms]; exact .refl _)
      associations := h.associations.shrink hcontinues (by rw [hms]; exact .refl _)
      mprSelectors := ?_ }
  let I := fun n' : Node D =>
    (OnTime TupleSet.mprSelectors n' ∧ n'.Renewable TupleSet.mprSelectors
      (fun a => a = msg.originatorAddress ∧ n.IsSelectedBy hello) (getVTime msg.vTime)) ∧
    n'.state.ifaceAssocSet = n.state.ifaceAssocSet ∧ n'.mainAddress = n.mainAddress
  suffices I (n.populateMprSelectorSet msg hello) from this.1.1
  rw [populateMprSelectorSet]
  refine foldl_inv _ (fun n₁ m hm h₁ => ?_) ⟨⟨h.mprSelectors, hre⟩, rfl, rfl⟩
  refine foldl_inv m.neighborInterfaceAddresses (fun n₂ a ha h₂ => ?_) h₁
  obtain ⟨hinv, hassocs, hown⟩ := h₂
  obtain ⟨hm, hcode⟩ := List.mem_filter.mp hm
  have hstep : Continues n₂ (mprSelectorStep msg n₂ a) :=
    .of_eventsGrow (n₂.mprSelectorStep_fixed msg a) (n₂.mprSelectorStep_schedules msg a).events
  have hmain : n₂.getMainAddress a = n.getMainAddress a :=
    congrFun (OlsrState.getMainAddress_congr hassocs) a
  refine ⟨OnTime.renews hinv (getVTime_pos msg.vTime).le hstep
    (n₂.mprSelectorStep_renews msg fun heq => ⟨rfl, m, hm, beq_iff_eq.mp hcode, a, ha, ?_⟩), ?_,
    hstep.mainAddress.trans hown⟩
  · rw [← hmain, heq, hown]
  · obtain ⟨ms, hms⟩ := n₂.mprSelectorStep_state msg a
    rw [hms]
    exact hassocs

lemma processTc_onTime {tc : Tc} (h : TuplesOnTime n)
    (hre : n.fromSymLink senderIface →
      n.state.findNewerTopologyTuple msg.originatorAddress tc.ansn = none →
      (n.withState (n.state.eraseOlderTopologyTuples msg.originatorAddress tc.ansn)).Renewable
        TupleSet.topology (fun k => k.1 ∈ tc.neighborAddresses ∧ k.2 = msg.originatorAddress)
        (getVTime msg.vTime)) : TuplesOnTime (n.processTc msg tc senderIface) := by
  have hcontinues : Continues n (n.processTc msg tc senderIface) :=
    .of_eventsGrow (n.processTc_fixed msg senderIface tc) (n.processTc_schedules msg senderIface tc).events
  obtain ⟨ts, hts⟩ := n.processTc_state msg senderIface tc
  refine
    { twoHopNeighbors := h.twoHopNeighbors.shrink hcontinues (by rw [hts]; exact .refl _)
      mprSelectors := h.mprSelectors.shrink hcontinues (by rw [hts]; exact .refl _)
      ifaceAssocs := h.ifaceAssocs.shrink hcontinues (by rw [hts]; exact .refl _)
      associations := h.associations.shrink hcontinues (by rw [hts]; exact .refl _)
      topology := ?_ }
  rw [processTc]
  split
  · exact h.topology
  · next hsym =>
    split
    · exact h.topology
    · next hnewer =>
      rw [Bool.not_eq_true, Option.isSome_eq_false_iff, Option.isNone_iff_eq_none] at hnewer
      set n₀ := n.withState (n.state.eraseOlderTopologyTuples msg.originatorAddress tc.ansn)
      have hcontinues₀ : Continues n n₀ := ⟨rfl, rfl, fun _ hte => hte⟩
      have herased : OnTime TupleSet.topology n₀ :=
        h.topology.shrink hcontinues₀ List.filter_sublist
      refine (foldl_inv (I := fun n' => OnTime TupleSet.topology n' ∧ n'.Renewable TupleSet.topology
        (fun k => k.1 ∈ tc.neighborAddresses ∧ k.2 = msg.originatorAddress) (getVTime msg.vTime))
        tc.neighborAddresses (fun n₁ a ha h₁ => ?_) ⟨herased, hre (by simpa using hsym) hnewer⟩).1
      exact OnTime.renews h₁ (getVTime_pos msg.vTime).le
        (.of_eventsGrow (n₁.topologyAddressStep_fixed msg tc.ansn a)
          (n₁.topologyAddressStep_schedules msg tc.ansn a).events)
        (n₁.topologyAddressStep_renews msg tc.ansn ⟨ha, rfl⟩)

lemma processHna_onTime {hna : Hna} (h : TuplesOnTime n)
    (hre : n.fromSymLink senderIface → n.Renewable TupleSet.associations
      (fun k => k.1 = msg.originatorAddress ∧
        ∃ a ∈ hna.associations, a.networkAddr = k.2.1 ∧ a.netmask = k.2.2)
      (getVTime msg.vTime)) : TuplesOnTime (n.processHna msg hna senderIface) := by
  have hcontinues : Continues n (n.processHna msg hna senderIface) :=
    .of_eventsGrow (n.processHna_fixed msg senderIface hna)
      (n.processHna_schedules msg senderIface hna).events
  obtain ⟨as, has⟩ := n.processHna_state msg senderIface hna
  refine
    { topology := h.topology.shrink hcontinues (by rw [has]; exact .refl _)
      twoHopNeighbors := h.twoHopNeighbors.shrink hcontinues (by rw [has]; exact .refl _)
      mprSelectors := h.mprSelectors.shrink hcontinues (by rw [has]; exact .refl _)
      ifaceAssocs := h.ifaceAssocs.shrink hcontinues (by rw [has]; exact .refl _)
      associations := ?_ }
  rw [processHna]
  split
  · exact h.associations
  · next hsym =>
    refine (foldl_inv (I := fun n' => OnTime TupleSet.associations n' ∧
      n'.Renewable TupleSet.associations (fun k => k.1 = msg.originatorAddress ∧
        ∃ a ∈ hna.associations, a.networkAddr = k.2.1 ∧ a.netmask = k.2.2) (getVTime msg.vTime))
      hna.associations (fun n₁ a ha h₁ => ?_) ⟨h.associations, hre (by simpa using hsym)⟩).1
    exact OnTime.renews h₁ (getVTime_pos msg.vTime).le
      (.of_eventsGrow (n₁.associationStep_fixed msg a) (n₁.associationStep_schedules msg a).events)
      (n₁.associationStep_renews msg ⟨rfl, a, ha, rfl, rfl⟩)

lemma processMid_onTime {mid : Mid} (h : TuplesOnTime n)
    (hre : n.fromSymLink senderIface →
      n.Renewable TupleSet.ifaceAssocs (· ∈ mid.interfaceAddresses) (getVTime msg.vTime) ∧
      n.Unclaimed msg mid.interfaceAddresses ∧
      ∀ t ∈ n.state.twoHopNeighborSet,
        n.state.mainAddressAfterMid msg.originatorAddress mid.interfaceAddresses
          t.neighborMainAddr = t.neighborMainAddr ∧
        n.state.mainAddressAfterMid msg.originatorAddress mid.interfaceAddresses
          t.twoHopNeighborAddr = t.twoHopNeighborAddr) :
    TuplesOnTime (n.processMid msg mid senderIface) := by
  rw [processMid]
  split
  · exact h
  · next hsym =>
    obtain ⟨hrenewable, hclaim, hnames⟩ := hre (by simpa using hsym)
    have hmain : ∀ a, (mid.interfaceAddresses.foldl (midAddressStep msg) n).getMainAddress a =
        n.state.mainAddressAfterMid msg.originatorAddress mid.interfaceAddresses a :=
      n.foldl_midAddressStep_getMainAddress mid.interfaceAddresses
    obtain ⟨ias, hias⟩ := n.foldl_midAddressStep_state msg mid.interfaceAddresses
    have hloop : (OnTime TupleSet.ifaceAssocs (mid.interfaceAddresses.foldl (midAddressStep msg) n) ∧
        Renewable TupleSet.ifaceAssocs (· ∈ mid.interfaceAddresses) (getVTime msg.vTime)
          (mid.interfaceAddresses.foldl (midAddressStep msg) n)) ∧
        Unclaimed (mid.interfaceAddresses.foldl (midAddressStep msg) n) msg
          mid.interfaceAddresses := by
      refine foldl_inv (I := fun n' => (OnTime TupleSet.ifaceAssocs n' ∧
        n'.Renewable TupleSet.ifaceAssocs (· ∈ mid.interfaceAddresses) (getVTime msg.vTime)) ∧
        n'.Unclaimed msg mid.interfaceAddresses) mid.interfaceAddresses (fun n₁ a ha h₁ => ?_)
        ⟨⟨h.ifaceAssocs, hrenewable⟩, hclaim⟩
      obtain ⟨hrenews, hclaim'⟩ := n₁.midAddressStep_renews msg h₁.2 ha
      exact ⟨OnTime.renews h₁.1 (getVTime_pos msg.vTime).le
        (.of_eventsGrow (n₁.midAddressStep_fixed msg a) (n₁.midAddressStep_schedules msg a).events)
        hrenews, hclaim'⟩
    have hcontinues : Continues n (mid.interfaceAddresses.foldl (midAddressStep msg) n) :=
      .of_eventsGrow (foldl_eq fixed (fun n a => n.midAddressStep_fixed msg a) _ n)
        (Schedules.foldl (fun n a => (n.midAddressStep_schedules msg a).mono fun _ _ => trivial)
          _ n : Schedules (fun _ => True) _ _).events
    generalize mid.interfaceAddresses.foldl (midAddressStep msg) n = n₁ at hmain hias hloop hcontinues
    have hentered : TuplesOnTime n₁ :=
      { topology := h.topology.shrink hcontinues (by rw [hias]; exact .refl _)
        twoHopNeighbors := h.twoHopNeighbors.shrink hcontinues (by rw [hias]; exact .refl _)
        mprSelectors := h.mprSelectors.shrink hcontinues (by rw [hias]; exact .refl _)
        ifaceAssocs := hloop.1.1
        associations := h.associations.shrink hcontinues (by rw [hias]; exact .refl _) }
    -- The remapping finds the addresses of the 2-hop tuples to be main addresses already.
    have hsame : n₁.remapNeighbors.state.twoHopNeighborSet = n₁.state.twoHopNeighborSet := by
      refine (List.map_congr_left fun t ht => ?_).trans (List.map_id _)
      rw [hias] at ht
      rw [hmain, hmain, (hnames t ht).1, (hnames t ht).2, id]
    refine hentered.shrink ⟨rfl, rfl, fun _ hte => hte⟩
      { OlsrState.Shrinks.refl n₁.state with twoHopNeighbors := ?_ }
    rw [hsame]

variable [OlsrDefenseStrategy D]

lemma processHello_onTime (h : TuplesOnTime n)
    (htwoHop :
      (n.linkSensing msg hello receiverIface senderIface).hasSymmetricLink msg.originatorAddress →
      n.Renewable TupleSet.twoHopNeighbors (n.twoHopKeys msg hello) (getVTime msg.vTime))
    (hselector : n.Renewable TupleSet.mprSelectors
      (fun a => a = msg.originatorAddress ∧ n.IsSelectedBy hello) (getVTime msg.vTime)) :
    TuplesOnTime (n.processHello msg hello receiverIface senderIface) := by
  have hsensed : TuplesOnTime (n.linkSensing msg hello receiverIface senderIface) :=
    linkSensing_onTime h
  have hcontinues : Continues n (n.linkSensing msg hello receiverIface senderIface) :=
    .of_eventsGrow (n.linkSensing_fixed msg hello receiverIface senderIface)
      (n.linkSensing_schedules msg hello receiverIface senderIface).events
  obtain ⟨ns, hns⟩ := n.linkSensing_state msg hello receiverIface senderIface
  simp only [processHello]
  split
  · exact hsensed
  · generalize n.linkSensing msg hello receiverIface senderIface = n₁ at *
    -- The HELLO is read by the main addresses of before, since no association changes.
    have hneighbors : TuplesOnTime (n₁.populateNeighborSet msg hello) :=
      hsensed.shrink ⟨rfl, rfl, fun _ hte => hte⟩ { OlsrState.Shrinks.refl n₁.state with }
    have hcontinues₂ : Continues n (n₁.populateNeighborSet msg hello) :=
      hcontinues.trans ⟨rfl, rfl, fun _ hte => hte⟩
    have hassocs₂ : (n₁.populateNeighborSet msg hello).state.ifaceAssocSet =
        n.state.ifaceAssocSet := by rw [populateNeighborSet_state, hns]; rfl
    have hselectors₂ : (n₁.populateNeighborSet msg hello).state.mprSelectorSet =
        n.state.mprSelectorSet := by rw [populateNeighborSet_state, hns]; rfl
    have htwoHops₂ : (n₁.populateNeighborSet msg hello).state.twoHopNeighborSet =
        n.state.twoHopNeighborSet := by rw [populateNeighborSet_state, hns]; rfl
    have hsym₂ : (n₁.populateNeighborSet msg hello).hasSymmetricLink msg.originatorAddress =
        n₁.hasSymmetricLink msg.originatorAddress := rfl
    generalize n₁.populateNeighborSet msg hello = n₂ at *
    have htwoHops : TuplesOnTime (n₂.populateTwoHopNeighborSet msg hello) := by
      refine populateTwoHopNeighborSet_onTime hneighbors fun hsym => ?_
      rw [twoHopKeys_congr hassocs₂]
      refine (htwoHop (by rwa [← hsym₂])).shrink hcontinues₂ ?_
      show n₂.state.twoHopNeighborSet.Sublist n.state.twoHopNeighborSet
      rw [htwoHops₂]
    have hcontinues₃ : Continues n (n₂.populateTwoHopNeighborSet msg hello).mprComputation :=
      (hcontinues₂.trans (.of_eventsGrow (n₂.populateTwoHopNeighborSet_fixed msg hello)
        (n₂.populateTwoHopNeighborSet_schedules msg hello).events)).trans
          ⟨rfl, rfl, fun _ hte => hte⟩
    obtain ⟨ths, hths⟩ := n₂.populateTwoHopNeighborSet_state msg hello
    have hmprs : TuplesOnTime (n₂.populateTwoHopNeighborSet msg hello).mprComputation :=
      htwoHops.shrink ⟨rfl, rfl, fun _ hte => hte⟩ { OlsrState.Shrinks.refl _ with }
    have hassocs₃ : (n₂.populateTwoHopNeighborSet msg hello).mprComputation.state.ifaceAssocSet =
        n.state.ifaceAssocSet := (congrArg OlsrState.ifaceAssocSet hths).trans hassocs₂
    have hselectors₃ : (n₂.populateTwoHopNeighborSet msg hello).mprComputation.state.mprSelectorSet =
        n.state.mprSelectorSet := (congrArg OlsrState.mprSelectorSet hths).trans hselectors₂
    generalize (n₂.populateTwoHopNeighborSet msg hello).mprComputation = n₃ at *
    refine populateMprSelectorSet_onTime hmprs ?_
    rw [isSelectedBy_congr hassocs₃ hcontinues₃.mainAddress]
    refine hselector.shrink hcontinues₃ ?_
    show n₃.state.mprSelectorSet.Sublist n.state.mprSelectorSet
    rw [hselectors₃]

/-- The processing of a message that renews tuples in time. -/
lemma processMessage_onTime (h : TuplesOnTime n)
    (hre : n.RenewsInTime msg receiverIface senderIface msg.body) :
    TuplesOnTime (n.processMessage msg receiverIface senderIface) := by
  rw [processMessage]
  cases hbody : msg.body with
  | hello hello =>
    rw [hbody] at hre
    exact processHello_onTime h hre.1 hre.2
  | tc tc =>
    rw [hbody] at hre
    exact processTc_onTime h hre
  | mid mid =>
    rw [hbody] at hre
    exact processMid_onTime h hre
  | hna hna =>
    rw [hbody] at hre
    exact processHna_onTime h hre

end Processing

/-! ### Acts and runs -/

variable [OlsrDefenseStrategy D]

/-- Of a message that is processed, the tuples it renews are renewed in time. -/
def KeepsValidity (n : Node D) : Act D → Prop
  | .recvMessage msg receiverIface senderIface _ =>
    n.reads msg = true →
      (n.defenseHook msg senderIface).RenewsInTime msg receiverIface senderIface msg.body
  | _ => True

instance (n : Node D) : (a : Act D) → Decidable (n.KeepsValidity a)
  | .recvMessage .. => inferInstanceAs (Decidable (_ → RenewsInTime _ _ _ _ _))
  | .advance .. | .routingTableComputation | .fire .. | .macTxDrop .. | .onLocalRxDrop
  | .setDefenseStrategy .. | .reactivateDefenseStrategy | .addHostNetworkAssociation ..
  | .removeHostNetworkAssociation .. | .setAttack .. => inferInstanceAs (Decidable True)

lemma recvMessage_onTime {receiverIface senderIface : Ipv4Address} {jitter : Time}
    (h : TuplesOnTime n)
    (hre : n.reads msg = true →
      (n.defenseHook msg senderIface).RenewsInTime msg receiverIface senderIface msg.body) :
    TuplesOnTime (n.recvMessage msg receiverIface senderIface jitter) := by
  have hhook : TuplesOnTime (n.defenseHook msg senderIface) := by
    obtain ⟨f, hf⟩ := n.defenseHook_eq_mapDefense msg senderIface
    rw [hf]
    exact h.shrink ⟨rfl, rfl, fun _ hte => hte⟩ (.refl _)
  simp only [recvMessage]
  split
  · exact h
  · next hign =>
    have hprocessed : TuplesOnTime (if (n.duplicateOf msg).isNone = true then
        (n.defenseHook msg senderIface).processMessage msg receiverIface senderIface
        else n.defenseHook msg senderIface) := by
      split
      · next hdup => exact processMessage_onTime hhook (hre (by simp [reads, hign, hdup]))
      · exact hhook
    generalize (if (n.duplicateOf msg).isNone = true then
        (n.defenseHook msg senderIface).processMessage msg receiverIface senderIface
        else n.defenseHook msg senderIface) = n₁ at hprocessed ⊢
    split
    · obtain ⟨ds, hds⟩ := n₁.forwardDefault_state msg receiverIface senderIface
        (n.duplicateOf msg) jitter
      refine hprocessed.shrink (.of_eventsGrow (n₁.forwardDefault_fixed msg receiverIface
        senderIface (n.duplicateOf msg) jitter) (n₁.forwardDefault_eventsGrow jitter msg
          (n.duplicateOf msg) receiverIface senderIface)) ?_
      rw [hds]
      exact { OlsrState.Shrinks.refl n₁.state with }
    · exact hprocessed

/-- The acts other than time, messages and timers leave the tuples alone. -/
lemma TuplesOnTime.perform_outside {a : Act D} (h : TuplesOnTime n)
    (hadv : ∀ t, a ≠ Act.advance t)
    (hrecv : ∀ msg receiverIface senderIface jitter,
      a ≠ Act.recvMessage msg receiverIface senderIface jitter)
    (hfire : ∀ t e jitter, a ≠ Act.fire t e jitter) : TuplesOnTime (n.perform a) := by
  refine h.shrink ⟨n.perform_now a hadv, n.perform_mainAddress a,
    fun te hte => (n.perform_eventsGrow hrecv hfire).mem hte⟩ ?_
  refine n.perform_state_inv (Q := n.state.Shrinks) (fun s ds h => { h with })
    (fun s as h => { h with }) (.refl _) (fun _ _ _ _ ha => ?_) fun _ _ _ ha => ?_
  · exact absurd ha (hrecv _ _ _ _)
  · exact absurd ha (hfire _ _ _)

/-- **Step lemma.**  The acts keep the tuples on time. -/
lemma perform_onTime {a : Act D} (h : TuplesOnTime n) (htimed : n.Timed a)
    (hre : n.KeepsValidity a) : TuplesOnTime (n.perform a) := by
  cases a with
  | advance t =>
    exact
      { topology := h.topology.advance htimed.2.2
        twoHopNeighbors := h.twoHopNeighbors.advance htimed.2.2
        mprSelectors := h.mprSelectors.advance htimed.2.2
        ifaceAssocs := h.ifaceAssocs.advance htimed.2.2
        associations := h.associations.advance htimed.2.2 }
  | fire t e jitter =>
    exact
      { topology := h.topology.perform_fire TupleSet.topology_lawful t e jitter
        twoHopNeighbors := h.twoHopNeighbors.perform_fire TupleSet.twoHopNeighbors_lawful t e jitter
        mprSelectors := h.mprSelectors.perform_fire TupleSet.mprSelectors_lawful t e jitter
        ifaceAssocs := h.ifaceAssocs.perform_fire TupleSet.ifaceAssocs_lawful t e jitter
        associations := h.associations.perform_fire TupleSet.associations_lawful t e jitter }
  | recvMessage msg receiverIface senderIface jitter => exact recvMessage_onTime h hre
  | _ => exact h.perform_outside (by simp) (by simp) (by simp)

/-- A node starts with the associations of its own interfaces, which have no timer. -/
lemma doInitialize_onTime (c : Config D) (jitter : Time) :
    TuplesOnTime (c.node.doInitialize jitter) := by
  have hempty : ∀ {α κ : Type} {T : TupleSet α κ},
      T.tuples (c.node.doInitialize jitter).state = [] → OnTime T (c.node.doInitialize jitter) := by
    intro α κ T h
    exact ⟨⟨by simp [h], by simp [h]⟩, by simp [h]⟩
  have hmain : (c.node.doInitialize jitter).mainAddress = c.node.chosenMainAddress :=
    congrArg Fixed.mainAddress (c.node.doInitialize_fixed jitter)
  have hown : ∀ t ∈ (c.node.doInitialize jitter).state.ifaceAssocSet,
      ¬ TupleSet.ifaceAssocs.tracked (c.node.doInitialize jitter).mainAddress t := by
    intro t ht
    rw [doInitialize_state] at ht
    obtain ⟨a, -, rfl⟩ := List.mem_map.mp ht
    rw [hmain]
    exact not_not.mpr rfl
  refine
    { topology := hempty (by rw [doInitialize_state]; rfl)
      twoHopNeighbors := hempty (by rw [doInitialize_state]; rfl)
      mprSelectors := hempty (by rw [doInitialize_state]; rfl)
      ifaceAssocs := ⟨⟨?_, fun t ht htracked => absurd htracked (hown t ht)⟩,
        fun t ht htracked => absurd htracked (hown t ht)⟩
      associations := hempty (by rw [doInitialize_state]; rfl) }
  refine List.Pairwise.imp_of_mem (R := fun _ _ => True) (fun ha hb _ htracked => ?_)
    (List.pairwise_of_forall fun _ _ => trivial)
  exact absurd htracked (not_or.mpr ⟨hown _ ha, hown _ hb⟩)

end Node

/-- **Expiry discipline.**  In a run whose messages renew tuples in time for their timers, no tuple
of the five repositories is stored a granule after its expiration, but for the associations of the
interfaces of the node itself, which never expire. -/
theorem tuples_notOverdue {D : Type} [OlsrDefenseStrategy D] (r : Run D)
    (h : ∀ x ∈ r.trace, x.1.KeepsValidity x.2) : ∀ n ∈ r.nodes,
    (∀ t ∈ n.state.topologySet, n.now ≤ t.expirationTime + Granule) ∧
    (∀ t ∈ n.state.twoHopNeighborSet, n.now ≤ t.expirationTime + Granule) ∧
    (∀ t ∈ n.state.mprSelectorSet, n.now ≤ t.expirationTime + Granule) ∧
    (∀ t ∈ n.state.ifaceAssocSet, t.mainAddr ≠ n.mainAddress → n.now ≤ t.time + Granule) ∧
    ∀ t ∈ n.state.associationSet, n.now ≤ t.expirationTime + Granule := by
  intro n hn
  have hinv : n.TuplesOnTime :=
    r.nodes_inv (P := fun n a => n.Timed a ∧ n.KeepsValidity a) (Node.doInitialize_onTime _ _)
      (fun n a _ hn ha => Node.perform_onTime hn ha.1 ha.2)
      (fun x hx => ⟨r.timed_trace x hx, h x hx⟩) n hn
  exact ⟨fun t ht => hinv.topology.due t ht trivial,
    fun t ht => hinv.twoHopNeighbors.due t ht trivial,
    fun t ht => hinv.mprSelectors.due t ht trivial, hinv.ifaceAssocs.due,
    fun t ht => hinv.associations.due t ht trivial⟩

section Examples

open Scenario

/-- Nodes 2 and 3 are neighbors, and 2 selects this node as an MPR; 5 is their common neighbor.  The
messages of 2 and 5 come again after a second. -/
def renewals : Run OlsrDefenseNull where
  config := quiet
  jitter := 0
  labels := [recv 0 2 (hello 2 [mprLinks [1], symLinks [5]]),
    recv 0 2 (flooded 5 1 (.tc ⟨[2, 3], 1⟩)), recv 0 2 (flooded 5 2 (.mid ⟨[15]⟩)),
    recv 0 2 (flooded 5 3 (.hna ⟨[⟨0x0a000000, 0xff000000⟩]⟩)),
    Label.timer 0 Event.sendQueuedMessages 0,
    recv (Seconds 1) 2 (hello 2 [mprLinks [1], symLinks [5]]),
    recv (Seconds 1) 2 (flooded 5 4 (.tc ⟨[2, 3], 1⟩)),
    recv (Seconds 1) 2 (flooded 5 5 (.mid ⟨[15]⟩))]
  isJitter := quiet_isJitter
  isRun := by decide +kernel

theorem tuples_notOverdue_renewals :
    (renewals.final.state.topologySet.length = 2 ∧ renewals.final.now = Seconds 1) ∧
      ∀ t ∈ renewals.final.state.topologySet,
        renewals.final.now ≤ t.expirationTime + Granule :=
  ⟨by decide +kernel,
    (tuples_notOverdue renewals (by decide +kernel) renewals.final
      (List.mem_append_right _ (List.mem_singleton_self _))).1⟩

lemma quietTwoInterfaces_isJitter :
    ({ (quiet : Config OlsrDefenseNull) with interfaces := [{ address := 1 }, { address := 11 }] } :
      Config OlsrDefenseNull).node.IsJitter 0 :=
  ⟨le_refl 0, by simp [quiet, Config.node, Seconds]⟩

/-- A node with a second interface, 11.  Its neighbor 2 announces 4 for a sixteenth of a second, 9
and 10 both claim 4 as an interface of theirs, and 5 advertises 6 for eight seconds and then for a
sixteenth. -/
def overdue : Run OlsrDefenseNull where
  config := { quiet with interfaces := [{ address := 1 }, { address := 11 }] }
  jitter := 0
  labels := [recv 0 2 (hello 2 [symLinks [1, 4]] 0x00), recv 0 2 (flooded 9 1 (.mid ⟨[4]⟩) 0x07),
    recv 0 2 (flooded 10 1 (.mid ⟨[4]⟩) 0x00), recv 0 2 (flooded 5 1 (.tc ⟨[6], 1⟩) 0x07),
    recv 0 2 (flooded 5 2 (.tc ⟨[6], 1⟩) 0x00), Label.timer 0 Event.sendQueuedMessages 0,
    Label.timer 62501000 (Event.linkTupleTimerExpire 2) 0,
    Label.timer 62501000 (Event.nb2hopTupleTimerExpire 2 4) 0,
    Label.timer 62501000 (Event.ifaceAssocTupleTimerExpire 4) 0, Label.onLocalRxDrop (Seconds 1)]
  isJitter := quietTwoInterfaces_isJitter
  isRun := by decide +kernel

/-- After a second there are tuples that expired before: the shortened topology tuple, the renamed
2-hop tuple, the association of the second interface of the node, and that of 4 with 10. -/
theorem overdue_tuples :
    Reachable overdue.final ∧
      (∃ t ∈ overdue.final.state.topologySet, t.expirationTime + Granule < overdue.final.now) ∧
      (∃ t ∈ overdue.final.state.twoHopNeighborSet,
        t.expirationTime + Granule < overdue.final.now) ∧
      (∃ t ∈ overdue.final.state.ifaceAssocSet, t.mainAddr = overdue.final.mainAddress ∧
        t.time + Granule < overdue.final.now) ∧
      ∃ t ∈ overdue.final.state.ifaceAssocSet, t.mainAddr ≠ overdue.final.mainAddress ∧
        t.time + Granule < overdue.final.now :=
  ⟨⟨overdue, rfl⟩, by decide +kernel⟩

end Examples

end ManetOlsr
