/-
Soft state.

A node learns of the nodes beyond its links from messages, and for as long as the messages say.
Every topology tuple, MPR selector, interface association and association of a run goes back to a
message that the node has processed (`announced`): the originator has listed it there, and it
expires when the validity time of that message is over.  The sequence number of a topology tuple is
the ANSN of the message, since the tuples with another number are erased before.

So an originator that falls silent is forgotten (`forgets`).
-/
import ManetOlsr.Properties.ExpiryDiscipline
import ManetOlsr.Properties.TopologySet

namespace ManetOlsr

/-! ### What a message enters -/

section Entered

variable {D : Type} (n : Node D) (msg : MessageHeader) (senderIface : Ipv4Address)

/-- A TC message from a symmetric neighbor, processed at the node, lists the destination. -/
def TopologyTuple.EnteredBy (t : TopologyTuple) : Prop :=
  n.fromSymLink senderIface = true ∧ ∃ tc, msg.body = .tc tc ∧
    t.destAddr ∈ tc.neighborAddresses ∧
    t = ⟨t.destAddr, msg.originatorAddress, tc.ansn, n.now + getVTime msg.vTime⟩

/-- A HELLO message, processed at the node, lists it as an MPR. -/
def MprSelectorTuple.EnteredBy (t : MprSelectorTuple) : Prop :=
  ∃ hello, msg.body = .hello hello ∧ n.IsSelectedBy hello ∧
    t = ⟨msg.originatorAddress, n.now + getVTime msg.vTime⟩

/-- A MID message from a symmetric neighbor lists the interface. -/
def IfaceAssocTuple.EnteredBy (t : IfaceAssocTuple) : Prop :=
  n.fromSymLink senderIface = true ∧ ∃ mid, msg.body = .mid mid ∧
    t.ifaceAddr ∈ mid.interfaceAddresses ∧
    t = ⟨t.ifaceAddr, msg.originatorAddress, n.now + getVTime msg.vTime⟩

/-- An HNA message from a symmetric neighbor lists the network. -/
def AssociationTuple.EnteredBy (t : AssociationTuple) : Prop :=
  n.fromSymLink senderIface = true ∧ ∃ hna, msg.body = .hna hna ∧
    ⟨t.networkAddr, t.netmask⟩ ∈ hna.associations ∧
    t = ⟨msg.originatorAddress, t.networkAddr, t.netmask, n.now + getVTime msg.vTime⟩

end Entered

/-- The tuples go back to messages that have been heard, each at a node, from a neighbor; the
associations `own` are there from the start. -/
structure OlsrState.Announced {D : Type} (Heard : Node D → MessageHeader → Ipv4Address → Prop)
    (own : List IfaceAssocTuple) (s : OlsrState) : Prop where
  topology : ∀ t ∈ s.topologySet, ∃ n msg a, Heard n msg a ∧ t.EnteredBy n msg a
  mprSelector : ∀ t ∈ s.mprSelectorSet, ∃ n msg a, Heard n msg a ∧ t.EnteredBy n msg
  ifaceAssoc : ∀ t ∈ s.ifaceAssocSet, t ∈ own ∨ ∃ n msg a, Heard n msg a ∧ t.EnteredBy n msg a
  association : ∀ t ∈ s.associationSet, ∃ n msg a, Heard n msg a ∧ t.EnteredBy n msg a

variable {D : Type} {Heard : Node D → MessageHeader → Ipv4Address → Prop}
  {own : List IfaceAssocTuple}

/-- Tuples that are lost need no message. -/
lemma OlsrState.Announced.shrink {s s' : OlsrState} (h : s.Announced Heard own)
    (hs : s.Shrinks s') : s'.Announced Heard own where
  topology t ht := h.topology t (hs.topology.subset ht)
  mprSelector t ht := h.mprSelector t (hs.mprSelectors.subset ht)
  ifaceAssoc t ht := h.ifaceAssoc t (hs.ifaceAssocs.subset ht)
  association t ht := h.association t (hs.associations.subset ht)

namespace Node

variable {n : Node D} {msg : MessageHeader} {receiverIface senderIface : Ipv4Address}

/-! ### One address of a message -/

section Steps

variable {n' : Node D}

/-- A refreshed topology tuple carries the ANSN of the message too. -/
lemma topologyAddressStep_entered {tc : Tc} (hbody : msg.body = .tc tc)
    (hsym : n.fromSymLink senderIface = true) (hnow : n'.now = n.now)
    (hcurrent : Current msg tc.ansn n'.state.topologySet) {addr : Ipv4Address}
    (haddr : addr ∈ tc.neighborAddresses) {t : TopologyTuple}
    (ht : t ∈ (topologyAddressStep msg tc.ansn n' addr).state.topologySet) :
    t ∈ n'.state.topologySet ∨ t.EnteredBy n msg senderIface := by
  rw [topologyAddressStep_topologySet] at ht
  dsimp only at ht
  rw [hnow] at ht
  split at ht
  · rcases Lib.mem_updateFirst ht with ht | ⟨t₀, ht₀, hkey, rfl⟩
    · exact Or.inl ht
    · obtain ⟨hdest, hlast⟩ := Prod.mk.inj (beq_iff_eq.mp hkey)
      refine Or.inr ⟨hsym, tc, hbody, hdest ▸ haddr, ?_⟩
      rw [hcurrent t₀ ht₀ hlast, hlast]
  · rcases List.mem_append.mp ht with ht | ht
    · exact Or.inl ht
    · rw [List.mem_singleton.mp ht]
      exact Or.inr ⟨hsym, tc, hbody, haddr, rfl⟩

lemma mprSelectorStep_entered {hello : Hello} (hbody : msg.body = .hello hello)
    {addr : Ipv4Address} (hnow : n'.now = n.now)
    (hselected : n'.getMainAddress addr = n'.mainAddress → n.IsSelectedBy hello)
    {t : MprSelectorTuple} (ht : t ∈ (mprSelectorStep msg n' addr).state.mprSelectorSet) :
    t ∈ n'.state.mprSelectorSet ∨ t.EnteredBy n msg := by
  simp only [mprSelectorStep] at ht
  split at ht
  · next hown =>
    split at ht
    · rcases List.mem_append.mp ht with ht | ht
      · exact Or.inl ht
      · rw [List.mem_singleton.mp ht, hnow]
        exact Or.inr ⟨hello, hbody, hselected hown, rfl⟩
    · rcases Lib.mem_updateFirst ht with ht | ⟨t₀, -, hkey, rfl⟩
      · exact Or.inl ht
      · refine Or.inr ⟨hello, hbody, hselected hown, ?_⟩
        rw [beq_iff_eq.mp hkey, hnow]
  · exact Or.inl ht

lemma midAddressStep_entered {mid : Mid} (hbody : msg.body = .mid mid)
    (hsym : n.fromSymLink senderIface = true) (hnow : n'.now = n.now) {addr : Ipv4Address}
    (haddr : addr ∈ mid.interfaceAddresses) {t : IfaceAssocTuple}
    (ht : t ∈ (midAddressStep msg n' addr).state.ifaceAssocSet) :
    t ∈ n'.state.ifaceAssocSet ∨ t.EnteredBy n msg senderIface := by
  simp only [midAddressStep] at ht
  split at ht
  · obtain ⟨t₀, ht₀, rfl⟩ := List.mem_map.mp ht
    split
    · next hlisted =>
      rw [Bool.and_eq_true, beq_iff_eq, beq_iff_eq] at hlisted
      obtain ⟨hiface, hmain⟩ := hlisted
      refine Or.inr ⟨hsym, mid, hbody, ?_, ?_⟩
      · show t₀.ifaceAddr ∈ mid.interfaceAddresses
        rwa [hiface]
      · rw [hmain, hnow]
    · exact Or.inl ht₀
  · rcases List.mem_append.mp ht with ht | ht
    · exact Or.inl ht
    · rw [List.mem_singleton.mp ht, hnow]
      exact Or.inr ⟨hsym, mid, hbody, haddr, rfl⟩

lemma associationStep_entered {hna : Hna} (hbody : msg.body = .hna hna)
    (hsym : n.fromSymLink senderIface = true) (hnow : n'.now = n.now) {a : Association}
    (ha : a ∈ hna.associations) {t : AssociationTuple}
    (ht : t ∈ (associationStep msg n' a).state.associationSet) :
    t ∈ n'.state.associationSet ∨ t.EnteredBy n msg senderIface := by
  simp only [associationStep] at ht
  split at ht
  · rcases Lib.mem_updateFirst ht with ht | ⟨t₀, -, hkey, rfl⟩
    · exact Or.inl ht
    · simp only [Bool.and_eq_true, beq_iff_eq] at hkey
      obtain ⟨⟨hgateway, hnetwork⟩, hmask⟩ := hkey
      refine Or.inr ⟨hsym, hna, hbody, ?_, ?_⟩
      · show (⟨t₀.networkAddr, t₀.netmask⟩ : Association) ∈ hna.associations
        rwa [hnetwork, hmask]
      · rw [hgateway, hnow]
  · rcases List.mem_append.mp ht with ht | ht
    · exact Or.inl ht
    · rw [List.mem_singleton.mp ht, hnow]
      exact Or.inr ⟨hsym, hna, hbody, ha, rfl⟩

end Steps

/-! ### Messages -/

/-- A loop over the items of a message, each of which keeps the tuples of a repository or enters
them; `J` is what else the loop keeps. -/
lemma foldl_entered {α β : Type} {tuples : OlsrState → List α} {entered : α → Prop}
    {J : Node D → Prop} {f : Node D → β → Node D} (l : List β)
    (hfixed : ∀ k b, (f k b).fixed = k.fixed) (hJ : ∀ k b, J k → J (f k b))
    (hstep : ∀ k, ∀ b ∈ l, J k → k.now = n.now →
      ∀ t ∈ tuples (f k b).state, t ∈ tuples k.state ∨ entered t)
    {n₀ : Node D} (hnow : n₀.now = n.now) (h₀ : J n₀) :
    ∀ t ∈ tuples (l.foldl f n₀).state, t ∈ tuples n₀.state ∨ entered t := by
  suffices hsuff : (l.foldl f n₀).now = n.now ∧ J (l.foldl f n₀) ∧
      ∀ t ∈ tuples (l.foldl f n₀).state, t ∈ tuples n₀.state ∨ entered t from hsuff.2.2
  refine foldl_inv (I := fun k => k.now = n.now ∧ J k ∧
    ∀ t ∈ tuples k.state, t ∈ tuples n₀.state ∨ entered t) l ?_ ⟨hnow, h₀, fun t ht => Or.inl ht⟩
  rintro k b hb ⟨hk, hJk, hold⟩
  refine ⟨(now_of_fixed (hfixed k b)).trans hk, hJ k b hJk, fun t ht => ?_⟩
  rcases hstep k b hb hJk hk t ht with ht | hnew
  · exact hold t ht
  · exact Or.inr hnew

lemma processTc_announced {tc : Tc} (hbody : msg.body = .tc tc)
    (h : n.state.Announced Heard own) (hheard : Heard n msg senderIface) :
    (n.processTc msg tc senderIface).state.Announced Heard own := by
  cases haccepts : n.acceptsTc msg tc senderIface with
  | false => rwa [processTc_of_not_accepts haccepts]
  | true =>
    have hsym : n.fromSymLink senderIface = true := by
      rw [acceptsTc, Bool.and_eq_true] at haccepts
      exact haccepts.1
    have hentered : ∀ t ∈ (n.processTc msg tc senderIface).state.topologySet,
        t ∈ n.state.topologySet ∨ t.EnteredBy n msg senderIface := by
      rw [processTc_of_accepts haccepts]
      intro t ht
      set n₀ := n.withState (n.state.eraseOlderTopologyTuples msg.originatorAddress tc.ansn)
      have hnow₀ : n₀.now = n.now := rfl
      refine (foldl_entered (J := fun k => Current msg tc.ansn k.state.topologySet)
        tc.neighborAddresses (fun k a => k.topologyAddressStep_fixed msg tc.ansn a)
        (fun k a hk => hk.step a)
        (fun k a ha hk hnow t ht => topologyAddressStep_entered hbody hsym hnow hk ha ht) hnow₀
        (current_of_accepts haccepts) t ht).imp_left fun ht => ?_
      exact List.mem_of_mem_filter ht
    obtain ⟨ts, hts⟩ := n.processTc_state msg senderIface tc
    rw [hts] at hentered ⊢
    refine { h with topology := fun t ht => ?_ }
    rcases hentered t ht with hold | hnew
    · exact h.topology t hold
    · exact ⟨n, msg, senderIface, hheard, hnew⟩

lemma processMid_announced {mid : Mid} (hbody : msg.body = .mid mid)
    (h : n.state.Announced Heard own) (hheard : Heard n msg senderIface) :
    (n.processMid msg mid senderIface).state.Announced Heard own := by
  rw [processMid]
  split
  · exact h
  · next hsym =>
    have hentered : ∀ t ∈ (mid.interfaceAddresses.foldl (midAddressStep msg) n).state.ifaceAssocSet,
        t ∈ n.state.ifaceAssocSet ∨ t.EnteredBy n msg senderIface :=
      foldl_entered (J := fun _ => True) mid.interfaceAddresses
        (fun k a => k.midAddressStep_fixed msg a) (fun _ _ _ => trivial)
        (fun k a ha _ hnow t ht =>
          midAddressStep_entered hbody (by simpa using hsym) hnow ha ht) rfl trivial
    obtain ⟨ias, hias⟩ := n.foldl_midAddressStep_state msg mid.interfaceAddresses
    -- The remapping changes neighbors and 2-hop neighbors only.
    have hassocs : (mid.interfaceAddresses.foldl (midAddressStep msg) n).state.Announced Heard
        own := by
      rw [hias] at hentered ⊢
      refine { h with ifaceAssoc := fun t ht => ?_ }
      rcases hentered t ht with hold | hnew
      · exact h.ifaceAssoc t hold
      · exact Or.inr ⟨n, msg, senderIface, hheard, hnew⟩
    exact { hassocs with }

lemma processHna_announced {hna : Hna} (hbody : msg.body = .hna hna)
    (h : n.state.Announced Heard own) (hheard : Heard n msg senderIface) :
    (n.processHna msg hna senderIface).state.Announced Heard own := by
  by_cases hsym : n.fromSymLink senderIface = true
  · have hentered : ∀ t ∈ (n.processHna msg hna senderIface).state.associationSet,
        t ∈ n.state.associationSet ∨ t.EnteredBy n msg senderIface := by
      rw [processHna, if_neg (by simp [hsym])]
      exact foldl_entered (J := fun _ => True) hna.associations
        (fun k a => k.associationStep_fixed msg a) (fun _ _ _ => trivial)
        (fun k a ha _ hnow t ht => associationStep_entered hbody hsym hnow ha ht) rfl trivial
    obtain ⟨as, has⟩ := n.processHna_state msg senderIface hna
    rw [has] at hentered ⊢
    refine { h with association := fun t ht => ?_ }
    rcases hentered t ht with hold | hnew
    · exact h.association t hold
    · exact ⟨n, msg, senderIface, hheard, hnew⟩
  · rw [processHna, if_pos (by simpa using hsym)]
    exact h

/-- The selectors that `PopulateMprSelectorSet` enters are selected by the associations that the
HELLO message has met, since it changes none. -/
lemma populateMprSelectorSet_entered {hello : Hello} (hbody : msg.body = .hello hello)
    {n' : Node D} (hnow : n'.now = n.now) (hmain : n'.mainAddress = n.mainAddress)
    (hassocs : n'.state.ifaceAssocSet = n.state.ifaceAssocSet) :
    ∀ t ∈ (n'.populateMprSelectorSet msg hello).state.mprSelectorSet,
      t ∈ n'.state.mprSelectorSet ∨ t.EnteredBy n msg := by
  let J := fun k : Node D =>
    k.mainAddress = n.mainAddress ∧ k.state.ifaceAssocSet = n.state.ifaceAssocSet
  have hJ : ∀ k a, J k → J (mprSelectorStep msg k a) := by
    rintro k a ⟨hkmain, hkassocs⟩
    obtain ⟨ms, hms⟩ := k.mprSelectorStep_state msg a
    refine ⟨(mainAddress_of_fixed (k.mprSelectorStep_fixed msg a)).trans hkmain, ?_⟩
    rw [hms]
    exact hkassocs
  refine foldl_entered (J := J) _
    (fun k m => foldl_eq fixed (fun k a => k.mprSelectorStep_fixed msg a) _ k)
    (fun k m hk => foldl_inv (I := J) _ (fun k a _ hk => hJ k a hk) hk)
    (fun k m hm hk hknow => ?_) hnow ⟨hmain, hassocs⟩
  obtain ⟨hm, hcode⟩ := List.mem_filter.mp hm
  refine foldl_entered (J := J) m.neighborInterfaceAddresses
    (fun k a => k.mprSelectorStep_fixed msg a) hJ (fun k a ha hk hknow t ht => ?_) hknow hk
  refine mprSelectorStep_entered hbody hknow (fun hown => ?_) ht
  refine ⟨m, hm, beq_iff_eq.mp hcode, a, ha, ?_⟩
  rwa [← hk.1, getMainAddress, ← OlsrState.getMainAddress_congr hk.2]

variable [OlsrDefenseStrategy D]

lemma processHello_announced {hello : Hello} (hbody : msg.body = .hello hello)
    (h : n.state.Announced Heard own) (hheard : Heard n msg senderIface) :
    (n.processHello msg hello receiverIface senderIface).state.Announced Heard own := by
  obtain ⟨ns, hns⟩ := n.linkSensing_state msg hello receiverIface senderIface
  have hfixed := n.linkSensing_fixed msg hello receiverIface senderIface
  have hsensed : (n.linkSensing msg hello receiverIface senderIface).state.Announced Heard own := by
    rw [hns]
    exact { h with }
  simp only [processHello]
  split
  · exact hsensed
  · set n₁ := n.linkSensing msg hello receiverIface senderIface
    obtain ⟨ths, hths⟩ := (n₁.populateNeighborSet msg hello).populateTwoHopNeighborSet_state msg
      hello
    have hfixed₂ := (n₁.populateNeighborSet msg hello).populateTwoHopNeighborSet_fixed msg hello
    set n₂ := (n₁.populateNeighborSet msg hello).populateTwoHopNeighborSet msg hello
    have hmprs : n₂.mprComputation.state.Announced Heard own := by
      have hn₂ : n₂.state.Announced Heard own := by
        rw [hths]
        exact { hsensed with }
      exact { hn₂ with }
    have hassocs : n₂.mprComputation.state.ifaceAssocSet = n.state.ifaceAssocSet := by
      show n₂.state.ifaceAssocSet = n.state.ifaceAssocSet
      rw [hths, populateNeighborSet_state, hns]
      rfl
    have hnow : n₂.mprComputation.now = n.now := now_of_fixed (hfixed₂.trans hfixed)
    have hmain : n₂.mprComputation.mainAddress = n.mainAddress :=
      mainAddress_of_fixed (hfixed₂.trans hfixed)
    have hentered := populateMprSelectorSet_entered hbody hnow hmain hassocs
    obtain ⟨ms, hms⟩ := n₂.mprComputation.populateMprSelectorSet_state msg hello
    rw [hms] at hentered ⊢
    refine { hmprs with mprSelector := fun t ht => ?_ }
    rcases hentered t ht with hold | hnew
    · exact hmprs.mprSelector t hold
    · exact ⟨n, msg, senderIface, hheard, hnew⟩

lemma processMessage_announced (h : n.state.Announced Heard own)
    (hheard : Heard n msg senderIface) :
    (n.processMessage msg receiverIface senderIface).state.Announced Heard own := by
  rw [processMessage]
  split
  · next hello hbody => exact processHello_announced hbody h hheard
  · next tc hbody => exact processTc_announced hbody h hheard
  · next mid hbody => exact processMid_announced hbody h hheard
  · next hna hbody => exact processHna_announced hbody h hheard

/-- **Step lemma.**  If a message that an act processes is heard, the tuples afterwards go back to
messages heard. -/
lemma perform_announced (h : n.state.Announced Heard own) {a : Act D}
    (hheard : ∀ msg receiverIface senderIface jitter,
      a = Act.recvMessage msg receiverIface senderIface jitter → n.reads msg = true →
      Heard (n.defenseHook msg senderIface) msg senderIface) :
    (n.perform a).state.Announced Heard own := by
  refine n.perform_state_inv (fun _ _ hs => { hs with }) (fun _ _ hs => { hs with }) h ?_ ?_
  · intro msg receiverIface senderIface jitter ha hreads
    have hhook : (n.defenseHook msg senderIface).state.Announced Heard own := by
      obtain ⟨f, hf⟩ := n.defenseHook_eq_mapDefense msg senderIface
      rwa [hf]
    exact processMessage_announced hhook (hheard msg receiverIface senderIface jitter ha hreads)
  · intro t e jitter _
    have hdequeued : (n.dequeue t e).state.Announced Heard own := h
    exact hdequeued.shrink ((n.dequeue t e).call_shrinks e jitter)

/-- The messages of an originator that the node processes have lost their validity at `t`. -/
def SilentSince (a : Ipv4Address) (t : Time) (n : Node D) : Act D → Prop
  | .recvMessage msg _ _ _ =>
    n.reads msg = true → msg.originatorAddress = a → n.now + getVTime msg.vTime ≤ t
  | _ => True

instance (a : Ipv4Address) (t : Time) (n : Node D) : (act : Act D) →
    Decidable (n.SilentSince a t act)
  | .recvMessage .. => inferInstanceAs (Decidable (_ → _ → _))
  | .advance .. | .routingTableComputation | .fire .. | .macTxDrop .. | .onLocalRxDrop
  | .setDefenseStrategy .. | .reactivateDefenseStrategy | .addHostNetworkAssociation ..
  | .removeHostNetworkAssociation .. | .setAttack .. => inferInstanceAs (Decidable True)

end Node

/-- Nothing that the originator has announced is stored. -/
structure OlsrState.Forgets (a : Ipv4Address) (s : OlsrState) : Prop where
  topology : ∀ t ∈ s.topologySet, t.lastAddr ≠ a
  mprSelector : ∀ t ∈ s.mprSelectorSet, t.mainAddr ≠ a
  ifaceAssoc : ∀ t ∈ s.ifaceAssocSet, t.mainAddr ≠ a
  association : ∀ t ∈ s.associationSet, t.gatewayAddr ≠ a

/-! ### Runs -/

namespace Run

variable [OlsrDefenseStrategy D] (r : Run D)

/-- In the run, the node `n` has processed a message: what the node was when the message came, after
the hook of its defense strategy. -/
def Processed (n : Node D) (msg : MessageHeader) (senderIface : Ipv4Address) : Prop :=
  ∃ n₀ receiverIface jitter,
    (n₀, Act.recvMessage msg receiverIface senderIface jitter) ∈ r.trace ∧
    n₀.reads msg = true ∧ n = n₀.defenseHook msg senderIface

lemma announced : r.final.state.Announced r.Processed r.config.node.ownIfaceAssocs := by
  refine r.final_inv (I := fun n => n.state.Announced r.Processed r.config.node.ownIfaceAssocs)
    (P := fun n a => (n, a) ∈ r.trace) ?_ (fun n a _ hn ha => ?_) fun x hx => hx
  · -- A node starts with the associations of its own interfaces.
    rw [start, Node.doInitialize_state]
    refine ⟨by simp [Config.node], by simp [Config.node], fun t ht => Or.inl ?_,
      by simp [Config.node]⟩
    simpa [Config.node] using ht
  · refine Node.perform_announced hn fun msg receiverIface senderIface jitter hact hreads => ?_
    exact ⟨n, receiverIface, jitter, hact ▸ ha, hreads, rfl⟩

lemma onTime (hkeeps : ∀ x ∈ r.trace, x.1.KeepsValidity x.2) : r.final.TuplesOnTime :=
  r.final_inv (P := fun n a => n.Timed a ∧ n.KeepsValidity a) (Node.doInitialize_onTime _ _)
    (fun _ _ _ hn ha => Node.perform_onTime hn ha.1 ha.2)
    fun x hx => ⟨r.timed_trace x hx, hkeeps x hx⟩

lemma final_mainAddress : r.final.mainAddress = r.config.node.chosenMainAddress := by
  refine r.final_inv (I := fun n => n.mainAddress = r.config.node.chosenMainAddress)
    (P := fun _ _ => True) ?_ (fun n a _ hn _ => (n.perform_mainAddress a).trans hn)
    fun _ _ => trivial
  exact congrArg Fixed.mainAddress (r.config.node.doInitialize_fixed r.jitter)

/-- A tuple that goes back to a message of the originator would be overdue. -/
lemma forgets (hkeeps : ∀ x ∈ r.trace, x.1.KeepsValidity x.2) {a : Ipv4Address}
    (hother : a ≠ r.final.mainAddress) {validUntil : Time}
    (hsilent : ∀ x ∈ r.trace, x.1.SilentSince a validUntil x.2)
    (hnow : validUntil + Granule < r.final.now) : r.final.state.Forgets a := by
  have hontime := r.onTime hkeeps
  have hannounced := r.announced
  have hexpired : ∀ n msg b, r.Processed n msg b → msg.originatorAddress = a →
      ¬ r.final.now ≤ n.now + getVTime msg.vTime + Granule := by
    rintro _ msg b ⟨n, receiverIface, jitter, hx, hreads, rfl⟩ horiginator hle
    have hvalid : n.now + getVTime msg.vTime ≤ validUntil := hsilent _ hx hreads horiginator
    obtain ⟨f, hf⟩ := n.defenseHook_eq_mapDefense msg b
    rw [hf] at hle
    have hle : r.final.now ≤ n.now + getVTime msg.vTime + Granule := hle
    linarith
  constructor
  · intro t ht hlast
    obtain ⟨n, msg, b, hprocessed, -, tc, -, -, heq⟩ := hannounced.topology t ht
    have hdue := hontime.topology.due t ht trivial
    rw [heq] at hlast hdue
    exact hexpired n msg b hprocessed hlast hdue
  · intro t ht hmain
    obtain ⟨n, msg, b, hprocessed, hello, -, -, heq⟩ := hannounced.mprSelector t ht
    have hdue := hontime.mprSelectors.due t ht trivial
    rw [heq] at hmain hdue
    exact hexpired n msg b hprocessed hmain hdue
  · intro t ht hmain
    have hdue := hontime.ifaceAssocs.due t ht (hmain.trans_ne hother)
    rcases hannounced.ifaceAssoc t ht with hown | ⟨n, msg, b, hprocessed, -, mid, -, -, heq⟩
    · -- The associations of the interfaces of the node itself name its own main address.
      obtain ⟨i, -, rfl⟩ := List.mem_map.mp hown
      exact hother (hmain.symm.trans r.final_mainAddress.symm)
    · rw [heq] at hmain hdue
      exact hexpired n msg b hprocessed hmain hdue
  · intro t ht hgateway
    obtain ⟨n, msg, b, hprocessed, -, hna, -, -, heq⟩ := hannounced.association t ht
    have hdue := hontime.associations.due t ht trivial
    rw [heq] at hgateway hdue
    exact hexpired n msg b hprocessed hgateway hdue

/-- **Soft state.**  At the end of a run, every topology tuple, MPR selector, interface association
and association of a network, but for the associations of the interfaces of the node itself, is what
a message that the node has processed in the run enters.  If the messages of the run renew tuples in
time for their timers, nothing is left of another node a granule after the last of its messages has
lost its validity. -/
theorem soft_state :
    r.final.state.Announced r.Processed r.config.node.ownIfaceAssocs ∧
      ((∀ x ∈ r.trace, x.1.KeepsValidity x.2) → ∀ a ≠ r.final.mainAddress, ∀ validUntil,
        (∀ x ∈ r.trace, x.1.SilentSince a validUntil x.2) →
        validUntil + Granule < r.final.now → r.final.state.Forgets a) :=
  ⟨r.announced, fun hkeeps _ hother _ hsilent hnow => r.forgets hkeeps hother hsilent hnow⟩

end Run

section Examples

open Scenario

/-- Node 2 is a neighbor.  Node 5 sends a TC, a MID and an HNA message, each valid for a sixteenth of
a second. -/
def fallsSilent : Run OlsrDefenseNull where
  config := quiet
  jitter := 0
  labels := [recv 0 2 (hello 2 [symLinks [1]]), recv 0 2 (flooded 5 1 (.tc ⟨[6], 1⟩) 0x00),
    recv 0 2 (flooded 5 2 (.mid ⟨[15]⟩) 0x00),
    recv 0 2 (flooded 5 3 (.hna ⟨[⟨0x0a000000, 0xff000000⟩]⟩) 0x00),
    Label.timer 0 Event.sendQueuedMessages 0,
    Label.timer 62501000 (Event.topologyTupleTimerExpire 6 5) 0,
    Label.timer 62501000 (Event.ifaceAssocTupleTimerExpire 15) 0,
    Label.timer 62501000 (Event.associationTupleTimerExpire 5 0x0a000000 0xff000000) 0,
    Label.onLocalRxDrop (Seconds 1)]
  isJitter := quiet_isJitter
  isRun := by decide +kernel

theorem soft_state_fallsSilent :
    (∃ n ∈ fallsSilent.nodes, ∃ t ∈ n.state.topologySet, t.lastAddr = 5) ∧
      fallsSilent.final.state.Forgets 5 :=
  ⟨by decide +kernel, fallsSilent.soft_state.2 (by decide +kernel) 5 (by decide +kernel) 62500000
    (by decide +kernel) (by decide +kernel)⟩

end Examples

end ManetOlsr
