/-
The topology set.

`ProcessTc` looks at one tuple of an originator to decide whether a TC message is stale, and it
refreshes tuples by their pair of addresses.  Both rest on `TopologyInv`: no two tuples have the
same pair of addresses, and all tuples of an originator carry the same sequence number.
-/
import ManetOlsr.Lib.SerialNumber
import ManetOlsr.Model.Frames
import ManetOlsr.Model.Scenario

namespace ManetOlsr

/-- The invariant of the topology set. -/
structure TopologyInv (ts : List TopologyTuple) : Prop where
  nodup : (ts.map TopologyTuple.key).Nodup
  uniform : ∀ t ∈ ts, ∀ t' ∈ ts, t.lastAddr = t'.lastAddr → t.sequenceNumber = t'.sequenceNumber

lemma TopologyInv.nil : TopologyInv [] := ⟨List.nodup_nil, by simp⟩

lemma TopologyInv.sublist {ts ts' : List TopologyTuple} (h : TopologyInv ts)
    (hsub : ts'.Sublist ts) : TopologyInv ts' where
  nodup := Lib.nodup_of_sublist hsub h.nodup
  uniform t ht t' ht' := h.uniform t (hsub.subset ht) t' (hsub.subset ht')

namespace Node

variable {D : Type} (n : Node D) (msg : MessageHeader) (tc : Tc) (senderIface : Ipv4Address)

/-! ### One advertised address -/

/-- The topology set after one advertised address. -/
lemma topologyAddressStep_topologySet (ansn : UInt16) (addr : Ipv4Address) :
    (topologyAddressStep msg ansn n addr).state.topologySet =
      let time := n.now + getVTime msg.vTime
      if (addr, msg.originatorAddress) ∈ n.state.topologySet.map TopologyTuple.key then
        Lib.updateFirst (fun t => t.key == (addr, msg.originatorAddress))
          (fun t => { t with expirationTime := time }) n.state.topologySet
      else n.state.topologySet ++ [⟨addr, msg.originatorAddress, ansn, time⟩] := by
  simp only [topologyAddressStep, OlsrState.findTopologyTuple]
  split
  · next t ht =>
    have hmem : (addr, msg.originatorAddress) ∈ n.state.topologySet.map TopologyTuple.key :=
      List.mem_map.mpr ⟨t, List.mem_of_find?_eq_some ht, by simpa using List.find?_some ht⟩
    rw [if_pos hmem]
    rfl
  · next hnone =>
    have hmem : (addr, msg.originatorAddress) ∉ n.state.topologySet.map TopologyTuple.key := by
      rintro hmem
      obtain ⟨t, ht, hkey⟩ := List.mem_map.mp hmem
      exact List.find?_eq_none.mp hnone t ht (by simp [hkey])
    rw [if_neg hmem]
    rfl

lemma topologyAddressStep_keys (ansn : UInt16) (addr : Ipv4Address) :
    (topologyAddressStep msg ansn n addr).state.topologySet.map TopologyTuple.key =
      if (addr, msg.originatorAddress) ∈ n.state.topologySet.map TopologyTuple.key then
        n.state.topologySet.map TopologyTuple.key
      else n.state.topologySet.map TopologyTuple.key ++ [(addr, msg.originatorAddress)] := by
  simp only [topologyAddressStep_topologySet]
  split
  · exact Lib.map_updateFirst fun _ _ _ => rfl
  · rw [List.map_append]
    rfl

/-- A tuple of the changed set has the addresses and the number of an old one, or is the tuple
that the message announces. -/
lemma topologyAddressStep_mem {ansn : UInt16} {addr : Ipv4Address} {t : TopologyTuple}
    (ht : t ∈ (topologyAddressStep msg ansn n addr).state.topologySet) :
    (∃ t₀ ∈ n.state.topologySet, t₀.key = t.key ∧ t₀.sequenceNumber = t.sequenceNumber) ∨
      (t.lastAddr = msg.originatorAddress ∧ t.sequenceNumber = ansn) := by
  rw [topologyAddressStep_topologySet] at ht
  dsimp only at ht
  split at ht
  · rcases Lib.mem_updateFirst ht with ht | ⟨t₀, ht₀, -, rfl⟩
    · exact Or.inl ⟨t, ht, rfl, rfl⟩
    · exact Or.inl ⟨t₀, ht₀, rfl, rfl⟩
  · rcases List.mem_append.mp ht with ht | ht
    · exact Or.inl ⟨t, ht, rfl, rfl⟩
    · rw [List.mem_singleton.mp ht]
      exact Or.inr ⟨rfl, rfl⟩

/-- The tuples of other originators stay as they are. -/
lemma topologyAddressStep_others (ansn : UInt16) (addr : Ipv4Address) :
    ((topologyAddressStep msg ansn n addr).state.topologySet.filter fun t =>
        !(t.lastAddr == msg.originatorAddress)) =
      n.state.topologySet.filter fun t => !(t.lastAddr == msg.originatorAddress) := by
  simp only [topologyAddressStep_topologySet]
  split
  · refine Lib.filter_updateFirst_of_disjoint (fun t ht => ?_) fun t ht => ?_ <;>
      simp only [TopologyTuple.key, beq_iff_eq, Prod.mk.injEq] at ht <;> simp [ht.2]
  · simp

/-! ### The loop over the advertised addresses -/

/-- The tuples of the originator of a message carry its ANSN. -/
def Current (msg : MessageHeader) (ansn : UInt16) (ts : List TopologyTuple) : Prop :=
  ∀ t ∈ ts, t.lastAddr = msg.originatorAddress → t.sequenceNumber = ansn

lemma Current.step {n : Node D} {msg : MessageHeader} {ansn : UInt16}
    (h : Current msg ansn n.state.topologySet) (addr : Ipv4Address) :
    Current msg ansn (topologyAddressStep msg ansn n addr).state.topologySet := by
  intro t ht hlast
  rcases n.topologyAddressStep_mem msg ht with ⟨t₀, ht₀, hkey, hseq⟩ | ⟨-, hseq⟩
  · rw [← hseq]
    exact h t₀ ht₀ ((congrArg Prod.snd hkey).trans hlast)
  · exact hseq

/-- What holds while `ProcessTc` stores the addresses of a message. -/
structure Storing (msg : MessageHeader) (ansn : UInt16) (ts : List TopologyTuple) : Prop
    extends TopologyInv ts where
  current : Current msg ansn ts

lemma Storing.step {n : Node D} {msg : MessageHeader} {ansn : UInt16}
    (h : Storing msg ansn n.state.topologySet) (addr : Ipv4Address) :
    Storing msg ansn (topologyAddressStep msg ansn n addr).state.topologySet := by
  have hcurrent := h.current.step addr
  refine ⟨⟨?_, ?_⟩, hcurrent⟩
  · rw [topologyAddressStep_keys]
    split
    · exact h.nodup
    · next hnew => exact List.Nodup.append h.nodup (List.nodup_singleton _) (by simpa using hnew)
  · intro t ht t' ht' hlast
    by_cases ho : t.lastAddr = msg.originatorAddress
    · rw [hcurrent t ht ho, hcurrent t' ht' (hlast ▸ ho)]
    · -- Tuples of another originator come from before the step.
      rcases n.topologyAddressStep_mem msg ht with ⟨t₀, ht₀, hkey, hseq⟩ | ⟨ho', -⟩
      · rcases n.topologyAddressStep_mem msg ht' with ⟨t₁, ht₁, hkey', hseq'⟩ | ⟨ho', -⟩
        · rw [← hseq, ← hseq']
          refine h.uniform t₀ ht₀ t₁ ht₁ ?_
          exact (congrArg Prod.snd hkey).trans (hlast.trans (congrArg Prod.snd hkey').symm)
        · exact absurd (hlast.trans ho') ho
      · exact absurd ho' ho

lemma foldl_topologyAddressStep_keys (ansn : UInt16) (addrs : List Ipv4Address)
    (k : Ipv4Address × Ipv4Address) :
    k ∈ (addrs.foldl (topologyAddressStep msg ansn) n).state.topologySet.map TopologyTuple.key ↔
      k ∈ n.state.topologySet.map TopologyTuple.key ∨
        (k.1 ∈ addrs ∧ k.2 = msg.originatorAddress) := by
  induction addrs generalizing n with
  | nil => simp
  | cons addr addrs ih =>
    obtain ⟨a, o⟩ := k
    rw [List.foldl_cons, ih, topologyAddressStep_keys, List.mem_cons]
    split <;> rename_i hmem
    · constructor
      · rintro (h | ⟨h, rfl⟩)
        · exact Or.inl h
        · exact Or.inr ⟨Or.inr h, rfl⟩
      · rintro (h | ⟨rfl | h, rfl⟩)
        · exact Or.inl h
        · exact Or.inl hmem
        · exact Or.inr ⟨h, rfl⟩
    · simp only [List.mem_append, List.mem_singleton, Prod.mk.injEq]
      tauto

lemma foldl_topologyAddressStep_others (ansn : UInt16) (addrs : List Ipv4Address) :
    ((addrs.foldl (topologyAddressStep msg ansn) n).state.topologySet.filter fun t =>
        !(t.lastAddr == msg.originatorAddress)) =
      n.state.topologySet.filter fun t => !(t.lastAddr == msg.originatorAddress) :=
  foldl_eq (fun n => n.state.topologySet.filter fun t => !(t.lastAddr == msg.originatorAddress))
    (fun n addr => n.topologyAddressStep_others msg ansn addr) addrs n

/-! ### `ProcessTc` -/

/-- A TC message passes the guards of `ProcessTc`. -/
def acceptsTc : Bool :=
  n.fromSymLink senderIface &&
    (n.state.findNewerTopologyTuple msg.originatorAddress tc.ansn).isNone

variable {n msg tc senderIface}

lemma processTc_of_accepts (h : n.acceptsTc msg tc senderIface = true) :
    n.processTc msg tc senderIface = tc.neighborAddresses.foldl (topologyAddressStep msg tc.ansn)
      (n.withState (n.state.eraseOlderTopologyTuples msg.originatorAddress tc.ansn)) := by
  simp only [acceptsTc, Bool.and_eq_true] at h
  simp [processTc, h.1, Option.isNone_iff_eq_none.mp h.2]

lemma processTc_of_not_accepts (h : n.acceptsTc msg tc senderIface = false) :
    n.processTc msg tc senderIface = n := by
  simp only [acceptsTc, Bool.and_eq_false_iff] at h
  rcases h with h | h
  · simp [processTc, h]
  · cases hsym : n.fromSymLink senderIface <;>
      simp [processTc, hsym, Option.isNone_eq_false_iff.mp h] at h ⊢

/-- Erasing the older tuples of the originator of an accepted message leaves it with those that
carry the ANSN of the message. -/
lemma current_of_accepts (h : n.acceptsTc msg tc senderIface = true) :
    Current msg tc.ansn
      (n.state.eraseOlderTopologyTuples msg.originatorAddress tc.ansn).topologySet := by
  intro t ht hlast
  simp only [acceptsTc, Bool.and_eq_true, Option.isNone_iff_eq_none] at h
  obtain ⟨hmem, hold⟩ := List.mem_filter.mp ht
  have hnew := List.find?_eq_none.mp h.2 t hmem
  simp only [hlast, beq_self_eq_true, Bool.true_and, Bool.not_eq_true', decide_eq_false_iff_not,
    decide_eq_true_eq, UInt16.not_lt] at hold hnew
  exact UInt16.le_antisymm hnew hold

lemma processTc_current (h : n.acceptsTc msg tc senderIface = true) :
    Current msg tc.ansn (n.processTc msg tc senderIface).state.topologySet := by
  rw [processTc_of_accepts h]
  exact foldl_inv (I := fun n => Current msg tc.ansn n.state.topologySet) _
    (fun _ addr _ hn => hn.step addr) (current_of_accepts h)

lemma processTc_inv (hinv : TopologyInv n.state.topologySet) :
    TopologyInv (n.processTc msg tc senderIface).state.topologySet := by
  cases h : n.acceptsTc msg tc senderIface with
  | false => rwa [processTc_of_not_accepts h]
  | true =>
    have hstart : Storing msg tc.ansn
        (n.state.eraseOlderTopologyTuples msg.originatorAddress tc.ansn).topologySet :=
      ⟨hinv.sublist List.filter_sublist, current_of_accepts h⟩
    rw [processTc_of_accepts h]
    refine (foldl_inv (I := fun n => Storing msg tc.ansn n.state.topologySet) _
      (fun _ addr _ hn => hn.step addr) ?_).toTopologyInv
    exact hstart

/-- The tuples of other originators stay as they are. -/
lemma processTc_others :
    ((n.processTc msg tc senderIface).state.topologySet.filter fun t =>
        !(t.lastAddr == msg.originatorAddress)) =
      n.state.topologySet.filter fun t => !(t.lastAddr == msg.originatorAddress) := by
  cases h : n.acceptsTc msg tc senderIface with
  | false => rw [processTc_of_not_accepts h]
  | true =>
    rw [processTc_of_accepts h, foldl_topologyAddressStep_others]
    simp only [withState_state, OlsrState.eraseOlderTopologyTuples, List.filter_filter]
    congr 1
    ext t
    cases t.lastAddr == msg.originatorAddress <;> simp

/-- After a message with a number above the stored ones, the destinations stored for its
originator are those it lists. -/
lemma processTc_dests (h : n.acceptsTc msg tc senderIface = true)
    (hold : ∀ t ∈ n.state.topologySet, t.lastAddr = msg.originatorAddress →
      t.sequenceNumber < tc.ansn) (a : Ipv4Address) :
    (∃ t ∈ (n.processTc msg tc senderIface).state.topologySet,
        t.lastAddr = msg.originatorAddress ∧ t.destAddr = a) ↔ a ∈ tc.neighborAddresses := by
  have hkeys : (∃ t ∈ (n.processTc msg tc senderIface).state.topologySet,
      t.lastAddr = msg.originatorAddress ∧ t.destAddr = a) ↔
      (a, msg.originatorAddress) ∈
        (n.processTc msg tc senderIface).state.topologySet.map TopologyTuple.key := by
    simp only [List.mem_map, TopologyTuple.key, Prod.mk.injEq]
    tauto
  have hempty : (a, msg.originatorAddress) ∉
      (n.state.eraseOlderTopologyTuples msg.originatorAddress tc.ansn).topologySet.map
        TopologyTuple.key := by
    rintro hmem
    obtain ⟨t, ht, hkey⟩ := List.mem_map.mp hmem
    obtain ⟨ht, hkept⟩ := List.mem_filter.mp ht
    have hlast : t.lastAddr = msg.originatorAddress := congrArg Prod.snd hkey
    simp [hlast, hold t ht hlast] at hkept
  rw [hkeys, processTc_of_accepts h, foldl_topologyAddressStep_keys]
  simp only [withState_state, hempty, false_or, and_true]

/-! ### Runs -/

variable [OlsrDefenseStrategy D]

lemma processMessage_topologyInv {receiverIface : Ipv4Address}
    (hinv : TopologyInv n.state.topologySet) :
    TopologyInv (n.processMessage msg receiverIface senderIface).state.topologySet := by
  rw [processMessage]
  split
  · next hello _ =>
    obtain ⟨_, _, _, _, _, hst⟩ := n.processHello_state msg receiverIface senderIface hello
    rwa [hst]
  · exact processTc_inv hinv
  · next mid _ =>
    obtain ⟨_, _, _, hst⟩ := n.processMid_state msg senderIface mid
    rwa [hst]
  · next hna _ =>
    obtain ⟨_, hst⟩ := n.processHna_state msg senderIface hna
    rwa [hst]

lemma call_topologyInv {e : Event} {jitter : Time} (hinv : TopologyInv n.state.topologySet) :
    TopologyInv (n.call e jitter).state.topologySet := by
  refine n.call_state_inv (Q := fun s => TopologyInv s.topologySet) hinv (fun _ => hinv)
    (fun a _ => ?_) (fun _ _ => hinv) (fun _ _ => hinv) (fun t _ => ?_) (fun _ _ _ _ _ => hinv)
    fun _ _ => hinv
  · refine n.linkTupleTimerExpire_state_inv (Q := fun s => TopologyInv s.topologySet) hinv
      (fun _ _ _ => hinv) fun tuple _ _ _ _ => ?_
    obtain ⟨_, hst⟩ := n.dropNeighbor_state tuple
    rw [neighborLoss_state, hst]
    exact hinv
  · exact hinv.sublist List.eraseP_sublist

/-- **Step lemma.**  Every act keeps the invariant of the topology set. -/
lemma perform_topologyInv (a : Act D) (hinv : TopologyInv n.state.topologySet) :
    TopologyInv (n.perform a).state.topologySet := by
  refine n.perform_state_inv (Q := fun s => TopologyInv s.topologySet) (fun _ _ h => h)
    (fun _ _ h => h) hinv (fun msg receiverIface senderIface _ _ _ => ?_) fun t e jitter _ => ?_
  · exact processMessage_topologyInv (by simpa using hinv)
  · exact call_topologyInv (n := n.dequeue t e) hinv

end Node

lemma Reachable.topologyInv {D : Type} [OlsrDefenseStrategy D] {n : Node D} (h : Reachable n) :
    TopologyInv n.state.topologySet := by
  refine h.inv (I := fun n => TopologyInv n.state.topologySet) (fun c jitter => ?_)
    fun n a => n.perform_topologyInv a
  rw [Node.doInitialize_state]
  exact TopologyInv.nil

/-! ### Freshness of the ANSN -/

namespace Node

variable {D : Type} (n : Node D) (msg : MessageHeader) (tc : Tc) (senderIface : Ipv4Address)
  (a : UInt16)

/-- The node stores tuples of an originator, and all of them carry the ANSN `a`. -/
def HoldsAnsn (originator : Ipv4Address) : Prop :=
  (∃ t ∈ n.state.topologySet, t.lastAddr = originator) ∧
    ∀ t ∈ n.state.topologySet, t.lastAddr = originator → t.sequenceNumber = a

/-- A TC message is treated as its age in serial number arithmetic demands: a newer one is
accepted and the tuples recorded under `a` are removed, an older one changes nothing. -/
def FreshAt : Prop :=
  (Lib.Newer tc.ansn a → n.acceptsTc msg tc senderIface = true ∧
    ∀ t ∈ (n.processTc msg tc senderIface).state.topologySet,
      t.lastAddr = msg.originatorAddress → t.sequenceNumber ≠ a) ∧
  (Lib.Newer a tc.ansn →
    (n.processTc msg tc senderIface).state.topologySet = n.state.topologySet)

variable {n msg tc senderIface a}

/-- `ProcessTc` compares the ANSN of a message with the stored one as numbers. -/
lemma acceptsTc_iff (hsym : n.fromSymLink senderIface = true)
    (hold : n.HoldsAnsn a msg.originatorAddress) :
    n.acceptsTc msg tc senderIface = true ↔ a ≤ tc.ansn := by
  obtain ⟨⟨t, ht, hlast⟩, hall⟩ := hold
  simp only [acceptsTc, hsym, Bool.true_and, Option.isNone_iff_eq_none,
    OlsrState.findNewerTopologyTuple, List.find?_eq_none, Bool.and_eq_true, beq_iff_eq,
    decide_eq_true_eq, not_and, UInt16.not_lt]
  constructor
  · intro h
    exact hall t ht hlast ▸ h t ht hlast
  · intro h t' ht' hlast'
    exact (hall t' ht' hlast').symm ▸ h

/-- A message with a greater number replaces the stored tuples. -/
lemma processTc_replaces (hold : n.HoldsAnsn a msg.originatorAddress)
    (hacc : n.acceptsTc msg tc senderIface = true) (hne : a ≠ tc.ansn) :
    (n.processTc msg tc senderIface).state.topologySet ≠ n.state.topologySet := by
  obtain ⟨⟨t, ht, hlast⟩, hall⟩ := hold
  intro heq
  refine hne ?_
  rw [← hall t ht hlast]
  exact processTc_current hacc t (heq ▸ ht) hlast

lemma freshAt_iff (hsym : n.fromSymLink senderIface = true)
    (hold : n.HoldsAnsn a msg.originatorAddress) :
    n.FreshAt msg tc senderIface a ↔ Lib.numericDistance a tc.ansn ≤ 2 ^ 15 := by
  rw [← Lib.numeric_agrees_iff]
  have hacc : n.acceptsTc msg tc senderIface = true ↔ a ≤ tc.ansn := acceptsTc_iff hsym hold
  constructor
  · rintro ⟨hnewer, holder⟩
    refine ⟨fun h => ?_, fun h => ?_⟩
    · have hle := hacc.mp (hnewer h).1
      exact UInt16.lt_of_le_of_ne hle fun heq => Lib.not_newer_self (heq ▸ h)
    · by_contra hlt
      have hle := UInt16.not_lt.mp hlt
      have hne : a ≠ tc.ansn := fun heq => Lib.not_newer_self (heq ▸ h)
      exact processTc_replaces hold (hacc.mpr hle) hne (holder h)
  · rintro ⟨hnewer, holder⟩
    refine ⟨fun h => ?_, fun h => ?_⟩
    · have hlt := hnewer h
      have htrue := hacc.mpr (UInt16.le_of_lt hlt)
      refine ⟨htrue, fun t ht hlast => ?_⟩
      rw [processTc_current htrue t ht hlast]
      exact (UInt16.ne_of_lt hlt).symm
    · have hfalse : n.acceptsTc msg tc senderIface = false := by
        rw [Bool.eq_false_iff]
        exact fun htrue => absurd (hacc.mp htrue) (UInt16.not_le.mpr (holder h))
      rw [processTc_of_not_accepts hfalse]

lemma incrementAnsn_iterate (sender : Node D) (k : ℕ) :
    (incrementAnsn^[k] sender).ansn = sender.ansn + UInt16.ofNat k := by
  induction k with
  | zero => simp
  | succ k ih =>
    rw [Function.iterate_succ_apply', incrementAnsn, ih, UInt16.ofNat_add]
    simp [UInt16.add_assoc]

end Node

/-- **When TC messages are treated by their age.**  A receiver that stores the tuples of an
originator under ANSN `a` treats a TC message of that originator as its age in serial number
arithmetic demands if and only if the two numbers, compared without regard to wraparound, are at
most half the range apart.  After `k` increments of the counter of the originator its message is
accepted if and only if the counter has not wrapped. -/
theorem ansn_freshness_iff {D : Type} :
    (∀ (n : Node D) (msg : MessageHeader) (tc : Tc) (senderIface : Ipv4Address) (a : UInt16),
      n.fromSymLink senderIface = true → n.HoldsAnsn a msg.originatorAddress →
      (n.FreshAt msg tc senderIface a ↔ Lib.numericDistance a tc.ansn ≤ 2 ^ 15)) ∧
    ∀ (sender n : Node D) (msg : MessageHeader) (tc : Tc) (senderIface : Ipv4Address) (k : ℕ),
      0 < k → k < 2 ^ 15 → tc.ansn = (Node.incrementAnsn^[k] sender).ansn →
      n.fromSymLink senderIface = true → n.HoldsAnsn sender.ansn msg.originatorAddress →
      Lib.Newer tc.ansn sender.ansn ∧
        (n.acceptsTc msg tc senderIface = true ↔ sender.ansn.toNat + k < 2 ^ 16) := by
  refine ⟨fun n msg tc senderIface a hsym hold => Node.freshAt_iff hsym hold, ?_⟩
  intro sender n msg tc senderIface k hpos hlt htc hsym hold
  rw [Node.incrementAnsn_iterate] at htc
  refine ⟨htc ▸ Lib.newer_add hpos hlt, ?_⟩
  rw [Node.acceptsTc_iff hsym hold, htc, UInt16.le_iff_toNat_le, UInt16.toNat_add,
    UInt16.toNat_ofNat']
  have := sender.ansn.toNat_lt
  omega

/-- **The topology set is consistent.**  In every reachable node no two topology tuples have the
same pair of addresses, and the tuples of an originator carry one sequence number.  A TC message
with a number above it replaces the destinations of its originator by those it lists, and leaves
the tuples of every other originator as they are. -/
theorem topologySet_consistent {D : Type} [OlsrDefenseStrategy D] :
    (∀ n : Node D, Reachable n → TopologyInv n.state.topologySet) ∧
    ∀ (n : Node D) (msg : MessageHeader) (tc : Tc) (senderIface : Ipv4Address),
      TopologyInv n.state.topologySet → n.acceptsTc msg tc senderIface = true →
      (∀ t ∈ n.state.topologySet, t.lastAddr = msg.originatorAddress →
        t.sequenceNumber < tc.ansn) →
      (∀ a, (∃ t ∈ (n.processTc msg tc senderIface).state.topologySet,
          t.lastAddr = msg.originatorAddress ∧ t.destAddr = a) ↔ a ∈ tc.neighborAddresses) ∧
      ((n.processTc msg tc senderIface).state.topologySet.filter fun t =>
          !(t.lastAddr == msg.originatorAddress)) =
        n.state.topologySet.filter fun t => !(t.lastAddr == msg.originatorAddress) :=
  ⟨fun _ h => h.topologyInv, fun _ _ _ _ _ hacc hold =>
    ⟨Node.processTc_dests hacc hold, Node.processTc_others⟩⟩

section Examples

open Scenario

/-- Node 2 makes its link to node 1 symmetric and announces a destination under an ANSN. -/
def announcement (dest : Ipv4Address) (ansn : UInt16) : List (Label OlsrDefenseNull) :=
  [recv 0 2 (hello 2 [symLinks [1]]), recv 0 2 (flooded 2 1 (.tc ⟨[dest], ansn⟩))]

/-- Node 1 has stored destination 7 under ANSN 5. -/
def ansnFive : Run OlsrDefenseNull where
  config := single
  jitter := 0
  labels := announcement 7 5
  isJitter := single_isJitter
  isRun := by decide +kernel

theorem topologySet_consistent_ansnFive :
    TopologyInv ansnFive.final.state.topologySet ∧
    ((∃ t ∈ (ansnFive.final.processTc (hello 2 []) ⟨[8, 9, 8], 6⟩ 2).state.topologySet,
      t.lastAddr = 2 ∧ t.destAddr = 9) ↔ (9 : Ipv4Address) ∈ [8, 9, 8]) := by
  have hinv := topologySet_consistent.1 ansnFive.final ⟨ansnFive, rfl⟩
  refine ⟨hinv, ?_⟩
  exact (topologySet_consistent.2 ansnFive.final (hello 2 []) ⟨[8, 9, 8], 6⟩ 2 hinv
    (by decide +kernel) (by decide +kernel)).1 9

/-- Node 1 has stored destination 7 under the last ANSN before the counter wraps. -/
def ansnLast : Run OlsrDefenseNull where
  config := single
  jitter := 0
  labels := announcement 7 65535
  isJitter := single_isJitter
  isRun := by decide +kernel

theorem ansn_freshness_iff_ansnFive :
    ansnFive.final.FreshAt (hello 2 []) ⟨[8], 6⟩ 2 5 ∧
    ansnFive.final.acceptsTc (hello 2 []) ⟨[8], 6⟩ 2 = true := by
  have hsym : ansnFive.final.fromSymLink 2 = true := by decide +kernel
  have hold : ansnFive.final.HoldsAnsn 5 2 := ⟨by decide +kernel, by decide +kernel⟩
  let sender : Node OlsrDefenseNull := { single.node with ansn := 5 }
  exact ⟨(ansn_freshness_iff.1 ansnFive.final (hello 2 []) ⟨[8], 6⟩ 2 5 hsym hold).mpr (by decide),
    (ansn_freshness_iff.2 sender ansnFive.final (hello 2 []) ⟨[8], 6⟩ 2 1 (by decide) (by decide)
      rfl hsym hold).2.mpr (by decide)⟩

/-- The counter wraps from 65535 to 0, and the first TC message after that is discarded. -/
theorem ansn_wrap_discarded :
    Reachable ansnLast.final ∧ ansnLast.final.fromSymLink 2 = true ∧
    ansnLast.final.HoldsAnsn 65535 2 ∧ Lib.Newer 0 65535 ∧
    ¬ ansnLast.final.FreshAt (hello 2 []) ⟨[8], 0⟩ 2 65535 := by
  refine ⟨⟨ansnLast, rfl⟩, by decide +kernel, ⟨by decide +kernel, by decide +kernel⟩, by decide,
    fun hfresh => ?_⟩
  have hacc := (hfresh.1 (by decide)).1
  exact absurd hacc (by decide +kernel)

end Examples

end ManetOlsr
