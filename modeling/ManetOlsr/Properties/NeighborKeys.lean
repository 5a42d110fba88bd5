/-
The keys of the neighbor and 2-hop neighbor sets.

Every operation but one keeps the main addresses of the neighbor set and the pairs of the 2-hop
neighbor set distinct: insertion goes by key, updates leave the keys alone, and the rest erases.
The exception is `ProcessMid`, which rewrites keys in place and does not merge tuples whose keys
become equal.
-/
import ManetOlsr.Model.MainAddresses
import ManetOlsr.Model.Scenario

namespace ManetOlsr

/-- No two neighbor tuples have the same main address, and no two 2-hop tuples the same pair. -/
structure NeighborKeys (s : OlsrState) : Prop where
  neighbors : (s.neighborSet.map NeighborTuple.neighborMainAddr).Nodup
  twoHops : (s.twoHopNeighborSet.map TwoHopNeighborTuple.key).Nodup

namespace NeighborKeys

variable {s : OlsrState}

lemma insertNeighborTuple (h : NeighborKeys s) (nb : NeighborTuple) :
    NeighborKeys (s.insertNeighborTuple nb) :=
  ⟨Lib.nodup_upsert h.neighbors, h.twoHops⟩

/-- An update in place that leaves the main addresses alone. -/
lemma updateNeighbors (h : NeighborKeys s) {p : NeighborTuple → Bool}
    {f : NeighborTuple → NeighborTuple}
    (hf : ∀ nb, (f nb).neighborMainAddr = nb.neighborMainAddr) :
    NeighborKeys { s with neighborSet := Lib.updateFirst p f s.neighborSet } where
  neighbors := by
    rw [Lib.map_updateFirst fun nb _ _ => hf nb]
    exact h.neighbors
  twoHops := h.twoHops

lemma setNeighborStatus (h : NeighborKeys s) (a : Ipv4Address) (st : Status) :
    NeighborKeys (s.setNeighborStatus a st) :=
  h.updateNeighbors fun _ => rfl

lemma setNeighborWillingness (h : NeighborKeys s) (a : Ipv4Address) (w : Willingness) :
    NeighborKeys (s.setNeighborWillingness a w) :=
  h.updateNeighbors fun _ => rfl

/-- Erasing 2-hop tuples. -/
lemma sublistTwoHops (h : NeighborKeys s) {ths : List TwoHopNeighborTuple}
    (hsub : ths.Sublist s.twoHopNeighborSet) :
    NeighborKeys { s with twoHopNeighborSet := ths } :=
  ⟨h.neighbors, Lib.nodup_of_sublist hsub h.twoHops⟩

lemma setTwoHopExpiration (h : NeighborKeys s) (a b : Ipv4Address) (t : Time) :
    NeighborKeys (s.setTwoHopExpiration a b t) where
  neighbors := h.neighbors
  twoHops := by
    have hkeys : (s.setTwoHopExpiration a b t).twoHopNeighborSet.map TwoHopNeighborTuple.key =
        s.twoHopNeighborSet.map TwoHopNeighborTuple.key := Lib.map_updateFirst fun _ _ _ => rfl
    rw [hkeys]
    exact h.twoHops

lemma insertTwoHopNeighborTuple (h : NeighborKeys s) {t : TwoHopNeighborTuple}
    (hnew : s.findTwoHopNeighborTuple t.neighborMainAddr t.twoHopNeighborAddr = none) :
    NeighborKeys (s.insertTwoHopNeighborTuple t) where
  neighbors := h.neighbors
  twoHops := Lib.nodup_append_key h.twoHops fun t' ht' => by
    simpa [TwoHopNeighborTuple.key] using List.find?_eq_none.mp hnew t' ht'

/-- The keys do not depend on the other repositories. -/
lemma congr {s' : OlsrState} (h : NeighborKeys s) (hns : s'.neighborSet = s.neighborSet)
    (hths : s'.twoHopNeighborSet = s.twoHopNeighborSet) : NeighborKeys s' :=
  ⟨hns ▸ h.neighbors, hths ▸ h.twoHops⟩

end NeighborKeys

namespace Node

variable {D : Type} {n : Node D}

/-! ### HELLO messages -/

lemma linkTupleAdded_keys (h : NeighborKeys n.state) (tuple : LinkTuple) (w : Willingness) :
    NeighborKeys (n.linkTupleAdded tuple w).state :=
  h.insertNeighborTuple _

lemma linkTupleUpdated_keys (h : NeighborKeys n.state) (tuple : LinkTuple) (w : Willingness) :
    NeighborKeys (n.linkTupleUpdated tuple w).state := by
  simp only [linkTupleUpdated]
  split
  · exact (linkTupleAdded_keys h tuple w).setNeighborStatus _ _
  · exact h.setNeighborStatus _ _

lemma linkSensing_keys (h : NeighborKeys n.state) (msg : MessageHeader) (hello : Hello)
    (receiverIface senderIface : Ipv4Address) :
    NeighborKeys (n.linkSensing msg hello receiverIface senderIface).state := by
  simp only [linkSensing]
  set x := n.sensedLink msg hello receiverIface senderIface
  set n₁ := n.withState (n.state.storeLinkTuple senderIface x.link)
  have h₁ : NeighborKeys n₁.state := h.congr rfl rfl
  have h₂ := linkTupleUpdated_keys h₁ x.link hello.willingness
  split
  · exact h₁
  · split <;> split
    · exact linkTupleAdded_keys h₂ _ _
    · exact linkTupleAdded_keys h₁ _ _
    · exact h₂
    · exact h₁

lemma twoHopAddressStep_keys (h : NeighborKeys n.state) (msg : MessageHeader) (nt : NeighborType)
    (addr : Ipv4Address) : NeighborKeys (twoHopAddressStep msg nt n addr).state := by
  simp only [twoHopAddressStep]
  cases nt with
  | symNeigh | mprNeigh =>
    dsimp only
    split
    · exact h
    · split
      · next hnew => exact h.insertTwoHopNeighborTuple hnew
      · exact h.setTwoHopExpiration _ _ _
  | notNeigh => exact h.sublistTwoHops List.filter_sublist
  | unknown => exact h

lemma populateTwoHopNeighborSet_keys (h : NeighborKeys n.state) (msg : MessageHeader)
    (hello : Hello) : NeighborKeys (n.populateTwoHopNeighborSet msg hello).state := by
  refine foldl_inv (I := fun n => NeighborKeys n.state) _ (fun n _ _ hn => ?_) h
  refine foldl_inv (I := fun n => NeighborKeys n.state) _ (fun n m _ hn => ?_) hn
  exact foldl_inv (I := fun n => NeighborKeys n.state) _
    (fun n a _ hn => twoHopAddressStep_keys hn msg _ a) hn

variable [OlsrDefenseStrategy D]

lemma processHello_keys (h : NeighborKeys n.state) (msg : MessageHeader) (hello : Hello)
    (receiverIface senderIface : Ipv4Address) :
    NeighborKeys (n.processHello msg hello receiverIface senderIface).state := by
  have h₁ := linkSensing_keys h msg hello receiverIface senderIface
  simp only [processHello]
  set n₁ := n.linkSensing msg hello receiverIface senderIface
  split
  · exact h₁
  · set n₂ := (n₁.populateNeighborSet msg hello).populateTwoHopNeighborSet msg hello
    have h₂ : NeighborKeys n₂.state :=
      populateTwoHopNeighborSet_keys (n := n₁.populateNeighborSet msg hello)
        (h₁.setNeighborWillingness _ _) msg hello
    obtain ⟨_, hms⟩ := n₂.mprComputation.populateMprSelectorSet_state msg hello
    rw [hms]
    exact h₂.congr rfl rfl

end Node

/-! ### MID messages -/

namespace OlsrState

variable (s : OlsrState)

/-- A MID message gives no two neighbor tuples the same main address, and no two 2-hop tuples the
same pair, unless they had it before. -/
def KeepsKeysApart (originator : Ipv4Address) (listed : List Ipv4Address) : Prop :=
  let main := s.mainAddressAfterMid originator listed
  (∀ t ∈ s.neighborSet, ∀ t' ∈ s.neighborSet,
    main t.neighborMainAddr = main t'.neighborMainAddr → t.neighborMainAddr = t'.neighborMainAddr) ∧
  ∀ t ∈ s.twoHopNeighborSet, ∀ t' ∈ s.twoHopNeighborSet,
    main t.neighborMainAddr = main t'.neighborMainAddr →
    main t.twoHopNeighborAddr = main t'.twoHopNeighborAddr → t.key = t'.key

instance (originator : Ipv4Address) (listed : List Ipv4Address) :
    Decidable (s.KeepsKeysApart originator listed) :=
  inferInstanceAs (Decidable (_ ∧ _))

end OlsrState

namespace Node

variable {D : Type} {n : Node D} {msg : MessageHeader}

variable {mid : Mid} {senderIface : Ipv4Address}

lemma processMid_neighborKeys (hsym : n.fromSymLink senderIface = true) :
    (n.processMid msg mid senderIface).state.neighborSet.map NeighborTuple.neighborMainAddr =
      (n.state.neighborSet.map NeighborTuple.neighborMainAddr).map
        (n.state.mainAddressAfterMid msg.originatorAddress mid.interfaceAddresses) := by
  obtain ⟨ias, hias⟩ := n.foldl_midAddressStep_state msg mid.interfaceAddresses
  simp only [processMid, hsym, remapNeighbors, withState_state,
    foldl_midAddressStep_getMainAddress, List.map_map, hias, Bool.not_true, Bool.false_eq_true,
    if_false]
  rfl

lemma processMid_twoHopKeys (hsym : n.fromSymLink senderIface = true) :
    (n.processMid msg mid senderIface).state.twoHopNeighborSet.map TwoHopNeighborTuple.key =
      (n.state.twoHopNeighborSet.map TwoHopNeighborTuple.key).map
        (Prod.map (n.state.mainAddressAfterMid msg.originatorAddress mid.interfaceAddresses)
          (n.state.mainAddressAfterMid msg.originatorAddress mid.interfaceAddresses)) := by
  obtain ⟨ias, hias⟩ := n.foldl_midAddressStep_state msg mid.interfaceAddresses
  simp only [processMid, hsym, remapNeighbors, withState_state,
    foldl_midAddressStep_getMainAddress, List.map_map, hias, Bool.not_true, Bool.false_eq_true,
    if_false]
  rfl

/-- **`ProcessMid` keeps the keys distinct exactly when it gives no two tuples one key.** -/
lemma processMid_keys_iff (h : NeighborKeys n.state) (hsym : n.fromSymLink senderIface = true) :
    NeighborKeys (n.processMid msg mid senderIface).state ↔
      n.state.KeepsKeysApart msg.originatorAddress mid.interfaceAddresses := by
  have hneighbors := List.nodup_map_iff_inj_on h.neighbors
    (f := n.state.mainAddressAfterMid msg.originatorAddress mid.interfaceAddresses)
  have htwoHops := List.nodup_map_iff_inj_on h.twoHops
    (f := Prod.map (n.state.mainAddressAfterMid msg.originatorAddress mid.interfaceAddresses)
      (n.state.mainAddressAfterMid msg.originatorAddress mid.interfaceAddresses))
  rw [← processMid_neighborKeys hsym] at hneighbors
  rw [← processMid_twoHopKeys hsym] at htwoHops
  have hiff : NeighborKeys (n.processMid msg mid senderIface).state ↔
      ((n.processMid msg mid senderIface).state.neighborSet.map
        NeighborTuple.neighborMainAddr).Nodup ∧
      ((n.processMid msg mid senderIface).state.twoHopNeighborSet.map
        TwoHopNeighborTuple.key).Nodup :=
    ⟨fun hk => ⟨hk.neighbors, hk.twoHops⟩, fun hk => ⟨hk.1, hk.2⟩⟩
  rw [hiff, hneighbors, htwoHops]
  simp only [OlsrState.KeepsKeysApart, List.forall_mem_map, TwoHopNeighborTuple.key,
    Prod.map_apply, Prod.mk.injEq, and_imp]

/-! ### Acts -/

variable [OlsrDefenseStrategy D]

/-- What an act that stores a MID message has to satisfy. -/
def MidKeepsKeysApart (n : Node D) : Act D → Prop
  | .recvMessage msg _ senderIface _ =>
    match msg.body with
    | .mid mid => n.reads msg = true → n.fromSymLink senderIface = true →
      n.state.KeepsKeysApart msg.originatorAddress mid.interfaceAddresses
    | _ => True
  | _ => True

instance (n : Node D) : (a : Act D) → Decidable (n.MidKeepsKeysApart a)
  | .recvMessage ⟨_, _, _, _, _, .mid _⟩ _ _ _ =>
    inferInstanceAs (Decidable (_ = true → _ = true → OlsrState.KeepsKeysApart _ _ _))
  | .recvMessage ⟨_, _, _, _, _, .hello _⟩ .. | .recvMessage ⟨_, _, _, _, _, .tc _⟩ ..
  | .recvMessage ⟨_, _, _, _, _, .hna _⟩ .. | .advance .. | .routingTableComputation | .fire ..
  | .macTxDrop .. | .onLocalRxDrop | .setDefenseStrategy .. | .reactivateDefenseStrategy
  | .addHostNetworkAssociation .. | .removeHostNetworkAssociation .. | .setAttack .. =>
    inferInstanceAs (Decidable True)

lemma call_keys (h : NeighborKeys n.state) (e : Event) (jitter : Time) :
    NeighborKeys (n.call e jitter).state := by
  refine n.call_state_inv h (fun _ => h.congr rfl rfl) (fun a _ => ?_)
    (fun t _ => h.sublistTwoHops List.eraseP_sublist) (fun _ _ => h.congr rfl rfl)
    (fun _ _ => h.congr rfl rfl) (fun _ _ _ _ _ => h.congr rfl rfl) (fun _ _ => h.congr rfl rfl)
  refine n.linkTupleTimerExpire_state_inv h (fun tuple _ _ => ?_) fun tuple _ _ _ _ => ?_
  · exact ⟨Lib.nodup_of_sublist List.eraseP_sublist h.neighbors, h.twoHops⟩
  · rw [neighborLoss_state]
    have hupdated := linkTupleUpdated_keys h tuple Willingness.default
    exact (hupdated.sublistTwoHops List.filter_sublist).congr rfl rfl

/-- **Step lemma.**  Acts keep the keys distinct, provided that MID messages keep them apart. -/
lemma perform_keys (h : NeighborKeys n.state) {a : Act D} (ha : n.MidKeepsKeysApart a) :
    NeighborKeys (n.perform a).state := by
  refine n.perform_state_inv (fun _ _ h => h.congr rfl rfl) (fun _ _ h => h.congr rfl rfl) h
    (fun msg receiverIface senderIface jitter hact hreads => ?_) fun t e jitter _ =>
      call_keys (n := n.dequeue t e) h e jitter
  subst hact
  have hhook : NeighborKeys (n.defenseHook msg senderIface).state := by simpa using h
  rw [processMessage]
  split
  · exact processHello_keys hhook msg _ receiverIface senderIface
  · next tc _ =>
    obtain ⟨_, hst⟩ := (n.defenseHook msg senderIface).processTc_state msg senderIface tc
    rw [hst]
    exact hhook.congr rfl rfl
  · next mid hbody =>
    have hdef : n.defenseHook msg senderIface = n := by rw [defenseHook, hbody]
    rw [hdef]
    cases hsym : n.fromSymLink senderIface with
    | false => simpa [processMid, hsym] using h
    | true =>
      simp only [MidKeepsKeysApart, hbody] at ha
      exact (processMid_keys_iff h hsym).mpr (ha hreads hsym)
  · next hna _ =>
    obtain ⟨_, hst⟩ := (n.defenseHook msg senderIface).processHna_state msg senderIface hna
    rw [hst]
    exact hhook.congr rfl rfl

end Node

/-- **Unique keys.**  In every run in which no MID message gives two stored tuples one key, the
neighbor set of every node of the run has at most one tuple for a main address, and the 2-hop
neighbor set at most one for a pair of addresses. -/
theorem neighborKeys_unique {D : Type} [OlsrDefenseStrategy D] (r : Run D)
    (h : ∀ x ∈ r.trace, x.1.MidKeepsKeysApart x.2) : NeighborKeys r.final.state := by
  refine r.final_inv (I := fun n => NeighborKeys n.state) ?_
    (fun n a _ hn ha => Node.perform_keys hn ha) h
  rw [Run.start, Node.doInitialize_state]
  exact ⟨List.nodup_nil, List.nodup_nil⟩

section Examples

open Scenario

/-- Node 2 has a second interface, 3.  Node 1 hears it on both interfaces before it learns so. -/
def midAfterHellos : Run OlsrDefenseNull where
  config := single
  jitter := 0
  labels := [recv 0 3 (hello 2 [symLinks [1]]), recv 0 2 (hello 2 [symLinks [1]]),
    recv 0 2 (flooded 2 1 (.mid ⟨[3]⟩))]
  isJitter := single_isJitter
  isRun := by decide +kernel

/-- The same, with the MID message in time. -/
def midBeforeHello : Run OlsrDefenseNull where
  config := single
  jitter := 0
  labels := [recv 0 2 (hello 2 [symLinks [1, 7]]), recv 0 2 (flooded 2 1 (.mid ⟨[3]⟩)),
    recv 0 3 (hello 2 [symLinks [1]])]
  isJitter := single_isJitter
  isRun := by decide +kernel

theorem neighborKeys_unique_midBeforeHello : NeighborKeys midBeforeHello.final.state :=
  neighborKeys_unique midBeforeHello (by decide +kernel)

/-- The remapping leaves two tuples with main address 2. -/
theorem midAfterHellos_duplicate :
    Reachable midAfterHellos.final ∧ ¬ NeighborKeys midAfterHellos.final.state := by
  refine ⟨⟨midAfterHellos, rfl⟩, fun h => ?_⟩
  exact absurd h.neighbors (by decide +kernel)

end Examples

end ManetOlsr
