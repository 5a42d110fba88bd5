/-
How many timers are pending for a tuple.

A timer is set when a tuple is entered, and it is not cancelled when the tuple is erased.  The timer
that finds the tuple entered again sets itself again, next to the timer of the new entry, so that
both go on.  The number of pending timers of a key grows by one whenever a tuple of the key is
entered, and never otherwise.
-/
import ManetOlsr.Lib.Expiry
import ManetOlsr.Model.Agenda
import ManetOlsr.Model.Scenario

namespace ManetOlsr

namespace Node

variable {D : Type} {n n' : Node D} {e : Event} {msg : MessageHeader}

/-- How often an event is pending. -/
def pending (n : Node D) (e : Event) : ℕ := (n.events.map Prod.snd).count e

section Pending

variable {kind : Event → Prop}

lemma EventsGrow.pending (h : EventsGrow kind n n') (he : ¬ kind e) :
    n'.pending e = n.pending e := by
  obtain ⟨es, hes, hkind⟩ := h
  have hnone : e ∉ es.map Prod.snd := by
    intro hmem
    obtain ⟨te, hte, rfl⟩ := List.mem_map.mp hmem
    exact he (hkind te hte)
  rw [Node.pending, hes, List.map_append, List.count_append, List.count_eq_zero_of_not_mem hnone]
  rfl

lemma pending_schedule (n : Node D) (t : Time) (e' : Event) :
    (n.schedule t e').pending e = n.pending e + if e' = e then 1 else 0 := by
  have hevents : (n.schedule t e').events = n.events ++ [(n.now + t, e')] := rfl
  rw [pending, hevents, List.map_append, List.count_append, List.map_singleton, List.count_singleton,
    pending]
  simp only [beq_iff_eq]

lemma isRunning_eq_false_iff : n.isRunning e = false ↔ n.pending e = 0 := by
  rw [pending, List.count_eq_zero, isRunning, List.any_eq_false]
  constructor
  · intro h hmem
    obtain ⟨te, hte, rfl⟩ := List.mem_map.mp hmem
    exact h te hte (beq_self_eq_true _)
  · intro h te hte heq
    exact h (List.mem_map.mpr ⟨te, hte, beq_iff_eq.mp heq⟩)

lemma pending_dequeue_self {t : Time} (h : (t, e) ∈ n.events) :
    (n.dequeue t e).pending e + 1 = n.pending e := by
  have hperm : (n.events.map Prod.snd).Perm (e :: (n.events.erase (t, e)).map Prod.snd) :=
    (List.perm_cons_erase h).map Prod.snd
  rw [pending, pending, hperm.count_eq, List.count_cons_self]
  rfl

lemma pending_dequeue_le (t : Time) (e' : Event) : (n.dequeue t e').pending e ≤ n.pending e :=
  (List.erase_sublist.map Prod.snd).count_le e

end Pending

/-! ### The loop over the addresses of a message -/

/-- A loop announces and revokes an entry; the entry has a timer set whenever it is entered. -/
lemma foldl_announces {ι : Type} {f : Node D → ι → Node D} {g : ι → Option Bool}
    (stored : Node D → Bool) (J : Node D → Prop)
    (hf : ∀ n i, J n → J (f n i) ∧ (stored (f n i), (f n i).pending e) =
      (g i).toList.foldl Lib.announce (stored n, n.pending e)) (l : List ι) {n : Node D}
    (hn : J n) :
    (stored (l.foldl f n), (l.foldl f n).pending e) =
      (l.filterMap g).foldl Lib.announce (stored n, n.pending e) := by
  induction l generalizing n with
  | nil => rfl
  | cons i l ih =>
    obtain ⟨hJ, hstep⟩ := hf n i hn
    rw [List.foldl_cons, ih hJ, hstep]
    cases hi : g i with
    | none => rw [List.filterMap_cons_none hi]; rfl
    | some a => rw [List.filterMap_cons_some hi]; rfl

section TwoHop

/-- The addresses of the link messages of a HELLO message, each with its neighbor type. -/
def helloAddresses (hello : Hello) : List (NeighborType × Ipv4Address) :=
  hello.linkMessages.flatMap fun m =>
    m.neighborInterfaceAddresses.map fun a => (NeighborType.ofLinkCode m.linkCode, a)

/-- What an address in a HELLO message says of the 2-hop address `b`. -/
def announcesTwoHop (n : Node D) (b : Ipv4Address) (x : NeighborType × Ipv4Address) :
    Option Bool :=
  if n.getMainAddress x.2 = b then
    match x.1 with
    | NeighborType.symNeigh | NeighborType.mprNeigh => if b = n.mainAddress then none else some true
    | NeighborType.notNeigh => some false
    | NeighborType.unknown => none
  else none

/-- The links for which `PopulateTwoHopNeighborSet` reads the link messages. -/
def originatorLinks (n : Node D) (msg : MessageHeader) : List LinkTuple :=
  n.state.linkSet.filter fun l =>
    n.getMainAddress l.neighborIfaceAddr == msg.originatorAddress && !decide (l.symTime < n.now)

lemma populateTwoHopNeighborSet_eq (n : Node D) (msg : MessageHeader) (hello : Hello) :
    n.populateTwoHopNeighborSet msg hello =
      ((n.originatorLinks msg).flatMap fun _ => helloAddresses hello).foldl
        (fun n x => twoHopAddressStep msg x.1 n x.2) n := by
  rw [populateTwoHopNeighborSet, List.foldl_flatMap]
  congr 1
  funext n _
  rw [helloAddresses, List.foldl_flatMap]
  congr 1
  funext n m
  rw [List.foldl_map]
  rfl

/-- A 2-hop tuple is stored. -/
def storesTwoHop (n : Node D) (a b : Ipv4Address) : Bool :=
  (n.state.findTwoHopNeighborTuple a b).isSome

lemma storesTwoHop_iff {a b : Ipv4Address} :
    n.storesTwoHop a b = true ↔ ∃ t ∈ n.state.twoHopNeighborSet, t.key = (a, b) := by
  rw [storesTwoHop, OlsrState.findTwoHopNeighborTuple, List.find?_isSome]
  simp only [beq_iff_eq]

lemma storesTwoHop_insert (n : Node D) (t : TwoHopNeighborTuple) (a b : Ipv4Address) :
    (n.withState (n.state.insertTwoHopNeighborTuple t)).storesTwoHop a b =
      (n.storesTwoHop a b || t.key == (a, b)) :=
  Lib.isSome_find?_append _ _

lemma storesTwoHop_erase (n : Node D) (a b b' : Ipv4Address) :
    (n.withState (n.state.eraseTwoHopNeighborTuplesTo a b')).storesTwoHop a b =
      (n.storesTwoHop a b && !(b' == b)) := by
  rw [Bool.eq_iff_iff, Bool.and_eq_true, Bool.not_eq_true', beq_eq_false_iff_ne, storesTwoHop_iff,
    storesTwoHop_iff]
  constructor
  · rintro ⟨t, ht, hkey⟩
    obtain ⟨ht, hother⟩ := List.mem_filter.mp ht
    refine ⟨⟨t, ht, hkey⟩, ?_⟩
    rintro rfl
    simp [hkey] at hother
  · rintro ⟨⟨t, ht, hkey⟩, hne⟩
    exact ⟨t, List.mem_filter.mpr ⟨ht, by simp [hkey, Ne.symm hne]⟩, hkey⟩

lemma storesTwoHop_setExpiration (n : Node D) (a b a' b' : Ipv4Address) (t : Time) :
    (n.withState (n.state.setTwoHopExpiration a' b' t)).storesTwoHop a b = n.storesTwoHop a b :=
  Lib.isSome_find?_updateFirst fun _ => rfl

/-- An address of a symmetric neighbor. -/
lemma twoHopAddressStep_sym (n : Node D) (msg : MessageHeader) (addr b : Ipv4Address) :
    ((twoHopAddressStep msg NeighborType.symNeigh n addr).storesTwoHop msg.originatorAddress b,
        (twoHopAddressStep msg NeighborType.symNeigh n addr).pending
          (Event.nb2hopTupleTimerExpire msg.originatorAddress b)) =
      (n.announcesTwoHop b (NeighborType.symNeigh, addr)).toList.foldl Lib.announce
        (n.storesTwoHop msg.originatorAddress b,
          n.pending (Event.nb2hopTupleTimerExpire msg.originatorAddress b)) := by
  simp only [twoHopAddressStep, announcesTwoHop]
  by_cases hown : n.getMainAddress addr = n.mainAddress
  · rw [if_pos hown]
    by_cases hb : n.getMainAddress addr = b
    · rw [if_pos hb, if_pos (hb ▸ hown)]
      rfl
    · rw [if_neg hb]
      rfl
  · rw [if_neg hown]
    by_cases hb : n.getMainAddress addr = b
    · subst hb
      rw [if_pos rfl, if_neg hown]
      -- A new tuple gets its timer here; a stored one already has it.
      cases hfind : n.state.findTwoHopNeighborTuple msg.originatorAddress
          (n.getMainAddress addr) with
      | none =>
        have hstored : n.storesTwoHop msg.originatorAddress (n.getMainAddress addr) = false := by
          rw [storesTwoHop, hfind]
          rfl
        rw [hstored]
        refine Prod.ext ?_ ?_
        · exact (storesTwoHop_insert n _ _ _).trans (by simp [TwoHopNeighborTuple.key, Lib.announce])
        · exact (pending_schedule _ _ _).trans (by rw [if_pos rfl]; rfl)
      | some t =>
        have hstored : n.storesTwoHop msg.originatorAddress (n.getMainAddress addr) = true := by
          rw [storesTwoHop, hfind]
          rfl
        refine Prod.ext ?_ ?_
        · exact (storesTwoHop_setExpiration n _ _ _ _ _).trans hstored
        · rw [hstored]
          rfl
    · -- The tuple of another key is not touched.
      rw [if_neg hb]
      cases n.state.findTwoHopNeighborTuple msg.originatorAddress (n.getMainAddress addr) with
      | none =>
        refine Prod.ext ?_ ?_
        · refine (storesTwoHop_insert n _ _ _).trans ?_
          simp [TwoHopNeighborTuple.key, hb]
        · refine (pending_schedule _ _ _).trans ?_
          rw [if_neg (by simpa using hb)]
          rfl
      | some t => exact Prod.ext (storesTwoHop_setExpiration n _ _ _ _ _) rfl

lemma twoHopAddressStep_announces (n : Node D) (msg : MessageHeader) (b : Ipv4Address)
    (x : NeighborType × Ipv4Address) :
    ((twoHopAddressStep msg x.1 n x.2).storesTwoHop msg.originatorAddress b,
        (twoHopAddressStep msg x.1 n x.2).pending
          (Event.nb2hopTupleTimerExpire msg.originatorAddress b)) =
      (n.announcesTwoHop b x).toList.foldl Lib.announce
        (n.storesTwoHop msg.originatorAddress b,
          n.pending (Event.nb2hopTupleTimerExpire msg.originatorAddress b)) := by
  obtain ⟨nt, addr⟩ := x
  cases nt with
  | symNeigh => exact n.twoHopAddressStep_sym msg addr b
  | mprNeigh => exact n.twoHopAddressStep_sym msg addr b
  | notNeigh =>
    refine Prod.ext ?_ ?_
    · refine (storesTwoHop_erase n _ _ _).trans ?_
      by_cases hb : n.getMainAddress addr = b <;> simp [announcesTwoHop, hb, Lib.announce]
    · by_cases hb : n.getMainAddress addr = b <;> simp [announcesTwoHop, hb, Lib.announce] <;> rfl
  | unknown =>
    simp only [announcesTwoHop, ite_self]
    rfl

lemma announcesTwoHop_congr (hmain : n'.mainAddress = n.mainAddress)
    (hassocs : n'.state.ifaceAssocSet = n.state.ifaceAssocSet) (b : Ipv4Address) :
    n'.announcesTwoHop b = n.announcesTwoHop b := by
  funext x
  simp only [announcesTwoHop, getMainAddress, OlsrState.getMainAddress_congr hassocs, hmain]

lemma originatorLinks_congr (hlinks : n'.state.linkSet = n.state.linkSet)
    (hassocs : n'.state.ifaceAssocSet = n.state.ifaceAssocSet) (hnow : n'.now = n.now) :
    n'.originatorLinks msg = n.originatorLinks msg := by
  simp only [originatorLinks, getMainAddress, OlsrState.getMainAddress_congr hassocs, hlinks, hnow]

/-- The message announces and revokes 2-hop tuples once for each link to its originator. -/
lemma populateTwoHopNeighborSet_pending (n : Node D) (msg : MessageHeader) (hello : Hello)
    (b : Ipv4Address) :
    (n.populateTwoHopNeighborSet msg hello).pending
        (Event.nb2hopTupleTimerExpire msg.originatorAddress b) =
      n.pending (Event.nb2hopTupleTimerExpire msg.originatorAddress b) +
        Lib.entries (n.storesTwoHop msg.originatorAddress b)
          (((n.originatorLinks msg).flatMap fun _ => helloAddresses hello).filterMap
            (n.announcesTwoHop b)) := by
  rw [populateTwoHopNeighborSet_eq, ← Lib.foldl_announce_snd]
  refine congrArg Prod.snd (foldl_announces (fun n => n.storesTwoHop msg.originatorAddress b)
    (fun n' => n'.mainAddress = n.mainAddress ∧ n'.state.ifaceAssocSet = n.state.ifaceAssocSet)
    (fun k x hk => ⟨⟨?_, ?_⟩, ?_⟩) _ ⟨rfl, rfl⟩)
  · exact (mainAddress_of_fixed (k.twoHopAddressStep_fixed msg x.1 x.2)).trans hk.1
  · obtain ⟨ths, hths⟩ := k.twoHopAddressStep_state msg x.1 x.2
    rw [hths]
    exact hk.2
  · rw [← announcesTwoHop_congr hk.1 hk.2]
    exact k.twoHopAddressStep_announces msg b x

end TwoHop

section Topology

/-- A topology tuple is stored. -/
def storesTopology (n : Node D) (destAddr lastAddr : Ipv4Address) : Bool :=
  (n.state.findTopologyTuple destAddr lastAddr).isSome

/-- What an address in a TC message says of the destination `d`. -/
def announcesDest (d addr : Ipv4Address) : Option Bool := if addr = d then some true else none

lemma topologyAddressStep_announces (n : Node D) (msg : MessageHeader) (ansn : UInt16)
    (d addr : Ipv4Address) :
    ((topologyAddressStep msg ansn n addr).storesTopology d msg.originatorAddress,
        (topologyAddressStep msg ansn n addr).pending
          (Event.topologyTupleTimerExpire d msg.originatorAddress)) =
      (announcesDest d addr).toList.foldl Lib.announce
        (n.storesTopology d msg.originatorAddress,
          n.pending (Event.topologyTupleTimerExpire d msg.originatorAddress)) := by
  have hkept : ∀ t, (n.withState (n.state.setTopologyExpiration addr msg.originatorAddress
      t)).storesTopology d msg.originatorAddress = n.storesTopology d msg.originatorAddress :=
    fun t => Lib.isSome_find?_updateFirst fun _ => rfl
  have hentered : ∀ t : TopologyTuple, (n.withState (n.state.insertTopologyTuple t)).storesTopology
      d msg.originatorAddress =
        (n.storesTopology d msg.originatorAddress || t.key == (d, msg.originatorAddress)) :=
    fun t => Lib.isSome_find?_append _ _
  simp only [topologyAddressStep, announcesDest]
  by_cases hd : addr = d
  · subst hd
    rw [if_pos rfl]
    cases hfind : n.state.findTopologyTuple addr msg.originatorAddress with
    | none =>
      have hstored : n.storesTopology addr msg.originatorAddress = false := by
        rw [storesTopology, hfind]
        rfl
      rw [hstored]
      refine Prod.ext ?_ ?_
      · exact (hentered _).trans (by simp [TopologyTuple.key, Lib.announce])
      · exact (pending_schedule _ _ _).trans (by rw [if_pos rfl]; rfl)
    | some t =>
      have hstored : n.storesTopology addr msg.originatorAddress = true := by
        rw [storesTopology, hfind]
        rfl
      refine Prod.ext ?_ ?_
      · exact (hkept _).trans hstored
      · rw [hstored]
        rfl
  · rw [if_neg hd]
    cases n.state.findTopologyTuple addr msg.originatorAddress with
    | none =>
      refine Prod.ext ?_ ?_
      · exact (hentered _).trans (by simp [TopologyTuple.key, hd])
      · exact (pending_schedule _ _ _).trans (by rw [if_neg (by simpa using hd)]; rfl)
    | some t => exact Prod.ext (hkept _) rfl

/-- The message announces its destinations, after older tuples have been erased. -/
lemma foldl_topologyAddressStep_pending (n : Node D) (msg : MessageHeader) (ansn : UInt16)
    (addrs : List Ipv4Address) (d : Ipv4Address) :
    (addrs.foldl (topologyAddressStep msg ansn) n).pending
        (Event.topologyTupleTimerExpire d msg.originatorAddress) =
      n.pending (Event.topologyTupleTimerExpire d msg.originatorAddress) +
        Lib.entries (n.storesTopology d msg.originatorAddress)
          (addrs.filterMap (announcesDest d)) := by
  rw [← Lib.foldl_announce_snd]
  exact congrArg Prod.snd (foldl_announces (fun n => n.storesTopology d msg.originatorAddress)
    (fun _ => True) (fun k addr _ => ⟨trivial, k.topologyAddressStep_announces msg ansn d addr⟩) _
    trivial)

end Topology

/-! ### Messages -/

/-- The event removes a topology tuple or a 2-hop tuple. -/
def IsTupleExpiry : Event → Prop
  | .topologyTupleTimerExpire .. | .nb2hopTupleTimerExpire .. => True
  | _ => False

instance : DecidablePred IsTupleExpiry
  | .topologyTupleTimerExpire .. | .nb2hopTupleTimerExpire .. => inferInstanceAs (Decidable True)
  | .helloTimerExpire | .tcTimerExpire | .midTimerExpire | .hnaTimerExpire | .sendQueuedMessages
  | .handleDefenseTimer | .dupTupleTimerExpire .. | .linkTupleTimerExpire ..
  | .mprSelTupleTimerExpire .. | .ifaceAssocTupleTimerExpire ..
  | .associationTupleTimerExpire .. => inferInstanceAs (Decidable False)

lemma IsTupleExpiry.not_own (he : IsTupleExpiry e) : ¬ IsOwnEvent e := by
  intro hown
  cases e with
  | topologyTupleTimerExpire d l => exact hown
  | nb2hopTupleTimerExpire a b => exact hown
  | _ => exact he

/-- How often a message enters a tuple that an event removes. -/
def entered (n : Node D) (msg : MessageHeader) (receiverIface senderIface : Ipv4Address) : Event → ℕ
  | .nb2hopTupleTimerExpire a b =>
    match msg.body with
    | .hello hello =>
      let x := n.sensedLink msg hello receiverIface senderIface
      if a = msg.originatorAddress ∧ x.badLinkType = false then
        Lib.entries (n.storesTwoHop a b)
          ((((n.withState (n.state.storeLinkTuple senderIface x.link)).originatorLinks
            msg).flatMap fun _ => helloAddresses hello).filterMap (n.announcesTwoHop b))
      else 0
    | _ => 0
  | .topologyTupleTimerExpire d l =>
    match msg.body with
    | .tc tc =>
      if l = msg.originatorAddress ∧ n.fromSymLink senderIface = true ∧
          n.state.findNewerTopologyTuple l tc.ansn = none then
        Lib.entries ((n.withState (n.state.eraseOlderTopologyTuples l tc.ansn)).storesTopology d l)
          (tc.neighborAddresses.filterMap (announcesDest d))
      else 0
    | _ => 0
  | _ => 0

section Messages

variable {receiverIface senderIface : Ipv4Address} {hello : Hello}

lemma linkTupleUpdated_fatalError (n : Node D) (tuple : LinkTuple) (w : Willingness) :
    (n.linkTupleUpdated tuple w).fatalError = n.fatalError := by
  simp only [linkTupleUpdated]
  split <;> rfl

lemma linkTupleCreated_fatalError (n : Node D) (tuple : LinkTuple) (w : Willingness) :
    (n.linkTupleCreated tuple w).fatalError = n.fatalError := rfl

/-- A running node is stopped by a HELLO message when a bad link type is met. -/
lemma linkSensing_fatalError (hrunning : n.fatalError = false) :
    (n.linkSensing msg hello receiverIface senderIface).fatalError =
      (n.sensedLink msg hello receiverIface senderIface).badLinkType := by
  simp only [linkSensing]
  generalize n.sensedLink msg hello receiverIface senderIface = x
  have hstored : (n.withState (n.state.storeLinkTuple senderIface x.link)).fatalError = false :=
    hrunning
  cases x.badLinkType with
  | true => rfl
  | false =>
    rw [if_neg Bool.false_ne_true]
    split <;> split
    · rw [linkTupleCreated_fatalError, linkTupleUpdated_fatalError, hstored]
    · rw [linkTupleCreated_fatalError, hstored]
    · rw [linkTupleUpdated_fatalError, hstored]
    · exact hstored

lemma processTc_pending {tc : Tc} (hbody : msg.body = .tc tc) (he : IsTupleExpiry e) :
    (n.processTc msg tc senderIface).pending e =
      n.pending e + n.entered msg receiverIface senderIface e := by
  have hother : (¬ ∃ d, e = Event.topologyTupleTimerExpire d msg.originatorAddress) →
      (n.processTc msg tc senderIface).pending e = n.pending e :=
    (n.processTc_schedules msg senderIface tc).events.pending
  cases e with
  | topologyTupleTimerExpire d l =>
    by_cases hl : l = msg.originatorAddress
    · subst hl
      simp only [entered, hbody, true_and]
      rw [processTc]
      cases hsym : n.fromSymLink senderIface with
      | false => rfl
      | true =>
        cases hnewer : n.state.findNewerTopologyTuple msg.originatorAddress tc.ansn with
        | some t => rfl
        | none =>
          rw [if_neg (by simp), if_neg (by simp), if_pos ⟨rfl, rfl⟩]
          exact foldl_topologyAddressStep_pending _ msg tc.ansn _ d
    · rw [hother (by simpa using hl)]
      simp only [entered, hbody, hl, false_and, if_false]
      rfl
  | nb2hopTupleTimerExpire a b =>
    rw [hother (by simp)]
    simp only [entered, hbody]
    rfl
  | _ => cases he

variable [OlsrDefenseStrategy D]

lemma processHello_pending (hbody : msg.body = .hello hello) (hrunning : n.fatalError = false)
    (he : IsTupleExpiry e) :
    (n.processHello msg hello receiverIface senderIface).pending e =
      n.pending e + n.entered msg receiverIface senderIface e := by
  have hsensing : (n.linkSensing msg hello receiverIface senderIface).pending e = n.pending e := by
    refine (n.linkSensing_schedules msg hello receiverIface senderIface).events.pending ?_
    rintro ⟨a, rfl⟩
    exact he
  have hfatal : (n.linkSensing msg hello receiverIface senderIface).fatalError =
    (n.sensedLink msg hello receiverIface senderIface).badLinkType := linkSensing_fatalError hrunning
  obtain ⟨ns, hns⟩ := n.linkSensing_state msg hello receiverIface senderIface
  have hfixed := n.linkSensing_fixed msg hello receiverIface senderIface
  simp only [processHello]
  split
  · next hstopped =>
    rw [hstopped] at hfatal
    -- The link type is bad, and the message is dropped before the 2-hop neighbors.
    rw [hsensing]
    cases e with
    | topologyTupleTimerExpire d l => simp only [entered, hbody]; rfl
    | nb2hopTupleTimerExpire a b => simp [entered, hbody, ← hfatal]
    | _ => cases he
  · next hgoes =>
    rw [Bool.not_eq_true] at hgoes
    rw [hgoes] at hfatal
    generalize n.linkSensing msg hello receiverIface senderIface = n₁ at *
    have hstate : (n₁.populateNeighborSet msg hello).state =
        ({ n.state with
          linkSet := (n.state.storeLinkTuple senderIface
            (n.sensedLink msg hello receiverIface senderIface).link).linkSet
          neighborSet := ns } : OlsrState).setNeighborWillingness msg.originatorAddress
            hello.willingness := by
      rw [populateNeighborSet_state, hns]
    have hpending : (n₁.populateNeighborSet msg hello).pending e = n.pending e := hsensing
    have hfixed₂ : (n₁.populateNeighborSet msg hello).fixed = n.fixed := hfixed
    -- From here on only what the loop over the 2-hop neighbors reads of the node matters.
    generalize n₁.populateNeighborSet msg hello = n₂ at *
    have hselector : ((n₂.populateTwoHopNeighborSet msg hello).mprComputation.populateMprSelectorSet
        msg hello).pending e = (n₂.populateTwoHopNeighborSet msg hello).pending e := by
      refine (populateMprSelectorSet_schedules _ msg hello).events.pending ?_
      rintro rfl
      exact he
    have hother : (¬ ∃ b, e = Event.nb2hopTupleTimerExpire msg.originatorAddress b) →
        (n₂.populateTwoHopNeighborSet msg hello).pending e = n₂.pending e :=
      (n₂.populateTwoHopNeighborSet_schedules msg hello).events.pending
    rw [hselector]
    cases e with
    | topologyTupleTimerExpire d l =>
      rw [hother (by simp), hpending]
      simp only [entered, hbody]
      rfl
    | nb2hopTupleTimerExpire a b =>
      -- Only pairs with the originator are entered.
      by_cases ha : a = msg.originatorAddress
      · subst ha
        have hmain : n₂.mainAddress = n.mainAddress := mainAddress_of_fixed hfixed₂
        have hassocs : n₂.state.ifaceAssocSet = n.state.ifaceAssocSet := by
          rw [hstate]
          rfl
        have hstored : n₂.storesTwoHop msg.originatorAddress b =
            n.storesTwoHop msg.originatorAddress b := by
          rw [storesTwoHop, hstate]
          rfl
        have hlinks : n₂.originatorLinks msg = (n.withState (n.state.storeLinkTuple senderIface
            (n.sensedLink msg hello receiverIface senderIface).link)).originatorLinks msg := by
          refine originatorLinks_congr ?_ hassocs (now_of_fixed hfixed₂)
          rw [hstate]
          rfl
        rw [populateTwoHopNeighborSet_pending, hpending, hstored, hlinks,
          announcesTwoHop_congr hmain hassocs]
        simp only [entered, hbody, ← hfatal, and_self, if_true]
      · rw [hother (by simpa using ha), hpending]
        simp only [entered, hbody, ha, false_and, if_false]
        rfl
    | _ => cases he

/-- **Step lemma** for messages: the number of pending timers grows by the number of entries. -/
lemma processMessage_pending (hrunning : n.fatalError = false) (he : IsTupleExpiry e) :
    (n.processMessage msg receiverIface senderIface).pending e =
      n.pending e + n.entered msg receiverIface senderIface e := by
  rw [processMessage]
  have hnone : (∀ hello, msg.body ≠ .hello hello) → (∀ tc, msg.body ≠ .tc tc) →
      n.entered msg receiverIface senderIface e = 0 := by
    intro hhello htc
    cases e with
    | topologyTupleTimerExpire d l =>
      rw [entered]
      split
      · next tc hbody => exact absurd hbody (htc tc)
      · rfl
    | nb2hopTupleTimerExpire a b =>
      rw [entered]
      split
      · next hello hbody => exact absurd hbody (hhello hello)
      · rfl
    | _ => cases he
  cases hbody : msg.body with
  | hello hello => exact processHello_pending hbody hrunning he
  | tc tc => exact processTc_pending hbody he
  | mid mid =>
    rw [hnone (by simp [hbody]) (by simp [hbody])]
    refine (n.processMid_schedules msg senderIface mid).events.pending ?_
    rintro ⟨a, rfl⟩
    exact he
  | hna hna =>
    rw [hnone (by simp [hbody]) (by simp [hbody])]
    refine (n.processHna_schedules msg senderIface hna).events.pending ?_
    rintro ⟨g, x, m, rfl⟩
    exact he

lemma recvMessage_pending {jitter : Time} (hrunning : n.fatalError = false)
    (he : IsTupleExpiry e) :
    (n.recvMessage msg receiverIface senderIface jitter).pending e =
      n.pending e + if n.reads msg = true then n.entered msg receiverIface senderIface e else 0 := by
  obtain ⟨f, hf⟩ := n.defenseHook_eq_mapDefense msg senderIface
  have hforward : ∀ k : Node D, (k.forwardDefault msg (n.duplicateOf msg) receiverIface senderIface
      jitter).pending e = k.pending e := by
    intro k
    refine (k.forwardDefault_eventsGrow jitter msg _ receiverIface senderIface).pending ?_
    rintro (hown | ⟨a, q, rfl⟩)
    · exact he.not_own hown
    · exact he
  cases hign : n.ignores msg with
  | true => simp [recvMessage, reads, hign]
  | false =>
    have hprocessed : (if (n.duplicateOf msg).isNone = true then
        (n.defenseHook msg senderIface).processMessage msg receiverIface senderIface
        else n.defenseHook msg senderIface).pending e =
        n.pending e + if n.reads msg = true then n.entered msg receiverIface senderIface e
          else 0 := by
      cases hdup : (n.duplicateOf msg).isNone with
      | true =>
        simp only [reads, hign, hdup, Bool.not_false, Bool.and_self, if_true]
        rw [hf]
        exact processMessage_pending hrunning he
      | false =>
        simp only [reads, hdup, Bool.and_false, Bool.false_eq_true, if_false]
        rw [hf]
        rfl
    simp only [recvMessage, hign, Bool.false_eq_true, if_false]
    split
    · rw [hforward, hprocessed]
    · exact hprocessed

/-! ### Acts -/

omit [OlsrDefenseStrategy D] in
lemma tupleTimer_pending_le {α : Type} {tuple : Option α} {exp : α → Time} {remove : α → Node D}
    (hremove : ∀ t, (remove t).events = n.events) :
    (n.tupleTimer tuple exp remove e).pending e ≤ n.pending e + 1 := by
  cases tuple with
  | none => exact Nat.le_succ _
  | some t =>
    simp only [tupleTimer]
    split
    · rw [pending, hremove]
      exact Nat.le_succ _
    · rw [pending_schedule, if_pos rfl]

/-- A timer that fires sets itself again at most. -/
lemma fire_pending_le {t jitter : Time} {e' : Event} (hmem : (t, e') ∈ n.events)
    (he : IsTupleExpiry e) : ((n.dequeue t e').call e' jitter).pending e ≤ n.pending e := by
  by_cases heq : e' = e
  · subst heq
    rw [← pending_dequeue_self hmem]
    cases e' with
    | topologyTupleTimerExpire d l => exact tupleTimer_pending_le fun _ => rfl
    | nb2hopTupleTimerExpire a b => exact tupleTimer_pending_le fun _ => rfl
    | _ => cases he
  · rw [((n.dequeue t e').call_eventsGrow jitter e').pending]
    · exact pending_dequeue_le t e'
    · rintro (hown | hsame)
      · exact he.not_own hown
      · exact heq hsame.symm

/-- What a message enters, it enters once, and no timer is pending for it. -/
def EntersUntimed (n : Node D) : Act D → Prop
  | .recvMessage msg receiverIface senderIface _ =>
    n.fatalError = false → n.reads msg = true → ∀ e,
      n.entered msg receiverIface senderIface e = 0 ∨
        n.entered msg receiverIface senderIface e = 1 ∧ n.isRunning e = false
  | _ => True

/-- At most one timer is pending for each topology tuple and each 2-hop tuple. -/
def TimersDistinct (n : Node D) : Prop := ∀ e, IsTupleExpiry e → n.pending e ≤ 1

/-- Messages apart, an act sets no timer that is not pending already. -/
lemma perform_pending_le {a : Act D} (htimed : n.Timed a)
    (hrecv : ∀ msg receiverIface senderIface jitter,
      a ≠ Act.recvMessage msg receiverIface senderIface jitter) (he : IsTupleExpiry e) :
    (n.perform a).pending e ≤ n.pending e := by
  by_cases hfire : ∃ t e' jitter, a = Act.fire t e' jitter
  · obtain ⟨t, e', jitter, rfl⟩ := hfire
    exact fire_pending_le htimed.2.2.1 he
  · refine (EventsGrow.pending (n.perform_eventsGrow hrecv fun t e' jitter ha => ?_) he.not_own).le
    exact hfire ⟨t, e', jitter, ha⟩

/-- **Step lemma.**  An act keeps the timers distinct exactly when it enters no tuple that has one. -/
lemma perform_timersDistinct_iff {a : Act D} (h : n.TimersDistinct)
    (hrunning : n.fatalError = false) (htimed : n.Timed a) :
    (n.perform a).TimersDistinct ↔ n.EntersUntimed a := by
  cases a with
  | recvMessage msg receiverIface senderIface jitter =>
    have hcount : ∀ e, IsTupleExpiry e →
        ((n.perform (.recvMessage msg receiverIface senderIface jitter)).pending e =
          n.pending e + if n.reads msg = true then n.entered msg receiverIface senderIface e
            else 0) := fun e he => recvMessage_pending hrunning he
    constructor
    · intro hafter _ hreads e
      by_cases he : IsTupleExpiry e
      · have hle := hafter e he
        rw [hcount e he, if_pos hreads] at hle
        rw [isRunning_eq_false_iff]
        omega
      · left
        cases e with
        | topologyTupleTimerExpire | nb2hopTupleTimerExpire => exact absurd trivial he
        | _ => rfl
    · intro hre e he
      have hle := h e he
      rw [hcount e he]
      split
      · next hreads =>
        rcases hre hrunning hreads e with hzero | ⟨hone, hidle⟩
        · omega
        · rw [isRunning_eq_false_iff] at hidle
          omega
      · exact hle
  | _ =>
    refine ⟨fun _ => trivial, fun _ e he => ?_⟩
    exact (perform_pending_le htimed (by simp) he).trans (h e he)

end Messages

/-- The timers of topology and 2-hop tuples that are pending. -/
def tupleTimers (n : Node D) : List Event :=
  (n.events.map Prod.snd).filter fun e => IsTupleExpiry e

/-- There are as many timers as keys, if there is one for each key at most. -/
lemma TimersDistinct.length_eq_card (h : n.TimersDistinct) :
    n.tupleTimers.length = n.tupleTimers.toFinset.card := by
  have hnodup : n.tupleTimers.Nodup := by
    rw [List.nodup_iff_count_le_one]
    intro e
    by_cases he : IsTupleExpiry e
    · rw [tupleTimers, List.count_filter (by simpa using he)]
      exact h e he
    · have hnone : e ∉ n.tupleTimers := fun hmem => he (by simpa using (List.mem_filter.mp hmem).2)
      rw [List.count_eq_zero_of_not_mem hnone]
      exact Nat.zero_le 1
  exact (List.toFinset_card_of_nodup hnodup).symm

end Node

/-- **No timer pile-up.**  In a run, at most one timer is pending for each key of the topology set
and of the 2-hop set, and so as many as there are keys, exactly when no message enters a tuple whose
timer is still pending, or enters it twice. -/
theorem tupleTimers_atMostOne_iff {D : Type} [OlsrDefenseStrategy D] (r : Run D) :
    (∀ n ∈ r.nodes,
      (∀ destAddr lastAddr, n.pending (.topologyTupleTimerExpire destAddr lastAddr) ≤ 1) ∧
      (∀ neighborMainAddr twoHopNeighborAddr,
        n.pending (.nb2hopTupleTimerExpire neighborMainAddr twoHopNeighborAddr) ≤ 1) ∧
      n.tupleTimers.length = n.tupleTimers.toFinset.card) ↔
    ∀ x ∈ r.trace, x.1.EntersUntimed x.2 := by
  have hdistinct : ∀ n : Node D,
      ((∀ destAddr lastAddr, n.pending (.topologyTupleTimerExpire destAddr lastAddr) ≤ 1) ∧
        (∀ neighborMainAddr twoHopNeighborAddr,
          n.pending (.nb2hopTupleTimerExpire neighborMainAddr twoHopNeighborAddr) ≤ 1) ∧
        n.tupleTimers.length = n.tupleTimers.toFinset.card) ↔ n.TimersDistinct := by
    intro n
    refine ⟨fun h e he => ?_, fun h => ⟨fun d l => h _ trivial, fun a b => h _ trivial,
      h.length_eq_card⟩⟩
    cases e with
    | topologyTupleTimerExpire d l => exact h.1 d l
    | nb2hopTupleTimerExpire a b => exact h.2.1 a b
    | _ => cases he
  simp only [hdistinct]
  constructor
  · intro h x hx
    cases hrunning : x.1.fatalError with
    | true =>
      rw [Node.EntersUntimed.eq_def]
      split
      · intro hgoes
        rw [hrunning] at hgoes
        cases hgoes
      · trivial
    | false =>
      have hafter := h _ (r.exec_mem_nodes hx)
      rw [Node.exec, if_neg (by simp [hrunning])] at hafter
      have hbefore := h x.1 (List.mem_append_left _ (List.mem_map_of_mem hx))
      exact (Node.perform_timersDistinct_iff hbefore hrunning (r.timed_trace x hx)).mp hafter
  · intro h
    refine r.nodes_inv (P := fun n a => n.Timed a ∧ n.EntersUntimed a) (fun e he => ?_)
      (fun n a hrunning hn ha => (Node.perform_timersDistinct_iff hn hrunning ha.1).mpr ha.2)
      fun x hx => ⟨r.timed_trace x hx, h x hx⟩
    -- A node starts with events of its own.
    rw [Run.start, (Node.doInitialize_eventsGrow r.config.node r.jitter).pending he.not_own]
    exact Nat.zero_le 1

section Examples

open Scenario

/-- Node 2 announces 4, revokes it and announces it again, and node 5 advertises 6 twice, with a new
number; all of them are renewed after a second, so that the timers find the tuples refreshed. -/
def reentered : Run OlsrDefenseNull where
  config := quiet
  jitter := 0
  labels := [recv 0 2 (hello 2 [symLinks [1, 4]]), recv 0 2 (hello 2 [symLinks [1], lostLinks [4]]),
    recv 0 2 (hello 2 [symLinks [1, 4]]), recv 0 2 (flooded 5 1 (.tc ⟨[6], 1⟩)),
    recv 0 2 (flooded 5 2 (.tc ⟨[6], 2⟩)), Label.timer 0 Event.sendQueuedMessages 0,
    recv (Seconds 1) 2 (hello 2 [symLinks [1, 4]]),
    recv (Seconds 1) 2 (flooded 5 3 (.tc ⟨[6], 2⟩)),
    Label.timer 2000001000 (Event.nb2hopTupleTimerExpire 2 4) 0,
    Label.timer 2000001000 (Event.nb2hopTupleTimerExpire 2 4) 0,
    Label.timer 2000001000 (Event.topologyTupleTimerExpire 6 5) 0,
    Label.timer 2000001000 (Event.topologyTupleTimerExpire 6 5) 0]
  isJitter := quiet_isJitter
  isRun := by decide +kernel

/-- Both timers of a key have fired, and both are pending again. -/
theorem reentered_twoTimers :
    Reachable reentered.final ∧
      reentered.final.pending (.nb2hopTupleTimerExpire 2 4) = 2 ∧
      reentered.final.pending (.topologyTupleTimerExpire 6 5) = 2 :=
  ⟨⟨reentered, rfl⟩, by decide +kernel⟩

end Examples

end ManetOlsr
