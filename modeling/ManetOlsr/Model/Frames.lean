/-
What the functions of the protocol leave alone.

`Node.fixed` collects the members that the functions only read: they change when time passes or
when the environment sets an attribute.  The flag of the link timers is among them, which those
timers do clear.  The repositories change in few places only; for the others
there is a `_state` lemma which says so, and for those that change one repository a lemma which
says which.
-/
import ManetOlsr.Model.Runs

namespace ManetOlsr

/-- The members that the functions of the protocol only read, but for the flag. -/
structure Fixed where
  mainAddress : Ipv4Address
  interfaces : List Ipv4Interface
  interfaceExclusions : Finset ℕ
  helloInterval : Time
  isMalicious : Bool
  spoofedLinksCount : ℕ
  now : Time
  linkTupleTimerFirstTime : Bool

namespace Node

variable {D : Type} (n : Node D)

def fixed : Fixed where
  mainAddress := n.mainAddress
  interfaces := n.interfaces
  interfaceExclusions := n.interfaceExclusions
  helloInterval := n.helloInterval
  isMalicious := n.isMalicious
  spoofedLinksCount := n.spoofedLinksCount
  now := n.now
  linkTupleTimerFirstTime := n.linkTupleTimerFirstTime

lemma now_of_fixed {n n' : Node D} (h : n'.fixed = n.fixed) : n'.now = n.now :=
  congrArg Fixed.now h

lemma mainAddress_of_fixed {n n' : Node D} (h : n'.fixed = n.fixed) :
    n'.mainAddress = n.mainAddress :=
  congrArg Fixed.mainAddress h

/-- A property of the node that every step of a loop preserves holds after the loop. -/
lemma foldl_inv {α : Type} {I : Node D → Prop} {f : Node D → α → Node D} (l : List α)
    (hf : ∀ n, ∀ a ∈ l, I n → I (f n a)) {n : Node D} (hn : I n) : I (l.foldl f n) := by
  induction l generalizing n with
  | nil => exact hn
  | cons a l ih =>
    exact ih (fun n b hb => hf n b (List.mem_cons_of_mem a hb)) (hf n a (by simp) hn)

/-- A member of the node that no step of a loop changes is the same after the loop. -/
lemma foldl_eq {α β : Type} (g : Node D → β) {f : Node D → α → Node D}
    (hf : ∀ n a, g (f n a) = g n) (l : List α) (n : Node D) : g (l.foldl f n) = g n :=
  Lib.foldl_eq g hf l n

/-- A loop whose steps only set one part of the repositories only sets that part. -/
lemma foldl_state {α β : Type} (set : OlsrState → β → OlsrState)
    (hset : ∀ s b b', set (set s b) b' = set s b') {f : Node D → α → Node D}
    (hf : ∀ n a, ∃ b, (f n a).state = set n.state b) (l : List α) (n : Node D) {b₀ : β}
    (hn : n.state = set n.state b₀) : ∃ b, (l.foldl f n).state = set n.state b := by
  refine foldl_inv (I := fun n' => ∃ b, n'.state = set n.state b) l ?_ ⟨b₀, hn⟩
  rintro n' a - ⟨b, hb⟩
  obtain ⟨b', hb'⟩ := hf n' a
  exact ⟨b', by rw [hb', hb, hset]⟩

/-! ### Elementary changes -/

section Elementary

variable (s : OlsrState) (t : Time) (e : Event) (f : D → D) (m : MessageHeader)

@[simp] lemma withState_state : (n.withState s).state = s := rfl
@[simp] lemma withState_fixed : (n.withState s).fixed = n.fixed := rfl
@[simp] lemma schedule_state : (n.schedule t e).state = n.state := rfl
@[simp] lemma schedule_fixed : (n.schedule t e).fixed = n.fixed := rfl
@[simp] lemma schedule_defenseStrategy :
    (n.schedule t e).defenseStrategy = n.defenseStrategy := rfl
@[simp] lemma schedule_table : (n.schedule t e).table = n.table := rfl
@[simp] lemma schedule_tableAvoidingSuspects :
    (n.schedule t e).tableAvoidingSuspects = n.tableAvoidingSuspects := rfl
@[simp] lemma schedule_hnaRoutingTable :
    (n.schedule t e).hnaRoutingTable = n.hnaRoutingTable := rfl
@[simp] lemma incrementAnsn_state : n.incrementAnsn.state = n.state := rfl
@[simp] lemma incrementAnsn_fixed : n.incrementAnsn.fixed = n.fixed := rfl
@[simp] lemma mapDefense_state : (n.mapDefense f).state = n.state := rfl
@[simp] lemma mapDefense_fixed : (n.mapDefense f).fixed = n.fixed := rfl
@[simp] lemma nextMessageSequenceNumber_state : n.nextMessageSequenceNumber.state = n.state := rfl
@[simp] lemma nextMessageSequenceNumber_fixed : n.nextMessageSequenceNumber.fixed = n.fixed := rfl

@[simp] lemma queueMessage_state : (n.queueMessage m t).state = n.state := by
  rw [queueMessage]
  split <;> rfl

@[simp] lemma queueMessage_fixed : (n.queueMessage m t).fixed = n.fixed := by
  rw [queueMessage]
  split <;> rfl

@[simp] lemma sendQueuedMessages_state : n.sendQueuedMessages.state = n.state :=
  foldl_eq state (f := sendPacket) (fun _ _ => rfl) _ n

@[simp] lemma sendQueuedMessages_fixed : n.sendQueuedMessages.fixed = n.fixed :=
  foldl_eq fixed (f := sendPacket) (fun _ _ => rfl) _ n

end Elementary

/-! ### Emission and defense -/

section Emission

variable (jitter : Time) (msg : MessageHeader) (a : Ipv4Address)

@[simp] lemma sendMid_state : (n.sendMid jitter).state = n.state := by
  rw [sendMid]
  split <;> simp

@[simp] lemma sendMid_fixed : (n.sendMid jitter).fixed = n.fixed := by
  rw [sendMid]
  split <;> simp

@[simp] lemma sendHna_state : (n.sendHna jitter).state = n.state := by
  rw [sendHna]
  split <;> simp

@[simp] lemma sendHna_fixed : (n.sendHna jitter).fixed = n.fixed := by
  rw [sendHna]
  split <;> simp

@[simp] lemma midTimerExpire_state : (n.midTimerExpire jitter).state = n.state := by
  simp [midTimerExpire]

@[simp] lemma midTimerExpire_fixed : (n.midTimerExpire jitter).fixed = n.fixed := by
  simp [midTimerExpire]

@[simp] lemma hnaTimerExpire_state : (n.hnaTimerExpire jitter).state = n.state := by
  rw [hnaTimerExpire]
  split <;> simp

@[simp] lemma hnaTimerExpire_fixed : (n.hnaTimerExpire jitter).fixed = n.fixed := by
  rw [hnaTimerExpire]
  split <;> simp

variable [OlsrDefenseStrategy D]

@[simp] lemma sendHello_state : (n.sendHello jitter).state = n.state := by simp [sendHello]

@[simp] lemma sendHello_fixed : (n.sendHello jitter).fixed = n.fixed := by simp [sendHello]

@[simp] lemma sendTc_state : (n.sendTc jitter).state = n.state := by simp [sendTc]

@[simp] lemma sendTc_fixed : (n.sendTc jitter).fixed = n.fixed := by simp [sendTc]; rfl

@[simp] lemma helloTimerExpire_state : (n.helloTimerExpire jitter).state = n.state := by
  simp [helloTimerExpire]

@[simp] lemma helloTimerExpire_fixed : (n.helloTimerExpire jitter).fixed = n.fixed := by
  simp [helloTimerExpire]

@[simp] lemma tcTimerExpire_state : (n.tcTimerExpire jitter).state = n.state := by
  rw [tcTimerExpire]
  split <;> simp

@[simp] lemma tcTimerExpire_fixed : (n.tcTimerExpire jitter).fixed = n.fixed := by
  rw [tcTimerExpire]
  split <;> simp

@[simp] lemma handleDefenseTimer_state : n.handleDefenseTimer.state = n.state := by
  rw [handleDefenseTimer]
  split <;> rfl

@[simp] lemma handleDefenseTimer_fixed : n.handleDefenseTimer.fixed = n.fixed := by
  rw [handleDefenseTimer]
  split <;> rfl

@[simp] lemma defenseHook_state : (n.defenseHook msg a).state = n.state := by
  rw [defenseHook]
  split <;> rfl

@[simp] lemma defenseHook_fixed : (n.defenseHook msg a).fixed = n.fixed := by
  rw [defenseHook]
  split <;> rfl

/-- The hook changes the strategy only. -/
lemma defenseHook_eq_mapDefense : ∃ f, n.defenseHook msg a = n.mapDefense f := by
  rw [defenseHook]
  split
  · exact ⟨_, rfl⟩
  · exact ⟨_, rfl⟩
  · exact ⟨id, by simp [mapDefense]⟩
  · exact ⟨id, by simp [mapDefense]⟩

@[simp] lemma macTxDrop_state : (n.macTxDrop a).state = n.state := rfl

@[simp] lemma macTxDrop_fixed : (n.macTxDrop a).fixed = n.fixed := rfl

@[simp] lemma reactivateDefenseStrategy_state : n.reactivateDefenseStrategy.state = n.state := by
  rw [reactivateDefenseStrategy]
  split
  · rfl
  · dsimp only
    split <;> rfl

@[simp] lemma reactivateDefenseStrategy_fixed : n.reactivateDefenseStrategy.fixed = n.fixed := by
  rw [reactivateDefenseStrategy]
  split
  · rfl
  · dsimp only
    split <;> rfl

end Emission

/-! ### Computations -/

section Computations

/-- The core reads the repositories and the fixed members only. -/
lemma coreTable_congr {n n' : Node D} (hfixed : n'.fixed = n.fixed) (hstate : n'.state = n.state) :
    n'.coreTable = n.coreTable := by
  cases n
  cases n'
  simp only [fixed, Fixed.mk.injEq] at hfixed hstate
  obtain ⟨rfl, rfl, rfl, rfl, rfl, rfl, rfl, rfl⟩ := hfixed
  subst hstate
  rfl

lemma coreHnaRoutes_congr {n n' : Node D} (hfixed : n'.fixed = n.fixed)
    (hstate : n'.state = n.state) : n'.coreHnaRoutes = n.coreHnaRoutes := by
  cases n
  cases n'
  simp only [fixed, Fixed.mk.injEq] at hfixed hstate
  obtain ⟨rfl, rfl, rfl, rfl, rfl, rfl, rfl, rfl⟩ := hfixed
  subst hstate
  rfl

variable [OlsrDefenseStrategy D]

@[simp] lemma routingTableComputation_state : n.routingTableComputation.state = n.state := by
  simp only [routingTableComputation]
  split <;> rfl

@[simp] lemma routingTableComputation_fixed : n.routingTableComputation.fixed = n.fixed := by
  simp only [routingTableComputation]
  split <;> rfl

/-- The table is a function of the repositories, and so is the other table of the blacklist. -/
lemma routingTableComputation_table : n.routingTableComputation.table = n.coreTable ∅ := by
  simp only [routingTableComputation]
  split <;> rfl

lemma routingTableComputation_tableAvoidingSuspects :
    n.routingTableComputation.tableAvoidingSuspects = n.coreTable n.getBlacklist := by
  simp only [routingTableComputation]
  split
  · next hempty =>
    rw [hempty]
    rfl
  · rfl

/-- The routes that the last run of the core finds: those of the table before, or what a run for
the blacklist has made of them. -/
def staleHnaRoutes (routes : List HnaRoute) : List HnaRoute :=
  if n.getBlacklist = ∅ then routes else n.coreHnaRoutes n.getBlacklist routes

lemma staleHnaRoutes_congr {n n' : Node D} (hfixed : n'.fixed = n.fixed)
    (hstate : n'.state = n.state) (hblacklist : n'.getBlacklist = n.getBlacklist) :
    n'.staleHnaRoutes = n.staleHnaRoutes := by
  funext routes
  rw [staleHnaRoutes, staleHnaRoutes, hblacklist, coreHnaRoutes_congr hfixed hstate]

lemma routingTableComputation_hnaRoutingTable :
    n.routingTableComputation.hnaRoutingTable =
      n.coreHnaRoutes ∅ (n.staleHnaRoutes n.hnaRoutingTable) := by
  simp only [routingTableComputation, staleHnaRoutes]
  split <;> rfl

@[simp] lemma routingTableComputation_defenseStrategy :
    n.routingTableComputation.defenseStrategy = n.defenseStrategy := by
  simp only [routingTableComputation]
  split <;> rfl

lemma getBlacklist_congr {n n' : Node D} (hfixed : n'.fixed = n.fixed)
    (hdefense : n'.defenseStrategy = n.defenseStrategy) : n'.getBlacklist = n.getBlacklist := by
  rw [getBlacklist, getBlacklist, hdefense, now_of_fixed hfixed]

lemma computedMprSet_congr {n n' : Node D} (hfixed : n'.fixed = n.fixed)
    (hstate : n'.state = n.state) (hdefense : n'.defenseStrategy = n.defenseStrategy) :
    n'.computedMprSet = n.computedMprSet := by
  simp only [computedMprSet, hdefense, hstate, now_of_fixed hfixed, mainAddress_of_fixed hfixed]

@[simp] lemma mprComputation_state :
    n.mprComputation.state = { n.state with mprSet := n.computedMprSet } := rfl

@[simp] lemma mprComputation_fixed : n.mprComputation.fixed = n.fixed := rfl

@[simp] lemma mprComputation_hnaRoutingTable :
    n.mprComputation.hnaRoutingTable = n.hnaRoutingTable := rfl

end Computations

/-! ### Link sensing -/

section Sensing

variable {n} {msg : MessageHeader} {hello : Hello} {receiverIface senderIface : Ipv4Address}

/-- A property of the link tuple that no link message changes. -/
lemma foldl_sensingStep_inv {I : Sensing → Prop} (vTime : Time) (ms : List LinkMessage)
    (hstep : ∀ x m, I x → I (n.sensingStep vTime receiverIface x m)) {x : Sensing} (hx : I x) :
    I (ms.foldl (n.sensingStep vTime receiverIface) x) := by
  induction ms generalizing x with
  | nil => exact hx
  | cons m ms ih => exact ih (hstep x m hx)

lemma sensedLink_neighborIfaceAddr :
    (n.sensedLink msg hello receiverIface senderIface).link.neighborIfaceAddr = senderIface := by
  refine foldl_sensingStep_inv (I := fun x => x.link.neighborIfaceAddr = senderIface) _ _ ?_ ?_
  · intro x m hx
    simp only [sensingStep]
    split
    · exact hx
    · split
      · split <;> exact hx
      · exact hx
  · cases hfind : n.state.findLinkTuple senderIface with
    | none => rfl
    | some l =>
      have hl := List.find?_some (p := fun t : LinkTuple => t.neighborIfaceAddr == senderIface) hfind
      exact beq_iff_eq.mp hl

lemma sensedLink_updated (h : n.state.findLinkTuple senderIface ≠ none) :
    (n.sensedLink msg hello receiverIface senderIface).updated = true := by
  refine foldl_sensingStep_inv (I := fun x => x.updated = true) _ _ ?_ ?_
  · intro x m hx
    simp only [sensingStep]
    split
    · exact hx
    · split
      · split <;> first | rfl | exact hx
      · exact hx
  · obtain ⟨l, hl⟩ := Option.ne_none_iff_exists'.mp h
    simp [hl]

end Sensing

/-! ### Reception -/

section Reception

variable (msg : MessageHeader) (hello : Hello) (tuple : LinkTuple) (nb : NeighborTuple)
  (w : Willingness) (receiverIface senderIface : Ipv4Address)

@[simp] lemma addNeighborTuple_fixed : (n.addNeighborTuple nb).fixed = n.fixed := rfl

@[simp] lemma addNeighborTuple_state :
    (n.addNeighborTuple nb).state = n.state.insertNeighborTuple nb := rfl

@[simp] lemma linkTupleAdded_fixed : (n.linkTupleAdded tuple w).fixed = n.fixed := rfl

@[simp] lemma linkTupleUpdated_fixed : (n.linkTupleUpdated tuple w).fixed = n.fixed := by
  simp only [linkTupleUpdated]
  split <;> rfl

lemma linkTupleUpdated_state :
    ∃ ns, (n.linkTupleUpdated tuple w).state = { n.state with neighborSet := ns } := by
  simp only [linkTupleUpdated]
  split
  · exact ⟨_, rfl⟩
  · exact ⟨_, rfl⟩

/-- `LinkTupleUpdated` leaves a tuple for the neighbor, whose status follows from its links. -/
lemma linkTupleUpdated_find :
    ∃ nb, (n.linkTupleUpdated tuple w).state.findNeighborTuple
        (n.getMainAddress tuple.neighborIfaceAddr) = some nb ∧
      nb.status = if n.hasSymmetricLink (n.getMainAddress tuple.neighborIfaceAddr) then Status.sym
        else Status.notSym := by
  simp only [linkTupleUpdated]
  split
  · rw [withState_state, OlsrState.findNeighborTuple_setStatus_self, linkTupleAdded,
      addNeighborTuple_state, OlsrState.findNeighborTuple_insert_self]
    exact ⟨_, rfl, rfl⟩
  · next hsome =>
    rw [Option.isNone_iff_eq_none] at hsome
    obtain ⟨nb, hnb⟩ := Option.ne_none_iff_exists'.mp hsome
    rw [withState_state, OlsrState.findNeighborTuple_setStatus_self, hnb]
    exact ⟨_, rfl, rfl⟩

/-- The neighbors of other main addresses are left alone. -/
lemma linkTupleUpdated_find_of_ne {a : Ipv4Address}
    (h : n.getMainAddress tuple.neighborIfaceAddr ≠ a) :
    (n.linkTupleUpdated tuple w).state.findNeighborTuple a = n.state.findNeighborTuple a := by
  simp only [linkTupleUpdated]
  split
  · rw [withState_state, OlsrState.findNeighborTuple_setStatus_of_ne _ h, linkTupleAdded,
      addNeighborTuple_state, OlsrState.findNeighborTuple_insert_of_ne _ (by simpa using h)]
  · rw [withState_state, OlsrState.findNeighborTuple_setStatus_of_ne _ h]

@[simp] lemma linkTupleCreated_fixed : (n.linkTupleCreated tuple w).fixed = n.fixed := rfl

@[simp] lemma linkSensing_fixed :
    (n.linkSensing msg hello receiverIface senderIface).fixed = n.fixed := by
  simp only [linkSensing]
  split
  · rfl
  · split <;> split <;> simp

/-- `LinkSensing` changes links and neighbors only. -/
lemma linkSensing_state :
    ∃ ns, (n.linkSensing msg hello receiverIface senderIface).state =
      { n.state with
        linkSet := (n.state.storeLinkTuple senderIface
          (n.sensedLink msg hello receiverIface senderIface).link).linkSet
        neighborSet := ns } := by
  simp only [linkSensing]
  set n₁ := n.withState (n.state.storeLinkTuple senderIface
    (n.sensedLink msg hello receiverIface senderIface).link)
  split
  · exact ⟨_, rfl⟩
  · obtain ⟨ns, hns⟩ := n₁.linkTupleUpdated_state
      (n.sensedLink msg hello receiverIface senderIface).link hello.willingness
    have hn₁ : n₁.state = n.state.storeLinkTuple senderIface
      (n.sensedLink msg hello receiverIface senderIface).link := rfl
    split <;> split <;>
      simp only [linkTupleCreated, linkTupleAdded, schedule_state, addNeighborTuple_state,
        OlsrState.insertNeighborTuple, hns, hn₁] <;>
      exact ⟨_, rfl⟩

@[simp] lemma populateNeighborSet_fixed : (n.populateNeighborSet msg hello).fixed = n.fixed := rfl

@[simp] lemma populateNeighborSet_state :
    (n.populateNeighborSet msg hello).state =
      n.state.setNeighborWillingness msg.originatorAddress hello.willingness := rfl

@[simp] lemma twoHopAddressStep_fixed (nt : NeighborType) (addr : Ipv4Address) :
    (twoHopAddressStep msg nt n addr).fixed = n.fixed := by
  simp only [twoHopAddressStep]
  split
  · split
    · rfl
    · split <;> rfl
  · split
    · rfl
    · split <;> rfl
  · rfl
  · rfl

lemma twoHopAddressStep_state (nt : NeighborType) (addr : Ipv4Address) :
    ∃ ths, (twoHopAddressStep msg nt n addr).state = { n.state with twoHopNeighborSet := ths } := by
  simp only [twoHopAddressStep]
  split
  · split
    · exact ⟨_, rfl⟩
    · split <;> exact ⟨_, rfl⟩
  · split
    · exact ⟨_, rfl⟩
    · split <;> exact ⟨_, rfl⟩
  · exact ⟨_, rfl⟩
  · exact ⟨_, rfl⟩

@[simp] lemma populateTwoHopNeighborSet_fixed :
    (n.populateTwoHopNeighborSet msg hello).fixed = n.fixed := by
  refine foldl_eq fixed (fun n _ => ?_) _ n
  refine foldl_eq fixed (fun n m => ?_) _ n
  exact foldl_eq fixed (fun n a => n.twoHopAddressStep_fixed msg _ a) _ n

/-- `PopulateTwoHopNeighborSet` changes 2-hop tuples only. -/
lemma populateTwoHopNeighborSet_state :
    ∃ ths, (n.populateTwoHopNeighborSet msg hello).state =
      { n.state with twoHopNeighborSet := ths } := by
  let set := fun (s : OlsrState) ths => { s with twoHopNeighborSet := ths }
  refine foldl_state set (fun _ _ _ => rfl) (fun n _ => ?_) _ n rfl
  refine foldl_state set (fun _ _ _ => rfl) (fun n m => ?_) _ n rfl
  exact foldl_state set (fun _ _ _ => rfl) (fun n a => n.twoHopAddressStep_state msg _ a) _ n rfl

@[simp] lemma mprSelectorStep_fixed (addr : Ipv4Address) :
    (mprSelectorStep msg n addr).fixed = n.fixed := by
  simp only [mprSelectorStep]
  split
  · split <;> rfl
  · rfl

lemma mprSelectorStep_state (addr : Ipv4Address) :
    ∃ ms, (mprSelectorStep msg n addr).state = { n.state with mprSelectorSet := ms } := by
  simp only [mprSelectorStep]
  split
  · split <;> exact ⟨_, rfl⟩
  · exact ⟨_, rfl⟩

@[simp] lemma populateMprSelectorSet_fixed :
    (n.populateMprSelectorSet msg hello).fixed = n.fixed := by
  refine foldl_eq fixed (fun n m => ?_) _ n
  exact foldl_eq fixed (fun n a => n.mprSelectorStep_fixed msg a) _ n

/-- `PopulateMprSelectorSet` changes MPR selector tuples only. -/
lemma populateMprSelectorSet_state :
    ∃ ms, (n.populateMprSelectorSet msg hello).state = { n.state with mprSelectorSet := ms } := by
  let set := fun (s : OlsrState) ms => { s with mprSelectorSet := ms }
  refine foldl_state set (fun _ _ _ => rfl) (fun n m => ?_) _ n rfl
  exact foldl_state set (fun _ _ _ => rfl) (fun n a => n.mprSelectorStep_state msg a) _ n rfl

@[simp] lemma topologyAddressStep_fixed (ansn : UInt16) (addr : Ipv4Address) :
    (topologyAddressStep msg ansn n addr).fixed = n.fixed := by
  simp only [topologyAddressStep]
  split <;> rfl

lemma topologyAddressStep_state (ansn : UInt16) (addr : Ipv4Address) :
    ∃ ts, (topologyAddressStep msg ansn n addr).state = { n.state with topologySet := ts } := by
  simp only [topologyAddressStep]
  split <;> exact ⟨_, rfl⟩

@[simp] lemma processTc_fixed (tc : Tc) : (n.processTc msg tc senderIface).fixed = n.fixed := by
  rw [processTc]
  split
  · rfl
  · split
    · rfl
    · rw [foldl_eq fixed (fun n a => n.topologyAddressStep_fixed msg tc.ansn a), withState_fixed]

/-- `ProcessTc` changes topology tuples only. -/
lemma processTc_state (tc : Tc) :
    ∃ ts, (n.processTc msg tc senderIface).state = { n.state with topologySet := ts } := by
  rw [processTc]
  split
  · exact ⟨_, rfl⟩
  · split
    · exact ⟨_, rfl⟩
    · obtain ⟨ts, hts⟩ := foldl_state (fun s ts => { s with topologySet := ts })
        (fun _ _ _ => rfl) (fun n a => n.topologyAddressStep_state msg tc.ansn a)
        tc.neighborAddresses
        (n.withState (n.state.eraseOlderTopologyTuples msg.originatorAddress tc.ansn)) rfl
      exact ⟨ts, hts⟩

@[simp] lemma midAddressStep_fixed (addr : Ipv4Address) :
    (midAddressStep msg n addr).fixed = n.fixed := by
  simp only [midAddressStep]
  split <;> rfl

lemma midAddressStep_state (addr : Ipv4Address) :
    ∃ ias, (midAddressStep msg n addr).state = { n.state with ifaceAssocSet := ias } := by
  simp only [midAddressStep]
  split <;> exact ⟨_, rfl⟩

@[simp] lemma remapNeighbors_fixed : n.remapNeighbors.fixed = n.fixed := rfl

@[simp] lemma processMid_fixed (mid : Mid) : (n.processMid msg mid senderIface).fixed = n.fixed := by
  rw [processMid]
  split
  · rfl
  · rw [remapNeighbors_fixed, foldl_eq fixed (fun n a => n.midAddressStep_fixed msg a)]

/-- `ProcessMid` changes interface associations, neighbors and 2-hop tuples only. -/
lemma processMid_state (mid : Mid) :
    ∃ ias ns ths, (n.processMid msg mid senderIface).state =
      { n.state with ifaceAssocSet := ias, neighborSet := ns, twoHopNeighborSet := ths } := by
  rw [processMid]
  split
  · exact ⟨_, _, _, rfl⟩
  · obtain ⟨ias, hias⟩ := foldl_state (fun s ias => { s with ifaceAssocSet := ias })
      (fun _ _ _ => rfl) (fun n a => n.midAddressStep_state msg a) mid.interfaceAddresses n rfl
    exact ⟨_, _, _, by rw [remapNeighbors, withState_state, hias]⟩

@[simp] lemma associationStep_fixed (a : Association) :
    (associationStep msg n a).fixed = n.fixed := by
  simp only [associationStep]
  split <;> rfl

lemma associationStep_state (a : Association) :
    ∃ as, (associationStep msg n a).state = { n.state with associationSet := as } := by
  simp only [associationStep]
  split <;> exact ⟨_, rfl⟩

@[simp] lemma processHna_fixed (hna : Hna) : (n.processHna msg hna senderIface).fixed = n.fixed := by
  rw [processHna]
  split
  · rfl
  · exact foldl_eq fixed (fun n a => n.associationStep_fixed msg a) _ n

/-- `ProcessHna` changes association tuples only. -/
lemma processHna_state (hna : Hna) :
    ∃ as, (n.processHna msg hna senderIface).state = { n.state with associationSet := as } := by
  rw [processHna]
  split
  · exact ⟨_, rfl⟩
  · exact foldl_state (fun s as => { s with associationSet := as }) (fun _ _ _ => rfl)
      (fun n a => n.associationStep_state msg a) _ n rfl

@[simp] lemma forwardDefault_fixed (duplicated : Option DuplicateTuple) (jitter : Time) :
    (n.forwardDefault msg duplicated receiverIface senderIface jitter).fixed = n.fixed := by
  simp only [forwardDefault]
  split
  · rfl
  · split
    · rfl
    · split <;> split <;> simp

/-- `ForwardDefault` changes duplicate tuples only. -/
lemma forwardDefault_state (duplicated : Option DuplicateTuple) (jitter : Time) :
    ∃ ds, (n.forwardDefault msg duplicated receiverIface senderIface jitter).state =
      { n.state with duplicateSet := ds } := by
  simp only [forwardDefault]
  split
  · exact ⟨_, rfl⟩
  · split
    · exact ⟨_, rfl⟩
    · split <;> split <;>
        simp only [schedule_state, withState_state, queueMessage_state,
          OlsrState.updateDuplicateTuple, OlsrState.insertDuplicateTuple] <;>
        exact ⟨_, rfl⟩

@[simp] lemma queueMessage_fatalError (m : MessageHeader) (t : Time) :
    (n.queueMessage m t).fatalError = n.fatalError := by
  rw [queueMessage]
  split <;> rfl

lemma forwardDefault_fatalError (duplicated : Option DuplicateTuple) (jitter : Time) :
    (n.forwardDefault msg duplicated receiverIface senderIface jitter).fatalError =
      n.fatalError := by
  simp only [forwardDefault]
  split
  · rfl
  · split
    · rfl
    · split <;> split <;> simp [withState, schedule]

end Reception

/-! ### Messages -/

section Messages

variable [OlsrDefenseStrategy D] (msg : MessageHeader) (receiverIface senderIface : Ipv4Address)

@[simp] lemma processHello_fixed (hello : Hello) :
    (n.processHello msg hello receiverIface senderIface).fixed = n.fixed := by
  simp only [processHello]
  split <;> simp

/-- `ProcessHello` changes links, neighbors, 2-hop tuples, the MPR set and MPR selectors only. -/
lemma processHello_state (hello : Hello) :
    ∃ ls ns ths mprs ms, (n.processHello msg hello receiverIface senderIface).state =
      { n.state with
        linkSet := ls, neighborSet := ns, twoHopNeighborSet := ths, mprSet := mprs,
        mprSelectorSet := ms } := by
  obtain ⟨ns, hns⟩ := n.linkSensing_state msg hello receiverIface senderIface
  simp only [processHello]
  split
  · exact ⟨_, _, _, _, _, hns⟩
  · obtain ⟨ths, hths⟩ := populateTwoHopNeighborSet_state
      ((n.linkSensing msg hello receiverIface senderIface).populateNeighborSet msg hello) msg hello
    obtain ⟨ms, hms⟩ := populateMprSelectorSet_state
      (((n.linkSensing msg hello receiverIface senderIface).populateNeighborSet msg
        hello).populateTwoHopNeighborSet msg hello).mprComputation msg hello
    rw [hms, mprComputation_state, hths, populateNeighborSet_state, hns,
      OlsrState.setNeighborWillingness]
    exact ⟨_, _, _, _, _, rfl⟩

@[simp] lemma processMessage_fixed :
    (n.processMessage msg receiverIface senderIface).fixed = n.fixed := by
  rw [processMessage]
  split <;> simp

@[simp] lemma recvMessage_fixed (jitter : Time) :
    (n.recvMessage msg receiverIface senderIface jitter).fixed = n.fixed := by
  simp only [recvMessage]
  split
  · rfl
  · split <;> split <;> simp

/-- Up to the duplicate set, a message changes the repositories by its processing. -/
lemma recvMessage_state (jitter : Time) :
    ∃ ds, (n.recvMessage msg receiverIface senderIface jitter).state =
      { (if n.reads msg then
          (n.defenseHook msg senderIface).processMessage msg receiverIface senderIface
        else n).state with duplicateSet := ds } := by
  by_cases hign : n.ignores msg = true
  · exact ⟨n.state.duplicateSet, by simp [recvMessage, reads, hign]⟩
  · by_cases hdup : (n.duplicateOf msg).isNone = true <;>
      by_cases hfwd : n.doForwarding msg receiverIface = true <;>
      simp only [recvMessage, reads, hign, hdup, hfwd, if_true, Bool.not_false,
        Bool.and_self, Bool.and_false]
    · exact forwardDefault_state _ _ _ _ _ _
    · exact ⟨_, rfl⟩
    · obtain ⟨ds, hds⟩ := forwardDefault_state (n.defenseHook msg senderIface) msg receiverIface
        senderIface (n.duplicateOf msg) jitter
      exact ⟨ds, by simpa using hds⟩
    · exact ⟨n.state.duplicateSet, by simp⟩

/-- A node that goes on after a message has not been stopped by its processing. -/
lemma processMessage_running {jitter : Time} (hreads : n.reads msg = true)
    (h : (n.recvMessage msg receiverIface senderIface jitter).fatalError = false) :
    ((n.defenseHook msg senderIface).processMessage msg receiverIface senderIface).fatalError =
      false := by
  rw [reads, Bool.and_eq_true, Bool.not_eq_true'] at hreads
  simp only [recvMessage, hreads, Bool.false_eq_true, if_false, if_true] at h
  split at h
  · rwa [forwardDefault_fatalError] at h
  · exact h

end Messages

/-! ### Timers and acts -/

section Acts

@[simp] lemma dropNeighbor_fixed (tuple : LinkTuple) : (n.dropNeighbor tuple).fixed = n.fixed :=
  n.linkTupleUpdated_fixed tuple Willingness.default

@[simp] lemma dropNeighbor_hnaRoutingTable (tuple : LinkTuple) :
    (n.dropNeighbor tuple).hnaRoutingTable = n.hnaRoutingTable := by
  simp only [dropNeighbor, linkTupleUpdated]
  split <;> rfl

lemma dropNeighbor_state (tuple : LinkTuple) :
    ∃ ns, (n.dropNeighbor tuple).state =
      (({ n.state with neighborSet := ns } : OlsrState).eraseTwoHopNeighborTuples
        (n.getMainAddress tuple.neighborIfaceAddr)).eraseMprSelectorTuples
          (n.getMainAddress tuple.neighborIfaceAddr) := by
  obtain ⟨ns, hns⟩ := n.linkTupleUpdated_state tuple Willingness.default
  exact ⟨ns, by simp only [dropNeighbor, withState_state, getMainAddress, hns]; rfl⟩

lemma tupleTimer_state_inv {Q : OlsrState → Prop} {α : Type} {tuple : Option α} {exp : α → Time}
    {remove : α → Node D} {e : Event} (hn : Q n.state)
    (h : ∀ t, tuple = some t → exp t < n.now → Q (remove t).state) :
    Q (n.tupleTimer tuple exp remove e).state := by
  cases tuple with
  | none => exact hn
  | some t =>
    simp only [tupleTimer]
    split
    · next hexp => exact h t rfl hexp
    · exact hn

lemma tupleTimer_fixed {α : Type} {tuple : Option α} {exp : α → Time} {remove : α → Node D}
    {e : Event} (h : ∀ t, (remove t).fixed = n.fixed) :
    (n.tupleTimer tuple exp remove e).fixed = n.fixed := by
  cases tuple with
  | none => rfl
  | some t =>
    simp only [tupleTimer]
    split
    · exact h t
    · rfl

@[simp] lemma dequeue_state (t : Time) (e : Event) : (n.dequeue t e).state = n.state := rfl

@[simp] lemma dequeue_fixed (t : Time) (e : Event) : (n.dequeue t e).fixed = n.fixed := rfl

variable [OlsrDefenseStrategy D]

@[simp] lemma neighborLoss_fixed (tuple : LinkTuple) : (n.neighborLoss tuple).fixed = n.fixed := by
  simp [neighborLoss]

/-- `NeighborLoss` recomputes the MPR set after it has dropped the tuples of the neighbor. -/
lemma neighborLoss_state (tuple : LinkTuple) :
    (n.neighborLoss tuple).state =
      { (n.dropNeighbor tuple).state with mprSet := (n.dropNeighbor tuple).computedMprSet } := by
  simp [neighborLoss]

/-- What the timer of a link can do to the repositories. -/
lemma linkTupleTimerExpire_state_inv {Q : OlsrState → Prop} {a : Ipv4Address} (hn : Q n.state)
    (hremove : ∀ tuple, n.state.findLinkTuple a = some tuple → tuple.time < n.now →
      Q (n.removeLinkTuple tuple).state)
    (hloss : ∀ tuple, n.state.findLinkTuple a = some tuple → ¬ tuple.time < n.now →
      tuple.symTime < n.now → n.linkTupleTimerFirstTime = false → Q (n.neighborLoss tuple).state) :
    Q (n.linkTupleTimerExpire a).state := by
  simp only [linkTupleTimerExpire]
  split
  · exact hn
  · next tuple htuple =>
    split
    · next htime => exact hremove tuple htuple htime
    · next htime =>
      split
      · next hsym =>
        split
        · exact hn
        · next hflag => exact hloss tuple htuple htime hsym (by simpa using hflag)
      · exact hn

/-- What an event can do to the repositories: the emission timers do nothing to them. -/
lemma call_state_inv {Q : OlsrState → Prop} {e : Event} {jitter : Time} (hn : Q n.state)
    (hdup : ∀ ds, Q { n.state with duplicateSet := ds })
    (hlink : ∀ a, e = Event.linkTupleTimerExpire a → Q (n.linkTupleTimerExpire a).state)
    (hnb2hop : ∀ t ∈ n.state.twoHopNeighborSet, Q (n.state.eraseTwoHopNeighborTuple t))
    (hmprSel : ∀ t ∈ n.state.mprSelectorSet, Q (n.state.eraseMprSelectorTuple t))
    (htopology : ∀ t ∈ n.state.topologySet, Q (n.state.eraseTopologyTuple t))
    (hiface : ∀ a t, e = Event.ifaceAssocTupleTimerExpire a →
      n.state.findIfaceAssocTuple a = some t → t.time < n.now → Q (n.state.eraseIfaceAssocTuple t))
    (hassociation : ∀ t ∈ n.state.associationSet, Q (n.state.eraseAssociationTuple t)) :
    Q (n.call e jitter).state := by
  cases e with
  | helloTimerExpire => rwa [call, helloTimerExpire_state]
  | tcTimerExpire => rwa [call, tcTimerExpire_state]
  | midTimerExpire => rwa [call, midTimerExpire_state]
  | hnaTimerExpire => rwa [call, hnaTimerExpire_state]
  | sendQueuedMessages => rwa [call, sendQueuedMessages_state]
  | handleDefenseTimer => rwa [call, handleDefenseTimer_state]
  | dupTupleTimerExpire => exact n.tupleTimer_state_inv hn fun _ _ _ => hdup _
  | linkTupleTimerExpire a => exact hlink a rfl
  | nb2hopTupleTimerExpire =>
    exact n.tupleTimer_state_inv hn fun t ht _ => hnb2hop t (List.mem_of_find?_eq_some ht)
  | mprSelTupleTimerExpire =>
    exact n.tupleTimer_state_inv hn fun t ht _ => hmprSel t (List.mem_of_find?_eq_some ht)
  | topologyTupleTimerExpire =>
    exact n.tupleTimer_state_inv hn fun t ht _ => htopology t (List.mem_of_find?_eq_some ht)
  | ifaceAssocTupleTimerExpire a =>
    exact n.tupleTimer_state_inv hn fun t ht hexp => hiface a t rfl ht hexp
  | associationTupleTimerExpire =>
    exact n.tupleTimer_state_inv hn fun t ht _ => hassociation t (List.mem_of_find?_eq_some ht)

/-- The flag of the link timers after an event: the first loss clears it. -/
def firstTimeAfter : Event → Bool
  | Event.linkTupleTimerExpire a => n.linkTupleTimerFirstTime && !n.losesLink a
  | _ => n.linkTupleTimerFirstTime

lemma linkTupleTimerExpire_fixed (a : Ipv4Address) :
    (n.linkTupleTimerExpire a).fixed =
      { n.fixed with
        linkTupleTimerFirstTime := n.firstTimeAfter (Event.linkTupleTimerExpire a) } := by
  simp only [linkTupleTimerExpire, firstTimeAfter, losesLink]
  split
  · next hnone => simp [hnone, fixed]
  · next tuple htuple =>
    split
    · next htime => simp [htuple, htime, removeLinkTuple, fixed, withState]
    · next htime =>
      split
      · next hsym =>
        split
        · next hfirst => simp [htuple, hsym, htime, fixed, schedule]
        · next hfirst =>
          rw [schedule_fixed, neighborLoss_fixed]
          simp [hfirst, fixed]
      · next hsym => simp [htuple, hsym, fixed, schedule]

lemma call_fixed (e : Event) (jitter : Time) :
    (n.call e jitter).fixed =
      { n.fixed with linkTupleTimerFirstTime := n.firstTimeAfter e } := by
  cases e with
  | dupTupleTimerExpire | nb2hopTupleTimerExpire | mprSelTupleTimerExpire
  | topologyTupleTimerExpire | ifaceAssocTupleTimerExpire | associationTupleTimerExpire =>
    exact n.tupleTimer_fixed fun _ => rfl
  | linkTupleTimerExpire a => exact n.linkTupleTimerExpire_fixed a
  | _ => simp [call, firstTimeAfter]; rfl

lemma startDefense_state :
    n.startDefense.state =
      { n.state with ifaceAssocSet := n.state.ifaceAssocSet ++ n.ownIfaceAssocs } := by
  simp only [startDefense]
  split <;> rfl

lemma startDefense_fixed :
    n.startDefense.fixed = { n.fixed with mainAddress := n.chosenMainAddress } := by
  simp only [startDefense]
  split <;> rfl

lemma doInitialize_fixed (jitter : Time) :
    (n.doInitialize jitter).fixed = { n.fixed with mainAddress := n.chosenMainAddress } := by
  rw [← startDefense_fixed, doInitialize]
  split <;> simp

/-- A node starts with the associations of its own interfaces. -/
lemma doInitialize_state (jitter : Time) :
    (n.doInitialize jitter).state =
      { n.state with ifaceAssocSet := n.state.ifaceAssocSet ++ n.ownIfaceAssocs } := by
  simp only [doInitialize]
  split <;> simp [startDefense_state]

/-- Up to the duplicates and the announced networks, which the property does not depend on, only
the processing of a message and the timers change the repositories. -/
lemma perform_state_inv {Q : OlsrState → Prop}
    (hdup : ∀ s ds, Q s → Q { s with duplicateSet := ds })
    (hassoc : ∀ s as, Q s → Q { s with associations := as }) {a : Act D} (hn : Q n.state)
    (hrecv : ∀ msg receiverIface senderIface jitter,
      a = Act.recvMessage msg receiverIface senderIface jitter → n.reads msg = true →
      Q ((n.defenseHook msg senderIface).processMessage msg receiverIface senderIface).state)
    (hfire : ∀ t e jitter, a = Act.fire t e jitter → Q ((n.dequeue t e).call e jitter).state) :
    Q (n.perform a).state := by
  cases a with
  | recvMessage msg receiverIface senderIface jitter =>
    obtain ⟨ds, hds⟩ := n.recvMessage_state msg receiverIface senderIface jitter
    rw [perform, hds]
    refine hdup _ _ ?_
    split
    · next hreads => exact hrecv _ _ _ _ rfl hreads
    · exact hn
  | fire t e jitter => exact hfire t e jitter rfl
  | addHostNetworkAssociation networkAddr netmask =>
    rw [perform, addHostNetworkAssociation]
    split
    · exact hn
    · exact hassoc _ _ hn
  | removeHostNetworkAssociation => exact hassoc _ _ hn
  | routingTableComputation => rwa [perform, routingTableComputation_state]
  | reactivateDefenseStrategy => rwa [perform, reactivateDefenseStrategy_state]
  | advance | macTxDrop | onLocalRxDrop | setDefenseStrategy | setAttack => exact hn

/-- The flag of the link timers after an act. -/
def firstTimeAfterAct : Act D → Bool
  | .fire _ e _ => n.firstTimeAfter e
  | _ => n.linkTupleTimerFirstTime

/-- The members that the protocol only reads are changed by time and by the environment. -/
lemma perform_fixed (a : Act D) (hadv : ∀ t, a ≠ Act.advance t)
    (hattack : ∀ m k, a ≠ Act.setAttack m k) :
    (n.perform a).fixed =
      { n.fixed with linkTupleTimerFirstTime := n.firstTimeAfterAct a } := by
  cases a with
  | advance t => exact absurd rfl (hadv t)
  | setAttack m k => exact absurd rfl (hattack m k)
  | fire t e jitter =>
    rw [perform, call_fixed]
    rfl
  | addHostNetworkAssociation =>
    rw [perform, addHostNetworkAssociation]
    split <;> rfl
  | onLocalRxDrop | setDefenseStrategy | removeHostNetworkAssociation => rfl
  | recvMessage | routingTableComputation | macTxDrop | reactivateDefenseStrategy =>
    simp [perform, firstTimeAfterAct]
    rfl

/-- The main address of a node never changes once it has started. -/
@[simp] lemma perform_mainAddress (a : Act D) : (n.perform a).mainAddress = n.mainAddress := by
  have h := n.perform_fixed a
  cases a with
  | advance | setAttack => rfl
  | _ => exact congrArg Fixed.mainAddress (h (by simp) (by simp))

/-- Time stands still during the other acts. -/
lemma perform_now (a : Act D) (hadv : ∀ t, a ≠ Act.advance t) : (n.perform a).now = n.now := by
  have h := n.perform_fixed a hadv
  cases a with
  | setAttack => rfl
  | _ => exact congrArg Fixed.now (h (by simp))

/-- Only a link timer can clear the flag, and nothing sets it. -/
lemma perform_firstTime (a : Act D) :
    (n.perform a).linkTupleTimerFirstTime = n.firstTimeAfterAct a := by
  have h := n.perform_fixed a
  cases a with
  | advance | setAttack => rfl
  | _ => exact congrArg Fixed.linkTupleTimerFirstTime (h (by simp) (by simp))

end Acts

end Node

end ManetOlsr
