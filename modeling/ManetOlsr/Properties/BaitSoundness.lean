/-
The fictitious node as a bait.

The first contradiction rule suspects a sender that claims the fictitious node of the node that
applies it, since nobody but an attacker would claim it.  Here this is shown for networks without
attackers, in which no node owns a fictitious address: the links and the interface associations of
a node lead to addresses that some node owns, so that a HELLO message lists nothing but such
addresses and the fictitious address of its sender, and no node gets to know its own fictitious
node as a 2-hop neighbor.
-/
import ManetOlsr.Model.AddressSources
import ManetOlsr.Model.Gcop
import ManetOlsr.Model.Network
import ManetOlsr.Model.Scenario

namespace ManetOlsr

/-! ### The branches of the first rule -/

namespace OlsrDefenseGcop

variable (d : OlsrDefenseGcop) (s : OlsrState) (senderAddress : Ipv4Address)

/-- The first branch of `CheckRule1`: a claimed neighbor of this node does not claim the sender. -/
def isDisavowed : Bool :=
  (claimedBy s senderAddress).any fun nb2hopAddr =>
    (s.neighborSet.any fun nei => nei.neighborMainAddr == nb2hopAddr) &&
      !s.twoHopNeighborSet.any fun v =>
        v.neighborMainAddr == nb2hopAddr && v.twoHopNeighborAddr == senderAddress

/-- The second branch of `CheckRule1`: the sender claims the bait. -/
def takesBait : Bool :=
  (claimedBy s senderAddress).any fun nb2hopAddr =>
    !(s.neighborSet.any fun nei => nei.neighborMainAddr == nb2hopAddr) &&
      nb2hopAddr == d.fakeAddress

lemma checkRule1_eq_or :
    d.checkRule1 s senderAddress = (isDisavowed s senderAddress || d.takesBait s senderAddress) := by
  rw [Bool.eq_iff_iff, Bool.or_eq_true, checkRule1, isDisavowed, takesBait, List.any_eq_true,
    List.any_eq_true, List.any_eq_true, ← exists_or]
  refine exists_congr fun nb2hopAddr => ?_
  rw [← and_or_left]
  refine and_congr_right fun _ => ?_
  cases s.neighborSet.any fun nei => nei.neighborMainAddr == nb2hopAddr with
  | true => simp
  | false => simp

end OlsrDefenseGcop

/-! ### What a node knows -/

/-- The links and interface associations lead to owned addresses, and the bait is no 2-hop
neighbor. -/
structure OlsrState.BaitFree (owned : Set Ipv4Address) (bait : Ipv4Address) (s : OlsrState) :
    Prop where
  link : ∀ l ∈ s.linkSet, l.neighborIfaceAddr ∈ owned
  ifaceAssoc : ∀ t ∈ s.ifaceAssocSet, t.ifaceAddr ∈ owned ∧ t.mainAddr ∈ owned
  twoHop : ∀ t ∈ s.twoHopNeighborSet, t.twoHopNeighborAddr ≠ bait

namespace OlsrState.BaitFree

variable {owned : Set Ipv4Address} {bait a : Ipv4Address} {s s' : OlsrState}

/-- Less knowledge is as good. -/
lemma mono (h : s.BaitFree owned bait) (hlink : s'.linkSet ⊆ s.linkSet)
    (hassoc : s'.ifaceAssocSet ⊆ s.ifaceAssocSet)
    (htwoHop : s'.twoHopNeighborSet ⊆ s.twoHopNeighborSet) : s'.BaitFree owned bait :=
  ⟨fun l hl => h.link l (hlink hl), fun t ht => h.ifaceAssoc t (hassoc ht),
    fun t ht => h.twoHop t (htwoHop ht)⟩

/-- A main address is owned, unless it is the address itself. -/
lemma getMainAddress (h : s.BaitFree owned bait) (a : Ipv4Address) :
    s.getMainAddress a = a ∨ s.getMainAddress a ∈ owned := by
  rw [OlsrState.getMainAddress]
  split
  · next t ht => exact Or.inr (h.ifaceAssoc t (List.mem_of_find?_eq_some ht)).2
  · exact Or.inl rfl

lemma getMainAddress_ne (h : s.BaitFree owned bait) (hbait : bait ∉ owned) (ha : a ≠ bait) :
    s.getMainAddress a ≠ bait := by
  rcases h.getMainAddress a with hself | howned
  · rwa [hself]
  · rintro rfl
    exact hbait howned

lemma sourced (h : s.BaitFree owned bait) :
    s.Sourced (· ∈ owned) (fun a main => a ∈ owned ∧ main ∈ owned) := ⟨h.link, h.ifaceAssoc⟩

end OlsrState.BaitFree

namespace Node

variable {D : Type} {n : Node D} {owned : Set Ipv4Address} {bait : Ipv4Address}

/-! ### Reception -/

section Reception

variable {msg : MessageHeader} {hello : Hello} {receiverIface senderIface : Ipv4Address}

lemma linkSensing_baitFree (h : n.state.BaitFree owned bait) (hsender : senderIface ∈ owned) :
    (n.linkSensing msg hello receiverIface senderIface).state.BaitFree owned bait := by
  have hsourced : (n.linkSensing msg hello receiverIface senderIface).state.Sourced (· ∈ owned)
      (fun a main => a ∈ owned ∧ main ∈ owned) := linkSensing_sourced h.sourced hsender
  obtain ⟨ns, hns⟩ := n.linkSensing_state msg hello receiverIface senderIface
  refine ⟨hsourced.link, hsourced.ifaceAssoc, ?_⟩
  rw [hns]
  exact h.twoHop

/-- A 2-hop neighbor is stored under its main address. -/
lemma twoHopAddressStep_baitFree (h : n.state.BaitFree owned bait) (hbait : bait ∉ owned)
    {nt : NeighborType} {addr : Ipv4Address} (haddr : addr ≠ bait) :
    (twoHopAddressStep msg nt n addr).state.BaitFree owned bait := by
  have hinsert : ∀ exp, (n.state.insertTwoHopNeighborTuple
      ⟨msg.originatorAddress, n.getMainAddress addr, exp⟩).BaitFree owned bait := by
    intro exp
    refine ⟨h.link, h.ifaceAssoc, fun t ht => ?_⟩
    rcases List.mem_append.mp ht with ht | ht
    · exact h.twoHop t ht
    · rw [List.mem_singleton.mp ht]
      exact h.getMainAddress_ne hbait haddr
  have hset : ∀ exp, (n.state.setTwoHopExpiration msg.originatorAddress (n.getMainAddress addr)
      exp).BaitFree owned bait := by
    intro exp
    refine ⟨h.link, h.ifaceAssoc, fun t ht => ?_⟩
    rcases Lib.mem_updateFirst ht with ht | ⟨t', ht', -, rfl⟩
    · exact h.twoHop t ht
    · exact h.twoHop t' ht'
  simp only [twoHopAddressStep]
  split
  · split
    · exact h
    · split
      · exact hinsert _
      · exact hset _
  · split
    · exact h
    · split
      · exact hinsert _
      · exact hset _
  · exact h.mono (List.Subset.refl _) (List.Subset.refl _) List.filter_sublist.subset
  · exact h

lemma populateTwoHopNeighborSet_baitFree (h : n.state.BaitFree owned bait) (hbait : bait ∉ owned)
    (hhello : ∀ lm ∈ hello.linkMessages, ∀ a ∈ lm.neighborInterfaceAddresses, a ≠ bait) :
    (n.populateTwoHopNeighborSet msg hello).state.BaitFree owned bait := by
  refine foldl_inv (I := fun k : Node D => k.state.BaitFree owned bait) _ ?_ h
  rintro n - - h
  refine foldl_inv (I := fun k : Node D => k.state.BaitFree owned bait) _ ?_ h
  intro n lm hlm h
  refine foldl_inv (I := fun k : Node D => k.state.BaitFree owned bait) _ ?_ h
  intro n a ha h
  exact twoHopAddressStep_baitFree h hbait (hhello lm hlm a ha)

lemma processHello_baitFree [OlsrDefenseStrategy D] (h : n.state.BaitFree owned bait)
    (hbait : bait ∉ owned) (hsender : senderIface ∈ owned)
    (hhello : ∀ lm ∈ hello.linkMessages, ∀ a ∈ lm.neighborInterfaceAddresses, a ≠ bait) :
    (n.processHello msg hello receiverIface senderIface).state.BaitFree owned bait := by
  have hsensing : (n.linkSensing msg hello receiverIface senderIface).state.BaitFree owned bait :=
    linkSensing_baitFree h hsender
  simp only [processHello]
  split
  · exact hsensing
  · set n₁ := n.linkSensing msg hello receiverIface senderIface
    have hneighbor : (n₁.populateNeighborSet msg hello).state.BaitFree owned bait :=
      ⟨hsensing.link, hsensing.ifaceAssoc, hsensing.twoHop⟩
    set n₂ := (n₁.populateNeighborSet msg hello).populateTwoHopNeighborSet msg hello
    have htwoHop : n₂.state.BaitFree owned bait :=
      populateTwoHopNeighborSet_baitFree hneighbor hbait hhello
    obtain ⟨ms, hms⟩ := n₂.mprComputation.populateMprSelectorSet_state msg hello
    rw [hms, mprComputation_state]
    exact ⟨htwoHop.link, htwoHop.ifaceAssoc, htwoHop.twoHop⟩

lemma midAddressStep_baitFree (h : n.state.BaitFree owned bait)
    (horiginator : msg.originatorAddress ∈ owned) {addr : Ipv4Address} (haddr : addr ∈ owned) :
    (midAddressStep msg n addr).state.BaitFree owned bait := by
  have hsourced := midAddressStep_sourced h.sourced ⟨haddr, horiginator⟩
  obtain ⟨ias, hias⟩ := n.midAddressStep_state msg addr
  refine ⟨hsourced.link, hsourced.ifaceAssoc, ?_⟩
  rw [hias]
  exact h.twoHop

lemma remapNeighbors_baitFree (h : n.state.BaitFree owned bait) (hbait : bait ∉ owned) :
    n.remapNeighbors.state.BaitFree owned bait := by
  refine ⟨h.link, h.ifaceAssoc, fun t ht => ?_⟩
  obtain ⟨t', ht', rfl⟩ := List.mem_map.mp ht
  exact h.getMainAddress_ne hbait (h.twoHop t' ht')

lemma processMid_baitFree (h : n.state.BaitFree owned bait) (hbait : bait ∉ owned)
    (horiginator : msg.originatorAddress ∈ owned) {mid : Mid}
    (hmid : ∀ a ∈ mid.interfaceAddresses, a ∈ owned) :
    (n.processMid msg mid senderIface).state.BaitFree owned bait := by
  rw [processMid]
  split
  · exact h
  · refine remapNeighbors_baitFree ?_ hbait
    refine foldl_inv (I := fun k : Node D => k.state.BaitFree owned bait) _ ?_ h
    intro n a ha h
    exact midAddressStep_baitFree h horiginator (hmid a ha)

end Reception

/-! ### Timers -/

section Timers

variable [OlsrDefenseStrategy D]

/-- The timers of the repositories only take something out of them. -/
lemma call_baitFree (h : n.state.BaitFree owned bait) (e : Event) (jitter : Time) :
    (n.call e jitter).state.BaitFree owned bait :=
  h.mono (n.call_linkSet_subset e jitter) (n.call_shrinks e jitter).ifaceAssocs.subset
    (n.call_shrinks e jitter).twoHopNeighbors.subset

end Timers

end Node

/-! ### Messages -/

/-- A message of a node that does not attack: a HELLO message comes from the node that sends it,
and lists owned addresses and its fictitious node only. -/
structure MessageHeader.Honest (owned : Set Ipv4Address) (sender : Ipv4Address)
    (m : MessageHeader) : Prop where
  originator : m.originatorAddress ∈ owned
  hello : ∀ hello, m.body = .hello hello → m.originatorAddress = sender ∧
    ∀ lm ∈ hello.linkMessages, ∀ a ∈ lm.neighborInterfaceAddresses, a ∈ owned ∨ a = sender + 65536
  mid : ∀ mid, m.body = .mid mid → ∀ a ∈ mid.interfaceAddresses, a ∈ owned

/-- A node that does not attack, in a network where nobody owns its fictitious address. -/
structure Node.Sound {D : Type} (owned : Set Ipv4Address) (n : Node D) : Prop where
  isMalicious : n.isMalicious = false
  own : ∀ a ∈ n.ownAddresses, a ∈ owned
  bait : n.fakeAddress ∉ owned
  state : n.state.BaitFree owned n.fakeAddress
  utters : n.Utters (MessageHeader.Honest owned n.mainAddress)

/-- What a sound node may meet: messages of nodes that do not attack, from an owned address. -/
def Act.Benign {D : Type} (owned : Set Ipv4Address) : Act D → Prop
  | recvMessage msg _ senderIface _ => senderIface ∈ owned ∧ ∃ sender, msg.Honest owned sender
  | setAttack isMalicious _ => isMalicious = false
  | _ => True

namespace Node

variable {D : Type} {n : Node D} {owned : Set Ipv4Address}

lemma midAddresses_subset : n.midAddresses ⊆ n.ownAddresses := by
  intro a ha
  obtain ⟨⟨i, idx⟩, hi, hsome⟩ := List.mem_filterMap.mp ha
  simp only [Option.ite_none_right_eq_some, Option.some.injEq] at hsome
  obtain ⟨-, rfl⟩ := hsome
  have hmem : i ∈ n.interfaces := List.fst_mem_of_mem_zipIdx hi
  exact List.mem_cons_of_mem _ (List.mem_flatMap.mpr ⟨i, hmem, List.mem_cons_self⟩)

variable [OlsrDefenseStrategy D]

/-- A node that does not attack lists its links, and its fictitious node if there is one. -/
lemma Sound.mem_helloLinkMessages (h : n.Sound owned) {lm : LinkMessage}
    (hlm : lm ∈ n.helloLinkMessages) {a : Ipv4Address} (ha : a ∈ lm.neighborInterfaceAddresses) :
    a ∈ owned ∨ a = n.fakeAddress := by
  rcases Node.mem_helloLinkMessages h.isMalicious hlm ha with ⟨l, hl, -, rfl | ⟨t, ht, -, rfl⟩⟩ | hfake
  · exact Or.inl (h.state.link l hl)
  · exact Or.inl (h.state.ifaceAssoc t ht).1
  · exact Or.inr hfake.2

lemma Sound.generates (h : n.Sound owned) {m : MessageHeader} (hm : n.Generates m) :
    m.Honest owned n.mainAddress := by
  refine ⟨?_, fun hello hbody => ⟨hm.originator, ?_⟩, fun mid hbody a ha => ?_⟩
  · rw [hm.originator]
    exact h.own _ List.mem_cons_self
  · intro lm hlm a ha
    rw [hm.hello hello hbody] at hlm
    exact h.mem_helloLinkMessages hlm ha
  · rw [hm.mid mid hbody] at ha
    exact h.own a (midAddresses_subset ha)

omit [OlsrDefenseStrategy D] in
/-- What a sound node has to keep, besides its own addresses. -/
lemma Sound.of_fixed (h : n.Sound owned) {n' : Node D} (hmain : n'.mainAddress = n.mainAddress)
    (hinterfaces : n'.interfaces = n.interfaces) (hmalicious : n'.isMalicious = false)
    (hstate : n'.state.BaitFree owned n.fakeAddress)
    (hutters : n'.Utters (MessageHeader.Honest owned n.mainAddress)) : n'.Sound owned where
  isMalicious := hmalicious
  own := by
    rw [ownAddresses, hmain, hinterfaces]
    exact h.own
  bait := by
    rw [fakeAddress, hmain]
    exact h.bait
  state := by
    rw [fakeAddress, hmain]
    exact hstate
  utters := by
    rw [hmain]
    exact hutters

/-- The processing of a message that a node does not skip. -/
lemma Sound.processMessage_baitFree (h : n.Sound owned) {msg : MessageHeader}
    {receiverIface senderIface sender : Ipv4Address} (hsender : senderIface ∈ owned)
    (hmsg : msg.Honest owned sender) (hreads : n.reads msg = true) :
    ((n.defenseHook msg senderIface).processMessage msg receiverIface senderIface).state.BaitFree
      owned n.fakeAddress := by
  have hhook : (n.defenseHook msg senderIface).state.BaitFree owned n.fakeAddress := by
    rw [defenseHook_state]
    exact h.state
  rw [processMessage]
  split
  · next hello hbody =>
    refine processHello_baitFree hhook h.bait hsender fun lm hlm a ha => ?_
    obtain ⟨horiginator, hlisted⟩ := hmsg.hello hello hbody
    rcases hlisted lm hlm a ha with howned | rfl
    · rintro rfl
      exact h.bait howned
    · -- The sender is another node, and has another fictitious node.
      intro heq
      have hmain : sender = n.mainAddress := add_right_cancel heq
      simp [reads, ignores, horiginator, hmain] at hreads
  · next tc hbody =>
    obtain ⟨ts, hts⟩ := (n.defenseHook msg senderIface).processTc_state msg senderIface tc
    rw [hts]
    exact ⟨hhook.link, hhook.ifaceAssoc, hhook.twoHop⟩
  · next mid hbody => exact processMid_baitFree hhook h.bait hmsg.originator (hmsg.mid mid hbody)
  · next hna hbody =>
    obtain ⟨as, has⟩ := (n.defenseHook msg senderIface).processHna_state msg senderIface hna
    rw [has]
    exact ⟨hhook.link, hhook.ifaceAssoc, hhook.twoHop⟩

/-- An act that a sound node may meet keeps it sound. -/
lemma Sound.perform (h : n.Sound owned) {a : Act D} (ha : a.Benign owned) :
    (n.perform a).Sound owned := by
  have hstate : (n.perform a).state.BaitFree owned n.fakeAddress := by
    refine perform_state_inv (Q := OlsrState.BaitFree owned n.fakeAddress) n ?_ ?_ h.state ?_ ?_
    · exact fun _ _ hs => ⟨hs.link, hs.ifaceAssoc, hs.twoHop⟩
    · exact fun _ _ hs => ⟨hs.link, hs.ifaceAssoc, hs.twoHop⟩
    · rintro msg receiverIface senderIface jitter rfl hreads
      obtain ⟨hsender, sender, hmsg⟩ := ha
      exact h.processMessage_baitFree hsender hmsg hreads
    · intro t e jitter _
      exact call_baitFree (n := n.dequeue t e) h.state e jitter
  have hutters : (n.perform a).Utters (MessageHeader.Honest owned n.mainAddress) := by
    refine perform_utters h.utters ?_ fun _ _ _ _ m hm => h.generates hm.toGenerates
    rintro msg receiverIface senderIface jitter rfl hbody
    obtain ⟨-, sender, hmsg⟩ := ha
    exact ⟨hmsg.originator, fun hello hhello => absurd hhello (hbody hello), hmsg.mid⟩
  have hfixed := n.perform_fixed a
  cases a with
  | advance t => exact h.of_fixed rfl rfl h.isMalicious hstate hutters
  | setAttack isMalicious spoofedLinksCount => exact h.of_fixed rfl rfl ha hstate hutters
  | _ =>
    have hfixed := hfixed (by simp) (by simp)
    exact h.of_fixed (congrArg Fixed.mainAddress hfixed) (congrArg Fixed.interfaces hfixed)
      ((congrArg Fixed.isMalicious hfixed).trans h.isMalicious) hstate hutters

lemma Sound.exec (h : n.Sound owned) {a : Act D} (ha : a.Benign owned) :
    (n.exec a).Sound owned := by
  rw [Node.exec]
  split
  · exact h
  · exact h.perform ha

/-! ### The start -/

lemma Sound.call (h : n.Sound owned) (e : Event) (jitter : Time) : (n.call e jitter).Sound owned := by
  have hfixed := n.call_fixed e jitter
  exact h.of_fixed (congrArg Fixed.mainAddress hfixed) (congrArg Fixed.interfaces hfixed)
    ((congrArg Fixed.isMalicious hfixed).trans h.isMalicious) (call_baitFree h.state e jitter)
    (call_utters h.utters e (fun m hm => h.generates hm.toGenerates) jitter)

lemma startDefense_sound {c : Config D} (hmalicious : c.isMalicious = false)
    (hown : ∀ a ∈ c.node.startDefense.ownAddresses, a ∈ owned)
    (hbait : c.node.startDefense.fakeAddress ∉ owned) : c.node.startDefense.Sound owned := by
  have hfixed := c.node.startDefense_fixed
  have hmain : c.node.startDefense.mainAddress = c.node.chosenMainAddress :=
    congrArg Fixed.mainAddress hfixed
  have hinterfaces : c.node.startDefense.interfaces = c.interfaces :=
    congrArg Fixed.interfaces hfixed
  refine ⟨(congrArg Fixed.isMalicious hfixed).trans hmalicious, hown, hbait, ?_, ?_⟩
  · -- The associations are those of the interfaces of the node.
    have hassoc : ∀ i ∈ c.interfaces, i.address ∈ owned ∧ c.node.chosenMainAddress ∈ owned := by
      intro i hi
      refine ⟨hown _ (List.mem_cons_of_mem _ ?_), hown _ ?_⟩
      · rw [hinterfaces]
        exact List.mem_flatMap.mpr ⟨i, hi, List.mem_cons_self⟩
      · rw [ownAddresses, hmain]
        exact List.mem_cons_self
    have hsourced : c.node.startDefense.state.Sourced (· ∈ owned)
        (fun a main => a ∈ owned ∧ main ∈ owned) := startDefense_sourced hassoc
    refine ⟨hsourced.link, hsourced.ifaceAssoc, ?_⟩
    rw [startDefense_state]
    simp [Config.node]
  · exact startDefense_utters ⟨by simp [Config.node], by simp [Config.node]⟩

lemma doInitialize_sound {c : Config D} {jitter : Time} (hmalicious : c.isMalicious = false)
    (hown : ∀ a ∈ (c.node.doInitialize jitter).ownAddresses, a ∈ owned)
    (hbait : (c.node.doInitialize jitter).fakeAddress ∉ owned) :
    (c.node.doInitialize jitter).Sound owned := by
  have hfixed := (c.node.doInitialize_fixed jitter).trans c.node.startDefense_fixed.symm
  have hmain : (c.node.doInitialize jitter).mainAddress = c.node.startDefense.mainAddress :=
    congrArg Fixed.mainAddress hfixed
  have hinterfaces : (c.node.doInitialize jitter).interfaces = c.node.startDefense.interfaces :=
    congrArg Fixed.interfaces hfixed
  rw [ownAddresses, hmain, hinterfaces] at hown
  rw [fakeAddress, hmain] at hbait
  have hstart : c.node.startDefense.Sound owned := startDefense_sound hmalicious hown hbait
  simp only [doInitialize]
  split
  · exact (((hstart.call Event.helloTimerExpire jitter).call Event.tcTimerExpire jitter).call
      Event.midTimerExpire jitter).call Event.hnaTimerExpire jitter
  · exact hstart

/-! ### Labels -/

omit [OlsrDefenseStrategy D] in
/-- A label whose acts a sound node may meet. -/
lemma acts_benign {l : Label D} (hattack : l.startsAttack = false)
    (hrecv : ∀ t i senderIface messages jitter, l = .recvOlsr t i senderIface messages jitter →
      senderIface ∈ owned ∧ ∃ sender, ∀ m ∈ messages, m.Honest owned sender) :
    ∀ a ∈ n.acts l, a.Benign owned := by
  intro a ha
  rcases List.mem_cons.mp ha with rfl | ha
  · trivial
  · cases l with
    | recvOlsr t i senderIface messages jitter =>
      obtain ⟨hsender, sender, hmessages⟩ := hrecv _ _ _ _ _ rfl
      rcases mem_recvOlsrActs ha with ⟨msg, hmsg, receiverIface, rfl⟩ | rfl
      · exact ⟨hsender, sender, hmessages msg hmsg⟩
      · trivial
    | setAttack t isMalicious spoofedLinksCount =>
      rw [List.mem_singleton.mp ha]
      exact hattack
    | _ =>
      rw [List.mem_singleton.mp ha]
      trivial

lemma Sound.step (h : n.Sound owned) {l : Label D} (hl : ∀ a ∈ n.acts l, a.Benign owned) :
    (n.step l).Sound owned :=
  Lib.inv_run (I := Node.Sound owned) (P := fun _ a => a.Benign owned)
    (fun _ _ hn ha => hn.exec ha) h fun _ hx => hl _ (Lib.snd_mem_of_mem_trace hx)

omit [OlsrDefenseStrategy D] in
/-- A sound node finds nobody who claims its fictitious node. -/
lemma Sound.takesBait (h : n.Sound owned) {d : OlsrDefenseGcop}
    (hmain : d.mainAddress = n.mainAddress) (senderAddress : Ipv4Address) :
    d.takesBait n.state senderAddress = false := by
  rw [OlsrDefenseGcop.takesBait, List.any_eq_false]
  intro a ha htakes
  obtain ⟨t, ht, rfl⟩ := List.mem_map.mp ha
  rw [Bool.and_eq_true, beq_iff_eq] at htakes
  refine h.state.twoHop t (List.mem_of_mem_filter ht) (htakes.2.trans ?_)
  rw [OlsrDefenseGcop.fakeAddress, hmain, fakeAddress]

end Node

/-! ### Networks -/

variable {ν D : Type} [OlsrDefenseStrategy D]

/-- In a network of sound nodes, what a node receives has been sent by a sound node. -/
lemma Possible.benign {σ : ν → Node D} {v : ν} {l : Label D} {owned : Set Ipv4Address}
    (h : Possible σ (v, l)) (hσ : ∀ w, (σ w).Sound owned) (hattack : l.startsAttack = false) :
    ∀ a ∈ (σ v).acts l, a.Benign owned := by
  refine Node.acts_benign hattack ?_
  rintro t i senderIface messages jitter rfl
  obtain ⟨-, w, hsender, p, hp, rfl⟩ := h
  exact ⟨(hσ w).own _ hsender, (σ w).mainAddress, (hσ w).utters.sent p hp⟩

/-- A step of a network without attackers. -/
def Peaceful (σ : ν → Node D) (x : ν × Label D) : Prop :=
  Possible σ x ∧ x.2.startsAttack = false

/-- Such a step keeps sound nodes sound. -/
lemma Peaceful.sound {owned : Set Ipv4Address} (σ : ν → Node D) (v : ν) (l : Label D)
    (hσ : ∀ w, (σ w).Sound owned) (h : Peaceful σ (v, l)) : ((σ v).step l).Sound owned :=
  (hσ v).step (h.1.benign hσ h.2)

namespace NetworkRun

variable [DecidableEq ν] {r : NetworkRun ν D}

/-- The addresses that some node of the network owns. -/
def owned (r : NetworkRun ν D) : Set Ipv4Address := {a | ∃ v, a ∈ (r.start v).ownAddresses}

/-- The main address of a node stays as it was when the node started. -/
lemma final_mainAddress (r : NetworkRun ν D) (v : ν) :
    (r.final v).mainAddress = (r.start v).mainAddress := by
  rw [← nodeRun_final]
  refine (r.nodeRun v).final_inv (I := fun n => n.mainAddress = (r.start v).mainAddress)
    (P := fun _ _ => True) rfl ?_ fun _ _ => trivial
  intro n a _ hn _
  rw [Node.perform_mainAddress, hn]

section Sound

variable (hattack : r.NoAttack)
  (hfake : ∀ v w, (r.start v).fakeAddress ∉ (r.start w).ownAddresses)

include hattack hfake

lemma start_sound (v : ν) : (r.start v).Sound r.owned := by
  refine Node.doInitialize_sound (hattack.1 v) (fun a ha => ⟨v, ha⟩) ?_
  rintro ⟨w, hw⟩
  exact hfake v w hw

omit hfake in
lemma peaceful_trace : ∀ x ∈ r.trace, Peaceful x.1 x.2 :=
  fun x hx => ⟨r.isRun x hx, hattack.2 x.2 (Lib.snd_mem_of_mem_trace hx)⟩

lemma final_sound (v : ν) : (r.final v).Sound r.owned :=
  Lib.inv_run_net (I := fun _ => Node.Sound r.owned) (P := Peaceful) Peaceful.sound
    (start_sound hattack hfake) (peaceful_trace hattack) v

lemma trace_sound : ∀ x ∈ r.trace, ∀ v, (x.1 v).Sound r.owned :=
  Lib.inv_trace_net (I := fun _ => Node.Sound r.owned) (P := Peaceful) Peaceful.sound
    (start_sound hattack hfake) (peaceful_trace hattack)

/-- The nodes are sound during a step, too. -/
lemma acts_sound {x : (ν → Node D) × (ν × Label D)} (hx : x ∈ r.trace) :
    ∀ y ∈ Lib.trace Node.exec (x.1 x.2.1) ((x.1 x.2.1).acts x.2.2), y.1.Sound r.owned := by
  have hsound := trace_sound hattack hfake x hx
  have hpeaceful := peaceful_trace hattack x hx
  have hbenign := hpeaceful.1.benign hsound hpeaceful.2
  exact Lib.inv_trace (P := fun _ a => a.Benign r.owned) (fun _ _ hn ha => hn.exec ha)
    (hsound x.2.1) fun y hy => hbenign _ (Lib.snd_mem_of_mem_trace hy)

end Sound

/-- The addresses that a HELLO message lists. -/
def helloAddresses (m : MessageHeader) : List Ipv4Address :=
  match m.body with
  | .hello hello => hello.linkMessages.flatMap LinkMessage.neighborInterfaceAddresses
  | _ => []

/-- No HELLO message that a node has sent lists the address. -/
def NotListedBy (a : Ipv4Address) (n : Node D) : Prop :=
  ∀ p ∈ n.sentPackets, ∀ m ∈ p.messages, a ∉ helloAddresses m

instance (a : Ipv4Address) (n : Node D) : Decidable (NotListedBy a n) :=
  inferInstanceAs (Decidable (∀ p ∈ _, ∀ m ∈ _, _))

/-- **Soundness of the bait.**  In a network without attackers, in which no node owns a fictitious
address, no HELLO message lists the fictitious address of another node than the one that has sent
it; and whatever happens at a node, the bait branch of its first rule does not fire there for any
sender, so that the rule comes down to its other branch. -/
theorem bait_sound (r : NetworkRun ν D) (hattack : r.NoAttack)
    (hfake : ∀ v w, (r.start v).fakeAddress ∉ (r.start w).ownAddresses) :
    (∀ v w, (r.start v).mainAddress ≠ (r.start w).mainAddress →
      NotListedBy (r.start v).fakeAddress (r.final w)) ∧
    ∀ x ∈ r.trace, ∀ y ∈ Lib.trace Node.exec (x.1 x.2.1) ((x.1 x.2.1).acts x.2.2),
      ∀ d : OlsrDefenseGcop, d.mainAddress = y.1.mainAddress →
        ∀ senderAddress, d.takesBait y.1.state senderAddress = false ∧
          d.checkRule1 y.1.state senderAddress =
            OlsrDefenseGcop.isDisavowed y.1.state senderAddress := by
  refine ⟨?_, ?_⟩
  · intro v w hne p hp m hm hlisted
    have hhonest := (final_sound hattack hfake w).utters.sent p hp m hm
    rw [helloAddresses] at hlisted
    split at hlisted
    · next hello hbody =>
      obtain ⟨lm, hlm, ha⟩ := List.mem_flatMap.mp hlisted
      rcases (hhonest.hello hello hbody).2 lm hlm _ ha with ⟨u, hu⟩ | heq
      · exact hfake v u hu
      · rw [final_mainAddress] at heq
        exact hne (add_right_cancel heq)
    · simp at hlisted
  · intro x hx y hy d hd senderAddress
    have hbait := (acts_sound hattack hfake hx y hy).takesBait hd senderAddress
    refine ⟨hbait, ?_⟩
    rw [OlsrDefenseGcop.checkRule1_eq_or, hbait, Bool.or_false]

/-! ### Two nodes -/

section Pair

open Scenario

/-- Two nodes of main addresses 1 and 2, the first one with these interfaces. -/
def pairConfig (interfaces : List Ipv4Interface) (v : Fin 2) : Config OlsrDefenseGcop :=
  match v with
  | 0 => { single with interfaces := interfaces }
  | 1 => { single with mainAddress := 2, interfaces := [{ address := 2 }] }

/-- The first node sends its first packet, which the second one receives from this interface and
answers with its next HELLO message. -/
def pairLabels (interfaces : List Ipv4Interface) (senderIface : Ipv4Address) :
    List (Fin 2 × Label OlsrDefenseGcop) :=
  [(0, .timer 0 Event.sendQueuedMessages 0),
   (1, .timer 0 Event.sendQueuedMessages 0),
   (1, .recvOlsr 0 0 senderIface ((pairConfig interfaces 0).node.doInitialize 0).queuedMessages 0),
   (1, .timer 1000 (Event.linkTupleTimerExpire senderIface) 0),
   (1, .timer (Seconds 2) Event.helloTimerExpire 0),
   (1, .timer (Seconds 2) Event.sendQueuedMessages 0)]

/-- The first node has one interface, of its main address. -/
def plainPair : NetworkRun (Fin 2) OlsrDefenseGcop where
  config := pairConfig [{ address := 1 }]
  jitter := fun _ => 0
  labels := pairLabels [{ address := 1 }] 1
  isJitter := by decide +kernel
  isRun := by decide +kernel

theorem bait_sound_plainPair :
    NotListedBy 65537 (plainPair.final 1) ∧
      OlsrDefenseGcop.takesBait { mainAddress := 1 } (plainPair.start 0).state 2 = false := by
  have hattack : plainPair.NoAttack := by decide +kernel
  have hfake : ∀ v w, (plainPair.start v).fakeAddress ∉ (plainPair.start w).ownAddresses := by
    decide +kernel
  have hsound := bait_sound plainPair hattack hfake
  refine ⟨hsound.1 0 1 (by decide +kernel), ?_⟩
  exact (hsound.2 _ List.mem_cons_self _ List.mem_cons_self { mainAddress := 1 } rfl 2).1

/-- The first node owns its fictitious address: the packet comes from its second interface. -/
def baitPair : NetworkRun (Fin 2) OlsrDefenseGcop where
  config := pairConfig [{ address := 1 }, { address := 65537 }]
  jitter := fun _ => 0
  labels := pairLabels [{ address := 1 }, { address := 65537 }] 65537
  isJitter := by decide +kernel
  isRun := by decide +kernel

/-- It is not enough that no node owns the fictitious address of another one: a node that owns its
own one makes others list it. -/
theorem ownedBait_listed :
    baitPair.NoAttack ∧
      (∀ v w, v ≠ w → (baitPair.start v).fakeAddress ∉ (baitPair.start w).ownAddresses) ∧
      (baitPair.start 0).mainAddress ≠ (baitPair.start 1).mainAddress ∧
      ¬ NotListedBy (baitPair.start 0).fakeAddress (baitPair.final 1) := by
  decide +kernel

end Pair

end NetworkRun

end ManetOlsr
