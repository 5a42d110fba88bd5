/-
Links and their neighbors.

The links to one node share a neighbor tuple, which is found under the main address of their
interfaces.  It follows the links as long as no step erases it or resets its status because of
one link only, and no association moves the links away from it.  While it does, `SendHello` never
announces a symmetric link to a node that it calls no neighbor.
-/
import ManetOlsr.Model.MainAddresses
import ManetOlsr.Model.Scenario

namespace ManetOlsr

/-- The status of a neighbor, as `FindNeighborTuple` finds it. -/
def OlsrState.neighborStatus (s : OlsrState) (mainAddr : Ipv4Address) : Option Status :=
  (s.findNeighborTuple mainAddr).map NeighborTuple.status

/-- Under the main address of its interface a link has a neighbor, who is symmetric if the link
is: `main` gives the main addresses and `status` the status of the neighbors. -/
def LinkTuple.Followed (l : LinkTuple) (status : Ipv4Address → Option Status)
    (main : Ipv4Address → Ipv4Address) (now : Time) : Prop :=
  ∃ st ∈ status (main l.neighborIfaceAddr), l.symTime ≥ now → st = Status.sym

instance (l : LinkTuple) (status : Ipv4Address → Option Status) (main : Ipv4Address → Ipv4Address)
    (now : Time) : Decidable (l.Followed status main now) :=
  inferInstanceAs (Decidable (∃ st ∈ status _, _ → _))

/-- A later moment asks for less. -/
lemma LinkTuple.Followed.later {l : LinkTuple} {status : Ipv4Address → Option Status}
    {main : Ipv4Address → Ipv4Address} {now t : Time} (h : l.Followed status main now)
    (ht : now ≤ t) : l.Followed status main t := by
  obtain ⟨st, hst, hsym⟩ := h
  exact ⟨st, hst, fun hge => hsym (le_trans ht hge)⟩

/-- The type under which a HELLO message last lists an interface, invalid codes apart. -/
def Hello.lastListing (hello : Hello) (iface : Ipv4Address) : Option LinkType :=
  ((hello.linkMessages.filter fun m =>
    !Node.invalidLinkCode m.linkCode && m.neighborInterfaceAddresses.contains iface).getLast?).map
      fun m => LinkType.ofLinkCode m.linkCode

/-- A HELLO message makes a new link to an interface symmetric. -/
def Hello.Hears (hello : Hello) (iface : Ipv4Address) : Prop :=
  hello.lastListing iface = some LinkType.symLink ∨ hello.lastListing iface = some LinkType.asymLink

instance (hello : Hello) (iface : Ipv4Address) : Decidable (hello.Hears iface) :=
  inferInstanceAs (Decidable (_ ∨ _))

namespace Node

variable {D : Type}

/-- A link is followed by its neighbor. -/
def Follows (n : Node D) (l : LinkTuple) : Prop :=
  l.Followed n.state.neighborStatus n.getMainAddress n.now

/-- Every link is followed by its neighbor. -/
def LinksFollowed (n : Node D) : Prop := ∀ l ∈ n.state.linkSet, n.Follows l

variable {n : Node D}

/-- Whether a link is followed depends on neighbors, main addresses and the time only. -/
lemma Follows.congr {n' : Node D} {l : LinkTuple} (h : n.Follows l)
    (hstatus : n'.state.neighborStatus = n.state.neighborStatus)
    (hassoc : n'.state.ifaceAssocSet = n.state.ifaceAssocSet) (hnow : n'.now = n.now) :
    n'.Follows l := by
  have hmain : n'.getMainAddress = n.getMainAddress := OlsrState.getMainAddress_congr hassoc
  rw [Follows, hstatus, hmain, hnow]
  exact h

lemma LinksFollowed.congr {n' : Node D} (h : n.LinksFollowed)
    (hlinks : n'.state.linkSet = n.state.linkSet)
    (hstatus : n'.state.neighborStatus = n.state.neighborStatus)
    (hassoc : n'.state.ifaceAssocSet = n.state.ifaceAssocSet) (hnow : n'.now = n.now) :
    n'.LinksFollowed := by
  intro l hl
  rw [hlinks] at hl
  exact (h l hl).congr hstatus hassoc hnow

/-! ### The neighbor of a link -/

section Tuples

variable {tuple l : LinkTuple} {w : Willingness}

/-- `LinkTupleUpdated` sees to all the links of the neighbor. -/
lemma linkTupleUpdated_follows (hl : l ∈ n.state.linkSet)
    (h : n.getMainAddress l.neighborIfaceAddr ≠ n.getMainAddress tuple.neighborIfaceAddr →
      n.Follows l) : (n.linkTupleUpdated tuple w).Follows l := by
  obtain ⟨ns, hns⟩ := n.linkTupleUpdated_state tuple w
  have hmain : (n.linkTupleUpdated tuple w).getMainAddress = n.getMainAddress :=
    OlsrState.getMainAddress_congr (by rw [hns])
  have hnow : (n.linkTupleUpdated tuple w).now = n.now :=
    now_of_fixed (n.linkTupleUpdated_fixed tuple w)
  rw [Follows, LinkTuple.Followed, hmain, hnow, OlsrState.neighborStatus]
  by_cases hne : n.getMainAddress l.neighborIfaceAddr = n.getMainAddress tuple.neighborIfaceAddr
  · obtain ⟨nb, hfind, hstatus⟩ := n.linkTupleUpdated_find tuple w
    refine ⟨nb.status, by rw [hne, hfind]; rfl, fun hge => ?_⟩
    have hlink : n.hasSymmetricLink (n.getMainAddress tuple.neighborIfaceAddr) = true :=
      List.any_eq_true.mpr ⟨l, hl, by simp [hne, hge]⟩
    rw [hstatus, if_pos hlink]
  · rw [n.linkTupleUpdated_find_of_ne tuple w (Ne.symm hne)]
    exact h hne

/-- `LinkTupleAdded` sees to the link it is called for, and to others as far as they agree. -/
lemma linkTupleCreated_follows
    (h : n.getMainAddress l.neighborIfaceAddr ≠ n.getMainAddress tuple.neighborIfaceAddr →
      n.Follows l)
    (hsame : n.getMainAddress l.neighborIfaceAddr = n.getMainAddress tuple.neighborIfaceAddr →
      l.symTime ≥ n.now → tuple.symTime ≥ n.now) : (n.linkTupleCreated tuple w).Follows l := by
  show l.Followed (n.linkTupleAdded tuple w).state.neighborStatus n.getMainAddress n.now
  rw [LinkTuple.Followed, OlsrState.neighborStatus, linkTupleAdded, addNeighborTuple_state]
  by_cases hne : n.getMainAddress l.neighborIfaceAddr = n.getMainAddress tuple.neighborIfaceAddr
  · refine ⟨if tuple.symTime ≥ n.now then Status.sym else Status.notSym, ?_, fun hge => ?_⟩
    · rw [hne, OlsrState.findNeighborTuple_insert_self]
      rfl
    · rw [if_pos (hsame hne hge)]
  · rw [OlsrState.findNeighborTuple_insert_of_ne _ (Ne.symm hne)]
    exact h hne

end Tuples

/-! ### HELLO messages -/

section Hello

variable {msg : MessageHeader} {hello : Hello} {receiverIface senderIface : Ipv4Address}

/-- What a HELLO message that creates a link has to satisfy: a neighbor with a symmetric link
says on the new link, too, that it hears this node. -/
def HelloKeepsStatus (n : Node D) (hello : Hello) (receiverIface senderIface : Ipv4Address) :
    Prop :=
  n.state.findLinkTuple senderIface = none →
    n.hasSymmetricLink (n.getMainAddress senderIface) = true → hello.Hears receiverIface

instance (n : Node D) (hello : Hello) (receiverIface senderIface : Ipv4Address) :
    Decidable (n.HelloKeepsStatus hello receiverIface senderIface) :=
  inferInstanceAs (Decidable (_ = none → _ = true → Hello.Hears _ _))

/-- The loop over the link messages: the last one that lists the interface decides. -/
lemma foldl_sensingStep_symTime (vTime : Time) (hvTime : 0 ≤ vTime) (ms : List LinkMessage)
    (x : Sensing) (last : LinkType)
    (hlast : ((ms.filter fun m =>
      !invalidLinkCode m.linkCode && m.neighborInterfaceAddresses.contains receiverIface).getLast?).map
        (fun m => LinkType.ofLinkCode m.linkCode) = some last)
    (hhears : last = LinkType.symLink ∨ last = LinkType.asymLink) :
    n.now ≤ (ms.foldl (n.sensingStep vTime receiverIface) x).link.symTime := by
  induction ms using List.reverseRecOn with
  | nil => simp at hlast
  | append_singleton ms m ih =>
    rw [List.foldl_append, List.foldl_cons, List.foldl_nil]
    rw [List.filter_append] at hlast
    by_cases hinvalid : invalidLinkCode m.linkCode = true
    · rw [sensingStep, if_pos hinvalid]
      exact ih (by simpa [hinvalid] using hlast)
    · by_cases hlisted : receiverIface ∈ m.neighborInterfaceAddresses
      · have htype : LinkType.ofLinkCode m.linkCode = last := by
          simpa [hinvalid, hlisted] using hlast
        rw [sensingStep, if_neg hinvalid, if_pos (by simpa using hlisted), htype]
        rcases hhears with rfl | rfl <;> exact Int.le_add_of_nonneg_right hvTime
      · rw [sensingStep, if_neg hinvalid, if_neg (by simpa using hlisted)]
        exact ih (by simpa [hinvalid, hlisted] using hlast)

lemma sensedLink_symTime (h : hello.Hears receiverIface) :
    n.now ≤ (n.sensedLink msg hello receiverIface senderIface).link.symTime := by
  have hvTime : 0 ≤ getVTime msg.vTime := (getVTime_pos _).le
  rcases h with h | h
  · exact foldl_sensingStep_symTime _ hvTime _ _ _ h (Or.inl rfl)
  · exact foldl_sensingStep_symTime _ hvTime _ _ _ h (Or.inr rfl)

/-- `LinkSensing` keeps the links followed. -/
lemma linkSensing_followed (h : n.LinksFollowed)
    (hkeeps : n.HelloKeepsStatus hello receiverIface senderIface)
    (hrunning : (n.linkSensing msg hello receiverIface senderIface).fatalError = false) :
    (n.linkSensing msg hello receiverIface senderIface).LinksFollowed := by
  simp only [linkSensing] at hrunning ⊢
  set x := n.sensedLink msg hello receiverIface senderIface
  set n₁ := n.withState (n.state.storeLinkTuple senderIface x.link)
  have hiface : x.link.neighborIfaceAddr = senderIface := sensedLink_neighborIfaceAddr
  -- The links that were there before are followed as before.
  have hold : ∀ l ∈ n₁.state.linkSet, l ≠ x.link → n₁.Follows l := by
    intro l hl hne
    rcases Lib.mem_upsert hl with hl | hl
    · exact h l hl
    · exact absurd hl hne
  -- Links to other nodes are among them.
  have hother : ∀ l ∈ n₁.state.linkSet,
      n₁.getMainAddress l.neighborIfaceAddr ≠ n₁.getMainAddress x.link.neighborIfaceAddr →
      n₁.Follows l := fun l hl hne => hold l hl fun heq => hne (by rw [heq])
  have hnew : n.state.findLinkTuple senderIface = none → ∀ l ∈ n₁.state.linkSet,
      n₁.getMainAddress l.neighborIfaceAddr = n₁.getMainAddress x.link.neighborIfaceAddr →
      l.symTime ≥ n.now → x.link.symTime ≥ n.now := by
    intro hnone l hl hmain hge
    rcases Lib.mem_upsert hl with hl | rfl
    · refine sensedLink_symTime (hkeeps hnone (List.any_eq_true.mpr ⟨l, hl, ?_⟩))
      rw [hiface] at hmain
      have hmain' : n.getMainAddress l.neighborIfaceAddr = n.getMainAddress senderIface := hmain
      simp [hmain', hge]
    · exact hge
  have hupdated : ∀ l ∈ n₁.state.linkSet,
      (n₁.linkTupleUpdated x.link hello.willingness).Follows l := fun l hl =>
    linkTupleUpdated_follows hl (hother l hl)
  obtain ⟨ns, hns⟩ := n₁.linkTupleUpdated_state x.link hello.willingness
  have hlinks : (n₁.linkTupleUpdated x.link hello.willingness).state.linkSet = n₁.state.linkSet := by
    rw [hns]
  have hmain : (n₁.linkTupleUpdated x.link hello.willingness).getMainAddress = n₁.getMainAddress :=
    OlsrState.getMainAddress_congr (by rw [hns])
  have hnow : (n₁.linkTupleUpdated x.link hello.willingness).now = n₁.now :=
    now_of_fixed (n₁.linkTupleUpdated_fixed x.link hello.willingness)
  split
  · next hbad => simp [hbad] at hrunning
  · split
    · next hnone =>
      rw [Option.isNone_iff_eq_none] at hnone
      split
      · intro l hl
        rw [linkTupleCreated, schedule_state, linkTupleAdded, addNeighborTuple_state,
          OlsrState.insertNeighborTuple, hlinks] at hl
        refine linkTupleCreated_follows (fun _ => hupdated l hl) ?_
        rw [hmain, hnow]
        exact hnew hnone l hl
      · intro l hl
        exact linkTupleCreated_follows (hother l hl) (hnew hnone l hl)
    · next hsome =>
      rw [Option.isNone_iff_eq_none] at hsome
      rw [if_pos (sensedLink_updated hsome)]
      intro l hl
      rw [hlinks] at hl
      exact hupdated l hl

lemma neighborStatus_setWillingness (s : OlsrState) (a : Ipv4Address) (w : Willingness) :
    (s.setNeighborWillingness a w).neighborStatus = s.neighborStatus := by
  funext b
  rw [OlsrState.neighborStatus, OlsrState.neighborStatus]
  by_cases hab : a = b
  · subst hab
    rw [OlsrState.findNeighborTuple_setWillingness_self, Option.map_map]
    rfl
  · rw [OlsrState.findNeighborTuple_setWillingness_of_ne _ hab]

variable [OlsrDefenseStrategy D]

lemma processHello_followed (h : n.LinksFollowed)
    (hkeeps : n.HelloKeepsStatus hello receiverIface senderIface)
    (hrunning : (n.processHello msg hello receiverIface senderIface).fatalError = false) :
    (n.processHello msg hello receiverIface senderIface).LinksFollowed := by
  simp only [processHello] at hrunning ⊢
  set n₁ := n.linkSensing msg hello receiverIface senderIface
  split
  · next hfatal => simp [hfatal] at hrunning
  · next hfatal =>
    have h₁ : n₁.LinksFollowed := linkSensing_followed h hkeeps (by simpa using hfatal)
    set n₂ := (n₁.populateNeighborSet msg hello).populateTwoHopNeighborSet msg hello
    obtain ⟨ths, hths⟩ := (n₁.populateNeighborSet msg hello).populateTwoHopNeighborSet_state msg hello
    obtain ⟨ms, hms⟩ := n₂.mprComputation.populateMprSelectorSet_state msg hello
    rw [mprComputation_state, hths, populateNeighborSet_state] at hms
    refine h₁.congr (by rw [hms]; rfl) ?_ (by rw [hms]; rfl) (now_of_fixed (by simp [n₂]))
    rw [hms]
    exact neighborStatus_setWillingness _ _ _

end Hello

/-! ### MID messages -/

/-- The status of the neighbor that a remapping with `main` puts under an address first. -/
def statusUnder (n : Node D) (main : Ipv4Address → Ipv4Address) (a : Ipv4Address) :
    Option Status :=
  (n.state.neighborSet.find? fun nb => main nb.neighborMainAddr == a).map NeighborTuple.status

/-- What a MID message has to satisfy: each link is followed by the neighbor that is remapped to
the new main address of its interface. -/
def MidKeepsLinks (n : Node D) (originator : Ipv4Address) (listed : List Ipv4Address) : Prop :=
  let main := n.state.mainAddressAfterMid originator listed
  ∀ l ∈ n.state.linkSet, l.Followed (n.statusUnder main) main n.now

instance (n : Node D) (originator : Ipv4Address) (listed : List Ipv4Address) :
    Decidable (n.MidKeepsLinks originator listed) :=
  inferInstanceAs (Decidable (∀ l ∈ _, LinkTuple.Followed l _ _ _))

lemma processMid_followed {msg : MessageHeader} {mid : Mid} {senderIface : Ipv4Address}
    (hsym : n.fromSymLink senderIface = true)
    (hkeeps : n.MidKeepsLinks msg.originatorAddress mid.interfaceAddresses) :
    (n.processMid msg mid senderIface).LinksFollowed := by
  have hfixed := n.processMid_fixed msg senderIface mid
  have hnow : (n.processMid msg mid senderIface).now = n.now := now_of_fixed hfixed
  have hmain : (n.processMid msg mid senderIface).getMainAddress =
      n.state.mainAddressAfterMid msg.originatorAddress mid.interfaceAddresses := by
    funext a
    rw [← foldl_midAddressStep_getMainAddress]
    simp only [processMid, hsym]
    rfl
  have hstatus : (n.processMid msg mid senderIface).state.neighborStatus =
      n.statusUnder (n.state.mainAddressAfterMid msg.originatorAddress mid.interfaceAddresses) := by
    obtain ⟨ias, hias⟩ := n.foldl_midAddressStep_state msg mid.interfaceAddresses
    funext a
    rw [OlsrState.neighborStatus, OlsrState.findNeighborTuple]
    simp only [processMid, hsym, remapNeighbors, withState_state,
      foldl_midAddressStep_getMainAddress, hias, Bool.not_true, Bool.false_eq_true, if_false]
    rw [List.find?_map, Option.map_map]
    rfl
  obtain ⟨ias, ns, ths, hst⟩ := n.processMid_state msg senderIface mid
  intro l hl
  rw [hst] at hl
  rw [Follows, hmain, hstatus, hnow]
  exact hkeeps l hl

/-! ### Timers -/

/-- What the expiry of a link has to satisfy: it is the last link of its neighbor. -/
def RemovesLastLink (n : Node D) (neighborIfaceAddr : Ipv4Address) : Prop :=
  ∀ tuple ∈ n.state.findLinkTuple neighborIfaceAddr, tuple.time < n.now →
    ∀ l ∈ (n.state.eraseLinkTuple tuple).linkSet,
      n.getMainAddress l.neighborIfaceAddr ≠ n.getMainAddress tuple.neighborIfaceAddr

/-- What the expiry of an association has to satisfy: each link is followed by the neighbor of
the main address that its interface has then. -/
def ExpiryKeepsLinks (n : Node D) (ifaceAddr : Ipv4Address) : Prop :=
  ∀ t ∈ n.state.findIfaceAssocTuple ifaceAddr, t.time < n.now →
    ∀ l ∈ n.state.linkSet,
      l.Followed n.state.neighborStatus (n.state.eraseIfaceAssocTuple t).getMainAddress n.now

instance (n : Node D) (a : Ipv4Address) : Decidable (n.RemovesLastLink a) :=
  inferInstanceAs (Decidable (∀ tuple ∈ n.state.findLinkTuple a, _ → ∀ l ∈ _, _ ≠ _))

instance (n : Node D) (a : Ipv4Address) : Decidable (n.ExpiryKeepsLinks a) :=
  inferInstanceAs (Decidable (∀ t ∈ n.state.findIfaceAssocTuple a, _ → ∀ l ∈ _,
    LinkTuple.Followed l _ _ _))

lemma removeLinkTuple_followed {tuple : LinkTuple} (h : n.LinksFollowed)
    (hlast : ∀ l ∈ (n.state.eraseLinkTuple tuple).linkSet,
      n.getMainAddress l.neighborIfaceAddr ≠ n.getMainAddress tuple.neighborIfaceAddr) :
    (n.removeLinkTuple tuple).LinksFollowed := by
  intro l hl
  have hne := hlast l hl
  have hfind : (n.removeLinkTuple tuple).state.findNeighborTuple
      (n.getMainAddress l.neighborIfaceAddr) =
      n.state.findNeighborTuple (n.getMainAddress l.neighborIfaceAddr) :=
    Lib.find?_eraseP_of_disjoint
      (fun nb hnb => by simpa [beq_iff_eq.mp hnb] using Ne.symm hne) _
  obtain ⟨st, hst, hsym⟩ := h l (List.eraseP_sublist.subset hl)
  refine ⟨st, ?_, hsym⟩
  rw [OlsrState.neighborStatus] at hst ⊢
  show st ∈ ((n.removeLinkTuple tuple).state.findNeighborTuple
    (n.getMainAddress l.neighborIfaceAddr)).map NeighborTuple.status
  rwa [hfind]

variable [OlsrDefenseStrategy D]

lemma neighborLoss_followed (h : n.LinksFollowed) (tuple : LinkTuple) :
    (n.neighborLoss tuple).LinksFollowed := by
  obtain ⟨ns, hns⟩ := n.linkTupleUpdated_state tuple Willingness.default
  have hupdated : (n.linkTupleUpdated tuple Willingness.default).LinksFollowed := by
    intro l hl
    rw [hns] at hl
    exact linkTupleUpdated_follows hl fun _ => h l hl
  have hst := n.neighborLoss_state tuple
  have hnow : (n.neighborLoss tuple).now = n.now := now_of_fixed (n.neighborLoss_fixed tuple)
  have hnow' : (n.linkTupleUpdated tuple Willingness.default).now = n.now :=
    now_of_fixed (n.linkTupleUpdated_fixed tuple Willingness.default)
  exact hupdated.congr (by rw [hst]; rfl) (by rw [hst]; rfl) (by rw [hst]; rfl)
    (hnow.trans hnow'.symm)

/-! ### Acts -/

/-- What an event has to satisfy for the neighbors to follow the links. -/
def EventKeepsLinks (n : Node D) : Event → Prop
  | .linkTupleTimerExpire a => n.RemovesLastLink a
  | .ifaceAssocTupleTimerExpire a => n.ExpiryKeepsLinks a
  | _ => True

/-- What a message has to satisfy for the neighbors to follow the links. -/
def MessageKeepsLinks (n : Node D) (msg : MessageHeader) (receiverIface senderIface : Ipv4Address) :
    Prop :=
  match msg.body with
  | .hello hello => n.HelloKeepsStatus hello receiverIface senderIface
  | .mid mid => n.fromSymLink senderIface = true →
    n.MidKeepsLinks msg.originatorAddress mid.interfaceAddresses
  | _ => True

/-- What an act has to satisfy for the neighbors to follow the links. -/
def KeepsLinks (n : Node D) : Act D → Prop
  | .recvMessage msg receiverIface senderIface _ =>
    n.reads msg = true → n.MessageKeepsLinks msg receiverIface senderIface
  | .fire _ e _ => n.EventKeepsLinks e
  | _ => True

instance (n : Node D) : (e : Event) → Decidable (n.EventKeepsLinks e)
  | .linkTupleTimerExpire a => inferInstanceAs (Decidable (n.RemovesLastLink a))
  | .ifaceAssocTupleTimerExpire a => inferInstanceAs (Decidable (n.ExpiryKeepsLinks a))
  | .helloTimerExpire | .tcTimerExpire | .midTimerExpire | .hnaTimerExpire | .sendQueuedMessages
  | .handleDefenseTimer | .dupTupleTimerExpire .. | .nb2hopTupleTimerExpire ..
  | .mprSelTupleTimerExpire .. | .topologyTupleTimerExpire .. | .associationTupleTimerExpire .. =>
    inferInstanceAs (Decidable True)

instance (n : Node D) (receiverIface senderIface : Ipv4Address) :
    (msg : MessageHeader) → Decidable (n.MessageKeepsLinks msg receiverIface senderIface)
  | ⟨_, _, _, _, _, .hello hello⟩ =>
    inferInstanceAs (Decidable (n.HelloKeepsStatus hello receiverIface senderIface))
  | ⟨_, _, _, _, _, .mid _⟩ => inferInstanceAs (Decidable (_ = true → n.MidKeepsLinks _ _))
  | ⟨_, _, _, _, _, .tc _⟩ | ⟨_, _, _, _, _, .hna _⟩ => inferInstanceAs (Decidable True)

instance (n : Node D) : (a : Act D) → Decidable (n.KeepsLinks a)
  | .recvMessage .. => inferInstanceAs (Decidable (_ = true → n.MessageKeepsLinks _ _ _))
  | .fire _ e _ => inferInstanceAs (Decidable (n.EventKeepsLinks e))
  | .advance .. | .routingTableComputation | .macTxDrop .. | .onLocalRxDrop
  | .setDefenseStrategy .. | .reactivateDefenseStrategy | .addHostNetworkAssociation ..
  | .removeHostNetworkAssociation .. | .setAttack .. => inferInstanceAs (Decidable True)

/-- The invariant, as a property of the repositories at a time. -/
def FollowedAt (t : Time) (s : OlsrState) : Prop :=
  ∀ l ∈ s.linkSet, l.Followed s.neighborStatus s.getMainAddress t

lemma call_followed (h : n.LinksFollowed) {e : Event} {jitter : Time}
    (hkeeps : n.EventKeepsLinks e) : FollowedAt n.now (n.call e jitter).state := by
  refine n.call_state_inv (Q := FollowedAt n.now) h (fun _ => h) (fun a ha => ?_)
    (fun _ _ => h) (fun _ _ => h) (fun _ _ => h) (fun a t ha ht hexp => ?_) (fun _ _ => h)
  · subst ha
    refine n.linkTupleTimerExpire_state_inv (Q := FollowedAt n.now) h (fun tuple ht hexp => ?_)
      fun tuple _ _ _ _ => ?_
    · exact removeLinkTuple_followed h (hkeeps tuple ht hexp)
    · rw [← now_of_fixed (n.neighborLoss_fixed tuple)]
      exact neighborLoss_followed h tuple
  · subst ha
    exact hkeeps t ht hexp

lemma processMessage_followed {msg : MessageHeader} {receiverIface senderIface : Ipv4Address}
    (h : n.LinksFollowed) (hkeeps : n.MessageKeepsLinks msg receiverIface senderIface)
    (hrunning : (n.processMessage msg receiverIface senderIface).fatalError = false) :
    (n.processMessage msg receiverIface senderIface).LinksFollowed := by
  rw [processMessage] at hrunning ⊢
  split
  · next hello hbody =>
    rw [hbody] at hrunning
    rw [MessageKeepsLinks, hbody] at hkeeps
    exact processHello_followed h hkeeps hrunning
  · next tc _ =>
    obtain ⟨_, hst⟩ := n.processTc_state msg senderIface tc
    exact h.congr (by rw [hst]) (by rw [hst]; rfl) (by rw [hst])
      (now_of_fixed (n.processTc_fixed msg senderIface tc))
  · next mid hbody =>
    rw [MessageKeepsLinks, hbody] at hkeeps
    cases hsym : n.fromSymLink senderIface with
    | false => simpa [processMid, hsym] using h
    | true => exact processMid_followed hsym (hkeeps hsym)
  · next hna _ =>
    obtain ⟨_, hst⟩ := n.processHna_state msg senderIface hna
    exact h.congr (by rw [hst]) (by rw [hst]; rfl) (by rw [hst])
      (now_of_fixed (n.processHna_fixed msg senderIface hna))

/-- **Step lemma.**  The neighbors follow the links over every act that meets the conditions. -/
lemma perform_followed {a : Act D} (h : n.LinksFollowed) (htimed : n.Timed a)
    (hkeeps : n.KeepsLinks a) (hrunning : (n.perform a).fatalError = false) :
    (n.perform a).LinksFollowed := by
  by_cases hadv : ∃ t, a = Act.advance t
  · obtain ⟨t, rfl⟩ := hadv
    exact fun l hl => (h l hl).later htimed.2.1
  · have hnow : (n.perform a).now = n.now := n.perform_now a fun t ht => hadv ⟨t, ht⟩
    show FollowedAt (n.perform a).now (n.perform a).state
    rw [hnow]
    refine n.perform_state_inv (Q := FollowedAt n.now) (fun _ _ h => h) (fun _ _ h => h) h
      (fun msg receiverIface senderIface jitter ha hreads => ?_) fun t e jitter ha => ?_
    · subst ha
      obtain ⟨f, hf⟩ := n.defenseHook_eq_mapDefense msg senderIface
      have hgoes := n.processMessage_running msg receiverIface senderIface hreads hrunning
      have hnow' : ((n.mapDefense f).processMessage msg receiverIface senderIface).now = n.now :=
        now_of_fixed (by simp)
      rw [hf] at hgoes ⊢
      rw [← hnow']
      exact processMessage_followed (n := n.mapDefense f) h (hkeeps hreads) hgoes
    · subst ha
      exact call_followed (n := n.dequeue t e) h (by cases e <;> exact hkeeps)

/-! ### HELLO messages that are sent -/

omit [OlsrDefenseStrategy D] in
lemma helloLinkType_sym {l : LinkTuple} (h : n.helloLinkType l = LinkType.symLink) :
    l.symTime ≥ n.now := by
  rw [helloLinkType] at h
  split at h
  · assumption
  · split at h <;> cases h

omit [OlsrDefenseStrategy D] in
lemma helloNeighborType_notNeigh {l : LinkTuple}
    (h : n.helloNeighborType l = some NeighborType.notNeigh) :
    n.state.neighborStatus (n.getMainAddress l.neighborIfaceAddr) = some Status.notSym := by
  rw [helloNeighborType] at h
  split at h
  · cases h
  · split at h
    · next nb hnb =>
      rw [OlsrState.neighborStatus, hnb]
      cases hst : nb.status with
      | sym => simp [hst] at h
      | notSym => simp [hst]
    · cases h

omit [OlsrDefenseStrategy D] in
/-- A followed link is not announced as a symmetric link to no neighbor. -/
lemma helloLinkMessage_valid {l : LinkTuple} (h : n.Follows l) {m : LinkMessage}
    (hm : n.helloLinkMessage l = some m) :
    m.linkCode ≠ makeLinkCode LinkType.symLink NeighborType.notNeigh := by
  intro hcode
  rw [helloLinkMessage] at hm
  split at hm
  · obtain ⟨nt, hnt, rfl⟩ := Option.map_eq_some_iff.mp hm
    obtain ⟨hsym, hnot⟩ := makeLinkCode_inj hcode
    obtain ⟨st, hst, hstatus⟩ := h
    rw [helloNeighborType_notNeigh (hnot ▸ hnt), Option.mem_some_iff] at hst
    rw [hstatus (helloLinkType_sym hsym)] at hst
    cases hst
  · cases hm

/-- Neither are spoofed links and the fictitious node. -/
lemma helloLinkMessages_valid (h : n.LinksFollowed) :
    ∀ m ∈ n.helloLinkMessages,
      m.linkCode ≠ makeLinkCode LinkType.symLink NeighborType.notNeigh := by
  have hsymLinkCode : symLinkCode ≠ makeLinkCode LinkType.symLink NeighborType.notNeigh := by decide
  intro m hm
  rw [helloLinkMessages, List.mem_append, List.mem_append] at hm
  rcases hm with (hm | hm) | hm
  · obtain ⟨l, hl, hlm⟩ := List.mem_filterMap.mp hm
    exact helloLinkMessage_valid (h l hl) hlm
  · split at hm
    · cases hm
    · rw [List.mem_singleton.mp hm]
      exact hsymLinkCode
  · split at hm
    · rw [List.mem_singleton.mp hm]
      exact hsymLinkCode
    · cases hm

end Node

/-- **Links have neighbors.**  In every run that meets the conditions, at every moment every
stored link has a neighbor tuple for the main address of its interface, and no HELLO message
would pair `SYM_LINK` with `NOT_NEIGH`. -/
theorem links_have_neighbors {D : Type} [OlsrDefenseStrategy D] (r : Run D)
    (h : ∀ x ∈ r.trace, x.1.KeepsLinks x.2) :
    ∀ n ∈ r.nodes, n.fatalError = false →
      (∀ l ∈ n.state.linkSet, ∃ nb ∈ n.state.neighborSet,
        nb.neighborMainAddr = n.getMainAddress l.neighborIfaceAddr) ∧
      ∀ m ∈ n.helloLinkMessages,
        m.linkCode ≠ makeLinkCode LinkType.symLink NeighborType.notNeigh := by
  have hinv := r.nodes_inv (I := fun n => n.fatalError = false → n.LinksFollowed)
    (P := fun n a => n.Timed a ∧ n.KeepsLinks a) ?_
    (fun n a hrunning hn hP hrunning' =>
      Node.perform_followed (hn hrunning) hP.1 hP.2 hrunning')
    fun x hx => ⟨r.timed_trace x hx, h x hx⟩
  · intro n hn hrunning
    have hfollowed := hinv n hn hrunning
    refine ⟨fun l hl => ?_, Node.helloLinkMessages_valid hfollowed⟩
    obtain ⟨st, hst, -⟩ := hfollowed l hl
    obtain ⟨nb, hnb, -⟩ := Option.map_eq_some_iff.mp hst
    exact ⟨nb, List.mem_of_find?_eq_some hnb, by simpa using List.find?_some hnb⟩
  · intro _ l hl
    rw [Run.start, Node.doInitialize_state] at hl
    cases hl

section Examples

open Scenario

/-- Eight seconds. -/
def eightSeconds : UInt8 := 0x07

/-- Node 2 has a second interface, 3, as node 4 relays.  The link to 3 is lost first. -/
def expiringLink : Run OlsrDefenseNull where
  config := quiet
  jitter := 0
  labels := [recv 0 4 (hello 4 [symLinks [1]] eightSeconds),
    recv 0 4 (flooded 2 1 (.mid ⟨[3]⟩) eightSeconds), recv 0 3 (hello 2 []),
    recv 0 2 (hello 2 [symLinks [1]] eightSeconds), Label.timer 0 Event.sendQueuedMessages 0,
    Label.timer 1000 (Event.linkTupleTimerExpire 3) 0,
    Label.timer 2000001000 (Event.linkTupleTimerExpire 3) 0]
  isJitter := quiet_isJitter
  isRun := by decide +kernel

/-- Node 1 hears node 2 on a second interface, on which node 2 does not hear it yet. -/
def secondLink : Run OlsrDefenseNull where
  config := quiet
  jitter := 0
  labels := [recv 0 2 (hello 2 [symLinks [1]]), recv 0 2 (flooded 2 1 (.mid ⟨[3]⟩)),
    recv 0 3 (hello 2 [])]
  isJitter := quiet_isJitter
  isRun := by decide +kernel

/-- Both links to node 2 are symmetric from the start. -/
def twoLinks : Run OlsrDefenseNull where
  config := quiet
  jitter := 0
  labels := [recv 0 2 (hello 2 [symLinks [1]]), recv 0 2 (flooded 2 1 (.mid ⟨[3]⟩)),
    recv 0 3 (hello 2 [symLinks [1]])]
  isJitter := quiet_isJitter
  isRun := by decide +kernel

theorem links_have_neighbors_twoLinks :
    (∀ l ∈ twoLinks.final.state.linkSet, ∃ nb ∈ twoLinks.final.state.neighborSet,
      nb.neighborMainAddr = twoLinks.final.getMainAddress l.neighborIfaceAddr) ∧
    ∀ m ∈ twoLinks.final.helloLinkMessages,
      m.linkCode ≠ makeLinkCode LinkType.symLink NeighborType.notNeigh :=
  links_have_neighbors twoLinks (by decide +kernel) twoLinks.final
    (List.mem_append_right _ (List.mem_singleton_self _)) (by decide +kernel)

/-- The expiry leaves the link to 2 without a neighbor; the link to 3 makes node 1 announce a
symmetric link to no neighbor. -/
theorem links_without_neighbors :
    (Reachable expiringLink.final ∧
      ¬ ∀ l ∈ expiringLink.final.state.linkSet, ∃ nb ∈ expiringLink.final.state.neighborSet,
        nb.neighborMainAddr = expiringLink.final.getMainAddress l.neighborIfaceAddr) ∧
    Reachable secondLink.final ∧
      ¬ ∀ m ∈ secondLink.final.helloLinkMessages,
        m.linkCode ≠ makeLinkCode LinkType.symLink NeighborType.notNeigh :=
  ⟨⟨⟨expiringLink, rfl⟩, by decide +kernel⟩, ⟨secondLink, rfl⟩, by decide +kernel⟩

end Examples

end ManetOlsr
