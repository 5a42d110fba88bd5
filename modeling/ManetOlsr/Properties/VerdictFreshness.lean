/-
The verdict on the sender of a HELLO message.

The hook of the strategy runs before the message is processed, so that the rules judge a sender by
what was known of it before.  The flag agrees with the rules afterwards when the message tells
nothing new, and it lags behind by one message when it does.
-/
import ManetOlsr.Model.Settled
import ManetOlsr.Properties.ContradictionRules
import ManetOlsr.Properties.LinkNeighbors

namespace ManetOlsr

namespace OlsrDefenseGcop

/-- What the rules read of the repositories. -/
structure Evidence where
  neighbors : List Ipv4Address
  claims : List (Ipv4Address × Ipv4Address)
  topologySet : List TopologyTuple

def evidence (s : OlsrState) : Evidence where
  neighbors := s.neighborSet.map NeighborTuple.neighborMainAddr
  claims := s.twoHopNeighborSet.map TwoHopNeighborTuple.key
  topologySet := s.topologySet

variable {d : OlsrDefenseGcop} {s s' : OlsrState} {x : Ipv4Address}

lemma claimedBy_eq (s : OlsrState) (x : Ipv4Address) :
    claimedBy s x = ((evidence s).claims.filter fun c => c.1 == x).map Prod.snd := by
  simp only [claimedBy, evidence, List.filter_map, List.map_map]
  rfl

/-- The verdict is a function of the evidence. -/
lemma violates_congr (h : evidence s' = evidence s) : d.violates s' x = d.violates s x := by
  have hneighbors : s'.neighborSet.map NeighborTuple.neighborMainAddr =
      s.neighborSet.map NeighborTuple.neighborMainAddr := congrArg Evidence.neighbors h
  have htopology : s'.topologySet = s.topologySet := congrArg Evidence.topologySet h
  refine SameEvidence.violates_eq ⟨fun a => ?_, fun m a => ?_, fun u v => ?_⟩ d x
  · rw [← mem_neighborMainAddrs, ← mem_neighborMainAddrs, hneighbors]
  · rw [claimedBy_eq, claimedBy_eq, h]
  · rw [Advertises, Advertises, htopology]

lemma onRecvHello_enabled (s : OlsrState) (x : Ipv4Address) :
    (d.onRecvHello s x).enabled = d.enabled := by
  rw [onRecvHello, evaluateContradictionRules]
  split_ifs <;> rfl

lemma onRecvHello_attached (s : OlsrState) (x : Ipv4Address) :
    (d.onRecvHello s x).attached = d.attached := by
  rw [onRecvHello, evaluateContradictionRules]
  split_ifs <;> rfl

lemma onRecvHello_violates (s s' : OlsrState) (x : Ipv4Address) :
    (d.onRecvHello s x).violates s' x = d.violates s' x := by
  have hmain : (d.onRecvHello s x).mainAddress = d.mainAddress := by
    rw [onRecvHello, evaluateContradictionRules]
    split_ifs <;> rfl
  simp only [violates, checkRule1, checkRule3, fakeAddress, hmain]

/-- The hook flags a sender if a rule fires on what the repositories then hold. -/
lemma mem_riskyNodes_onRecvHello (henabled : d.enabled = true) (hattached : d.attached = true)
    (s : OlsrState) (x : Ipv4Address) :
    x ∈ (d.onRecvHello s x).riskyNodes ↔ d.violates s x = true := by
  have hrun : d.onRecvHello s x = if d.violates s x then
      { d with riskyNodes := insert x d.riskyNodes }
      else { d with riskyNodes := d.riskyNodes.erase x } := by
    rw [onRecvHello, evaluateContradictionRules]
    simp only [henabled, hattached, violates]
    rfl
  rw [hrun]
  split
  · next h => simp [h]
  · next h => simp [h]

end OlsrDefenseGcop

namespace Node

open OlsrDefenseGcop (evidence)

section Evidence

variable {D : Type} {n : Node D} {msg : MessageHeader} {hello : Hello}
  {receiverIface senderIface : Ipv4Address}

/-! ### What a HELLO message tells -/

/-- No link to a node is symmetric. -/
def NoSymmetricLink (n : Node D) (mainAddr : Ipv4Address) : Prop :=
  ∀ l ∈ n.state.linkSet, n.getMainAddress l.neighborIfaceAddr = mainAddr → l.symTime < n.now

/-- A listed address changes no 2-hop tuple but in its time. -/
def KnowsClaim (n : Node D) (originator : Ipv4Address) (neighborType : NeighborType)
    (addr : Ipv4Address) : Prop :=
  let stored := n.state.findTwoHopNeighborTuple originator (n.getMainAddress addr)
  match neighborType with
  | NeighborType.symNeigh | NeighborType.mprNeigh =>
    n.getMainAddress addr = n.mainAddress ∨ stored.isSome = true
  | NeighborType.notNeigh => stored = none
  | NeighborType.unknown => True

/-- A HELLO message tells nothing new: it is a duplicate, or it comes from a known neighbor and
either the 2-hop tuples are as it says already, or no link to the neighbor is or gets symmetric. -/
def TellsNothingNew (n : Node D) (msg : MessageHeader) (hello : Hello)
    (receiverIface senderIface : Ipv4Address) : Prop :=
  (n.duplicateOf msg).isSome = true ∨
  (n.state.findNeighborTuple (n.getMainAddress senderIface)).isSome = true ∧
  ((∀ m ∈ hello.linkMessages, ∀ a ∈ m.neighborInterfaceAddresses,
      n.KnowsClaim msg.originatorAddress (NeighborType.ofLinkCode m.linkCode) a) ∨
    n.NoSymmetricLink msg.originatorAddress ∧ ¬ hello.Hears receiverIface)

instance (n : Node D) (originator : Ipv4Address) : (nt : NeighborType) → (a : Ipv4Address) →
    Decidable (n.KnowsClaim originator nt a)
  | .symNeigh, _ | .mprNeigh, _ => inferInstanceAs (Decidable (_ ∨ _))
  | .notNeigh, _ => inferInstanceAs (Decidable (_ = none))
  | .unknown, _ => inferInstanceAs (Decidable True)

instance (n : Node D) (mainAddr : Ipv4Address) : Decidable (n.NoSymmetricLink mainAddr) :=
  inferInstanceAs (Decidable (∀ l ∈ _, _ → _))

instance (n : Node D) (msg : MessageHeader) (hello : Hello)
    (receiverIface senderIface : Ipv4Address) :
    Decidable (n.TellsNothingNew msg hello receiverIface senderIface) :=
  -- The listed addresses are searched, not all addresses.
  have (m : LinkMessage) : Decidable (∀ a ∈ m.neighborInterfaceAddresses,
      n.KnowsClaim msg.originatorAddress (NeighborType.ofLinkCode m.linkCode) a) :=
    List.decidableBAll _ _
  inferInstanceAs (Decidable (_ ∨ _ ∧ (_ ∨ _ ∧ _)))

/-! ### Link sensing -/

lemma setNeighborStatus_evidence (s : OlsrState) (a : Ipv4Address) (st : Status) :
    evidence (s.setNeighborStatus a st) = evidence s := by
  have hkeys : (Lib.updateFirst (fun t => t.neighborMainAddr == a)
      (fun t => { t with status := st }) s.neighborSet).map NeighborTuple.neighborMainAddr =
        s.neighborSet.map NeighborTuple.neighborMainAddr :=
    Lib.map_updateFirst fun _ _ _ => rfl
  rw [evidence, OlsrState.setNeighborStatus, hkeys]
  rfl

lemma setNeighborWillingness_evidence (s : OlsrState) (a : Ipv4Address) (w : Willingness) :
    evidence (s.setNeighborWillingness a w) = evidence s := by
  have hkeys : (Lib.updateFirst (fun t => t.neighborMainAddr == a)
      (fun t => { t with willingness := w }) s.neighborSet).map NeighborTuple.neighborMainAddr =
        s.neighborSet.map NeighborTuple.neighborMainAddr :=
    Lib.map_updateFirst fun _ _ _ => rfl
  rw [evidence, OlsrState.setNeighborWillingness, hkeys]
  rfl

lemma linkTupleUpdated_evidence {tuple : LinkTuple} (w : Willingness)
    (h : (n.state.findNeighborTuple (n.getMainAddress tuple.neighborIfaceAddr)).isSome = true) :
    evidence (n.linkTupleUpdated tuple w).state = evidence n.state := by
  obtain ⟨nb, hnb⟩ := Option.isSome_iff_exists.mp h
  simp only [linkTupleUpdated, hnb, Option.isNone_some, Bool.false_eq_true, if_false,
    withState_state]
  exact setNeighborStatus_evidence _ _ _

lemma linkTupleCreated_evidence {tuple : LinkTuple} (w : Willingness)
    (h : n.getMainAddress tuple.neighborIfaceAddr ∈
      n.state.neighborSet.map NeighborTuple.neighborMainAddr) :
    evidence (n.linkTupleCreated tuple w).state = evidence n.state := by
  let nb : NeighborTuple :=
    { neighborMainAddr := n.getMainAddress tuple.neighborIfaceAddr
      willingness := w
      status := if tuple.symTime ≥ n.now then Status.sym else Status.notSym }
  have hkeys : (Lib.upsert (fun t => t.neighborMainAddr == nb.neighborMainAddr) nb
      n.state.neighborSet).map NeighborTuple.neighborMainAddr =
        n.state.neighborSet.map NeighborTuple.neighborMainAddr :=
    Lib.map_key_upsert.trans (if_pos h)
  simp only [linkTupleCreated, linkTupleAdded, schedule_state, addNeighborTuple_state, evidence,
    OlsrState.insertNeighborTuple]
  exact congrArg (fun keys => (⟨keys, _, _⟩ : OlsrDefenseGcop.Evidence)) hkeys

/-- Link sensing adds no neighbor when the sender is known. -/
lemma linkSensing_evidence
    (h : (n.state.findNeighborTuple (n.getMainAddress senderIface)).isSome = true) :
    evidence (n.linkSensing msg hello receiverIface senderIface).state = evidence n.state := by
  have hiface : (n.sensedLink msg hello receiverIface senderIface).link.neighborIfaceAddr =
    senderIface := sensedLink_neighborIfaceAddr
  simp only [linkSensing]
  set x := n.sensedLink msg hello receiverIface senderIface
  set n₁ := n.withState (n.state.storeLinkTuple senderIface x.link)
  have hstored : evidence n₁.state = evidence n.state := rfl
  have hupdated : evidence (n₁.linkTupleUpdated x.link hello.willingness).state =
      evidence n.state := by
    rw [linkTupleUpdated_evidence hello.willingness (by rw [hiface]; exact h), hstored]
  have hmem : n.getMainAddress senderIface ∈ (evidence n.state).neighbors := by
    obtain ⟨t, ht, hmain⟩ := List.find?_isSome.mp h
    exact List.mem_map.mpr ⟨t, ht, beq_iff_eq.mp hmain⟩
  have hcreated : ∀ n₂ : Node D, n₂.getMainAddress = n.getMainAddress →
      evidence n₂.state = evidence n.state →
      evidence (n₂.linkTupleCreated x.link hello.willingness).state = evidence n.state := by
    intro n₂ hmain h₂
    refine (linkTupleCreated_evidence hello.willingness ?_).trans h₂
    rw [hiface, hmain]
    show n.getMainAddress senderIface ∈ (evidence n₂.state).neighbors
    rw [h₂]
    exact hmem
  have hmain : (n₁.linkTupleUpdated x.link hello.willingness).getMainAddress = n.getMainAddress := by
    obtain ⟨ns, hns⟩ := n₁.linkTupleUpdated_state x.link hello.willingness
    exact OlsrState.getMainAddress_congr (by rw [hns]; rfl)
  split
  · exact hstored
  · split <;> split
    · exact hcreated _ hmain hupdated
    · exact hcreated n₁ rfl hstored
    · exact hupdated
    · exact hstored

variable (receiverIface) in
/-- A HELLO message that does not hear the interface makes no link to it symmetric. -/
lemma foldl_sensingStep_notHeard (vTime : Time) (ms : List LinkMessage) (x : Sensing)
    (hnot : ∀ last : LinkType, ((ms.filter fun m => !invalidLinkCode m.linkCode &&
      m.neighborInterfaceAddresses.contains receiverIface).getLast?).map
        (fun m => LinkType.ofLinkCode m.linkCode) = some last →
      last ≠ LinkType.symLink ∧ last ≠ LinkType.asymLink)
    (hx : x.link.symTime < n.now) :
    (ms.foldl (n.sensingStep vTime receiverIface) x).badLinkType = true ∨
      (ms.foldl (n.sensingStep vTime receiverIface) x).link.symTime < n.now := by
  induction ms using List.reverseRecOn with
  | nil => exact Or.inr hx
  | append_singleton ms m ih =>
    rw [List.foldl_append, List.foldl_cons, List.foldl_nil]
    rw [List.filter_append] at hnot
    by_cases hinvalid : invalidLinkCode m.linkCode = true
    · rw [sensingStep, if_pos hinvalid]
      exact ih (by simpa [hinvalid] using hnot)
    · by_cases hlisted : receiverIface ∈ m.neighborInterfaceAddresses
      · have hlast := hnot (LinkType.ofLinkCode m.linkCode) (by simp [hinvalid, hlisted])
        rw [sensingStep, if_neg hinvalid, if_pos (by simpa using hlisted)]
        cases htype : LinkType.ofLinkCode m.linkCode with
        | lostLink =>
          right
          exact Int.sub_lt_self n.now (by decide)
        | symLink => exact absurd htype hlast.1
        | asymLink => exact absurd htype hlast.2
        | unspecLink => exact Or.inl rfl
      · rw [sensingStep, if_neg hinvalid, if_neg (by simpa using hlisted)]
        exact ih (by simpa [hinvalid, hlisted] using hnot)

/-- Unless the simulation stops, link sensing leaves the originator without a symmetric link when
it had none and does not hear the interface. -/
lemma linkSensing_noSymmetricLink (hlinks : n.NoSymmetricLink msg.originatorAddress)
    (hnot : ¬ hello.Hears receiverIface)
    (hrunning : (n.linkSensing msg hello receiverIface senderIface).fatalError = false) :
    (n.linkSensing msg hello receiverIface senderIface).NoSymmetricLink msg.originatorAddress := by
  have hiface : (n.sensedLink msg hello receiverIface senderIface).link.neighborIfaceAddr =
    senderIface := sensedLink_neighborIfaceAddr
  obtain ⟨ns, hns⟩ := n.linkSensing_state msg hello receiverIface senderIface
  have hnow : (n.linkSensing msg hello receiverIface senderIface).now = n.now :=
    now_of_fixed (by simp)
  have hmain : (n.linkSensing msg hello receiverIface senderIface).getMainAddress =
      n.getMainAddress :=
    OlsrState.getMainAddress_congr (by rw [hns])
  intro l hl horiginator
  rw [hmain] at horiginator
  rw [hnow]
  rw [hns] at hl
  rcases Lib.mem_upsert hl with hl | rfl
  · exact hlinks l hl horiginator
  · rw [hiface] at horiginator
    have hgood : (n.sensedLink msg hello receiverIface senderIface).badLinkType = false := by
      cases hbad : (n.sensedLink msg hello receiverIface senderIface).badLinkType with
      | false => rfl
      | true => exact absurd hrunning (by simp [linkSensing, hbad])
    have hsensed := foldl_sensingStep_notHeard (n := n) receiverIface
      (getVTime msg.vTime) hello.linkMessages
      ⟨{ (n.state.findLinkTuple senderIface).getD
          (n.newLinkTuple (getVTime msg.vTime) receiverIface senderIface) with
          asymTime := n.now + getVTime msg.vTime },
        (n.state.findLinkTuple senderIface).isSome, false⟩
      (fun last hlast => ⟨fun h => hnot (Or.inl (h ▸ hlast)), fun h => hnot (Or.inr (h ▸ hlast))⟩) ?_
    · rcases hsensed with hbad | hsym
      · exact absurd (hgood.symm.trans hbad) Bool.false_ne_true
      · exact hsym
    · cases hfind : n.state.findLinkTuple senderIface with
      | none => exact Int.sub_lt_self n.now (by decide)
      | some stored =>
        have hstored := List.find?_some
          (p := fun t : LinkTuple => t.neighborIfaceAddr == senderIface) hfind
        refine hlinks stored (List.mem_of_find?_eq_some hfind) ?_
        rw [beq_iff_eq.mp hstored, horiginator]

/-! ### 2-hop neighbors -/

lemma findTwoHopNeighborTuple_isSome (s : OlsrState) (a b : Ipv4Address) :
    (s.findTwoHopNeighborTuple a b).isSome = true ↔ (a, b) ∈ (evidence s).claims := by
  simp [OlsrState.findTwoHopNeighborTuple, evidence, List.find?_isSome]

/-- Nodes for which a listed address is the same claim. -/
def SameClaims (n k : Node D) : Prop :=
  k.mainAddress = n.mainAddress ∧ k.getMainAddress = n.getMainAddress ∧
    evidence k.state = evidence n.state

/-- An address that changes no claim changes no evidence. -/
lemma twoHopAddressStep_sameClaims {k : Node D} (h : n.SameClaims k) {nt : NeighborType}
    {a : Ipv4Address} (ha : n.KnowsClaim msg.originatorAddress nt a) :
    n.SameClaims (twoHopAddressStep msg nt k a) := by
  obtain ⟨hself, hmain, hevidence⟩ := h
  -- Restarting the timer of a tuple keeps its key, which is all that counts as a claim.
  have hset : ∀ b t, n.SameClaims
      (k.withState (k.state.setTwoHopExpiration msg.originatorAddress b t)) := by
    intro b t
    refine ⟨hself, hmain, ?_⟩
    have hkeys : (Lib.updateFirst (fun u => u.key == (msg.originatorAddress, b))
        (fun u => { u with expirationTime := t }) k.state.twoHopNeighborSet).map
          TwoHopNeighborTuple.key = k.state.twoHopNeighborSet.map TwoHopNeighborTuple.key :=
      Lib.map_updateFirst fun _ _ _ => rfl
    rw [← hevidence, withState_state, evidence, OlsrState.setTwoHopExpiration, hkeys]
    rfl
  have hstored : ∀ b, (k.state.findTwoHopNeighborTuple msg.originatorAddress b).isSome = true ↔
      (n.state.findTwoHopNeighborTuple msg.originatorAddress b).isSome = true := by
    intro b
    rw [findTwoHopNeighborTuple_isSome, findTwoHopNeighborTuple_isSome, hevidence]
  have hsym : n.getMainAddress a = n.mainAddress ∨
      (n.state.findTwoHopNeighborTuple msg.originatorAddress (n.getMainAddress a)).isSome = true →
      n.SameClaims (twoHopAddressStep msg NeighborType.symNeigh k a) := by
    intro hknown
    have haddr : k.getMainAddress a = n.getMainAddress a := congrFun hmain a
    simp only [twoHopAddressStep, haddr, hself]
    split
    · exact ⟨hself, hmain, hevidence⟩
    · next hother =>
      obtain ⟨t, ht⟩ := Option.isSome_iff_exists.mp ((hstored _).mpr (hknown.resolve_left hother))
      rw [ht]
      exact hset _ _
  cases nt with
  | symNeigh => exact hsym ha
  | mprNeigh => exact hsym ha
  | notNeigh =>
    refine ⟨hself, hmain, ?_⟩
    -- There is no tuple to erase.
    have hnone : k.state.findTwoHopNeighborTuple msg.originatorAddress (k.getMainAddress a) =
        none := by
      rw [hmain, ← Option.not_isSome_iff_eq_none, hstored, Option.not_isSome_iff_eq_none]
      exact ha
    have hkept : k.state.eraseTwoHopNeighborTuplesTo msg.originatorAddress (k.getMainAddress a) =
        k.state := by
      have hfilter : k.state.twoHopNeighborSet.filter (fun t =>
          !(t.key == (msg.originatorAddress, k.getMainAddress a))) = k.state.twoHopNeighborSet :=
        List.filter_eq_self.mpr fun t ht => by simpa using List.find?_eq_none.mp hnone t ht
      rw [OlsrState.eraseTwoHopNeighborTuplesTo, hfilter]
    simp only [twoHopAddressStep, hkept]
    exact hevidence
  | unknown => exact ⟨hself, hmain, hevidence⟩

lemma populateTwoHopNeighborSet_evidence
    (h : ∀ m ∈ hello.linkMessages, ∀ a ∈ m.neighborInterfaceAddresses,
      n.KnowsClaim msg.originatorAddress (NeighborType.ofLinkCode m.linkCode) a) :
    evidence (n.populateTwoHopNeighborSet msg hello).state = evidence n.state := by
  have hall : n.SameClaims (n.populateTwoHopNeighborSet msg hello) := by
    refine foldl_inv (I := n.SameClaims) _ (fun k _ _ hk => ?_) ⟨rfl, rfl, rfl⟩
    refine foldl_inv (I := n.SameClaims) _ (fun k m hm hk => ?_) hk
    exact foldl_inv (I := n.SameClaims) _
      (fun k a ha hk => twoHopAddressStep_sameClaims hk (h m hm a ha)) hk
  exact hall.2.2

lemma populateTwoHopNeighborSet_of_noSymmetricLink (h : n.NoSymmetricLink msg.originatorAddress) :
    n.populateTwoHopNeighborSet msg hello = n := by
  have hlinks : (n.state.linkSet.filter fun l =>
      n.getMainAddress l.neighborIfaceAddr == msg.originatorAddress &&
        !decide (l.symTime < n.now)) = [] := by
    refine List.filter_eq_nil_iff.mpr fun l hl => ?_
    simpa using h l hl
  simp only [populateTwoHopNeighborSet, hlinks, List.foldl_nil]

/-- A HELLO message that tells nothing new leaves the evidence as it is. -/
lemma processHello_evidence [OlsrDefenseStrategy D]
    (hknown : (n.state.findNeighborTuple (n.getMainAddress senderIface)).isSome = true)
    (h : (∀ m ∈ hello.linkMessages, ∀ a ∈ m.neighborInterfaceAddresses,
        n.KnowsClaim msg.originatorAddress (NeighborType.ofLinkCode m.linkCode) a) ∨
      n.NoSymmetricLink msg.originatorAddress ∧ ¬ hello.Hears receiverIface) :
    evidence (n.processHello msg hello receiverIface senderIface).state = evidence n.state := by
  have hsensed : evidence (n.linkSensing msg hello receiverIface senderIface).state =
    evidence n.state := linkSensing_evidence hknown
  obtain ⟨ns, hns⟩ := n.linkSensing_state msg hello receiverIface senderIface
  simp only [processHello]
  split
  · exact hsensed
  · next hrunning =>
    set n₁ := n.linkSensing msg hello receiverIface senderIface with hn₁
    have hwilling : evidence (n₁.populateNeighborSet msg hello).state = evidence n.state :=
      (setNeighborWillingness_evidence _ _ _).trans hsensed
    have htwoHop : evidence ((n₁.populateNeighborSet msg hello).populateTwoHopNeighborSet msg
        hello).state = evidence n.state := by
      rcases h with hclaims | ⟨hlinks, hnot⟩
      · refine (populateTwoHopNeighborSet_evidence fun m hm a ha => ?_).trans hwilling
        have hmain : (n₁.populateNeighborSet msg hello).getMainAddress = n.getMainAddress :=
          OlsrState.getMainAddress_congr (by rw [populateNeighborSet_state, hns]; rfl)
        have hself : (n₁.populateNeighborSet msg hello).mainAddress = n.mainAddress :=
          mainAddress_of_fixed (by simp [hn₁])
        have hfind : (n₁.populateNeighborSet msg hello).state.findTwoHopNeighborTuple =
            n.state.findTwoHopNeighborTuple := by
          funext b c
          rw [populateNeighborSet_state, hns]
          rfl
        have hclaim := hclaims m hm a ha
        simp only [KnowsClaim] at hclaim ⊢
        rw [congrFun hmain a, hself, hfind]
        exact hclaim
      · have hnone : (n.linkSensing msg hello receiverIface senderIface).NoSymmetricLink
            msg.originatorAddress :=
          linkSensing_noSymmetricLink hlinks hnot (by simpa using hrunning)
        rw [populateTwoHopNeighborSet_of_noSymmetricLink (by exact hnone)]
        exact hwilling
    obtain ⟨ms, hms⟩ := populateMprSelectorSet_state ((n₁.populateNeighborSet msg
      hello).populateTwoHopNeighborSet msg hello).mprComputation msg hello
    rw [hms]
    exact htwoHop

end Evidence

/-! ### Verdicts -/

/-- The flag of a node agrees with the rules. -/
def VerdictFresh (n : Node OlsrDefenseGcop) (x : Ipv4Address) : Prop :=
  ∀ d, n.defenseStrategy = some d → d.enabled = true → d.attached = true →
    (x ∈ d.riskyNodes ↔ d.violates n.state x = true)

instance (n : Node OlsrDefenseGcop) (x : Ipv4Address) : Decidable (n.VerdictFresh x) :=
  match h : n.defenseStrategy with
  | none => isTrue fun d hd => by simp [h] at hd
  | some d =>
    decidable_of_iff (d.enabled = true → d.attached = true →
      (x ∈ d.riskyNodes ↔ d.violates n.state x = true))
      ⟨fun hfresh d' hd' => by
        obtain rfl := Option.some.inj (h.symm.trans hd')
        exact hfresh, fun hfresh => hfresh d h⟩

variable {n : Node OlsrDefenseGcop} {msg : MessageHeader} {hello : Hello}
  {receiverIface senderIface : Ipv4Address} {jitter : Time}

/-- The verdict on the originator of a message, by what is known before the message. -/
lemma recvMessage_verdict (hign : n.ignores msg = false) (hbody : msg.body = .hello hello)
    {d' : OlsrDefenseGcop}
    (hd' : (n.recvMessage msg receiverIface senderIface jitter).defenseStrategy = some d')
    (henabled : d'.enabled = true) (hattached : d'.attached = true) :
    (senderIface ∈ d'.riskyNodes ↔ d'.violates n.state senderIface = true) := by
  have hsettled : (n.recvMessage msg receiverIface senderIface jitter).defenseStrategy =
      (n.defenseHook msg senderIface).defenseStrategy :=
    defenseStrategy_of_settled
      (settled_ignoresMessages.recvMessage msg receiverIface senderIface hign)
  have hhook : (n.defenseHook msg senderIface).defenseStrategy =
      n.defenseStrategy.map fun d => d.onRecvHello n.state senderIface := by
    rw [defenseHook, hbody]
    rfl
  have hmap : n.defenseStrategy.map (fun d => d.onRecvHello n.state senderIface) = some d' :=
    hhook.symm.trans (hsettled.symm.trans hd')
  obtain ⟨d, -, rfl⟩ := Option.map_eq_some_iff.mp hmap
  rw [OlsrDefenseGcop.onRecvHello_enabled] at henabled
  rw [OlsrDefenseGcop.onRecvHello_attached] at hattached
  rw [OlsrDefenseGcop.onRecvHello_violates]
  exact OlsrDefenseGcop.mem_riskyNodes_onRecvHello henabled hattached _ _

lemma recvMessage_evidence (hbody : msg.body = .hello hello)
    (h : n.TellsNothingNew msg hello receiverIface senderIface) :
    evidence (n.recvMessage msg receiverIface senderIface jitter).state = evidence n.state := by
  obtain ⟨ds, hds⟩ := n.recvMessage_state msg receiverIface senderIface jitter
  have hsame : ∀ s : OlsrState, evidence { s with duplicateSet := ds } = evidence s := fun _ => rfl
  rw [hds, hsame]
  split
  · next hreads =>
    have hnew : ¬ (n.duplicateOf msg).isSome = true := by
      rw [reads, Bool.and_eq_true] at hreads
      simpa using hreads.2
    obtain ⟨hknown, hclaims⟩ := h.resolve_left hnew
    have hhook : n.defenseHook msg senderIface =
        n.mapDefense fun d => OlsrDefenseStrategy.onRecvHello d n.now n.state senderIface msg
          hello := by
      rw [defenseHook, hbody]
    rw [processMessage, hbody, hhook]
    exact processHello_evidence (n := n.mapDefense _) hknown hclaims
  · rfl

/-- **Step lemma.**  After a message that tells nothing new the verdict is fresh. -/
lemma recvMessage_verdictFresh (hign : n.ignores msg = false) (hbody : msg.body = .hello hello)
    (h : n.TellsNothingNew msg hello receiverIface senderIface) :
    (n.recvMessage msg receiverIface senderIface jitter).VerdictFresh senderIface := by
  intro d hd henabled hattached
  rw [OlsrDefenseGcop.violates_congr (recvMessage_evidence hbody h)]
  exact recvMessage_verdict hign hbody hd henabled hattached

/-- The computation of the routing table that ends a packet has no part in it. -/
lemma VerdictFresh.exec_routingTableComputation {x : Ipv4Address} (h : n.VerdictFresh x) :
    (n.exec Act.routingTableComputation).VerdictFresh x := by
  rw [exec]
  split
  · exact h
  · intro d hd
    rw [perform, routingTableComputation_defenseStrategy] at hd
    rw [perform, routingTableComputation_state]
    exact h d hd

/-- A packet with one HELLO message, from the main address of its originator, is handled: it comes
in on an interface, it is accepted, and the message is not skipped. -/
structure HandlesHello (n : Node OlsrDefenseGcop) (recvInterface : ℕ) (iface : Ipv4Interface)
    (msg : MessageHeader) (hello : Hello) : Prop where
  body : msg.body = .hello hello
  interface : n.interfaces[recvInterface]? = some iface
  accepts : n.acceptsFrom recvInterface msg.originatorAddress = true
  notIgnored : n.ignores msg = false

lemma HandlesHello.acts {recvInterface : ℕ} {iface : Ipv4Interface}
    (h : n.HandlesHello recvInterface iface msg hello) (t jitter : Time) :
    n.acts (Label.recvOlsr t recvInterface msg.originatorAddress [msg] jitter) =
      [Act.advance t, Act.recvMessage msg iface.address msg.originatorAddress jitter,
        Act.routingTableComputation] := by
  simp only [Node.acts, recvOlsrActs, h.interface, h.accepts, if_true]
  rfl

end Node

/-- **The verdict is fresh when the message tells nothing new.**  In every run, after a packet with
one HELLO message that tells nothing new, its originator is flagged if and only if one of the rules
fires for it in the repositories as the message has left them. -/
theorem helloVerdict_fresh (r : Run OlsrDefenseGcop) :
    ∀ (n : Node OlsrDefenseGcop) (t : Time) (recvInterface : ℕ) (iface : Ipv4Interface)
      (msg : MessageHeader) (hello : Hello) (jitter : Time),
      (n, Label.recvOlsr t recvInterface msg.originatorAddress [msg] jitter) ∈
        Lib.trace Node.step r.start r.labels →
      n.HandlesHello recvInterface iface msg hello →
      (n.perform (Act.advance t)).TellsNothingNew msg hello iface.address
        msg.originatorAddress →
      (n.step (Label.recvOlsr t recvInterface msg.originatorAddress [msg] jitter)).VerdictFresh
        msg.originatorAddress := by
  intro n t recvInterface iface msg hello jitter hx hhandles hnothing
  have hrunning : n.fatalError = false := (r.isRun.enabled _ hx).1
  have hadvance : n.exec (Act.advance t) = n.perform (Act.advance t) :=
    if_neg (by simp [hrunning])
  have hstill : (n.perform (Act.advance t)).fatalError = false := hrunning
  rw [Node.step, hhandles.acts, Lib.run_cons, Lib.run_cons, Lib.run_cons, Lib.run_nil, hadvance]
  refine Node.VerdictFresh.exec_routingTableComputation ?_
  rw [Node.exec, if_neg (by simp [hstill])]
  exact Node.recvMessage_verdictFresh hhandles.notIgnored hhandles.body hnothing

section Examples

open Scenario

lemma quietGcop_isJitter :
    ({ (quiet : Config OlsrDefenseGcop) with defenseStrategy := some { enabled := true } } :
      Config OlsrDefenseGcop).node.IsJitter 0 := by
  decide

/-- Node 2 is cleared by its second HELLO message, after a TC message has made two destinations
known.  Its third HELLO message claims two nodes that nobody else knows. -/
def lateClaims : Run OlsrDefenseGcop where
  config :=
    { (quiet : Config OlsrDefenseGcop) with defenseStrategy := some { enabled := true } }
  jitter := 0
  labels := [recv 0 2 (hello 2 [symLinks [1]]), recv 0 2 (flooded 7 1 (.tc ⟨[8, 9], 1⟩)),
    recv 0 2 (hello 2 [symLinks [1]])] ++ [recv 0 2 (hello 2 [symLinks [1, 4, 5]])]
  isJitter := quietGcop_isJitter
  isRun := by decide +kernel

/-- The node after two packets, and after three. -/
def lateClaims.cleared : Node OlsrDefenseGcop :=
  Lib.run Node.step lateClaims.start (lateClaims.labels.take 2)

def lateClaims.node : Node OlsrDefenseGcop :=
  Lib.run Node.step lateClaims.start (lateClaims.labels.take 3)

theorem helloVerdict_fresh_lateClaims :
    (lateClaims.cleared.step (recv 0 2 (hello 2 [symLinks [1]]))).VerdictFresh 2 := by
  refine helloVerdict_fresh lateClaims lateClaims.cleared 0 0 { address := 1 }
    (hello 2 [symLinks [1]]) ⟨twoSeconds, Willingness.default, [symLinks [1]]⟩ 0 ?_
    ⟨rfl, by decide +kernel, by decide +kernel, by decide +kernel⟩ (by decide +kernel)
  exact List.mem_cons_of_mem _ (List.mem_cons_of_mem _ List.mem_cons_self)

/-- The third HELLO message of the symmetric neighbor 2 leaves sets on which a rule fires, and no
flag. -/
theorem lateClaims_notFlagged :
    (lateClaims.node, recv 0 2 (hello 2 [symLinks [1, 4, 5]])) ∈
      Lib.trace Node.step lateClaims.start lateClaims.labels ∧
    lateClaims.node.HandlesHello 0 { address := 1 } (hello 2 [symLinks [1, 4, 5]])
      ⟨twoSeconds, Willingness.default, [symLinks [1, 4, 5]]⟩ ∧
    (lateClaims.node.state.findSymNeighborTuple 2).isSome = true ∧
    ∃ d, (lateClaims.node.step
        (recv 0 2 (hello 2 [symLinks [1, 4, 5]]))).defenseStrategy = some d ∧
      d.enabled = true ∧ d.attached = true ∧ 2 ∉ d.riskyNodes ∧
      d.violates (lateClaims.node.step (recv 0 2 (hello 2 [symLinks [1, 4, 5]]))).state 2 = true := by
  refine ⟨?_, ⟨rfl, by decide +kernel, by decide +kernel, by decide +kernel⟩, by decide +kernel,
    ⟨true, true, true, 1, ∅⟩, by decide +kernel, rfl, rfl, by decide, by decide +kernel⟩
  rw [lateClaims, Lib.trace_append]
  exact List.mem_append_right _ List.mem_cons_self

end Examples

end ManetOlsr
