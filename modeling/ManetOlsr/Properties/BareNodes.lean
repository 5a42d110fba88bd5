/-
What a disabled strategy can do to a node.

A node is compared with the same node bare of its strategy, and of the timer and the counter that
serve the strategy.  Every function of the protocol commutes with taking the strategy away, as long
as the strategy is not enabled; the hooks are the only places where this has to be seen.
-/
import ManetOlsr.Model.Forwarding
import ManetOlsr.Model.Frames
import ManetOlsr.Properties.MprCoverage

namespace ManetOlsr

namespace Node

section Bare

variable (n : Node OlsrDefenseGcop)

/-- A node without its strategy, and without the timer and the counter that serve the strategy. -/
def bare : Node OlsrDefenseGcop :=
  { n with
    defenseStrategy := none
    localRxDrops := 0
    events := n.events.filter fun te => !(te.2 == Event.handleDefenseTimer) }

/-- No strategy is installed, or one that is not enabled. -/
def Inert : Prop := ∀ d, n.defenseStrategy = some d → d.enabled = false

variable (s : OlsrState) (t : Time) {e : Event}

@[simp] lemma bare_state : n.bare.state = n.state := rfl
@[simp] lemma bare_fixed : n.bare.fixed = n.fixed := rfl
@[simp] lemma bare_now : n.bare.now = n.now := rfl
@[simp] lemma bare_mainAddress : n.bare.mainAddress = n.mainAddress := rfl
@[simp] lemma bare_fatalError : n.bare.fatalError = n.fatalError := rfl
@[simp] lemma bare_delay : n.bare.delay t = n.delay t := rfl
@[simp] lemma bare_bare : n.bare.bare = n.bare := by simp [bare]
@[simp] lemma bare_withState : (n.withState s).bare = n.bare.withState s := rfl
@[simp] lemma bare_incrementAnsn : n.incrementAnsn.bare = n.bare.incrementAnsn := rfl

@[simp] lemma withState_defenseStrategy :
    (n.withState s).defenseStrategy = n.defenseStrategy := rfl

@[simp] lemma bare_schedule (he : e ≠ Event.handleDefenseTimer) :
    (n.schedule t e).bare = n.bare.schedule t e := by
  simp [bare, schedule, List.filter_append, he]

@[simp] lemma bare_schedule_defenseTimer :
    (n.schedule t Event.handleDefenseTimer).bare = n.bare := by
  simp [bare, schedule, List.filter_append]

lemma bare_isRunning (he : e ≠ Event.handleDefenseTimer) :
    n.bare.isRunning e = n.isRunning e := by
  rw [isRunning, isRunning, bare, List.any_filter]
  congr 1
  funext te
  by_cases h : te.2 = e
  · simp [h, he]
  · simp [h]

lemma bare_dequeue (e : Event) : (n.dequeue t e).bare = n.bare.dequeue t e := by
  have hfilter : ∀ l : List (Time × Event),
      (l.erase (t, e)).filter (fun te => !(te.2 == Event.handleDefenseTimer)) =
        (l.filter fun te => !(te.2 == Event.handleDefenseTimer)).erase (t, e) := by
    intro l
    induction l with
    | nil => rfl
    | cons te l ih =>
      by_cases hte : te = (t, e)
      · subst hte
        by_cases he : e = Event.handleDefenseTimer
        · subst he
          simp [List.erase_of_not_mem]
        · simp [he]
      · by_cases he : te.2 = Event.handleDefenseTimer
        · simp [hte, he, ih]
        · simp [hte, he, ih]
  simp only [bare, dequeue, hfilter]

variable {n}

lemma inert_bare : n.bare.Inert := by
  intro d hd
  cases hd

/-- A hook that leaves a disabled strategy as it is does nothing to an inert node. -/
lemma Inert.mapDefense (hn : n.Inert) {f : OlsrDefenseGcop → OlsrDefenseGcop}
    (hf : ∀ d : OlsrDefenseGcop, d.enabled = false → f d = d) : n.mapDefense f = n := by
  have hmap : n.defenseStrategy.map f = n.defenseStrategy := by
    cases hd : n.defenseStrategy with
    | none => rfl
    | some d => rw [Option.map_some, hf d (hn d hd)]
  rw [Node.mapDefense, hmap]

end Bare

/-- A function treats an inert node as if it had no strategy, and does not change the strategy. -/
def IgnoresDefense (f : Node OlsrDefenseGcop → Node OlsrDefenseGcop) : Prop :=
  ∀ n, n.Inert → (f n).bare = f n.bare ∧ (f n).defenseStrategy = n.defenseStrategy

namespace IgnoresDefense

variable {f g : Node OlsrDefenseGcop → Node OlsrDefenseGcop}

lemma inert (hf : IgnoresDefense f) {n : Node OlsrDefenseGcop} (hn : n.Inert) : (f n).Inert := by
  intro d hd
  rw [(hf n hn).2] at hd
  exact hn d hd

lemma comp (hf : IgnoresDefense f) (hg : IgnoresDefense g) : IgnoresDefense fun n => f (g n) := by
  intro n hn
  have hgn := hg n hn
  have hfgn := hf (g n) (hg.inert hn)
  rw [hgn.1] at hfgn
  exact ⟨hfgn.1, hfgn.2.trans hgn.2⟩

lemma foldl {α : Type} {f : Node OlsrDefenseGcop → α → Node OlsrDefenseGcop}
    (hf : ∀ a, IgnoresDefense fun n => f n a) (l : List α) :
    IgnoresDefense fun n => l.foldl f n := by
  induction l with
  | nil => exact fun _ _ => ⟨rfl, rfl⟩
  | cons a l ih => exact ih.comp (hf a)

/-- A case distinction on something that is the same without the strategy. -/
lemma ite {c : Node OlsrDefenseGcop → Prop} [DecidablePred c] (hc : ∀ n, c n.bare ↔ c n)
    (hf : IgnoresDefense f) (hg : IgnoresDefense g) :
    IgnoresDefense fun n => if c n then f n else g n := by
  intro n hn
  by_cases h : c n
  · simp only [if_pos h, if_pos ((hc n).mpr h)]
    exact hf n hn
  · simp only [if_neg h, if_neg fun h' => h ((hc n).mp h')]
    exact hg n hn

lemma self : IgnoresDefense fun n => n := fun _ _ => ⟨rfl, rfl⟩

end IgnoresDefense

variable (msg : MessageHeader) (hello : Hello) (receiverIface senderIface : Ipv4Address)

lemma linkTupleUpdated_ignores (tuple : LinkTuple) (w : Willingness) :
    IgnoresDefense fun n => n.linkTupleUpdated tuple w := by
  intro n _
  by_cases h :
      (n.state.findNeighborTuple (n.state.getMainAddress tuple.neighborIfaceAddr)).isNone <;>
    simp only [linkTupleUpdated, getMainAddress, bare_state, h] <;>
    exact ⟨rfl, rfl⟩

lemma linkTupleCreated_ignores (tuple : LinkTuple) (w : Willingness) :
    IgnoresDefense fun n => n.linkTupleCreated tuple w := by
  intro n _
  simp only [linkTupleCreated]
  rw [bare_schedule _ _ (by simp)]
  exact ⟨rfl, rfl⟩

lemma linkSensing_ignores :
    IgnoresDefense fun n => n.linkSensing msg hello receiverIface senderIface := by
  intro n hn
  have hx : n.bare.sensedLink msg hello receiverIface senderIface =
    n.sensedLink msg hello receiverIface senderIface := rfl
  simp only [linkSensing, bare_state, hx]
  generalize n.sensedLink msg hello receiverIface senderIface = x
  by_cases hbad : x.badLinkType <;> by_cases hupd : x.updated <;>
    by_cases hnew : (n.state.findLinkTuple senderIface).isNone <;>
    simp only [hbad, hupd, hnew]
  all_goals try exact ⟨rfl, rfl⟩
  · exact (linkTupleCreated_ignores _ _).comp (linkTupleUpdated_ignores _ _) (n.withState _) hn
  · exact linkTupleUpdated_ignores _ _ (n.withState _) hn
  · exact linkTupleCreated_ignores _ _ (n.withState _) hn

lemma twoHopAddressStep_ignores (nt : NeighborType) (a : Ipv4Address) :
    IgnoresDefense fun n => twoHopAddressStep msg nt n a := by
  intro n hn
  cases nt with
  | symNeigh | mprNeigh =>
    by_cases hself : n.state.getMainAddress a = n.mainAddress
    · simp [twoHopAddressStep, getMainAddress, hself]
    · cases hfind : n.state.findTwoHopNeighborTuple msg.originatorAddress
          (n.state.getMainAddress a) <;>
        simp [twoHopAddressStep, getMainAddress, hself, hfind]
  | notNeigh | unknown => exact ⟨rfl, rfl⟩

lemma populateTwoHopNeighborSet_ignores :
    IgnoresDefense fun n => n.populateTwoHopNeighborSet msg hello := by
  intro n hn
  refine IgnoresDefense.foldl (fun _ => IgnoresDefense.foldl (fun m => ?_) _) _ n hn
  exact IgnoresDefense.foldl (fun a => twoHopAddressStep_ignores msg _ a) _

lemma mprSelectorStep_ignores (a : Ipv4Address) :
    IgnoresDefense fun n => mprSelectorStep msg n a := by
  intro n hn
  by_cases hself : n.state.getMainAddress a = n.mainAddress
  · cases hfind : n.state.findMprSelectorTuple msg.originatorAddress <;>
      simp [mprSelectorStep, getMainAddress, hself, hfind]
    rfl
  · simp [mprSelectorStep, getMainAddress, hself]

lemma populateMprSelectorSet_ignores :
    IgnoresDefense fun n => n.populateMprSelectorSet msg hello :=
  IgnoresDefense.foldl (fun _ => IgnoresDefense.foldl (fun a => mprSelectorStep_ignores msg a) _) _

/-- A disabled strategy has no say in the MPR set. -/
lemma computedMprSet_bare {n : Node OlsrDefenseGcop} (hn : n.Inert) :
    n.bare.computedMprSet = n.computedMprSet := by
  cases hd : n.defenseStrategy with
  | none =>
    rw [computedMprSet, computedMprSet, hd]
    rfl
  | some d =>
    have htrust : ¬ Mpr.AllSuspect (OlsrDefenseStrategy.isMalicious d n.now)
        (Mpr.greedy n.mainAddress n.state).mprSet := by
      rintro ⟨hne, hall⟩
      obtain ⟨a, ha⟩ := Finset.nonempty_iff_ne_empty.mpr hne
      have hsuspect : d.isMalicious a = true := hall a ha
      simp [OlsrDefenseGcop.isMalicious, hn d hd] at hsuspect
    have hset : n.computedMprSet = (Mpr.greedy n.mainAddress n.state).mprSet := by
      rw [computedMprSet, hd]
      exact Mpr.addBackup_of_not_allSuspect htrust
    rw [hset]
    rfl

lemma mprComputation_ignores : IgnoresDefense fun n => n.mprComputation := by
  intro n hn
  simp only [mprComputation, computedMprSet_bare hn]
  exact ⟨rfl, rfl⟩

lemma getBlacklist_of_inert {n : Node OlsrDefenseGcop} (hn : n.Inert) : n.getBlacklist = ∅ := by
  cases hd : n.defenseStrategy with
  | none => simp [getBlacklist, hd]
  | some d =>
    rw [getBlacklist, hd]
    show d.getBlacklist = ∅
    simp [OlsrDefenseGcop.getBlacklist, hn d hd]

lemma routingTableComputation_ignores : IgnoresDefense fun n => n.routingTableComputation := by
  intro n hn
  have htable : n.bare.coreTable = n.coreTable := coreTable_congr rfl rfl
  have hroutes : n.bare.coreHnaRoutes = n.coreHnaRoutes := coreHnaRoutes_congr rfl rfl
  simp only [routingTableComputation, getBlacklist_of_inert hn, getBlacklist_of_inert inert_bare,
    if_true, computeRoutingTableCore, htable, hroutes]
  exact ⟨rfl, trivial⟩

lemma processHello_ignores :
    IgnoresDefense fun n => n.processHello msg hello receiverIface senderIface := by
  have hpopulate : IgnoresDefense fun n => n.populateNeighborSet msg hello :=
    fun _ _ => ⟨rfl, rfl⟩
  have hrest := (populateMprSelectorSet_ignores msg hello).comp (mprComputation_ignores.comp
    ((populateTwoHopNeighborSet_ignores msg hello).comp hpopulate))
  exact (IgnoresDefense.ite (c := fun n => n.fatalError = true) (fun _ => Iff.rfl) .self hrest).comp
    (linkSensing_ignores msg hello receiverIface senderIface)

lemma topologyAddressStep_ignores (ansn : UInt16) (a : Ipv4Address) :
    IgnoresDefense fun n => topologyAddressStep msg ansn n a := by
  intro n hn
  cases hfind : n.state.findTopologyTuple a msg.originatorAddress <;>
    simp [topologyAddressStep, hfind]

lemma processTc_ignores (tc : Tc) : IgnoresDefense fun n => n.processTc msg tc senderIface := by
  have herase : IgnoresDefense fun n =>
      n.withState (n.state.eraseOlderTopologyTuples msg.originatorAddress tc.ansn) :=
    fun _ _ => ⟨rfl, rfl⟩
  refine .ite (fun _ => Iff.rfl) .self (.ite (fun _ => Iff.rfl) .self ?_)
  exact (IgnoresDefense.foldl (fun a => topologyAddressStep_ignores msg tc.ansn a) _).comp herase

lemma midAddressStep_ignores (a : Ipv4Address) :
    IgnoresDefense fun n => midAddressStep msg n a := by
  intro n hn
  by_cases hlisted : n.state.ifaceAssocSet.any fun t : IfaceAssocTuple =>
      t.ifaceAddr == a && t.mainAddr == msg.originatorAddress
  · simp only [midAddressStep, bare_state, hlisted]
    exact ⟨rfl, rfl⟩
  · simp [midAddressStep, hlisted]

lemma processMid_ignores (mid : Mid) :
    IgnoresDefense fun n => n.processMid msg mid senderIface := by
  have hremap : IgnoresDefense fun n => n.remapNeighbors := fun _ _ => ⟨rfl, rfl⟩
  refine .ite (fun _ => Iff.rfl) .self ?_
  exact hremap.comp (IgnoresDefense.foldl (fun a => midAddressStep_ignores msg a) _)

lemma associationStep_ignores (a : Association) :
    IgnoresDefense fun n => associationStep msg n a := by
  intro n hn
  cases hfind : n.state.findAssociationTuple msg.originatorAddress a.networkAddr a.netmask <;>
    simp [associationStep, hfind]

lemma processHna_ignores (hna : Hna) :
    IgnoresDefense fun n => n.processHna msg hna senderIface :=
  .ite (fun _ => Iff.rfl) .self (IgnoresDefense.foldl (fun a => associationStep_ignores msg a) _)

lemma queueMessage_ignores (m : MessageHeader) (delay : Time) :
    IgnoresDefense fun n => n.queueMessage m delay := by
  intro n hn
  have hrun := n.bare_isRunning (e := Event.sendQueuedMessages) (by simp)
  by_cases h : n.isRunning Event.sendQueuedMessages
  · simp only [queueMessage, hrun, h]
    exact ⟨rfl, rfl⟩
  · simp only [queueMessage, hrun, h]
    exact ⟨bare_schedule _ _ (by simp), rfl⟩

lemma forwardDefault_ignores (duplicated : Option DuplicateTuple) (jitter : Time) :
    IgnoresDefense fun n => n.forwardDefault msg duplicated receiverIface senderIface jitter := by
  refine .ite (fun _ => Iff.rfl) .self (.ite (fun _ => Iff.rfl) .self fun n hn => ?_)
  let retransmitted := fun n : Node OlsrDefenseGcop => decide (msg.timeToLive > 1) &&
    (n.state.findMprSelectorTuple (n.getMainAddress senderIface)).isSome
  have hqueue : IgnoresDefense fun n =>
      if retransmitted n then n.queueMessage (forwardedMessage msg) jitter else n :=
    .ite (fun _ => Iff.rfl) (queueMessage_ignores _ _) .self
  cases duplicated with
  | some d =>
    have hupdate : IgnoresDefense fun n₁ => n₁.withState (n₁.state.updateDuplicateTuple
        msg.originatorAddress msg.messageSequenceNumber (n.now + dupHoldTime) (retransmitted n)
          receiverIface) :=
      fun _ _ => ⟨rfl, rfl⟩
    exact hupdate.comp hqueue n hn
  | none =>
    have hinsert : IgnoresDefense fun n₁ => (n₁.withState (n₁.state.insertDuplicateTuple
        { address := msg.originatorAddress
          sequenceNumber := msg.messageSequenceNumber
          retransmitted := retransmitted n
          ifaceList := [receiverIface]
          expirationTime := n.now + dupHoldTime })).schedule dupHoldTime
            (Event.dupTupleTimerExpire msg.originatorAddress msg.messageSequenceNumber) :=
      fun n₁ _ => ⟨by simp, rfl⟩
    exact hinsert.comp hqueue n hn

lemma processMessage_ignores :
    IgnoresDefense fun n => n.processMessage msg receiverIface senderIface := by
  cases hbody : msg.body with
  | hello hello => simpa only [processMessage, hbody] using processHello_ignores msg hello _ _
  | tc tc => simpa only [processMessage, hbody] using processTc_ignores msg _ tc
  | mid mid => simpa only [processMessage, hbody] using processMid_ignores msg _ mid
  | hna hna => simpa only [processMessage, hbody] using processHna_ignores msg _ hna

lemma defenseHook_of_inert {n : Node OlsrDefenseGcop} (hn : n.Inert) :
    n.defenseHook msg senderIface = n := by
  rw [defenseHook]
  split
  · refine hn.mapDefense fun d hd => ?_
    show d.onRecvHello n.state senderIface = d
    simp [OlsrDefenseGcop.onRecvHello, hd]
  · exact hn.mapDefense fun _ _ => rfl
  · rfl
  · rfl

lemma recvMessage_ignores (jitter : Time) :
    IgnoresDefense fun n => n.recvMessage msg receiverIface senderIface jitter := by
  intro n hn
  have hhook : n.bare.defenseHook msg senderIface = n.bare :=
    defenseHook_of_inert msg senderIface inert_bare
  simp only [recvMessage, defenseHook_of_inert msg senderIface hn, hhook]
  have hprocess : IgnoresDefense fun n₁ => if (n.duplicateOf msg).isNone then
      n₁.processMessage msg receiverIface senderIface else n₁ :=
    .ite (fun _ => Iff.rfl) (processMessage_ignores msg _ _) .self
  have hforward : IgnoresDefense fun n₂ => if n.doForwarding msg receiverIface then
      n₂.forwardDefault msg (n.duplicateOf msg) receiverIface senderIface jitter else n₂ :=
    .ite (fun _ => Iff.rfl) (forwardDefault_ignores msg _ _ _ _) .self
  have hall : IgnoresDefense fun n₁ => if n.ignores msg then n₁ else _ :=
    .ite (fun _ => Iff.rfl) .self (hforward.comp hprocess)
  exact hall n hn

/-! ### Computations and timers -/

lemma injectsFictitiousNode_of_inert {n : Node OlsrDefenseGcop} (hn : n.Inert) :
    n.injectsFictitiousNode = false := by
  have hfake : n.requiresFictitiousNode = false := by
    cases hd : n.defenseStrategy with
    | none => rw [requiresFictitiousNode, hd]
    | some d =>
      rw [requiresFictitiousNode, hd]
      show d.requiresFictitiousNode n.state = false
      simp [OlsrDefenseGcop.requiresFictitiousNode, hn d hd]
  rw [injectsFictitiousNode, hfake, Bool.and_false]

lemma sendHello_ignores (jitter : Time) : IgnoresDefense fun n => n.sendHello jitter := by
  intro n hn
  have hmessage : n.bare.helloMessage = n.helloMessage := by
    simp only [helloMessage, helloLinkMessages, injectsFictitiousNode_of_inert hn,
      injectsFictitiousNode_of_inert inert_bare]
    rfl
  simp only [sendHello, hmessage]
  have hnumber : IgnoresDefense fun n => n.nextMessageSequenceNumber := fun _ _ => ⟨rfl, rfl⟩
  exact (queueMessage_ignores n.helloMessage jitter).comp hnumber n hn

lemma sendTc_ignores (jitter : Time) : IgnoresDefense fun n => n.sendTc jitter := by
  intro n hn
  have hmessage : n.bare.tcMessage = n.tcMessage := by
    simp only [tcMessage, tcAddresses, injectsFictitiousNode_of_inert hn,
      injectsFictitiousNode_of_inert inert_bare]
    rfl
  have hnumber : IgnoresDefense fun n₁ => ({ n₁.nextMessageSequenceNumber with
      ansn := n.tcAnsn
      generatedTcs := n₁.generatedTcs ++ [GeneratedTc.mk n.tcMessage n.ansnIncrements] }
        : Node OlsrDefenseGcop) :=
    fun _ _ => ⟨rfl, rfl⟩
  have hhook : ∀ n₁ : Node OlsrDefenseGcop, n₁.Inert → (n₁.mapDefense fun d =>
      OlsrDefenseStrategy.onTcGenerated d n.now n.state n.tcMessage) = n₁ :=
    fun n₁ hn₁ => hn₁.mapDefense fun _ _ => rfl
  have hqueue := (queueMessage_ignores
    { vTime := setVTime n.topHoldTime
      originatorAddress := n.mainAddress
      timeToLive := 255
      hopCount := 0
      messageSequenceNumber := n.messageSequenceNumber + 1
      body := MessageBody.tc n.tcMessage } jitter).comp hnumber n hn
  simp only [sendTc, hmessage]
  rw [hhook _ (hnumber.inert hn)]
  have hbare : (n.bare.mapDefense fun d => d) = n.bare := inert_bare.mapDefense fun _ _ => rfl
  exact hqueue

lemma sendMid_ignores (jitter : Time) : IgnoresDefense fun n => n.sendMid jitter := by
  refine .ite (fun _ => Iff.rfl) .self fun n hn => ?_
  exact (queueMessage_ignores _ jitter).comp (g := fun n => n.nextMessageSequenceNumber)
    (fun _ _ => ⟨rfl, rfl⟩) n hn

lemma sendHna_ignores (jitter : Time) : IgnoresDefense fun n => n.sendHna jitter := by
  refine .ite (fun _ => Iff.rfl) (fun _ _ => ⟨rfl, rfl⟩) fun n hn => ?_
  exact (queueMessage_ignores _ jitter).comp (g := fun n => n.nextMessageSequenceNumber)
    (fun _ _ => ⟨rfl, rfl⟩) n hn

lemma schedule_ignores (t : Time) {e : Event} (he : e ≠ Event.handleDefenseTimer) :
    IgnoresDefense fun n => n.schedule t e :=
  fun n _ => ⟨bare_schedule n t he, rfl⟩

lemma sendQueuedMessages_ignores : IgnoresDefense fun n => n.sendQueuedMessages := by
  intro n hn
  have hsend : IgnoresDefense fun n₁ => (n.queuedMessages.toChunks 64).foldl sendPacket n₁ :=
    IgnoresDefense.foldl (f := sendPacket) (fun _ _ _ => ⟨rfl, rfl⟩) _
  have hclear : IgnoresDefense fun n₁ =>
      ({ n₁ with queuedMessages := [] } : Node OlsrDefenseGcop) :=
    fun _ _ => ⟨rfl, rfl⟩
  exact hclear.comp hsend n hn

lemma handleDefenseTimer_ignores : IgnoresDefense fun n => n.handleDefenseTimer := by
  intro n hn
  have hbare : n.bare.handleDefenseTimer = n.bare := rfl
  cases hd : n.defenseStrategy with
  | none =>
    have hself : n.handleDefenseTimer = n := by rw [handleDefenseTimer, hd]
    simp only [hself, hbare, hd]
    exact ⟨trivial, trivial⟩
  | some d =>
    have hrun : n.handleDefenseTimer = ({ n with
        defenseStrategy := some d, localRxDrops := 0 } : Node OlsrDefenseGcop).schedule
          (Seconds 1) Event.handleDefenseTimer := by
      rw [handleDefenseTimer, hd]
      rfl
    simp only [hrun, hbare, bare_schedule_defenseTimer]
    exact ⟨rfl, rfl⟩

lemma tupleTimer_ignores {α : Type} (remove : Node OlsrDefenseGcop → α → Node OlsrDefenseGcop)
    (hremove : ∀ t, IgnoresDefense fun n => remove n t) (tuple : Option α) (exp : α → Time)
    {e : Event} (he : e ≠ Event.handleDefenseTimer) :
    IgnoresDefense fun n => n.tupleTimer tuple exp (remove n) e := by
  intro n hn
  cases tuple with
  | none => exact ⟨rfl, rfl⟩
  | some t =>
    by_cases hexp : exp t < n.now
    · simpa [tupleTimer, hexp] using hremove t n hn
    · simpa [tupleTimer, hexp] using schedule_ignores (n.delay (exp t)) he n hn

lemma neighborLoss_ignores (tuple : LinkTuple) :
    IgnoresDefense fun n => n.neighborLoss tuple := by
  have hdrop : IgnoresDefense fun n₁ =>
      let mainAddr := n₁.getMainAddress tuple.neighborIfaceAddr
      n₁.withState ((n₁.state.eraseTwoHopNeighborTuples mainAddr).eraseMprSelectorTuples mainAddr) :=
    fun _ _ => ⟨rfl, rfl⟩
  exact routingTableComputation_ignores.comp (mprComputation_ignores.comp
    (hdrop.comp (linkTupleUpdated_ignores tuple Willingness.default)))

lemma linkTupleTimerExpire_ignores (a : Ipv4Address) :
    IgnoresDefense fun n => n.linkTupleTimerExpire a := by
  intro n hn
  cases hfind : n.state.findLinkTuple a with
  | none =>
    simp only [linkTupleTimerExpire, bare_state, hfind]
    exact ⟨trivial, trivial⟩
  | some tuple =>
    have hnext : IgnoresDefense fun n₁ => n₁.schedule (n₁.delay tuple.time)
        (Event.linkTupleTimerExpire a) :=
      fun n₁ hn₁ => schedule_ignores (n₁.delay tuple.time) (by simp) n₁ hn₁
    have hfirst : IgnoresDefense fun n => if n.linkTupleTimerFirstTime then
        { n with linkTupleTimerFirstTime := false } else n.neighborLoss tuple :=
      .ite (fun _ => Iff.rfl) (fun _ _ => ⟨rfl, rfl⟩) (neighborLoss_ignores tuple)
    have hlater : IgnoresDefense fun n => n.schedule (n.delay (min tuple.time tuple.symTime))
        (Event.linkTupleTimerExpire a) :=
      fun n₁ hn₁ => schedule_ignores (n₁.delay _) (by simp) n₁ hn₁
    have hremove : IgnoresDefense fun n => n.removeLinkTuple tuple := fun _ _ => ⟨rfl, rfl⟩
    have hall := IgnoresDefense.ite (c := fun n => tuple.time < n.now) (fun _ => Iff.rfl) hremove
      (.ite (c := fun n => tuple.symTime < n.now) (fun _ => Iff.rfl) (hnext.comp hfirst) hlater)
    have hexpire : ∀ n₁ : Node OlsrDefenseGcop, n₁.state = n.state →
        n₁.linkTupleTimerExpire a = _ := fun n₁ h₁ => by
      simp only [linkTupleTimerExpire, h₁, hfind]
      rfl
    simp only [hexpire n rfl, hexpire n.bare rfl]
    exact hall n hn

/-- **Every timer ignores a disabled strategy.** -/
lemma call_ignores (e : Event) (jitter : Time) : IgnoresDefense fun n => n.call e jitter := by
  cases e with
  | helloTimerExpire =>
    intro n hn
    exact (schedule_ignores n.helloInterval (by simp)).comp (sendHello_ignores jitter) n hn
  | tcTimerExpire =>
    intro n hn
    exact (schedule_ignores n.tcInterval (by simp)).comp
      (.ite (c := fun n => n.state.mprSelectorSet.isEmpty = true) (fun _ => Iff.rfl) .self
        (sendTc_ignores jitter)) n hn
  | midTimerExpire =>
    intro n hn
    exact (schedule_ignores n.midInterval (by simp)).comp (sendMid_ignores jitter) n hn
  | hnaTimerExpire =>
    intro n hn
    exact (schedule_ignores n.hnaInterval (by simp)).comp
      (.ite (c := fun n => n.state.associations.isEmpty = true) (fun _ => Iff.rfl) .self
        (sendHna_ignores jitter)) n hn
  | sendQueuedMessages => exact sendQueuedMessages_ignores
  | handleDefenseTimer => exact handleDefenseTimer_ignores
  | linkTupleTimerExpire a => exact linkTupleTimerExpire_ignores a
  | dupTupleTimerExpire address sequenceNumber =>
    intro n hn
    exact tupleTimer_ignores (fun n t => n.withState (n.state.eraseDuplicateTuple t))
      (fun _ _ _ => ⟨rfl, rfl⟩) _ _ (by simp) n hn
  | nb2hopTupleTimerExpire neighborMainAddr twoHopNeighborAddr =>
    intro n hn
    exact tupleTimer_ignores (fun n t => n.withState (n.state.eraseTwoHopNeighborTuple t))
      (fun _ _ _ => ⟨rfl, rfl⟩) _ _ (by simp) n hn
  | mprSelTupleTimerExpire mainAddr =>
    intro n hn
    exact tupleTimer_ignores
      (fun n t => (n.withState (n.state.eraseMprSelectorTuple t)).incrementAnsn)
      (fun _ _ _ => ⟨rfl, rfl⟩) _ _ (by simp) n hn
  | topologyTupleTimerExpire destAddr lastAddr =>
    intro n hn
    exact tupleTimer_ignores (fun n t => n.withState (n.state.eraseTopologyTuple t))
      (fun _ _ _ => ⟨rfl, rfl⟩) _ _ (by simp) n hn
  | ifaceAssocTupleTimerExpire ifaceAddr =>
    intro n hn
    exact tupleTimer_ignores (fun n t => n.withState (n.state.eraseIfaceAssocTuple t))
      (fun _ _ _ => ⟨rfl, rfl⟩) _ _ (by simp) n hn
  | associationTupleTimerExpire gatewayAddr networkAddr netmask =>
    intro n hn
    exact tupleTimer_ignores (fun n t => n.withState (n.state.eraseAssociationTuple t))
      (fun _ _ _ => ⟨rfl, rfl⟩) _ _ (by simp) n hn

end Node

end ManetOlsr
