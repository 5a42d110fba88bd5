/-
The calls that reach the FPNT defense, and what they do to the counter of the deviations.

For an MPR the counter rises by the TC messages that omit this node.  It is cleared with the other
counters by every check, which first forgets the counters of all nodes that are no MPR selectors, then
adds a unit for each MPR that has been silent, and then compares the counter with the threshold.
-/
import ManetOlsr.Model.FpntFrames

namespace ManetOlsr.OlsrDefenseFpnt

/-- The functions that change the defense. -/
inductive Hook where
  | setup (nodeAddress : Ipv4Address)
  | setEnabled (enabled : Bool)
  | onRecvTc (msg : MessageHeader) (tc : Tc)
  | onRecvEvaluationVectors (sender : Ipv4Address) (advertisedNeighbors : List Ipv4Address)
      (vectors : List EvaluationVector)
  | onDataPacketForwarded (header : Ipv4Header) (size : UInt32) (nextHop finalDest : Ipv4Address)
  | onNeighborForwardedPacket (macToIpv4 : Mac48Address → Ipv4Address)
      (transmitter receiver : Mac48Address) (header : Ipv4Header) (size : UInt32)
  | onMacTxFailure (neighbor : Ipv4Address) (count : ℕ)
  | periodicCheck

/-- A call, with the clock and the repositories of the node. -/
structure Call where
  now : Time
  state : OlsrState := {}
  hook : Hook

def call (d : OlsrDefenseFpnt) (c : Call) : OlsrDefenseFpnt :=
  match c.hook with
  | .setup nodeAddress => d.setup nodeAddress
  | .setEnabled enabled => d.setEnabled enabled
  | .onRecvTc msg tc => d.onRecvTc c.now c.state msg tc
  | .onRecvEvaluationVectors sender advertisedNeighbors vectors =>
    d.onRecvEvaluationVectors sender advertisedNeighbors vectors
  | .onDataPacketForwarded header size nextHop finalDest =>
    d.onDataPacketForwarded c.now c.state header size nextHop finalDest
  | .onNeighborForwardedPacket macToIpv4 tx rx header size =>
    d.onNeighborForwardedPacket c.now c.state macToIpv4 tx rx header size
  | .onMacTxFailure neighbor count => d.onMacTxFailure neighbor count
  | .periodicCheck => (d.periodicCheck c.now c.state).1

/-- The defense after some calls. -/
abbrev runCalls (d : OlsrDefenseFpnt) (cs : List Call) : OlsrDefenseFpnt := Lib.run call d cs

/-! ### The attributes -/

/-- The defense as it was made, but for its attributes. -/
def attributes (d : OlsrDefenseFpnt) : OlsrDefenseFpnt :=
  { d.settings with hasProtocol := false, selfAddress := unsetAddress, enabled := true }

lemma attributes_of_settings {d d' : OlsrDefenseFpnt} (h : d'.settings = d.settings) :
    d'.attributes = d.attributes := by
  rw [attributes, attributes, h]

/-- What is read off the attributes. -/
lemma eq_of_attributes {α : Type} (f : OlsrDefenseFpnt → α) (hf : ∀ d, f d.attributes = f d)
    {d d' : OlsrDefenseFpnt} (h : d'.attributes = d.attributes) : f d' = f d := by
  rw [← hf d', h, hf]

/-- No call sets an attribute, other than `Enabled`. -/
lemma call_attributes (d : OlsrDefenseFpnt) (c : Call) : (d.call c).attributes = d.attributes := by
  obtain ⟨now, s, hook⟩ := c
  cases hook with
  | setup nodeAddress => rfl
  | setEnabled enabled =>
    simp only [call, setEnabled]
    split <;> rfl
  | onRecvTc msg tc =>
    exact attributes_of_settings (settings_ignoresControl.onRecvTc d now s msg tc)
  | onRecvEvaluationVectors sender advertised vectors =>
    exact attributes_of_settings
      (settings_ignoresControl.onRecvEvaluationVectors d sender advertised vectors)
  | onDataPacketForwarded header size nextHop finalDest =>
    exact attributes_of_settings
      (settings_ignoresCounters.onDataPacketForwarded d now s header size nextHop finalDest)
  | onNeighborForwardedPacket macToIpv4 tx rx header size =>
    exact attributes_of_settings
      (settings_ignoresCounters.onNeighborForwardedPacket d now s macToIpv4 tx rx header size)
  | onMacTxFailure neighbor count =>
    exact attributes_of_settings (settings_ignoresCounters.onMacTxFailure d neighbor count)
  | periodicCheck => exact attributes_of_settings (periodicCheck_settings d now s)

lemma runCalls_attributes (d : OlsrDefenseFpnt) (cs : List Call) :
    (d.runCalls cs).attributes = d.attributes :=
  Lib.foldl_eq attributes call_attributes cs d

/-! ### The counter of the deviations -/

/-- `m_metrics[addr].countRCheat`. -/
def deviations (d : OlsrDefenseFpnt) (m : Ipv4Address) : UInt32 := (d.metricsOf m).countRCheat

section Counter

variable (d : OlsrDefenseFpnt) (now : Time) (s : OlsrState) (m : Ipv4Address)

lemma deviations_setMetrics (a : Ipv4Address) (mt : NodeBehaviorMetrics) :
    (d.setMetrics a mt).deviations m = if m = a then mt.countRCheat else d.deviations m := by
  rw [deviations, metricsOf, setMetrics, Ipv4Address.comparesKeys.mapFind_mapSet]
  split <;> rfl

/-- The other counters do not count. -/
lemma deviations_setMetrics_of_eq {a : Ipv4Address} {mt : NodeBehaviorMetrics}
    (hmt : mt.countRCheat = (d.metricsOf a).countRCheat) :
    (d.setMetrics a mt).deviations m = d.deviations m := by
  rw [deviations_setMetrics]
  split
  · next heq => rw [hmt, heq, deviations]
  · rfl

lemma deviations_raiseRCheat (a : Ipv4Address) :
    (d.raiseRCheat a).deviations m = if m = a then d.deviations m + 1 else d.deviations m := by
  simp only [raiseRCheat]
  rw [deviations_setMetrics]
  split
  · next heq => rw [heq, deviations]
  · rfl

lemma countArrival_deviations (addr finalDest : Ipv4Address) (size : UInt32) (key : UInt64) :
    (d.countArrival now addr finalDest size key).deviations m = d.deviations m := by
  have hrcv : ∀ d : OlsrDefenseFpnt, (d.setMetrics addr { d.metricsOf addr with
      countRcv := (d.metricsOf addr).countRcv + 1 }).deviations m = d.deviations m :=
    fun d => deviations_setMetrics_of_eq d m rfl
  simp only [countArrival]
  split
  · exact deviations_setMetrics_of_eq d m rfl
  · exact (hrcv _).trans (deviations_setMetrics_of_eq d m rfl)

lemma onDataPacketForwarded_deviations (header : Ipv4Header) (size : UInt32)
    (nextHop finalDest : Ipv4Address) :
    (d.onDataPacketForwarded now s header size nextHop finalDest).deviations m =
      d.deviations m := by
  rw [onDataPacketForwarded]
  split_ifs
  · rfl
  · rfl
  · rfl
  · rfl
  · exact countArrival_deviations d now m nextHop finalDest size _

lemma creditForward_deviations (txAddr : Ipv4Address) (fingerprint : UInt64) :
    (d.creditForward now txAddr fingerprint).deviations m = d.deviations m := by
  rw [creditForward]
  split
  · rfl
  · exact deviations_setMetrics_of_eq d m rfl

lemma onNeighborForwardedPacket_deviations (macToIpv4 : Mac48Address → Ipv4Address)
    (transmitter receiver : Mac48Address) (header : Ipv4Header) (size : UInt32) :
    (d.onNeighborForwardedPacket now s macToIpv4 transmitter receiver header size).deviations m =
      d.deviations m := by
  have hcredit : ∀ (c : Prop) [Decidable c],
      (if c then d.creditForward now (macToIpv4 transmitter) (hashIpv4Header header)
        else d).deviations m = d.deviations m := by
    intro c _
    split
    · exact creditForward_deviations d now m _ _
    · rfl
  simp only [onNeighborForwardedPacket]
  split_ifs
  · rfl
  all_goals first
    | exact creditForward_deviations d now m _ _
    | rfl
    | exact (countArrival_deviations _ now m _ _ _ _).trans (creditForward_deviations d now m _ _)
    | exact countArrival_deviations d now m _ _ _ _

lemma onMacTxFailure_deviations (neighbor : Ipv4Address) (count : ℕ) :
    (d.onMacTxFailure neighbor count).deviations m = d.deviations m := by
  rw [onMacTxFailure]
  split_ifs
  · rfl
  · rfl
  · split
    · rfl
    · next mt hmt =>
      refine deviations_setMetrics_of_eq d m ?_
      rw [metricsOf, hmt]
      rfl

end Counter

/-! ### TC messages that omit this node -/

/-- The MPR has been seen as such for the grace window. -/
def pastGrace (d : OlsrDefenseFpnt) (now : Time) (m : Ipv4Address) : Bool :=
  match Lib.mapFind d.mprSelectionTime m with
  | none => false
  | some since => !decide (now - since < d.tcInterval * d1HoldMultiplier)

/-- A TC message of the MPR, past its grace window, that omits this node. -/
def omitsUs (d : OlsrDefenseFpnt) (c : Call) (m : Ipv4Address) : Bool :=
  match c.hook with
  | .onRecvTc msg tc =>
    msg.originatorAddress == m && d.hasProtocol && decide (m ∈ c.state.mprSet) &&
      d.pastGrace c.now m && !decide (d.selfAddress ∈ tc.neighborAddresses)
  | _ => false

/-- The call clears the counters. -/
def endsPeriod (d : OlsrDefenseFpnt) (c : Call) : Bool :=
  match c.hook with
  | .periodicCheck => true
  | .setEnabled enabled => enabled != d.enabled
  | _ => false

section TcMessages

variable {d : OlsrDefenseFpnt} (now : Time) (s : OlsrState) (m : Ipv4Address)

lemma omitsUs_iff (msg : MessageHeader) (tc : Tc) :
    d.omitsUs ⟨now, s, .onRecvTc msg tc⟩ m = true ↔ msg.originatorAddress = m ∧
      d.hasProtocol = true ∧ m ∈ s.mprSet ∧ d.pastGrace now m = true ∧
      d.selfAddress ∉ tc.neighborAddresses := by
  simp only [omitsUs, Bool.and_eq_true, beq_iff_eq, decide_eq_true_eq, Bool.not_eq_true',
    decide_eq_false_iff_not, and_assoc]

lemma onRecvTc_deviations (msg : MessageHeader) (tc : Tc) :
    (d.onRecvTc now s msg tc).deviations m =
      d.deviations m + if d.omitsUs ⟨now, s, .onRecvTc msg tc⟩ m then 1 else 0 := by
  -- what is not counted
  have hnone : ¬ (msg.originatorAddress = m ∧ d.hasProtocol = true ∧ m ∈ s.mprSet ∧
      d.pastGrace now m = true ∧ d.selfAddress ∉ tc.neighborAddresses) → d.deviations m =
        d.deviations m + if d.omitsUs ⟨now, s, .onRecvTc msg tc⟩ m then 1 else 0 := by
    intro hnot
    rw [if_neg fun homits => hnot ((omitsUs_iff now s m msg tc).mp homits)]
    exact (UInt32.add_zero _).symm
  simp only [onRecvTc]
  split
  · next hprotocol =>
    refine hnone ?_
    rintro ⟨-, h, -⟩
    rw [h] at hprotocol
    exact absurd hprotocol Bool.false_ne_true
  next hprotocol =>
  split
  · next hmpr =>
    refine hnone ?_
    rintro ⟨rfl, -, h, -⟩
    exact hmpr h
  next hmpr =>
  split
  · next hsince =>
    refine hnone ?_
    rintro ⟨rfl, -, -, h, -⟩
    rw [pastGrace, hsince] at h
    exact absurd h Bool.false_ne_true
  · next since hsince =>
    split
    · next hgrace =>
      refine hnone ?_
      rintro ⟨rfl, -, -, h, -⟩
      rw [pastGrace, hsince] at h
      exact absurd hgrace (by simpa using h)
    next hgrace =>
    split
    · next hself =>
      refine hnone ?_
      rintro ⟨-, -, -, -, h⟩
      exact h hself
    · next hself =>
      rw [deviations_raiseRCheat]
      by_cases heq : m = msg.originatorAddress
      · subst heq
        have homits : d.omitsUs ⟨now, s, .onRecvTc msg tc⟩ msg.originatorAddress = true := by
          rw [omitsUs_iff]
          refine ⟨rfl, by simpa using hprotocol, not_not.mp hmpr, ?_, hself⟩
          rw [pastGrace, hsince]
          simpa using hgrace
        rw [if_pos rfl, if_pos homits]
        rfl
      · rw [if_neg heq]
        refine hnone ?_
        rintro ⟨h, -⟩
        exact heq h.symm

lemma periodicCheck_deviations : (d.periodicCheck now s).1.deviations m = 0 := by
  rw [periodicCheck]
  split <;> rfl

/-- **Step lemma.**  A call clears the counter, raises it by a TC message that omits this node, or
leaves it. -/
lemma call_deviations (c : Call) : (d.call c).deviations m =
    if d.endsPeriod c then 0 else d.deviations m + if d.omitsUs c m then 1 else 0 := by
  obtain ⟨now, s, hook⟩ := c
  have hleft : d.deviations m = d.deviations m + 0 := (UInt32.add_zero _).symm
  cases hook with
  | setup nodeAddress => exact hleft
  | setEnabled enabled =>
    show (d.setEnabled enabled).deviations m =
      if (enabled != d.enabled) = true then 0 else d.deviations m + 0
    rw [setEnabled]
    by_cases hsame : d.enabled = enabled
    · rw [if_pos hsame, hsame, bne_self_eq_false, if_neg Bool.false_ne_true]
      exact hleft
    · rw [if_neg hsame, if_pos (bne_iff_ne.mpr (Ne.symm hsame))]
      rfl
  | onRecvTc msg tc => exact onRecvTc_deviations now s m msg tc
  | onRecvEvaluationVectors sender advertised vectors =>
    simp only [call, onRecvEvaluationVectors]
    split <;> exact hleft
  | onDataPacketForwarded header size nextHop finalDest =>
    exact (onDataPacketForwarded_deviations d now s m header size nextHop finalDest).trans hleft
  | onNeighborForwardedPacket macToIpv4 tx rx header size =>
    exact (onNeighborForwardedPacket_deviations d now s m macToIpv4 tx rx header size).trans hleft
  | onMacTxFailure neighbor count =>
    exact (onMacTxFailure_deviations d m neighbor count).trans hleft
  | periodicCheck => exact periodicCheck_deviations now s m

/-- What a call makes of the number of TC messages that have omitted this node since the counters
were cleared. -/
def tally (m : Ipv4Address) (x : OlsrDefenseFpnt × ℕ) (c : Call) : OlsrDefenseFpnt × ℕ :=
  (x.1.call c, if x.1.endsPeriod c then 0 else x.2 + if x.1.omitsUs c m then 1 else 0)

/-- The TC messages that have omitted this node in the present period. -/
def omissions (d : OlsrDefenseFpnt) (m : Ipv4Address) (cs : List Call) : ℕ :=
  (Lib.run (tally m) (d, 0) cs).2

/-- **Run lemma.**  The counter is the number of the TC messages. -/
lemma runCalls_deviations (hnew : d.deviations m = 0) (cs : List Call) :
    (d.runCalls cs).deviations m = UInt32.ofNat (d.omissions m cs) := by
  have hfst : (Lib.run (tally m) (d, 0) cs).1 = d.runCalls cs :=
    Lib.run_reading (r := Prod.fst) (I := fun _ => True) (P := fun _ _ => True)
      (fun _ _ _ _ => trivial) (fun _ _ _ _ => rfl) trivial fun _ _ => trivial
  have hstep : ∀ (x : OlsrDefenseFpnt × ℕ) (c : Call), x.1.deviations m = UInt32.ofNat x.2 →
      True → (tally m x c).1.deviations m = UInt32.ofNat (tally m x c).2 := by
    intro x c hx _
    rw [tally, call_deviations, hx]
    split
    · rfl
    · rw [UInt32.ofNat_add]
      split <;> rfl
  have hcount : (Lib.run (tally m) (d, 0) cs).1.deviations m =
      UInt32.ofNat (Lib.run (tally m) (d, 0) cs).2 :=
    Lib.inv_run (I := fun x : OlsrDefenseFpnt × ℕ => x.1.deviations m = UInt32.ofNat x.2)
      (P := fun _ _ => True) hstep hnew fun _ _ => trivial
  rw [← hfst, hcount, omissions]

end TcMessages

/-! ### What a check makes of the counter -/

/-- The silence test for an MPR that has been seen as such since some time: it is past its grace
window, and has been silent, since its last TC message or since then, for longer than the holding
time. -/
def silentSince (holdTime now : Time) (last : Option Time) : Option Time → Bool
  | none => false
  | some since =>
    !decide (now - since < holdTime) && decide (holdTime < now - last.getD since)

/-- The MPR is silent. -/
def silent (d : OlsrDefenseFpnt) (now : Time) (s : OlsrState) (m : Ipv4Address) : Bool :=
  d.hasProtocol && decide (m ∈ s.mprSet) &&
    silentSince (d.tcInterval * d1HoldMultiplier) now (Lib.mapFind d.lastTcTime m)
      (Lib.mapFind d.mprSelectionTime m)

/-- The defense before step 1 of a check. -/
def beforeEvaluation (d : OlsrDefenseFpnt) (now : Time) (s : OlsrState) : OlsrDefenseFpnt :=
  ((if d.hasProtocol then d.forgetNonSelectors s else d).scanDeviationRuleD1 now s
    ).expireStaleArrivals now

/-- An enabled check evaluates the counters, and updates the trust in the targets. -/
lemma periodicCheck_of_enabled {d : OlsrDefenseFpnt} (now : Time) (s : OlsrState)
    (henabled : d.enabled = true) {d' : OlsrDefenseFpnt}
    (hevaluated : (d.beforeEvaluation now s).metrics.foldl evaluate (d.beforeEvaluation now s) = d') :
    d.periodicCheck now s =
      ({ (d'.targets.foldl updateTrust (d', false)).1 with metrics := [], recommendations := [] },
        (d'.targets.foldl updateTrust (d', false)).2 &&
          (d'.targets.foldl updateTrust (d', false)).1.hasProtocol) := by
  rw [periodicCheck, henabled, Bool.not_true, if_neg Bool.false_ne_true, ← hevaluated]
  rfl

lemma beforeEvaluation_settings (d : OlsrDefenseFpnt) (now : Time) (s : OlsrState) :
    (d.beforeEvaluation now s).settings = d.settings := by
  show (scanDeviationRuleD1 _ now s).settings = d.settings
  rw [scanDeviationRuleD1_settings]
  split <;> rfl

/-- `m_metrics` is kept as `std::map` keeps it. -/
def MetricsOrdered (d : OlsrDefenseFpnt) : Prop :=
  Lib.Ordered Ipv4Address.lt (d.metrics.map Prod.fst)

section Check

variable {d : OlsrDefenseFpnt} (now : Time) (s : OlsrState) (m : Ipv4Address)

/-- Step 0 of a check forgets the counters of all nodes but the selectors. -/
lemma forgetNonSelectors_deviations (d : OlsrDefenseFpnt) : (d.forgetNonSelectors s).deviations m =
    if isOurSelector s m then d.deviations m else 0 := by
  have hfind := Lib.mapFind_filter_fst (fun addr => !(d.noLongerSelectors s).contains addr)
    d.metrics m
  rw [deviations, metricsOf, forgetNonSelectors]
  simp only
  rw [hfind]
  by_cases hselector : isOurSelector s m = true
  · have hkept : (d.noLongerSelectors s).contains m = false := by
      rw [← Bool.not_eq_true, List.contains_iff_mem, noLongerSelectors, List.mem_filter]
      rintro ⟨-, h⟩
      rw [hselector] at h
      exact absurd h Bool.false_ne_true
    rw [hkept, if_pos hselector]
    rfl
  · rw [if_neg hselector]
    by_cases hgone : (d.noLongerSelectors s).contains m = true
    · rw [hgone]
      rfl
    · -- there is nothing to forget
      have hnone : Lib.mapFind d.metrics m = none := by
        rw [Lib.mapFind_eq_none_iff]
        intro hmem
        refine hgone (List.contains_iff_mem.mpr ?_)
        rw [noLongerSelectors, List.mem_filter]
        exact ⟨hmem, by simpa using hselector⟩
      rw [hnone, ite_self]
      rfl

/-- What `ScanDeviationRuleD1` reads and writes of an MPR. -/
def deviationState (d : OlsrDefenseFpnt) (m : Ipv4Address) : UInt32 × Option Time :=
  (d.deviations m, Lib.mapFind d.mprSelectionTime m)

/-- `ScanDeviationRuleD1` notes an MPR that it has not seen, and counts one that is silent. -/
lemma scanMpr_eq (d : OlsrDefenseFpnt) : scanMpr now d m =
    if (Lib.mapFind d.mprSelectionTime m).isNone then
      { d with mprSelectionTime := Lib.mapSet Ipv4Address.lt m now d.mprSelectionTime }
    else if silentSince (d.tcInterval * d1HoldMultiplier) now (Lib.mapFind d.lastTcTime m)
        (Lib.mapFind d.mprSelectionTime m) then
      d.raiseRCheat m
    else d := by
  rw [scanMpr]
  cases hsince : Lib.mapFind d.mprSelectionTime m with
  | none => rfl
  | some since =>
    show (if now - since < d.tcInterval * d1HoldMultiplier then d else _) =
      if silentSince _ now (Lib.mapFind d.lastTcTime m) (some since) = true then _ else d
    by_cases hgrace : now - since < d.tcInterval * d1HoldMultiplier
    · rw [if_pos hgrace, if_neg (by simp [silentSince, hgrace])]
    · rw [if_neg hgrace]
      refine if_congr ?_ rfl rfl
      cases Lib.mapFind d.lastTcTime m <;> simp [silentSince, hgrace]

/-- What the scan of an MPR makes of its counter and its time. -/
lemma scanMpr_deviationState (d : OlsrDefenseFpnt) : (scanMpr now d m).deviationState m =
    (d.deviations m + if silentSince (d.tcInterval * d1HoldMultiplier) now
        (Lib.mapFind d.lastTcTime m) (Lib.mapFind d.mprSelectionTime m) then 1 else 0,
      some ((Lib.mapFind d.mprSelectionTime m).getD now)) := by
  have hleft : d.deviations m = d.deviations m + 0 := (UInt32.add_zero _).symm
  rw [scanMpr_eq]
  cases hsince : Lib.mapFind d.mprSelectionTime m with
  | none => exact Prod.ext hleft (Ipv4Address.comparesKeys.mapFind_mapSet_self m now _)
  | some since =>
    rw [Option.isNone_some, if_neg Bool.false_ne_true]
    split
    · refine Prod.ext ?_ hsince
      show (d.raiseRCheat m).deviations m = _
      rw [deviations_raiseRCheat, if_pos rfl]
    · exact Prod.ext hleft hsince

lemma scanMpr_deviationState_of_ne (d : OlsrDefenseFpnt) {mpr : Ipv4Address} (hne : mpr ≠ m) :
    (scanMpr now d mpr).deviationState m = d.deviationState m := by
  rw [scanMpr_eq]
  split
  · rw [deviationState, Ipv4Address.comparesKeys.mapFind_mapSet_of_ne (Ne.symm hne)]
    rfl
  split
  · rw [deviationState, deviations_raiseRCheat, if_neg (Ne.symm hne)]
    rfl
  · rfl

lemma scanMpr_times (d : OlsrDefenseFpnt) (mpr : Ipv4Address) :
    (scanMpr now d mpr).lastTcTime = d.lastTcTime ∧
      (scanMpr now d mpr).tcInterval = d.tcInterval := by
  rw [scanMpr_eq]
  split
  · exact ⟨rfl, rfl⟩
  split
  · exact ⟨rfl, rfl⟩
  · exact ⟨rfl, rfl⟩

/-- The scan counts the MPRs that are silent. -/
lemma scanDeviationRuleD1_deviations (d : OlsrDefenseFpnt) :
    (d.scanDeviationRuleD1 now s).deviations m =
      d.deviations m + if d.silent now s m then 1 else 0 := by
  have hleft : d.deviations m = d.deviations m + 0 := (UInt32.add_zero _).symm
  rw [scanDeviationRuleD1]
  by_cases hprotocol : d.hasProtocol = true
  · have hsilent : d.silent now s m = (decide (m ∈ s.mprSet) &&
        silentSince (d.tcInterval * d1HoldMultiplier) now (Lib.mapFind d.lastTcTime m)
          (Lib.mapFind d.mprSelectionTime m)) := by
      rw [silent, hprotocol, Bool.true_and]
    rw [if_neg (by simp [hprotocol]), hsilent]
    have hreaped := Lib.mapFind_filter_fst (fun addr => decide (addr ∈ s.mprSet))
      d.mprSelectionTime m
    obtain ⟨hmem, hnot⟩ := Lib.foldl_once (f := scanMpr now) (k := m)
      (r := fun d' : OlsrDefenseFpnt => d'.deviationState m)
      (I := fun d' => d'.lastTcTime = d.lastTcTime ∧ d'.tcInterval = d.tcInterval)
      (g := fun x => (x.1 + if silentSince (d.tcInterval * d1HoldMultiplier) now
        (Lib.mapFind d.lastTcTime m) x.2 then 1 else 0, some (x.2.getD now)))
      (fun d' mpr h => ⟨(scanMpr_times now d' mpr).1.trans h.1,
        (scanMpr_times now d' mpr).2.trans h.2⟩)
      (fun d' mpr _ hne => scanMpr_deviationState_of_ne now m d' hne)
      (fun d' h => by rw [scanMpr_deviationState, h.1, h.2]; rfl)
      (s.mprSet.sort_nodup (· ≤ ·))
      (s := { d with
        mprSelectionTime := d.mprSelectionTime.filter fun kv => decide (kv.1 ∈ s.mprSet) })
      ⟨rfl, rfl⟩
    rw [Finset.mem_sort] at hmem hnot
    by_cases hmpr : m ∈ s.mprSet
    · rw [decide_eq_true hmpr, if_pos rfl] at hreaped
      have hscanned := congrArg Prod.fst (hmem hmpr)
      rw [deviationState, deviationState, hreaped] at hscanned
      rw [decide_eq_true hmpr, Bool.true_and]
      exact hscanned
    · rw [decide_eq_false hmpr, Bool.false_and]
      exact (congrArg Prod.fst (hnot hmpr)).trans hleft
  · rw [if_pos (by simp [hprotocol]), silent, Bool.eq_false_iff.mpr hprotocol]
    exact hleft

/-- The counter that a check compares with the threshold. -/
lemma beforeEvaluation_deviations (d : OlsrDefenseFpnt) :
    (d.beforeEvaluation now s).deviations m =
      (if d.hasProtocol && !isOurSelector s m then 0 else d.deviations m) +
        if d.silent now s m then 1 else 0 := by
  have hexpired : ∀ d : OlsrDefenseFpnt,
      (d.expireStaleArrivals now).deviations m = d.deviations m := fun _ => rfl
  rw [beforeEvaluation, hexpired, scanDeviationRuleD1_deviations]
  cases hprotocol : d.hasProtocol with
  | false =>
    rw [if_neg Bool.false_ne_true, Bool.false_and, if_neg Bool.false_ne_true]
  | true =>
    have hsilent : (d.forgetNonSelectors s).silent now s m = d.silent now s m := rfl
    rw [if_pos rfl, Bool.true_and, hsilent, forgetNonSelectors_deviations]
    cases isOurSelector s m <;> rfl

/-! ### The evaluation -/

/-- `MetricsToS0`, of the last values of the node. -/
def markingOf (d : OlsrDefenseFpnt) (last : Option Marking) (mt : NodeBehaviorMetrics) : Marking :=
  { d.settings with lastSValues := last.toList.map fun S => (0, S) }.metricsToS0 0 mt

lemma metricsToS0_eq (d : OlsrDefenseFpnt) (mt : NodeBehaviorMetrics) :
    d.metricsToS0 m mt = d.markingOf (Lib.mapFind d.lastSValues m) mt := by
  have hlast : Lib.mapFind ((Lib.mapFind d.lastSValues m).toList.map fun S =>
      ((0 : Ipv4Address), S)) 0 = Lib.mapFind d.lastSValues m := by
    cases Lib.mapFind d.lastSValues m <;> rfl
  rw [markingOf, metricsToS0, metricsToS0]
  simp only [hlast]
  rfl

/-- The deviation place tells whether the counter is above the threshold. -/
lemma metricsToS0_p7RouteBad (d : OlsrDefenseFpnt) (mt : NodeBehaviorMetrics) :
    d.metricsToS0 m mt p7RouteBad = if mt.countRCheat > d.cheatThreshold then 1 else 0 := by
  simp only [metricsToS0]
  rw [Function.update_of_ne (by decide), Function.update_self]
  simp only [decide_eq_true_eq]

/-- The last values of a node, and its direct evaluation. -/
def evaluation (d : OlsrDefenseFpnt) (m : Ipv4Address) :
    Option Marking × Option EvaluationVector :=
  (Lib.mapFind d.lastSValues m, Lib.mapFind d.directEvaluationVectors m)

/-- Step 1 of a check. -/
lemma foldl_evaluate_evaluation (d : OlsrDefenseFpnt) (hd : d.MetricsOrdered)
    {mt : NodeBehaviorMetrics} (hmt : Lib.mapFind d.metrics m = some mt) :
    (d.metrics.foldl evaluate d).evaluation m =
      (some (d.metricsToS0 m mt), some (runFuzzyPetriNet (d.metricsToS0 m mt))) := by
  have hfind := Lib.foldl_mapFind (f := evaluate) (k := m)
    (r := fun d' : OlsrDefenseFpnt => d'.evaluation m) (I := fun d' => d'.settings = d.settings)
    (g := fun mt x => (some (d.markingOf x.1 mt), some (runFuzzyPetriNet (d.markingOf x.1 mt))))
    ?_ ?_ ?_ (Ipv4Address.comparesKeys.nodup hd) rfl
  · rw [hfind, hmt, metricsToS0_eq]
    rfl
  · intro d' kv hd'
    exact hd'
  · intro d' kv _ hne
    rw [evaluate, evaluation, Ipv4Address.comparesKeys.mapFind_mapSet_of_ne (Ne.symm hne),
      Ipv4Address.comparesKeys.mapFind_mapSet_of_ne (Ne.symm hne)]
    rfl
  · intro d' mt hd'
    have hmarking : d'.metricsToS0 m mt = d.markingOf (Lib.mapFind d'.lastSValues m) mt := by
      rw [metricsToS0_eq, markingOf, markingOf, hd']
    rw [evaluate, evaluation, hmarking, Ipv4Address.comparesKeys.mapFind_mapSet_self,
      Ipv4Address.comparesKeys.mapFind_mapSet_self]
    rfl

lemma updateTrust_evaluation (x : OlsrDefenseFpnt × Bool) (addr : Ipv4Address) :
    (updateTrust x addr).1.evaluation m = x.1.evaluation m := by
  simp only [updateTrust]
  split <;> rfl

/-- What an enabled check leaves of its evaluations. -/
lemma periodicCheck_evaluation (henabled : d.enabled = true) :
    (d.periodicCheck now s).1.evaluation m =
      ((d.beforeEvaluation now s).metrics.foldl evaluate (d.beforeEvaluation now s)).evaluation
        m := by
  have htrust : ∀ (l : List Ipv4Address) (x : OlsrDefenseFpnt × Bool),
      (l.foldl updateTrust x).1.evaluation m = x.1.evaluation m :=
    fun l x => Lib.foldl_eq (fun x : OlsrDefenseFpnt × Bool => x.1.evaluation m)
      (updateTrust_evaluation m) l x
  rw [periodicCheck_of_enabled now s henabled rfl]
  exact htrust _ _

/-! ### The order of the counters -/

lemma MetricsOrdered.setMetrics (hd : d.MetricsOrdered) (a : Ipv4Address)
    (mt : NodeBehaviorMetrics) : (d.setMetrics a mt).MetricsOrdered :=
  Ipv4Address.comparesKeys.ordered_mapSet hd

lemma MetricsOrdered.raiseRCheat (hd : d.MetricsOrdered) (a : Ipv4Address) :
    (d.raiseRCheat a).MetricsOrdered := hd.setMetrics a _

lemma MetricsOrdered.scanMpr (hd : d.MetricsOrdered) (mpr : Ipv4Address) :
    (scanMpr now d mpr).MetricsOrdered := by
  rw [scanMpr_eq]
  split
  · exact hd
  split
  · exact hd.raiseRCheat mpr
  · exact hd

lemma MetricsOrdered.scanDeviationRuleD1 (hd : d.MetricsOrdered) :
    (d.scanDeviationRuleD1 now s).MetricsOrdered := by
  rw [OlsrDefenseFpnt.scanDeviationRuleD1]
  split
  · exact hd
  · refine Lib.inv_run (I := MetricsOrdered) (P := fun _ _ => True)
      (fun d mpr hd _ => hd.scanMpr now mpr) ?_ fun _ _ => trivial
    exact hd

lemma MetricsOrdered.beforeEvaluation (hd : d.MetricsOrdered) :
    (d.beforeEvaluation now s).MetricsOrdered := by
  have hforget : (d.forgetNonSelectors s).MetricsOrdered :=
    List.Pairwise.sublist (List.Sublist.map Prod.fst List.filter_sublist) hd
  rw [OlsrDefenseFpnt.beforeEvaluation]
  split
  · exact hforget.scanDeviationRuleD1 now s
  · exact hd.scanDeviationRuleD1 now s

lemma MetricsOrdered.countArrival (hd : d.MetricsOrdered) (addr finalDest : Ipv4Address)
    (size : UInt32) (key : UInt64) : (d.countArrival now addr finalDest size key).MetricsOrdered := by
  simp only [OlsrDefenseFpnt.countArrival]
  split
  · exact hd.setMetrics addr _
  · exact (hd.setMetrics addr _).setMetrics addr _

lemma MetricsOrdered.onNeighborForwardedPacket (hd : d.MetricsOrdered)
    (macToIpv4 : Mac48Address → Ipv4Address) (tx rx : Mac48Address) (header : Ipv4Header)
    (size : UInt32) :
    (d.onNeighborForwardedPacket now s macToIpv4 tx rx header size).MetricsOrdered := by
  have hcredit : ∀ txAddr fingerprint, (d.creditForward now txAddr fingerprint).MetricsOrdered := by
    intro txAddr fingerprint
    rw [creditForward]
    split
    · exact hd
    · exact hd.setMetrics txAddr _
  simp only [OlsrDefenseFpnt.onNeighborForwardedPacket]
  split_ifs
  · exact hd
  all_goals first
    | exact hd
    | exact hcredit _ _
    | exact (hcredit _ _).countArrival now _ _ _ _
    | exact hd.countArrival now _ _ _ _

lemma MetricsOrdered.onRecvTc (hd : d.MetricsOrdered) (msg : MessageHeader) (tc : Tc) :
    (d.onRecvTc now s msg tc).MetricsOrdered := by
  have hseen : ∀ l, ({ d with lastTcTime := l } : OlsrDefenseFpnt).MetricsOrdered := fun _ => hd
  simp only [OlsrDefenseFpnt.onRecvTc]
  split
  · exact hd
  split
  · exact hd
  split
  · exact hd
  split
  · exact hd
  split
  · exact hd
  · exact (hseen _).raiseRCheat _

lemma MetricsOrdered.call (hd : d.MetricsOrdered) (c : Call) : (d.call c).MetricsOrdered := by
  obtain ⟨now, s, hook⟩ := c
  cases hook with
  | setup nodeAddress => exact hd
  | setEnabled enabled =>
    simp only [OlsrDefenseFpnt.call, setEnabled]
    split
    · exact hd
    · exact List.Pairwise.nil
  | onRecvTc msg tc => exact hd.onRecvTc now s msg tc
  | onRecvEvaluationVectors sender advertised vectors =>
    simp only [OlsrDefenseFpnt.call, onRecvEvaluationVectors]
    split <;> exact hd
  | onDataPacketForwarded header size nextHop finalDest =>
    simp only [OlsrDefenseFpnt.call, onDataPacketForwarded]
    split_ifs
    · exact hd
    · exact hd
    · exact hd
    · exact hd
    · exact hd.countArrival now _ _ _ _
  | onNeighborForwardedPacket macToIpv4 tx rx header size =>
    exact hd.onNeighborForwardedPacket now s macToIpv4 tx rx header size
  | onMacTxFailure neighbor count =>
    simp only [OlsrDefenseFpnt.call, onMacTxFailure]
    split_ifs
    · exact hd
    · exact hd
    · split
      · exact hd
      · exact hd.setMetrics neighbor _
  | periodicCheck =>
    simp only [OlsrDefenseFpnt.call, periodicCheck]
    split <;> exact List.Pairwise.nil

lemma MetricsOrdered.runCalls (hd : d.MetricsOrdered) (cs : List Call) :
    (d.runCalls cs).MetricsOrdered :=
  Lib.inv_run (I := MetricsOrdered) (P := fun _ _ => True) (fun _ c hd _ => hd.call c) hd
    fun _ _ => trivial

end Check

end ManetOlsr.OlsrDefenseFpnt
