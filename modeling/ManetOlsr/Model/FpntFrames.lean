/-
What the hooks of the FPNT defense leave as it is.

The control messages write the evaluations of other nodes, the times of the TC messages and the
counter of the deviations; the packets write the other counters and the pending arrivals.  None of
them touches the settings, which are the attributes and whether the defense is enabled.
-/
import ManetOlsr.Model.FpntEdition

namespace ManetOlsr

namespace OlsrDefenseFpnt

/-- A function of the defense that reads nothing that the control messages write. -/
structure IgnoresControl {α : Type} (g : OlsrDefenseFpnt → α) : Prop where
  raiseRCheat d addr : g (d.raiseRCheat addr) = g d
  recommendations d m : g { d with recommendations := m } = g d
  lastTcTime d m : g { d with lastTcTime := m } = g d
  mprSelectionTime d m : g { d with mprSelectionTime := m } = g d

namespace IgnoresControl

variable {α : Type} {g : OlsrDefenseFpnt → α} (hg : IgnoresControl g) (d : OlsrDefenseFpnt)
  (now : Time) (s : OlsrState)

include hg

lemma onRecvEvaluationVectors (sender : Ipv4Address) (advertisedNeighbors : List Ipv4Address)
    (vectors : List EvaluationVector) :
    g (d.onRecvEvaluationVectors sender advertisedNeighbors vectors) = g d := by
  rw [OlsrDefenseFpnt.onRecvEvaluationVectors]
  split
  · rfl
  · exact hg.recommendations d _

lemma onRecvTc (msg : MessageHeader) (tc : Tc) : g (d.onRecvTc now s msg tc) = g d := by
  have hseen := hg.lastTcTime d (Lib.mapSet Ipv4Address.lt msg.originatorAddress now d.lastTcTime)
  simp only [OlsrDefenseFpnt.onRecvTc]
  split
  · exact hseen
  · split
    · exact hseen
    · split
      · exact (hg.mprSelectionTime _ _).trans hseen
      · split
        · exact hseen
        · split
          · exact hseen
          · rw [hg.raiseRCheat, hseen]

/-- The messages of OLSR reach the defense through these hooks. -/
lemma ignoresOlsr : Edition.IgnoresOlsr g where
  onRecvHello _ _ _ _ _ _ := rfl
  onRecvTc d now s _ msg tc := hg.onRecvTc d now s msg tc
  onTcGenerated _ _ _ _ := rfl

lemma fpntProcessTc_reading (n : Node OlsrDefenseFpnt) (vectors : List EvaluationVector)
    (msg : MessageHeader) (tc : Tc) (senderIface : Ipv4Address) :
    Edition.reading g (n.fpntProcessTc vectors msg tc senderIface) = Edition.reading g n := by
  have hmessages := Edition.reading_ignoresMessages g
  rw [Node.fpntProcessTc]
  split
  · rfl
  · split
    · rfl
    · split
      · exact hmessages.processTc msg senderIface tc
      · rw [hmessages.processTc]
        exact Edition.reading_mapDefense n fun d =>
          hg.onRecvEvaluationVectors d msg.originatorAddress tc.neighborAddresses vectors

end IgnoresControl

/-- A reading that the counters and the pending arrivals do not enter. -/
structure IgnoresCounters {α : Type} (g : OlsrDefenseFpnt → α) : Prop where
  setMetrics d addr m : g (d.setMetrics addr m) = g d
  setPending d addr pending : g (d.setPending addr pending) = g d

namespace IgnoresCounters

variable {α : Type} {g : OlsrDefenseFpnt → α} (hg : IgnoresCounters g) (d : OlsrDefenseFpnt)
  (now : Time) (s : OlsrState)

include hg

lemma countArrival (addr finalDest : Ipv4Address) (size : UInt32) (key : UInt64) :
    g (d.countArrival now addr finalDest size key) = g d := by
  simp only [OlsrDefenseFpnt.countArrival]
  split
  · exact hg.setMetrics d addr _
  · rw [seedArrival, hg.setPending, hg.setMetrics, hg.setMetrics]

lemma onDataPacketForwarded (header : Ipv4Header) (size : UInt32)
    (nextHop finalDest : Ipv4Address) :
    g (d.onDataPacketForwarded now s header size nextHop finalDest) = g d := by
  rw [OlsrDefenseFpnt.onDataPacketForwarded]
  split_ifs
  · rfl
  · rfl
  · rfl
  · rfl
  · exact hg.countArrival d now nextHop finalDest size _

lemma creditForward (txAddr : Ipv4Address) (fingerprint : UInt64) :
    g (d.creditForward now txAddr fingerprint) = g d := by
  rw [OlsrDefenseFpnt.creditForward]
  split
  · exact hg.setPending d txAddr _
  · rw [hg.setPending, hg.setMetrics]

lemma onNeighborForwardedPacket (macToIpv4 : Mac48Address → Ipv4Address)
    (transmitter receiver : Mac48Address) (header : Ipv4Header) (size : UInt32) :
    g (d.onNeighborForwardedPacket now s macToIpv4 transmitter receiver header size) = g d := by
  have hcredit : ∀ (c : Prop) [Decidable c],
      g (if c then d.creditForward now (macToIpv4 transmitter) (hashIpv4Header header) else d) =
        g d := by
    intro c _
    split
    · exact hg.creditForward d now _ _
    · rfl
  simp only [OlsrDefenseFpnt.onNeighborForwardedPacket]
  split
  · rfl
  · split
    · exact hcredit _
    · split
      · exact hcredit _
      · split
        · exact hcredit _
        · rw [hg.countArrival]
          exact hcredit _

lemma onMacTxFailure (neighbor : Ipv4Address) (count : ℕ) :
    g (d.onMacTxFailure neighbor count) = g d := by
  rw [OlsrDefenseFpnt.onMacTxFailure]
  split
  · rfl
  · split
    · rfl
    · split
      · rfl
      · exact hg.setMetrics d neighbor _

end IgnoresCounters

/-! ### The settings -/

/-- The defense without what it has accumulated: its attributes, and what `Setup` and `SetEnabled`
have set. -/
def settings (d : OlsrDefenseFpnt) : OlsrDefenseFpnt := d.resetAccumulatedState

lemma settings_ignoresControl : IgnoresControl settings :=
  ⟨fun _ _ => rfl, fun _ _ => rfl, fun _ _ => rfl, fun _ _ => rfl⟩

lemma settings_ignoresCounters : IgnoresCounters settings :=
  ⟨fun _ _ _ => rfl, fun _ _ _ => rfl⟩

variable (d : OlsrDefenseFpnt) (now : Time) (s : OlsrState)

lemma scanMpr_settings (d : OlsrDefenseFpnt) (mpr : Ipv4Address) :
    (scanMpr now d mpr).settings = d.settings := by
  rw [scanMpr]
  split
  · rfl
  · dsimp only
    split
    · rfl
    · split
      · split <;> rfl
      · split <;> rfl

lemma scanDeviationRuleD1_settings : (d.scanDeviationRuleD1 now s).settings = d.settings := by
  rw [scanDeviationRuleD1]
  split
  · rfl
  · rw [Lib.foldl_eq settings fun d mpr => scanMpr_settings now d mpr]
    rfl

lemma updateTrust_settings (x : OlsrDefenseFpnt × Bool) (addr : Ipv4Address) :
    (updateTrust x addr).1.settings = x.1.settings := by
  simp only [updateTrust]
  split <;> rfl

lemma periodicCheck_settings : (d.periodicCheck now s).1.settings = d.settings := by
  have hforget : (if d.hasProtocol then d.forgetNonSelectors s else d).settings = d.settings := by
    split <;> rfl
  have hevaluate : ∀ (d : OlsrDefenseFpnt) kv, (evaluate d kv).settings = d.settings :=
    fun _ _ => rfl
  rw [periodicCheck]
  split
  · rfl
  · show (List.foldl updateTrust _ _).1.settings = _
    rw [Lib.foldl_eq (fun x : OlsrDefenseFpnt × Bool => x.1.settings) updateTrust_settings]
    show (List.foldl evaluate _ _).settings = _
    rw [Lib.foldl_eq settings hevaluate]
    show (scanDeviationRuleD1 _ now s).settings = _
    rw [scanDeviationRuleD1_settings, hforget]

end OlsrDefenseFpnt

/-! ### Acts -/

namespace Node

open OlsrDefenseFpnt

variable {n : Node OlsrDefenseFpnt} {a : Act OlsrDefenseFpnt}

/-- The act installs no strategy. -/
def LeavesStrategy (a : Act OlsrDefenseFpnt) : Prop :=
  (∀ d, a ≠ .setDefenseStrategy d) ∧ a ≠ .reactivateDefenseStrategy

lemma OfFpnt.leavesStrategy {l : Label OlsrDefenseFpnt} (hl : OfFpnt l) (ha : a ∈ n.acts l) :
    LeavesStrategy a := by
  rcases List.mem_cons.mp ha with rfl | ha
  · exact ⟨by simp, by simp⟩
  · cases l with
    | recvOlsr t recvInterface senderIface messages jitter =>
      rcases mem_recvOlsrActs ha with ⟨msg, -, receiverIface, rfl⟩ | rfl
      · exact ⟨by simp, by simp⟩
      · exact ⟨by simp, by simp⟩
    | setDefenseStrategy => exact absurd hl id
    | reactivateDefenseStrategy => exact absurd hl id
    | onLocalRxDrop => exact absurd hl id
    | _ =>
      obtain rfl := List.mem_singleton.mp ha
      exact ⟨by simp, by simp⟩

variable {redundant : Bool} {vectors : MessageHeader → List EvaluationVector}

/-- What the control messages do not write is left by every act but the defense timer and the
failures of the MAC layer. -/
lemma fpntExec_reading {γ : Type} {g : OlsrDefenseFpnt → γ} (hg : IgnoresControl g)
    (ha : LeavesStrategy a) (hfire : ∀ t jitter, a ≠ .fire t .handleDefenseTimer jitter)
    (hdrop : ∀ x, a ≠ .macTxDrop x) :
    Edition.reading g ((fpntEdition redundant vectors).exec n a) = Edition.reading g n :=
  Edition.exec_reading _ n hg.ignoresOlsr
    (fun n msg tc senderIface => hg.fpntProcessTc_reading n (vectors msg) msg tc senderIface)
    hfire hdrop ha.1 ha.2

lemma fpntHandleDefenseTimer_settings :
    Edition.reading settings n.fpntHandleDefenseTimer = Edition.reading settings n := by
  rw [fpntHandleDefenseTimer]
  split
  · next d hd =>
    have hcheck : settings (d.periodicCheck n.now n.state).1 = settings d :=
      periodicCheck_settings d n.now n.state
    dsimp only
    rw [(Edition.reading_ignoresMessages settings).schedule]
    have hnode : Edition.reading settings
        { n with defenseStrategy := some (d.periodicCheck n.now n.state).1 } =
          Edition.reading settings n := by
      simp only [Edition.reading, hd, Option.map_some, hcheck]
    split
    · exact hnode
    · exact hnode
  · rfl

/-- No act touches the settings, unless it installs a strategy. -/
lemma fpntExec_settings (ha : LeavesStrategy a) :
    Edition.reading settings ((fpntEdition redundant vectors).exec n a) =
      Edition.reading settings n := by
  by_cases hfire : ∃ t jitter, a = .fire t .handleDefenseTimer jitter
  · obtain ⟨t, jitter, rfl⟩ := hfire
    rw [Edition.exec]
    split
    · rfl
    · exact fpntHandleDefenseTimer_settings (n := n.dequeue t .handleDefenseTimer)
  · by_cases hdrop : ∃ x, a = .macTxDrop x
    · obtain ⟨x, rfl⟩ := hdrop
      rw [Edition.exec]
      split
      · rfl
      · show Edition.reading settings (if x = 0 then n else n.macTxDrop x) = _
        split
        · rfl
        · exact Edition.reading_mapDefense n fun d => settings_ignoresCounters.onMacTxFailure d x 1
    · exact fpntExec_reading settings_ignoresControl ha (fun t jitter h => hfire ⟨t, jitter, h⟩)
        fun x h => hdrop ⟨x, h⟩

end Node

/-- Each input of a run can happen to the node that it happens to. -/
lemma FpntRun.enabled (r : FpntRun) : ∀ y ∈ r.trace, y.1.EnabledFpnt y.2 :=
  Lib.forall_trace_of_cons (Q := Node.IsFpntRun r.env) (fun _ _ _ h => h) r.isRun

end ManetOlsr
