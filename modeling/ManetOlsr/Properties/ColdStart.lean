/-
Cold starts.

To switch a defense off and on again, or on and off again, is to start it anew: what it has stored
before makes no difference any more.  For each defense, two of them that have been set up alike are
given the same calls after such a cold start, and give the same verdicts ever after.  The watchdog
keeps its events in a cold start; when they are due is part of the calls, so that its books about
them do not count.
-/
import ManetOlsr.Model.ColdStart

namespace ManetOlsr

/-! ### The watchdog -/

namespace OlsrWatchdogDefense

/-- The attributes and the wiring are the same. -/
structure SetUpAlike (d d' : OlsrWatchdogDefense) : Prop where
  hasProtocol : d'.hasProtocol = d.hasProtocol
  mainAddress : d'.mainAddress = d.mainAddress
  myMacAddress : d'.myMacAddress = d.myMacAddress
  attached : d'.attached = d.attached
  ownWifi : d'.ownWifi = d.ownWifi
  forwardTimeout : d'.forwardTimeout = d.forwardTimeout
  periodicInterval : d'.periodicInterval = d.periodicInterval
  warmupDuration : d'.warmupDuration = d.warmupDuration
  probationDuration : d'.probationDuration = d.probationDuration
  blacklistThreshold : d'.blacklistThreshold = d.blacklistThreshold
  selfDropsThreshold : d'.selfDropsThreshold = d.selfDropsThreshold
  macFailureThreshold : d'.macFailureThreshold = d.macFailureThreshold
  macFailureRateThresh : d'.macFailureRateThresh = d.macFailureRateThresh
  minDataObservations : d'.minDataObservations = d.minDataObservations
  rtsCtsDiscrepancyThresh : d'.rtsCtsDiscrepancyThresh = d.rtsCtsDiscrepancyThresh
  blacklistDuration : d'.blacklistDuration = d.blacklistDuration
  verifyOnwardHop : d'.verifyOnwardHop = d.verifyOnwardHop
  enabled : d'.enabled = d.enabled

/-- The watchdog without its books about events. -/
def core (d : OlsrWatchdogDefense) : OlsrWatchdogDefense :=
  { d with
    periodicEvent := 0
    checks := []
    scheduled := 0
    rotations := []
    selfDropsRaised := 0 }

lemma coldStart_eq (d : OlsrWatchdogDefense) (now : Time) :
    d.coldStart now = d.resetAccumulatedState now := by
  obtain ⟨_, _, _, _, _, _, _, _, _, _, _, _, _, _, _, _, _, _, _, _, _, _, _, enabled, _, _, _, _,
    _, _⟩ := d
  cases enabled <;> rfl

lemma SetUpAlike.coldStart_core {d d' : OlsrWatchdogDefense} (h : SetUpAlike d d') (now : Time) :
    (d'.coldStart now).core = (d.coldStart now).core := by
  rw [coldStart_eq, coldStart_eq]
  obtain ⟨h₁, h₂, h₃, h₄, h₅, h₆, h₇, h₈, h₉, h₁₀, h₁₁, h₁₂, h₁₃, h₁₄, h₁₅, h₁₆, h₁₇, h₁₈⟩ := h
  simp only [resetAccumulatedState, core, h₁, h₂, h₃, h₄, h₅, h₆, h₇, h₈, h₉, h₁₀, h₁₁, h₁₂, h₁₃,
    h₁₄, h₁₅, h₁₆, h₁₇, h₁₈]

/-! #### No call reads the books -/

section Core

variable (d : OlsrWatchdogDefense) (now : Time) (s : OlsrState)

lemma core_onDataPacketForwarded (uid : ℕ) (nextHop finalDest : Ipv4Address) :
    d.core.onDataPacketForwarded now uid nextHop finalDest =
      (d.onDataPacketForwarded now uid nextHop finalDest).core := by
  simp only [onDataPacketForwarded, apply_ite core]
  rfl

lemma core_onMacTxFailure (neighbor : Ipv4Address) (count : ℕ) :
    d.core.onMacTxFailure neighbor count = (d.onMacTxFailure neighbor count).core := by
  simp only [onMacTxFailure, apply_ite core]
  refine if_congr Iff.rfl rfl (if_congr Iff.rfl rfl ?_)
  have hpending : ∀ (d' : OlsrWatchdogDefense) st,
      (d'.setStats neighbor st).pendingByNeighbor = d'.pendingByNeighbor := fun _ _ => rfl
  have hcore : d.core.pendingByNeighbor = d.pendingByNeighbor := rfl
  simp only [hpending, hcore]
  rcases Lib.mapFind d.pendingByNeighbor neighbor with _ | _ | ⟨_, vec⟩ <;> rfl

lemma core_creditForward (txIp : Ipv4Address) (receiver : Mac48Address) (uid : ℕ) :
    d.core.creditForward s txIp receiver uid = (d.creditForward s txIp receiver uid).core := by
  simp only [creditForward, apply_ite core]
  rfl

lemma core_onNeighborForwardedPacket (tx rx : Mac48Address) (uid : ℕ) :
    d.core.onNeighborForwardedPacket now s tx rx uid =
      (d.onNeighborForwardedPacket now s tx rx uid).core := by
  simp only [onNeighborForwardedPacket, apply_ite core]
  rw [← core_creditForward]
  rfl

lemma core_onRtsReceived (sender : Mac48Address) :
    d.core.onRtsReceived sender = (d.onRtsReceived sender).core := by
  simp only [onRtsReceived, apply_ite core]
  rfl

lemma core_onCtsReceived (rtsSender : Mac48Address) :
    d.core.onCtsReceived rtsSender = (d.onCtsReceived rtsSender).core := by
  simp only [onCtsReceived, apply_ite core]
  rfl

lemma core_learn (tx rx : Mac48Address) (body : FrameBody) :
    d.core.learn tx rx body = (d.learn tx rx body).core := by
  rw [learn, learn]
  split
  · split
    · split <;> rfl
    · rfl
  · rfl

lemma core_snifferRxCallback (frame : WifiFrame) :
    d.core.snifferRxCallback now s frame = (d.snifferRxCallback now s frame).core := by
  cases frame with
  | rts tx rx =>
    simp only [snifferRxCallback, apply_ite core]
    rw [← core_onRtsReceived]
    rfl
  | cts rx =>
    simp only [snifferRxCallback, apply_ite core]
    rw [← core_onCtsReceived]
    rfl
  | data tx rx uid body =>
    simp only [snifferRxCallback, apply_ite core]
    rw [← core_onNeighborForwardedPacket, ← core_learn]
    rfl
  | other => rfl

/-! #### Nor does a check -/

lemma core_evaluateMissingForward (neighbor : Ipv4Address) :
    d.core.evaluateMissingForward now neighbor = (d.evaluateMissingForward now neighbor).core := by
  simp only [evaluateMissingForward, apply_ite core]
  rfl

lemma core_ageOut : d.core.ageOut now = (d.ageOut now).core := by
  have hneighbor : ∀ (kv : Ipv4Address × List PendingPacket) (d' : OlsrWatchdogDefense),
      d.core.evaluateTimedOut now d'.core kv = (d.evaluateTimedOut now d' kv).core := by
    intro kv d'
    exact List.foldl_hom core fun d' _ => core_evaluateMissingForward d' now kv.1
  have hloop : d.pendingByNeighbor.foldl (d.core.evaluateTimedOut now) d.core =
      (d.pendingByNeighbor.foldl (d.evaluateTimedOut now) d).core :=
    List.foldl_hom core fun d' kv => hneighbor kv d'
  show { d.pendingByNeighbor.foldl (d.core.evaluateTimedOut now) d.core with
    pendingByNeighbor := (d.ageOut now).pendingByNeighbor } = _
  rw [hloop]
  rfl

lemma core_maybeBlacklist (neighbor : Ipv4Address) :
    d.core.maybeBlacklist now neighbor = (d.maybeBlacklist now neighbor).core := by
  have hstats : d.core.neighborStats = d.neighborStats := rfl
  simp only [maybeBlacklist, hstats, apply_ite core]
  refine if_congr Iff.rfl rfl ?_
  cases Lib.mapFind d.neighborStats neighbor with
  | none => rfl
  | some st =>
    simp only [apply_ite core]
    rfl

lemma core_releaseExpired (addr : Ipv4Address) :
    releaseExpired now d.core addr = (releaseExpired now d addr).core := by
  have hstats : d.core.neighborStats = d.neighborStats := rfl
  simp only [releaseExpired, hstats]
  cases Lib.mapFind d.neighborStats addr with
  | none => rfl
  | some st =>
    simp only [apply_ite core]
    rfl

lemma core_periodicCheck : (d.core.periodicCheck now).core = (d.periodicCheck now).core := by
  have hdecided : ∀ d : OlsrWatchdogDefense,
      d.core.maybeBlacklistAll now = (d.maybeBlacklistAll now).core :=
    fun d => List.foldl_hom core fun d' neighbor => core_maybeBlacklist d' now neighbor
  have hreleased : ∀ d : OlsrWatchdogDefense,
      d.core.releaseExpiredBlacklist now = (d.releaseExpiredBlacklist now).core := by
    intro d
    have hloop : d.blacklist.foldl (releaseExpired now) d.core =
        (d.blacklist.foldl (releaseExpired now) d).core :=
      List.foldl_hom core fun d' addr => core_releaseExpired d' now addr
    simp only [releaseExpiredBlacklist, apply_ite core]
    rw [← hloop]
    rfl
  have hchecked : ∀ d : OlsrWatchdogDefense,
      ((d.core.rotateMacWindows now).schedulePeriodicCheck now).core =
        ((d.rotateMacWindows now).schedulePeriodicCheck now).core := fun _ => rfl
  simp only [periodicCheck, apply_ite core]
  rw [core_ageOut, hdecided, hreleased, hchecked]
  rfl

lemma core_setup (nodeAddress : Ipv4Address) :
    (d.core.setup now nodeAddress).core = (d.setup now nodeAddress).core := by
  have hwifi : d.core.ownWifi = d.ownWifi := rfl
  simp only [setup, attachWifiTraces, hwifi]
  cases d.ownWifi <;> rfl

/-- **Step lemma.**  What is in the books makes no difference to the rest. -/
lemma core_call (c : Call) : (d.core.call c).core = (d.call c).core := by
  obtain ⟨now, s, hook⟩ := c
  cases hook with
  | setup nodeAddress => exact core_setup d now nodeAddress
  | setEnabled enabled =>
    simp only [call, setEnabled, apply_ite core]
    rfl
  | onDataPacketForwarded uid nextHop finalDest =>
    simp only [call, core_onDataPacketForwarded]
    rfl
  | onMacTxFailure neighbor count =>
    simp only [call, core_onMacTxFailure]
    rfl
  | onSelfReliabilityReport count =>
    simp only [call, onSelfReliabilityReport, apply_ite core]
    rfl
  | onNeighborForwardedPacket tx rx uid =>
    simp only [call, core_onNeighborForwardedPacket]
    rfl
  | onRtsReceived sender =>
    simp only [call, core_onRtsReceived]
    rfl
  | onCtsReceived rtsSender =>
    simp only [call, core_onCtsReceived]
    rfl
  | snifferRxCallback frame =>
    simp only [call, core_snifferRxCallback]
    rfl
  | phyRxDropCallback =>
    simp only [call, phyRxDropCallback, apply_ite core]
    rfl
  | periodicCheck => exact core_periodicCheck d now
  | take check => rfl

end Core

lemma call_congr {d d' : OlsrWatchdogDefense} (h : d.core = d'.core) (c : Call) :
    (d.call c).core = (d'.call c).core := by
  rw [← core_call d, ← core_call d', h]

/-- **Run lemma.**  After a cold start the watchdogs differ in their books at most. -/
lemma SetUpAlike.runCalls_core {d d' : OlsrWatchdogDefense} (h : SetUpAlike d d') (now : Time)
    (cs : List Call) :
    ((d'.coldStart now).runCalls cs).core = ((d.coldStart now).runCalls cs).core :=
  Lib.run_congr (f := core) (fun _ _ c heq => call_congr heq c) (h.coldStart_core now) cs

lemma isMalicious_eq_of_core {d d' : OlsrWatchdogDefense} (h : d'.core = d.core) :
    d'.isMalicious = d.isMalicious := by
  show d'.core.isMalicious = d.core.isMalicious
  rw [h]

lemma getBlacklist_eq_of_core {d d' : OlsrWatchdogDefense} (h : d'.core = d.core) :
    d'.getBlacklist = d.getBlacklist := by
  show d'.core.getBlacklist = d.core.getBlacklist
  rw [h]

end OlsrWatchdogDefense

/-! ### The fuzzy Petri net -/

namespace OlsrDefenseFpnt

/-- The attributes and the wiring are the same. -/
structure SetUpAlike (d d' : OlsrDefenseFpnt) : Prop where
  hasProtocol : d'.hasProtocol = d.hasProtocol
  tcInterval : d'.tcInterval = d.tcInterval
  selfAddress : d'.selfAddress = d.selfAddress
  checkInterval : d'.checkInterval = d.checkInterval
  maliciousThreshold : d'.maliciousThreshold = d.maliciousThreshold
  uncertaintyBeta : d'.uncertaintyBeta = d.uncertaintyBeta
  fadingFactor : d'.fadingFactor = d.fadingFactor
  maxLoad : d'.maxLoad = d.maxLoad
  maxDelay : d'.maxDelay = d.maxDelay
  cheatThreshold : d'.cheatThreshold = d.cheatThreshold
  enabled : d'.enabled = d.enabled

lemma coldStart_eq (d : OlsrDefenseFpnt) : d.coldStart = d.resetAccumulatedState := by
  obtain ⟨_, _, _, _, _, _, _, _, _, _, _, _, _, _, _, _, _, _, enabled⟩ := d
  cases enabled <;> rfl

/-- Nothing that is not set up survives a cold start. -/
lemma SetUpAlike.coldStart {d d' : OlsrDefenseFpnt} (h : SetUpAlike d d') :
    d'.coldStart = d.coldStart := by
  rw [coldStart_eq, coldStart_eq]
  obtain ⟨h₁, h₂, h₃, h₄, h₅, h₆, h₇, h₈, h₉, h₁₀, h₁₁⟩ := h
  simp only [resetAccumulatedState, h₁, h₂, h₃, h₄, h₅, h₆, h₇, h₈, h₉, h₁₀, h₁₁]

end OlsrDefenseFpnt

/-! ### The contradiction rules -/

namespace OlsrDefenseGcop

/-- The attributes and the wiring are the same. -/
structure SetUpAlike (d d' : OlsrDefenseGcop) : Prop where
  enabled : d'.enabled = d.enabled
  useFictitiousNodes : d'.useFictitiousNodes = d.useFictitiousNodes
  attached : d'.attached = d.attached
  mainAddress : d'.mainAddress = d.mainAddress

/-- Nothing that is not set up survives a cold start. -/
lemma SetUpAlike.coldStart {d d' : OlsrDefenseGcop} (h : SetUpAlike d d') :
    d'.coldStart = d.coldStart := by
  have hreset : ∀ d : OlsrDefenseGcop, d.coldStart = { d with riskyNodes := ∅ } := by
    intro d
    obtain ⟨enabled, _, _, _, _⟩ := d
    cases enabled <;> rfl
  obtain ⟨h₁, h₂, h₃, h₄⟩ := h
  simp only [hreset, h₁, h₂, h₃, h₄]

end OlsrDefenseGcop

/-! ### All three -/

/-- **Cold starts erase the history.**  After a cold start, a defense gives the same verdicts as any
other that is set up alike, after any calls. -/
theorem coldStart_erases_history :
    (∀ d d' : OlsrWatchdogDefense, d.SetUpAlike d' → ∀ now cs,
      ((d'.coldStart now).runCalls cs).isMalicious = ((d.coldStart now).runCalls cs).isMalicious ∧
      ((d'.coldStart now).runCalls cs).getBlacklist =
        ((d.coldStart now).runCalls cs).getBlacklist) ∧
    (∀ d d' : OlsrDefenseFpnt, d.SetUpAlike d' → ∀ cs,
      (d'.coldStart.runCalls cs).isMalicious = (d.coldStart.runCalls cs).isMalicious ∧
      (d'.coldStart.runCalls cs).getBlacklist = (d.coldStart.runCalls cs).getBlacklist ∧
      (d'.coldStart.runCalls cs).getNodeTrust = (d.coldStart.runCalls cs).getNodeTrust) ∧
    (∀ d d' : OlsrDefenseGcop, d.SetUpAlike d' → ∀ cs,
      (d'.coldStart.runCalls cs).isMalicious = (d.coldStart.runCalls cs).isMalicious ∧
      (d'.coldStart.runCalls cs).getBlacklist = (d.coldStart.runCalls cs).getBlacklist ∧
      (d'.coldStart.runCalls cs).requiresFictitiousNode =
        (d.coldStart.runCalls cs).requiresFictitiousNode) := by
  refine ⟨fun d d' h now cs => ?_, fun d d' h cs => ?_, fun d d' h cs => ?_⟩
  · have hcore := h.runCalls_core now cs
    exact ⟨OlsrWatchdogDefense.isMalicious_eq_of_core hcore,
      OlsrWatchdogDefense.getBlacklist_eq_of_core hcore⟩
  · rw [h.coldStart]
    exact ⟨rfl, rfl, rfl⟩
  · rw [h.coldStart]
    exact ⟨rfl, rfl, rfl⟩

/-- A defense with a history beside one without, and a call after the cold start. -/
theorem samples_coldStart_erases_history :
    (let d : OlsrWatchdogDefense := OlsrWatchdogDefense.runCalls {} [⟨0, {}, .setup 1⟩]
      let d' := d.runCalls [⟨Seconds 20, {}, .onDataPacketForwarded 7 4 9⟩]
      ((d'.coldStart (Seconds 30)).runCalls [⟨Seconds 31, {}, .periodicCheck⟩]).isMalicious =
        ((d.coldStart (Seconds 30)).runCalls [⟨Seconds 31, {}, .periodicCheck⟩]).isMalicious) ∧
    (let d : OlsrDefenseFpnt := OlsrDefenseFpnt.runCalls {} [⟨0, {}, .setup 1⟩]
      let d' := { d with trustTable := [(4, 0)] }
      (d'.coldStart.runCalls [⟨Seconds 31, {}, .periodicCheck⟩]).getNodeTrust =
        (d.coldStart.runCalls [⟨Seconds 31, {}, .periodicCheck⟩]).getNodeTrust) ∧
    (let d : OlsrDefenseGcop := OlsrDefenseGcop.runCalls {} [⟨{}, .setup 1⟩]
      let d' := { d with riskyNodes := {4} }
      (d'.coldStart.runCalls [⟨{}, .onRecvHello 4⟩]).getBlacklist =
        (d.coldStart.runCalls [⟨{}, .onRecvHello 4⟩]).getBlacklist) :=
  ⟨(coldStart_erases_history.1 _ _ (by constructor <;> rfl) _ _).1,
    (coldStart_erases_history.2.1 _ _ (by constructor <;> rfl) _).2.2,
    (coldStart_erases_history.2.2 _ _ (by constructor <;> rfl) _).2.1⟩

end ManetOlsr
