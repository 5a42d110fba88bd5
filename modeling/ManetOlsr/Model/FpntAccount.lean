/-
What the FPNT defense counts for one node.

A packet that is on its way to the node is counted and remembered under the hash of its header; a
packet of the node is counted if its hash is remembered, and forgotten then.  Everything else leaves
the account of the node as it is, but the checks, which close it.
-/
import ManetOlsr.Model.FpntCalls

namespace ManetOlsr

namespace OlsrDefenseFpnt

/-- The members of `m_metrics[v]` and `m_pendingArrivals[v]` that tell how `v` forwards. -/
structure Account where
  countRcv : UInt32 := 0
  countFwd : UInt32 := 0
  pendingArrivals : List (UInt64 × Time) := []
deriving DecidableEq

namespace Account

variable (a : Account) (now : Time) (key : UInt64)

/-- The packet with this hash is on its way. -/
def arrive : Account :=
  { a with
    countRcv := a.countRcv + 1
    pendingArrivals :=
      if (Lib.mapFind a.pendingArrivals key).isSome then a.pendingArrivals
      else Lib.mapSet keyLt key now a.pendingArrivals }

/-- The packet with this hash is passed on. -/
def forward : Account :=
  if (Lib.mapFind a.pendingArrivals key).isSome then
    { a with
      countFwd := a.countFwd + 1
      pendingArrivals := a.pendingArrivals.filter fun kv => !(kv.1 == key) }
  else a

end Account

def account (d : OlsrDefenseFpnt) (v : Ipv4Address) : Account where
  countRcv := (d.metricsOf v).countRcv
  countFwd := (d.metricsOf v).countFwd
  pendingArrivals := d.pendingOf v

/-- The account, with what the hooks ask before they write it. -/
structure Audit where
  hasProtocol : Bool
  enabled : Bool
  metricsOrdered : Prop
  account : Account

def audit (v : Ipv4Address) (d : OlsrDefenseFpnt) : Audit :=
  ⟨d.hasProtocol, d.enabled, d.MetricsOrdered, d.account v⟩

section Writes

variable (d : OlsrDefenseFpnt) (v : Ipv4Address)

/-- Neither a new entry nor another value changes whether the entries are in order. -/
lemma setMetrics_metricsOrdered (a : Ipv4Address) (mt : NodeBehaviorMetrics) :
    (d.setMetrics a mt).MetricsOrdered = d.MetricsOrdered := by
  rw [eq_iff_iff]
  refine ⟨fun h => ?_, fun h => h.setMetrics a mt⟩
  rw [MetricsOrdered, setMetrics, Ipv4Address.comparesKeys.map_fst_mapSet] at h
  exact h.sublist (Lib.sublist_setInsert _ _ _)

lemma metricsOf_setMetrics (a : Ipv4Address) (mt : NodeBehaviorMetrics) :
    (d.setMetrics a mt).metricsOf v = if v = a then mt else d.metricsOf v := by
  rw [metricsOf, setMetrics, Ipv4Address.comparesKeys.mapFind_mapSet]
  split <;> rfl

lemma pendingOf_setPending (a : Ipv4Address) (pending : List (UInt64 × Time)) :
    (d.setPending a pending).pendingOf v = if v = a then pending else d.pendingOf v := by
  rw [pendingOf, setPending, Ipv4Address.comparesKeys.mapFind_mapSet]
  split <;> rfl

lemma audit_setMetrics_self (mt : NodeBehaviorMetrics) :
    (d.setMetrics v mt).audit v =
      ⟨d.hasProtocol, d.enabled, d.MetricsOrdered, mt.countRcv, mt.countFwd, d.pendingOf v⟩ := by
  rw [audit, account, setMetrics_metricsOrdered, metricsOf_setMetrics, if_pos rfl]
  rfl

lemma audit_setPending_self (pending : List (UInt64 × Time)) :
    (d.setPending v pending).audit v =
      ⟨d.hasProtocol, d.enabled, d.MetricsOrdered, (d.metricsOf v).countRcv,
        (d.metricsOf v).countFwd, pending⟩ := by
  rw [audit, account, pendingOf_setPending, if_pos rfl]
  rfl

variable {v}

/-- What is written for another node leaves the account as it is. -/
lemma audit_setMetrics_of_ne {a : Ipv4Address} (hne : v ≠ a) (mt : NodeBehaviorMetrics) :
    (d.setMetrics a mt).audit v = d.audit v := by
  rw [audit, account, setMetrics_metricsOrdered, metricsOf_setMetrics, if_neg hne]
  rfl

lemma audit_setPending_of_ne {a : Ipv4Address} (hne : v ≠ a) (pending : List (UInt64 × Time)) :
    (d.setPending a pending).audit v = d.audit v := by
  rw [audit, account, pendingOf_setPending, if_neg hne]
  rfl

variable (v)

lemma audit_ignoresControl : IgnoresControl (audit v) := by
  refine ⟨fun d addr => ?_, fun _ _ => rfl, fun _ _ => rfl, fun _ _ => rfl⟩
  rw [raiseRCheat]
  by_cases hv : v = addr
  · subst hv
    exact audit_setMetrics_self d v _
  · exact audit_setMetrics_of_ne d hv _

end Writes

/-! ### The hooks -/

section Hooks

variable (d : OlsrDefenseFpnt) (now : Time) (s : OlsrState) (v : Ipv4Address)

lemma countArrival_audit (addr finalDest : Ipv4Address) (size : UInt32) (key : UInt64) :
    (d.countArrival now addr finalDest size key).audit v =
      if v = addr ∧ addr ≠ finalDest then
        { d.audit v with account := (d.account v).arrive now key }
      else d.audit v := by
  by_cases hv : v = addr
  · subst hv
    by_cases hdest : v = finalDest
    · -- A packet for the node itself only adds to its load.
      rw [if_neg fun h => h.2 hdest]
      simp only [countArrival, if_pos hdest]
      exact audit_setMetrics_self d v _
    · rw [if_pos ⟨rfl, hdest⟩]
      simp only [countArrival, if_neg hdest, seedArrival]
      rw [audit_setPending_self]
      simp only [metricsOf_setMetrics, if_true, setMetrics_metricsOrdered]
      rfl
  · rw [if_neg fun h => hv h.1]
    simp only [countArrival, seedArrival]
    split
    · exact audit_setMetrics_of_ne d hv _
    · rw [audit_setPending_of_ne _ hv, audit_setMetrics_of_ne _ hv, audit_setMetrics_of_ne _ hv]

lemma creditForward_audit (txAddr : Ipv4Address) (fingerprint : UInt64) :
    (d.creditForward now txAddr fingerprint).audit v =
      if v = txAddr then { d.audit v with account := (d.account v).forward fingerprint }
      else d.audit v := by
  by_cases hv : v = txAddr
  · subst hv
    have haccount : (d.account v).pendingArrivals = d.pendingOf v := rfl
    rw [if_pos rfl, Account.forward, haccount, creditForward]
    cases Lib.mapFind (d.pendingOf v) fingerprint with
    | none => exact audit_setPending_self d v _
    | some arrivalTime =>
      simp only
      rw [audit_setPending_self, metricsOf_setMetrics, if_pos rfl, setMetrics_metricsOrdered]
      rfl
  · rw [if_neg hv, creditForward]
    split
    · exact audit_setPending_of_ne d hv _
    · exact (audit_setPending_of_ne _ hv _).trans (audit_setMetrics_of_ne d hv _)

variable {d v}

/-- A packet that is handed to the node, and is not for it. -/
lemma onDataPacketForwarded_audit_self {finalDest : Ipv4Address} (header : Ipv4Header)
    (size : UInt32) (hprotocol : d.hasProtocol = true) (hv : v ≠ 0 ∧ v ≠ 0xffffffff)
    (hselector : isOurSelector s v = true) (hdest : v ≠ finalDest) :
    (d.onDataPacketForwarded now s header size v finalDest).audit v =
      { d.audit v with account := (d.account v).arrive now (hashIpv4Header header) } := by
  rw [onDataPacketForwarded, if_neg hv.2, if_neg hv.1, if_neg (by simp [hprotocol]),
    if_neg (by simp [hselector]), countArrival_audit, if_pos ⟨rfl, hdest⟩]

/-- Any other packet. -/
lemma onDataPacketForwarded_audit_of_not {nextHop finalDest : Ipv4Address} (header : Ipv4Header)
    (size : UInt32) (hnot : ¬ (nextHop = v ∧ finalDest ≠ v)) :
    (d.onDataPacketForwarded now s header size nextHop finalDest).audit v = d.audit v := by
  have hcount : ¬ (v = nextHop ∧ nextHop ≠ finalDest) := by
    rintro ⟨rfl, hne⟩
    exact hnot ⟨rfl, hne.symm⟩
  rw [onDataPacketForwarded]
  split_ifs
  · rfl
  · rfl
  · rfl
  · rfl
  · rw [countArrival_audit, if_neg hcount]

/-- A frame that is not for the node. -/
lemma onNeighborForwardedPacket_audit {macToIpv4 : Mac48Address → Ipv4Address}
    {transmitter receiver : Mac48Address} (header : Ipv4Header) (size : UInt32)
    (hprotocol : d.hasProtocol = true)
    (hreceiver : receiver.isGroup = true ∨ macToIpv4 receiver ≠ v) :
    (d.onNeighborForwardedPacket now s macToIpv4 transmitter receiver header size).audit v =
      if macToIpv4 transmitter = v ∧ v ≠ 0 ∧ isOurSelector s v = true then
        { d.audit v with account := (d.account v).forward (hashIpv4Header header) }
      else d.audit v := by
  have htx : (if macToIpv4 transmitter ≠ 0 ∧ isOurSelector s (macToIpv4 transmitter) = true then
      d.creditForward now (macToIpv4 transmitter) (hashIpv4Header header) else d).audit v =
        if macToIpv4 transmitter = v ∧ v ≠ 0 ∧ isOurSelector s v = true then
          { d.audit v with account := (d.account v).forward (hashIpv4Header header) }
        else d.audit v := by
    by_cases hv : macToIpv4 transmitter = v
    · rw [hv]
      by_cases hscope : v ≠ 0 ∧ isOurSelector s v = true
      · rw [if_pos hscope, if_pos ⟨rfl, hscope⟩, creditForward_audit, if_pos rfl]
      · rw [if_neg hscope, if_neg fun h => hscope h.2]
    · have hother : ¬ (macToIpv4 transmitter = v ∧ v ≠ 0 ∧ isOurSelector s v = true) :=
        fun h => hv h.1
      rw [if_neg hother]
      split
      · rw [creditForward_audit, if_neg fun h => hv h.symm]
      · rfl
  simp only [onNeighborForwardedPacket]
  rw [if_neg (by simp [hprotocol])]
  split
  · exact htx
  next hgroup =>
  have hrx : macToIpv4 receiver ≠ v := hreceiver.resolve_left hgroup
  split
  · exact htx
  split
  · exact htx
  · rw [countArrival_audit, if_neg fun h => hrx h.1.symm]
    exact htx

/-- A failure of another neighbor. -/
lemma onMacTxFailure_audit {neighbor : Ipv4Address} (hne : v ≠ neighbor) (count : ℕ) :
    (d.onMacTxFailure neighbor count).audit v = d.audit v := by
  rw [onMacTxFailure]
  split_ifs
  · rfl
  · rfl
  · split
    · rfl
    · exact audit_setMetrics_of_ne d hne _

end Hooks

/-! ### The checks -/

namespace IgnoresControl

variable {α : Type} {g : OlsrDefenseFpnt → α} (hg : IgnoresControl g) (now : Time)

include hg

/-- The scan for silent MPRs writes what the TC messages write. -/
lemma scanDeviationRuleD1 (d : OlsrDefenseFpnt) (s : OlsrState) :
    g (d.scanDeviationRuleD1 now s) = g d := by
  have hmpr : ∀ d mpr, g (scanMpr now d mpr) = g d := by
    intro d mpr
    rw [scanMpr_eq]
    split_ifs
    · exact hg.mprSelectionTime d _
    · exact hg.raiseRCheat d mpr
    · rfl
  rw [OlsrDefenseFpnt.scanDeviationRuleD1]
  split
  · rfl
  · rw [Lib.foldl_eq g hmpr, hg.mprSelectionTime]

end IgnoresControl

section Check

variable {d : OlsrDefenseFpnt} (now : Time) (s : OlsrState) {v : Ipv4Address}

/-- Step 0 of a check keeps the account of a selector. -/
lemma forgetNonSelectors_account (d : OlsrDefenseFpnt) (hselector : isOurSelector s v = true) :
    (d.forgetNonSelectors s).account v = d.account v := by
  have hkept : (!(d.noLongerSelectors s).contains v) = true := by
    rw [Bool.not_eq_true', ← Bool.not_eq_true, List.contains_iff_mem, noLongerSelectors,
      List.mem_filter]
    rintro ⟨-, hgone⟩
    rw [hselector] at hgone
    exact absurd hgone Bool.false_ne_true
  have hmetrics : (d.forgetNonSelectors s).metricsOf v = d.metricsOf v := by
    have hfind := Lib.mapFind_filter_fst (fun addr => !(d.noLongerSelectors s).contains addr)
      d.metrics v
    rw [hkept, if_pos rfl] at hfind
    exact congrArg (fun m => m.getD {}) hfind
  have hpending : (d.forgetNonSelectors s).pendingOf v = d.pendingOf v := by
    have hfind := Lib.mapFind_filter_fst (fun addr => !(d.noLongerSelectors s).contains addr)
      d.pendingArrivals v
    rw [hkept, if_pos rfl] at hfind
    exact congrArg (fun p => p.getD []) hfind
  rw [account, account, hmetrics, hpending]

/-- The counters of a selector that are evaluated are those that were counted. -/
lemma beforeEvaluation_metricsOf (d : OlsrDefenseFpnt) (hselector : isOurSelector s v = true) :
    ((d.beforeEvaluation now s).metricsOf v).countRcv = (d.metricsOf v).countRcv ∧
      ((d.beforeEvaluation now s).metricsOf v).countFwd = (d.metricsOf v).countFwd := by
  have hforget : (if d.hasProtocol then d.forgetNonSelectors s else d).account v = d.account v := by
    split
    · exact forgetNonSelectors_account s d hselector
    · rfl
  have hscan : ∀ d : OlsrDefenseFpnt,
      (d.scanDeviationRuleD1 now s).account v = d.account v := fun d =>
    congrArg Audit.account ((audit_ignoresControl v).scanDeviationRuleD1 now d s)
  have haccount := (hscan (if d.hasProtocol then d.forgetNonSelectors s else d)).trans hforget
  exact ⟨congrArg Account.countRcv haccount, congrArg Account.countFwd haccount⟩

/-- A factor sets its two places only. -/
lemma factor_of_ne {evidence : Option ℚ} {last : Option Marking} {high low p : Fin numPlaces}
    (hhigh : p ≠ high) (hlow : p ≠ low) (S : Marking) :
    factor evidence last high low S p = S p := by
  cases evidence with
  | some x => rw [factor, Function.update_of_ne hlow, Function.update_of_ne hhigh]
  | none =>
    cases last with
    | some m => rw [factor, Function.update_of_ne hlow, Function.update_of_ne hhigh]
    | none => rfl

/-- The forwarding places tell which part of the packets was passed on, and which was not. -/
lemma metricsToS0_forwarding (d : OlsrDefenseFpnt) (addr : Ipv4Address) (mt : NodeBehaviorMetrics)
    (hcount : mt.countRcv > 0) :
    d.metricsToS0 addr mt p3FwdHigh = clamp (mt.countFwd.toNat / mt.countRcv.toNat) 0 1 ∧
      d.metricsToS0 addr mt p4FwdLow =
        1 - clamp (mt.countFwd.toNat / mt.countRcv.toNat) 0 1 := by
  simp only [metricsToS0, if_pos hcount]
  constructor
  · rw [Function.update_of_ne (by decide), Function.update_of_ne (by decide),
      factor_of_ne (by decide) (by decide), factor, Function.update_of_ne (by decide),
      Function.update_self]
  · rw [Function.update_of_ne (by decide), Function.update_of_ne (by decide),
      factor_of_ne (by decide) (by decide), factor, Function.update_self]

/-- A check finds that a selector has forwarded everything. -/
lemma periodicCheck_forwardsAll (henabled : d.enabled = true) (hordered : d.MetricsOrdered)
    (hselector : isOurSelector s v = true)
    (hall : (d.metricsOf v).countFwd = (d.metricsOf v).countRcv)
    (hsome : (d.metricsOf v).countRcv ≠ 0) :
    (Lib.mapFind (d.periodicCheck now s).1.lastSValues v).map (fun S => S p3FwdHigh) = some 1 := by
  obtain ⟨hrcv, hfwd⟩ := beforeEvaluation_metricsOf now s d hselector
  cases hmt : Lib.mapFind (d.beforeEvaluation now s).metrics v with
  | none =>
    -- no counters, no packets
    rw [metricsOf, hmt] at hrcv
    exact absurd hrcv.symm hsome
  | some mt =>
    have hmetrics : (d.beforeEvaluation now s).metricsOf v = mt := by
      rw [metricsOf, hmt]
      rfl
    rw [hmetrics] at hrcv hfwd
    have hevaluation := (periodicCheck_evaluation now s v henabled).trans
      (foldl_evaluate_evaluation v _ (hordered.beforeEvaluation now s) hmt)
    have hlast : Lib.mapFind (d.periodicCheck now s).1.lastSValues v = _ :=
      congrArg Prod.fst hevaluation
    have hcount : mt.countRcv > 0 := by
      rw [hrcv]
      exact UInt32.pos_iff_ne_zero.mpr hsome
    have hequal : mt.countFwd = mt.countRcv := by rw [hfwd, hrcv, hall]
    have hrate : (mt.countRcv.toNat : ℚ) / mt.countRcv.toNat = 1 := by
      refine div_self (Nat.cast_ne_zero.mpr ?_)
      exact (UInt32.lt_iff_toNat_lt.mp hcount).ne'
    rw [hlast, Option.map_some, (metricsToS0_forwarding _ _ _ hcount).1, hequal, hrate]
    norm_num [clamp]

/-- Nothing comes to the pending arrivals in a check. -/
lemma beforeEvaluation_pendingOf (d : OlsrDefenseFpnt) (hpending : d.pendingOf v = []) :
    (d.beforeEvaluation now s).pendingOf v = [] := by
  have hforget : (if d.hasProtocol then d.forgetNonSelectors s else d).pendingOf v = [] := by
    split
    · have hfind := Lib.mapFind_filter_fst (fun addr => !(d.noLongerSelectors s).contains addr)
        d.pendingArrivals v
      show (Lib.mapFind (d.pendingArrivals.filter _) v).getD [] = []
      rw [hfind]
      split
      · exact hpending
      · rfl
    · exact hpending
  have hscan : ∀ d : OlsrDefenseFpnt,
      (d.scanDeviationRuleD1 now s).pendingOf v = d.pendingOf v := fun d =>
    congrArg (fun w => w.account.pendingArrivals)
      ((audit_ignoresControl v).scanDeviationRuleD1 now d s)
  have hexpire : ∀ d : OlsrDefenseFpnt, d.pendingOf v = [] →
      (d.expireStaleArrivals now).pendingOf v = [] := by
    intro d hd
    have hfind := Lib.mapFind_map (fun l : List (UInt64 × Time) =>
      l.filter fun p => !decide (p.2 < now - d.checkInterval * 2)) d.pendingArrivals v
    show (Lib.mapFind (d.pendingArrivals.map _) v).getD [] = []
    rw [hfind]
    rw [pendingOf] at hd
    cases hfound : Lib.mapFind d.pendingArrivals v with
    | none => rfl
    | some l =>
      rw [hfound] at hd
      obtain rfl : l = [] := hd
      rfl
  exact hexpire _ ((hscan _).trans hforget)

lemma periodicCheck_pendingArrivals (henabled : d.enabled = true) :
    (d.periodicCheck now s).1.pendingArrivals = (d.beforeEvaluation now s).pendingArrivals := by
  have htrust : ∀ (x : OlsrDefenseFpnt × Bool) addr,
      (updateTrust x addr).1.pendingArrivals = x.1.pendingArrivals := by
    intro x addr
    simp only [updateTrust]
    split <;> rfl
  have hevaluate : ∀ (d : OlsrDefenseFpnt) kv,
      (evaluate d kv).pendingArrivals = d.pendingArrivals := fun _ _ => rfl
  rw [periodicCheck_of_enabled now s henabled rfl]
  show (List.foldl updateTrust _ _).1.pendingArrivals = _
  rw [Lib.foldl_eq (fun x : OlsrDefenseFpnt × Bool => x.1.pendingArrivals) htrust]
  show (List.foldl evaluate _ _).pendingArrivals = _
  rw [Lib.foldl_eq OlsrDefenseFpnt.pendingArrivals hevaluate]

/-- A check closes the accounts, where no packet is on its way. -/
lemma periodicCheck_audit (henabled : d.enabled = true) (hpending : d.pendingOf v = []) :
    (d.periodicCheck now s).1.audit v = ⟨d.hasProtocol, true, True, 0, 0, []⟩ := by
  have hprotocol : (d.periodicCheck now s).1.hasProtocol = d.hasProtocol := by
    show (d.periodicCheck now s).1.settings.hasProtocol = d.hasProtocol
    rw [periodicCheck_settings]
    rfl
  have hstays : (d.periodicCheck now s).1.enabled = true := by
    show (d.periodicCheck now s).1.settings.enabled = true
    rw [periodicCheck_settings]
    exact henabled
  have hmetrics : (d.periodicCheck now s).1.metrics = [] := by
    rw [periodicCheck_of_enabled now s henabled rfl]
  have hordered : (d.periodicCheck now s).1.MetricsOrdered = True := by
    rw [MetricsOrdered, hmetrics]
    exact eq_true List.Pairwise.nil
  have hnone : (d.periodicCheck now s).1.pendingOf v = [] := by
    rw [pendingOf, periodicCheck_pendingArrivals now s henabled]
    exact beforeEvaluation_pendingOf now s d hpending
  have hclosed : (d.periodicCheck now s).1.metricsOf v = {} := by
    rw [metricsOf, hmetrics]
    rfl
  rw [audit, account, hprotocol, hstays, hordered, hclosed, hnone]

end Check

end OlsrDefenseFpnt

end ManetOlsr
