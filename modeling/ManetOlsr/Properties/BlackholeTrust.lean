/-
The trust in a black hole (`PeriodicCheck` of the FPNT defense).

Trust is smoothed from check to check, so that it stays a degree of truth.  A selector that takes
packets and passes none on is evaluated with no trust and as little uncertainty whatever else is
known of it: one check pulls the trust in it towards a constant, by the factor of the smoothing, and
some checks pull it below the threshold.
-/
import ManetOlsr.Model.FpntAccount
import ManetOlsr.Model.FuzzyNet
import ManetOlsr.Properties.EvaluationMean

namespace ManetOlsr.OlsrDefenseFpnt

open Lib

/-! ### What a black hole is evaluated with -/

/-- The net finds a node that forwards nothing, and finds as much against no node. -/
lemma runFuzzyPetriNet_blackhole {s : Marking} (hs : IsInitial s) (hhigh : s p3FwdHigh = 0)
    (hlow : s p4FwdLow = 1) : runFuzzyPetriNet s = ⟨0, 207, 48⟩ := by
  have hp1 := hs.unit p1LoadHigh
  have hp2 := hs.unit p2LoadLow
  have hp5 := hs.unit p5DelayHigh
  have hp6 := hs.unit p6DelayLow
  have hp7 := hs.unit p7RouteBad
  have hp8 := hs.unit p8RouteOk
  have hscaled : ∀ {w t x y : ℚ}, 0 ≤ w → 0 ≤ x → x ≤ y → w * fireAbove t x ≤ w * y :=
    fun hw hx hxy => mul_le_mul_of_nonneg_left ((fireAbove_le hx).trans hxy) hw
  have hserious : ruleSeriousAttack fireAbove s = 9/10 := by
    have hload : 9/10 * fireAbove (2/5) (s p1LoadHigh) ≤ 9/10 * 1 :=
      hscaled (by norm_num) hp1.1 hp1.2
    have hdelay : 3/5 * fireAbove (1/2) (s p5DelayHigh) ≤ 3/5 * 1 :=
      hscaled (by norm_num) hp5.1 hp5.2
    have hforward : 9/10 * fireAbove (2/5) (s p4FwdLow) = 9/10 := by
      rw [hlow, fireAbove, if_pos (by norm_num), mul_one]
    rw [ruleSeriousAttack, hforward]
    exact le_antisymm (max_le (by linarith) (max_le le_rfl (by linarith)))
      (le_max_of_le_right (le_max_left _ _))
  have hjellyfish : 0 ≤ ruleJellyfish fireAbove s ∧ ruleJellyfish fireAbove s ≤ 4/5 * 1 :=
    ⟨conclude_nonneg s p10Jellyfish, hscaled (by norm_num) (by linarith) (by linarith)⟩
  have hroute : 0 ≤ ruleRouteAttack fireAbove s ∧ ruleRouteAttack fireAbove s ≤ 9/10 * 1 :=
    ⟨conclude_nonneg s p11RouteAttack, hscaled (by norm_num) hp7.1 hp7.2⟩
  have hdistrust : closedForm fireAbove s p14Distrust = 81/100 := by
    have hlight : 7/10 * fireAbove (2/5) (ruleJellyfish fireAbove s) ≤ 7/10 * (4/5) :=
      hscaled (by norm_num) hjellyfish.1 (by linarith [hjellyfish.2])
    have hintegrity : 9/10 * fireAbove (2/5) (ruleRouteAttack fireAbove s) ≤ 9/10 * (9/10) :=
      hscaled (by norm_num) hroute.1 (by linarith [hroute.2])
    have hattack : 9/10 * fireAbove (2/5) (9/10) = 81/100 := by
      rw [fireAbove, if_pos (by norm_num)]
      norm_num
    rw [closedForm_distrust, hserious, hattack]
    exact max_eq_left (max_le (by linarith) (by linarith))
  have htrust : closedForm fireAbove s p15Trust = 0 := by
    -- Without forwarding the data plane does not look normal.
    have hdata : ruleDataOk fireAbove s = 0 := by
      rw [ruleDataOk, hhigh, fireAbove, if_neg (by linarith), mul_zero]
    have hrouteOk : ruleRouteOk fireAbove s ≤ 1 := (fireAbove_le hp8.1).trans hp8.2
    rw [closedForm_trust, hdata, fireAbove, if_neg (by linarith), mul_zero]
  have hverdict : verdict (closedForm fireAbove s) = (0, 81/100, 19/100) := by
    rw [verdict, hdistrust, htrust, if_pos (by norm_num)]
    norm_num
  rw [runFuzzyPetriNet_eq, hs.fpnLoop_eq, hverdict]
  decide +kernel

/-- A single evaluation is its own mean. -/
lemma aggregateEvaluations_singleton (e : EvaluationVector) :
    aggregateEvaluations [e] = (decode e.trust, decode e.uncertain) := by
  have hmean : ∀ f : EvaluationVector → ℚ, weightedMean (alpha [e]) f [e] = f e := by
    intro f
    have hweighting := (isWeighting_alpha (List.cons_ne_nil e [])).2
    rw [← hweighting.weightedMean_const (f e)]
    rfl
  rw [aggregateEvaluations_eq (List.cons_ne_nil e []), hmean, hmean]

/-! ### Degrees of truth -/

/-- What a defense in service knows: its trust values are degrees of truth, and so are the values of
the last evaluations. -/
structure Calibrated (d : OlsrDefenseFpnt) : Prop where
  checked : d.AttributesChecked
  trust : ∀ kv ∈ d.trustTable, 0 ≤ kv.2 ∧ kv.2 ≤ 1
  history : ∀ kv ∈ d.lastSValues, IsInitial kv.2

/-- What the packets and the control messages leave alone. -/
def standing (d : OlsrDefenseFpnt) :
    OlsrDefenseFpnt × List (Ipv4Address × ℚ) × List (Ipv4Address × Marking) :=
  (d.attributes, d.trustTable, d.lastSValues)

lemma standing_ignoresControl : IgnoresControl standing :=
  ⟨fun _ _ => rfl, fun _ _ => rfl, fun _ _ => rfl, fun _ _ => rfl⟩

lemma standing_ignoresCounters : IgnoresCounters standing :=
  ⟨fun _ _ _ => rfl, fun _ _ _ => rfl⟩

section Step

variable {d : OlsrDefenseFpnt} (now : Time) (s : OlsrState)

lemma AttributesChecked.of_attributes {d d' : OlsrDefenseFpnt} (hd : d.AttributesChecked)
    (h : d'.attributes = d.attributes) : d'.AttributesChecked := by
  have hattributes : d.attributes.AttributesChecked :=
    ⟨hd.maliciousThreshold, hd.uncertaintyBeta, hd.fadingFactor, hd.maxLoad, hd.maxDelay⟩
  rw [← h] at hattributes
  exact ⟨hattributes.maliciousThreshold, hattributes.uncertaintyBeta, hattributes.fadingFactor,
    hattributes.maxLoad, hattributes.maxDelay⟩

lemma Calibrated.of_standing {d d' : OlsrDefenseFpnt} (hd : d.Calibrated)
    (h : d'.standing = d.standing) : d'.Calibrated := by
  have hattributes : d'.attributes = d.attributes := congrArg (fun x => x.1) h
  have htrust : d'.trustTable = d.trustTable := congrArg (fun x => x.2.1) h
  have hhistory : d'.lastSValues = d.lastSValues := congrArg (fun x => x.2.2) h
  refine ⟨hd.checked.of_attributes hattributes, ?_, ?_⟩
  · rw [htrust]
    exact hd.trust
  · rw [hhistory]
    exact hd.history

lemma Calibrated.beforeEvaluation (hd : d.Calibrated) :
    (d.beforeEvaluation now s).Calibrated := by
  have hforget : (d.forgetNonSelectors s).Calibrated :=
    ⟨hd.checked.of_attributes rfl, hd.trust, fun kv hkv => hd.history kv (List.mem_filter.mp hkv).1⟩
  rw [OlsrDefenseFpnt.beforeEvaluation]
  have hstart : (if d.hasProtocol then d.forgetNonSelectors s else d).Calibrated := by
    split
    · exact hforget
    · exact hd
  exact hstart.of_standing (standing_ignoresControl.scanDeviationRuleD1 now _ s)

/-- What is evaluated is evidence. -/
lemma Calibrated.metricsToS0 (hd : d.Calibrated) (addr : Ipv4Address) (m : NodeBehaviorMetrics) :
    IsInitial (d.metricsToS0 addr m) :=
  metricsToS0_isInitial (fun _ hm => hd.history _ (mem_of_mapFind hm)) m

lemma Calibrated.evaluate (hd : d.Calibrated) (kv : Ipv4Address × NodeBehaviorMetrics) :
    (evaluate d kv).Calibrated := by
  refine ⟨hd.checked.of_attributes rfl, hd.trust, fun x hx => ?_⟩
  rcases mem_mapSet hx with rfl | hx
  · exact hd.metricsToS0 kv.1 kv.2
  · exact hd.history x hx

/-- What a check makes of the trust that there was. -/
def smoothed (d : OlsrDefenseFpnt) (old : Option ℚ) (tc : ℚ) : ℚ :=
  (old.map fun t => (1 - d.fadingFactor) * tc + d.fadingFactor * t).getD tc

lemma smoothed_mem (hd : d.AttributesChecked) {old : Option ℚ} {tc : ℚ}
    (hold : ∀ t ∈ old, 0 ≤ t ∧ t ≤ 1) (htc : 0 ≤ tc ∧ tc ≤ 1) :
    0 ≤ d.smoothed old tc ∧ d.smoothed old tc ≤ 1 := by
  cases old with
  | none => exact htc
  | some t =>
    obtain ⟨ht, ht'⟩ := hold t rfl
    obtain ⟨hfading, hfading'⟩ := hd.fadingFactor
    show 0 ≤ (1 - d.fadingFactor) * tc + d.fadingFactor * t ∧
      (1 - d.fadingFactor) * tc + d.fadingFactor * t ≤ 1
    have hnew : 0 ≤ (1 - d.fadingFactor) * tc := mul_nonneg (by linarith) htc.1
    have hkept : 0 ≤ d.fadingFactor * t := mul_nonneg hfading ht
    have hnew' : (1 - d.fadingFactor) * tc ≤ 1 - d.fadingFactor :=
      mul_le_of_le_one_right (by linarith) htc.2
    have hkept' : d.fadingFactor * t ≤ d.fadingFactor := mul_le_of_le_one_right hfading ht'
    constructor <;> linarith

/-- `updateTrust` writes one trust value, of a target with evidence. -/
lemma updateTrust_eq (x : OlsrDefenseFpnt × Bool) (addr : Ipv4Address) :
    (updateTrust x addr).1 = if (x.1.evidence addr).isEmpty then x.1 else
      { x.1 with
        trustTable := mapSet Ipv4Address.lt addr
          (x.1.smoothed (mapFind x.1.trustTable addr)
            (clamp ((aggregateEvaluations (x.1.evidence addr)).1 +
              x.1.uncertaintyBeta * (aggregateEvaluations (x.1.evidence addr)).2) 0 1))
          x.1.trustTable } := by
  simp only [updateTrust]
  split
  · rfl
  · simp only [smoothed]
    cases mapFind x.1.trustTable addr <;> rfl

lemma Calibrated.updateTrust {x : OlsrDefenseFpnt × Bool} (hd : x.1.Calibrated)
    (addr : Ipv4Address) : (updateTrust x addr).1.Calibrated := by
  rw [updateTrust_eq]
  split
  · exact hd
  · refine ⟨hd.checked.of_attributes rfl, fun kv hkv => ?_, hd.history⟩
    rcases mem_mapSet hkv with rfl | hkv
    · exact smoothed_mem hd.checked (fun t ht => hd.trust _ (mem_of_mapFind ht)) (clamp_mem _)
    · exact hd.trust kv hkv

lemma Calibrated.periodicCheck (hd : d.Calibrated) : (d.periodicCheck now s).1.Calibrated := by
  by_cases henabled : d.enabled = true
  · obtain ⟨d', hd'⟩ : ∃ d', (d.beforeEvaluation now s).metrics.foldl OlsrDefenseFpnt.evaluate
        (d.beforeEvaluation now s) = d' := ⟨_, rfl⟩
    have hevaluated : d'.Calibrated := by
      rw [← hd']
      exact inv_run (I := Calibrated) (P := fun _ _ => True) (fun _ kv hd _ => hd.evaluate kv)
        (hd.beforeEvaluation now s) fun _ _ => trivial
    have hupdated : (d'.targets.foldl OlsrDefenseFpnt.updateTrust (d', false)).1.Calibrated :=
      inv_run (I := fun x : OlsrDefenseFpnt × Bool => x.1.Calibrated) (P := fun _ _ => True)
        (fun _ addr hx _ => hx.updateTrust addr) hevaluated fun _ _ => trivial
    rw [periodicCheck_of_enabled now s henabled hd']
    generalize d'.targets.foldl OlsrDefenseFpnt.updateTrust (d', false) = x at hupdated ⊢
    exact hupdated.of_standing rfl
  · rw [OlsrDefenseFpnt.periodicCheck, if_pos (by simpa using henabled)]
    exact hd.of_standing rfl

/-- **Step lemma.** -/
lemma Calibrated.call (hd : d.Calibrated) (c : Call) : (d.call c).Calibrated := by
  obtain ⟨now, s, hook⟩ := c
  cases hook with
  | setup nodeAddress => exact hd.of_standing rfl
  | setEnabled enabled =>
    simp only [OlsrDefenseFpnt.call, setEnabled]
    split
    · exact hd
    · exact ⟨hd.checked.of_attributes rfl, fun kv hkv => absurd hkv List.not_mem_nil,
        fun kv hkv => absurd hkv List.not_mem_nil⟩
  | onRecvTc msg tc => exact hd.of_standing (standing_ignoresControl.onRecvTc d now s msg tc)
  | onRecvEvaluationVectors sender advertised vectors =>
    exact hd.of_standing
      (standing_ignoresControl.onRecvEvaluationVectors d sender advertised vectors)
  | onDataPacketForwarded header size nextHop finalDest =>
    exact hd.of_standing
      (standing_ignoresCounters.onDataPacketForwarded d now s header size nextHop finalDest)
  | onNeighborForwardedPacket macToIpv4 tx rx header size =>
    exact hd.of_standing
      (standing_ignoresCounters.onNeighborForwardedPacket d now s macToIpv4 tx rx header size)
  | onMacTxFailure neighbor count =>
    exact hd.of_standing (standing_ignoresCounters.onMacTxFailure d neighbor count)
  | periodicCheck => exact hd.periodicCheck now s

/-- **Run lemma.** -/
lemma Calibrated.runCalls (hd : d.Calibrated) (cs : List Call) : (d.runCalls cs).Calibrated :=
  inv_run (I := Calibrated) (P := fun _ _ => True) (fun _ c hd _ => hd.call c) hd
    fun _ _ => trivial

end Step

/-! ### One check -/

/-- A check comes to a selector that has taken packets and passed none on, and about which others
have said nothing. -/
structure SeesBlackhole (d : OlsrDefenseFpnt) (s : OlsrState) (v : Ipv4Address) : Prop where
  enabled : d.enabled = true
  selector : isOurSelector s v = true
  countRcv : (d.metricsOf v).countRcv > 0
  countFwd : (d.metricsOf v).countFwd = 0
  recommendations : ∀ kv ∈ d.recommendations, kv.1.2 ≠ v

section Check

variable {d : OlsrDefenseFpnt} (now : Time) (s : OlsrState) {v : Ipv4Address}

lemma mem_foldl_setInsert (l : List Ipv4Address) (acc : List Ipv4Address) (a : Ipv4Address) :
    a ∈ l.foldl (fun acc addr => setInsert Ipv4Address.lt addr acc) acc ↔ a ∈ l ∨ a ∈ acc := by
  induction l generalizing acc with
  | nil => simp
  | cons b l ih =>
    rw [List.foldl_cons, ih, Ipv4Address.comparesKeys.mem_setInsert, List.mem_cons]
    tauto

/-- Every target comes once. -/
lemma targets_nodup (d : OlsrDefenseFpnt) : d.targets.Nodup := by
  have hordered : Ordered Ipv4Address.lt d.targets :=
    inv_run (I := Ordered Ipv4Address.lt) (P := fun _ _ => True)
      (fun _ _ hl _ => Ipv4Address.comparesKeys.ordered_setInsert hl) List.Pairwise.nil
      fun _ _ => trivial
  exact Ipv4Address.comparesKeys.nodup hordered

lemma mem_targets {e : EvaluationVector} (he : mapFind d.directEvaluationVectors v = some e) :
    v ∈ d.targets := by
  rw [targets, mem_foldl_setInsert, List.mem_append]
  exact Or.inl (Or.inl (List.mem_map_of_mem (mem_of_mapFind he)))

/-- Step 1 evaluates a black hole as one. -/
lemma SeesBlackhole.evaluation (hd : d.Calibrated) (hordered : d.MetricsOrdered)
    (h : d.SeesBlackhole s v) :
    mapFind ((d.beforeEvaluation now s).metrics.foldl evaluate
      (d.beforeEvaluation now s)).directEvaluationVectors v = some ⟨0, 207, 48⟩ := by
  obtain ⟨hrcv, hfwd⟩ := beforeEvaluation_metricsOf now s d h.selector
  cases hmt : mapFind (d.beforeEvaluation now s).metrics v with
  | none =>
    -- no counters, no packets
    have hcount := h.countRcv
    rw [metricsOf, hmt] at hrcv
    rw [← hrcv] at hcount
    exact absurd hcount (by decide)
  | some mt =>
    have hmetrics : (d.beforeEvaluation now s).metricsOf v = mt := by
      rw [metricsOf, hmt]
      rfl
    rw [hmetrics] at hrcv hfwd
    have hcount : mt.countRcv > 0 := by
      rw [hrcv]
      exact h.countRcv
    have hrate : clamp ((mt.countFwd.toNat : ℚ) / mt.countRcv.toNat) 0 1 = 0 := by
      have hnone : mt.countFwd.toNat = 0 := by
        rw [hfwd, h.countFwd]
        rfl
      rw [hnone, Nat.cast_zero, zero_div]
      rfl
    obtain ⟨hhigh, hlow⟩ := metricsToS0_forwarding (d.beforeEvaluation now s) v mt hcount
    rw [hrate] at hhigh hlow
    rw [sub_zero] at hlow
    have hevaluation := foldl_evaluate_evaluation v _ (hordered.beforeEvaluation now s) hmt
    rw [runFuzzyPetriNet_blackhole ((hd.beforeEvaluation now s).metricsToS0 v mt) hhigh hlow]
      at hevaluation
    exact congrArg Prod.snd hevaluation

/-- The constant that the trust in a black hole tends to. -/
def blackholeTrust (d : OlsrDefenseFpnt) : ℚ := d.uncertaintyBeta * 48 / 255

lemma blackholeTrust_mem (hd : d.AttributesChecked) :
    0 ≤ d.blackholeTrust ∧ d.blackholeTrust ≤ 1 := by
  obtain ⟨hbeta, hbeta'⟩ := hd.uncertaintyBeta
  rw [blackholeTrust]
  constructor <;> linarith

/-- What the trust in a black hole becomes. -/
lemma SeesBlackhole.updateTrust {x : OlsrDefenseFpnt × Bool} (hchecked : x.1.AttributesChecked)
    (hdirect : mapFind x.1.directEvaluationVectors v = some ⟨0, 207, 48⟩)
    (hrecommendations : ∀ kv ∈ x.1.recommendations, kv.1.2 ≠ v) :
    mapFind (updateTrust x v).1.trustTable v =
      some (x.1.smoothed (mapFind x.1.trustTable v) x.1.blackholeTrust) := by
  have hevidence : x.1.evidence v = [⟨0, 207, 48⟩] := by
    have hnone : x.1.recommendations.filter (fun kv => kv.1.2 == v) = [] := by
      rw [List.filter_eq_nil_iff]
      intro kv hkv heq
      exact hrecommendations kv hkv (beq_iff_eq.mp heq)
    rw [evidence, hdirect, hnone]
    rfl
  have htrust : clamp (decode 0 + x.1.uncertaintyBeta * decode 48) 0 1 = x.1.blackholeTrust := by
    have hvalue : decode 0 + x.1.uncertaintyBeta * decode 48 = x.1.blackholeTrust := by
      have hzero : decode 0 = 0 := by decide +kernel
      have hsome : decode 48 = 48 / 255 := by decide +kernel
      rw [hzero, hsome, blackholeTrust]
      ring
    obtain ⟨hlo, hhi⟩ := blackholeTrust_mem hchecked
    rw [hvalue, clamp_of_mem hlo hhi]
  rw [updateTrust_eq, hevidence, if_neg (by simp), aggregateEvaluations_singleton, htrust]
  exact Ipv4Address.comparesKeys.mapFind_mapSet_self v _ _

variable (d) in
/-- What a check leaves alone up to step 3. -/
lemma evaluated_untouched :
    ((d.beforeEvaluation now s).metrics.foldl evaluate (d.beforeEvaluation now s)).attributes =
        d.attributes ∧
      ((d.beforeEvaluation now s).metrics.foldl evaluate
        (d.beforeEvaluation now s)).recommendations = d.recommendations ∧
      ((d.beforeEvaluation now s).metrics.foldl evaluate
        (d.beforeEvaluation now s)).trustTable = d.trustTable := by
  have hmpr : ∀ (d : OlsrDefenseFpnt) (mpr : Ipv4Address),
      (scanMpr now d mpr).recommendations = d.recommendations ∧
        (scanMpr now d mpr).trustTable = d.trustTable := by
    intro d mpr
    rw [scanMpr_eq]
    split_ifs <;> exact ⟨rfl, rfl⟩
  have hscan : ∀ d : OlsrDefenseFpnt,
      (d.scanDeviationRuleD1 now s).recommendations = d.recommendations ∧
        (d.scanDeviationRuleD1 now s).trustTable = d.trustTable := by
    intro d
    rw [scanDeviationRuleD1]
    split
    · exact ⟨rfl, rfl⟩
    · exact ⟨foldl_eq recommendations (fun d mpr => (hmpr d mpr).1) _ _,
        foldl_eq trustTable (fun d mpr => (hmpr d mpr).2) _ _⟩
  have hforget : (if d.hasProtocol then d.forgetNonSelectors s else d).recommendations =
      d.recommendations ∧
      (if d.hasProtocol then d.forgetNonSelectors s else d).trustTable = d.trustTable := by
    split <;> exact ⟨rfl, rfl⟩
  refine ⟨?_, ?_, ?_⟩
  · rw [foldl_eq (f := evaluate) attributes fun _ _ => rfl]
    exact attributes_of_settings (beforeEvaluation_settings d now s)
  · rw [foldl_eq (f := evaluate) recommendations fun _ _ => rfl]
    exact (hscan _).1.trans hforget.1
  · rw [foldl_eq (f := evaluate) trustTable fun _ _ => rfl]
    exact (hscan _).2.trans hforget.2

/-- A check that sees a black hole smooths the trust in it. -/
lemma SeesBlackhole.periodicCheck (hd : d.Calibrated) (hordered : d.MetricsOrdered)
    (h : d.SeesBlackhole s v) : mapFind (d.periodicCheck now s).1.trustTable v =
      some (d.smoothed (mapFind d.trustTable v) d.blackholeTrust) := by
  have hdirect := h.evaluation now s hd hordered
  obtain ⟨hattributes, hrecommendations, htrust⟩ := evaluated_untouched d now s
  set d₂ := (d.beforeEvaluation now s).metrics.foldl evaluate (d.beforeEvaluation now s)
  have hsmoothed : ∀ {d' : OlsrDefenseFpnt} (old : Option ℚ), d'.attributes = d.attributes →
      d'.smoothed old d'.blackholeTrust = d.smoothed old d.blackholeTrust := fun old h' =>
    eq_of_attributes (fun d => d.smoothed old d.blackholeTrust) (fun _ => rfl) h'
  have hloop := (foldl_once (f := OlsrDefenseFpnt.updateTrust) (k := v)
    (r := fun x : OlsrDefenseFpnt × Bool => mapFind x.1.trustTable v)
    (I := fun x => x.1.attributes = d.attributes ∧
      x.1.directEvaluationVectors = d₂.directEvaluationVectors ∧
      x.1.recommendations = d.recommendations)
    (g := fun old => some (d.smoothed old d.blackholeTrust)) ?_ ?_ ?_ (targets_nodup d₂)
    (s := (d₂, false)) ⟨hattributes, rfl, hrecommendations⟩).1 (mem_targets hdirect)
  · rw [periodicCheck_of_enabled now s h.enabled rfl, ← htrust]
    exact hloop
  · intro x addr hx
    rw [updateTrust_eq]
    split
    · exact hx
    · exact hx
  · intro x addr _ hne
    simp only [updateTrust_eq]
    split
    · rfl
    · exact Ipv4Address.comparesKeys.mapFind_mapSet_of_ne (Ne.symm hne) _ _
  · intro x hx
    obtain ⟨hx₁, hx₂, hx₃⟩ := hx
    rw [← hsmoothed _ hx₁]
    refine SeesBlackhole.updateTrust (hd.checked.of_attributes hx₁) ?_ ?_
    · rw [hx₂]
      exact hdirect
    · rw [hx₃]
      exact h.recommendations

end Check

/-! ### Some checks -/

def isCheck (c : Call) : Bool :=
  match c.hook with
  | .periodicCheck => true
  | _ => false

/-- The number of checks among the calls. -/
def checks (cs : List Call) : ℕ := cs.countP isCheck

section Run

variable {d : OlsrDefenseFpnt} {v : Ipv4Address}

lemma isCheck_iff (c : Call) : isCheck c = true ↔ c.hook = .periodicCheck := by
  obtain ⟨now, s, hook⟩ := c
  cases hook <;> simp [isCheck]

/-- Between the checks the trust is kept, or forgotten. -/
lemma call_trustTable {c : Call} (hc : c.hook ≠ .periodicCheck) :
    (d.call c).trustTable = d.trustTable ∨ (d.call c).trustTable = [] := by
  have htrust : ∀ {d' : OlsrDefenseFpnt}, d'.standing = d.standing →
      d'.trustTable = d.trustTable := fun h => congrArg (fun x => x.2.1) h
  obtain ⟨now, s, hook⟩ := c
  cases hook with
  | setup nodeAddress => exact Or.inl rfl
  | setEnabled enabled =>
    simp only [call, setEnabled]
    split
    · exact Or.inl rfl
    · exact Or.inr rfl
  | onRecvTc msg tc => exact Or.inl (htrust (standing_ignoresControl.onRecvTc d now s msg tc))
  | onRecvEvaluationVectors sender advertised vectors =>
    exact Or.inl
      (htrust (standing_ignoresControl.onRecvEvaluationVectors d sender advertised vectors))
  | onDataPacketForwarded header size nextHop finalDest =>
    exact Or.inl (htrust
      (standing_ignoresCounters.onDataPacketForwarded d now s header size nextHop finalDest))
  | onNeighborForwardedPacket macToIpv4 tx rx header size =>
    exact Or.inl (htrust
      (standing_ignoresCounters.onNeighborForwardedPacket d now s macToIpv4 tx rx header size))
  | onMacTxFailure neighbor count =>
    exact Or.inl (htrust (standing_ignoresCounters.onMacTxFailure d neighbor count))
  | periodicCheck => exact absurd rfl hc

/-- The smoothing leaves a part of the gap. -/
lemma smoothed_le (hd : d.AttributesChecked) {old : Option ℚ} {c gap : ℚ} (hgap : 0 ≤ gap)
    (hold : ∀ t, old = some t → t ≤ c + gap) : d.smoothed old c ≤ c + d.fadingFactor * gap := by
  cases old with
  | none =>
    have hpart : 0 ≤ d.fadingFactor * gap := mul_nonneg hd.fadingFactor.1 hgap
    show c ≤ c + d.fadingFactor * gap
    linarith
  | some t =>
    have hpart := mul_le_mul_of_nonneg_left (hold t rfl) hd.fadingFactor.1
    show (1 - d.fadingFactor) * c + d.fadingFactor * t ≤ c + d.fadingFactor * gap
    linarith

/-- **Run lemma.**  Every check that sees the black hole leaves a part of the gap. -/
lemma runCalls_blackhole (hd : d.Calibrated) (hordered : d.MetricsOrdered) {later : List Call}
    (hsees : ∀ x ∈ trace call d later, x.2.hook = .periodicCheck →
      x.1.SeesBlackhole x.2.state v) {gap : ℚ} (hgap : 0 ≤ gap)
    (hold : ∀ T, mapFind d.trustTable v = some T → T ≤ d.blackholeTrust + gap) (T : ℚ)
    (hT : mapFind (d.runCalls later).trustTable v = some T) :
    T ≤ d.blackholeTrust + d.fadingFactor ^ checks later * gap := by
  induction later generalizing d gap with
  | nil =>
    rw [checks, List.countP_nil, pow_zero, one_mul]
    exact hold T hT
  | cons c later ih =>
    have hattributes := call_attributes d c
    have htrust : (d.call c).blackholeTrust = d.blackholeTrust :=
      eq_of_attributes blackholeTrust (fun _ => rfl) hattributes
    have hfading : (d.call c).fadingFactor = d.fadingFactor :=
      eq_of_attributes fadingFactor (fun _ => rfl) hattributes
    have hrest : ∀ x ∈ trace call (d.call c) later, x.2.hook = .periodicCheck →
        x.1.SeesBlackhole x.2.state v := fun x hx => hsees x (List.mem_cons_of_mem _ hx)
    by_cases hc : c.hook = .periodicCheck
    · have hsmoothed : mapFind (d.call c).trustTable v =
          some (d.smoothed (mapFind d.trustTable v) d.blackholeTrust) := by
        have hcheck := (hsees (d, c) List.mem_cons_self hc).periodicCheck c.now c.state hd hordered
        rw [call, hc]
        exact hcheck
      have hleft := ih (hd.call c) (hordered.call c) hrest
        (mul_nonneg hd.checked.fadingFactor.1 hgap) (by
          intro T' hT'
          rw [hsmoothed] at hT'
          rw [htrust, ← Option.some.inj hT']
          exact smoothed_le hd.checked hgap hold) hT
      rw [htrust, hfading] at hleft
      rwa [checks, List.countP_cons_of_pos ((isCheck_iff c).mpr hc), pow_succ, mul_assoc]
    · have hkept : ∀ T', mapFind (d.call c).trustTable v = some T' →
          T' ≤ (d.call c).blackholeTrust + gap := by
        intro T' hT'
        rw [htrust]
        rcases call_trustTable hc with hsame | hnone
        · rw [hsame] at hT'
          exact hold T' hT'
        · rw [hnone] at hT'
          cases hT'
      have hleft := ih (hd.call c) (hordered.call c) hrest hgap hkept hT
      rw [htrust, hfading] at hleft
      rwa [checks, List.countP_cons_of_neg (mt (isCheck_iff c).mp hc)]

/-- The state in which the last call is made. -/
lemma mem_trace_last (later : List Call) (last : Call) :
    (d.runCalls later, last) ∈ trace call d (later ++ [last]) := by
  induction later generalizing d with
  | nil => exact List.mem_cons_self
  | cons c later ih => exact List.mem_cons_of_mem _ ih

/-- **Black holes are found.**  Trust values are degrees of truth in every run.  For a selector that
takes packets and passes none on, the trust is pulled towards `blackholeTrust` by the factor of the
smoothing from check to check, and with the default attributes it is found after seven checks. -/
theorem blackhole_trust (d : OlsrDefenseFpnt) (hnew : d.resetAccumulatedState = d)
    (hchecked : d.AttributesChecked) (cs : List Call) :
    (∀ kv ∈ (d.runCalls cs).trustTable, 0 ≤ kv.2 ∧ kv.2 ≤ 1) ∧
    ∀ (v : Ipv4Address) (later : List Call) (last : Call), last.hook = .periodicCheck →
      (∀ x ∈ trace call (d.runCalls cs) (later ++ [last]), x.2.hook = .periodicCheck →
        x.1.SeesBlackhole x.2.state v) →
      ∃ T, mapFind (d.runCalls (cs ++ (later ++ [last]))).trustTable v = some T ∧
        (∀ T₀, mapFind (d.runCalls cs).trustTable v = some T₀ → d.blackholeTrust ≤ T₀ →
          T ≤ d.blackholeTrust +
            d.fadingFactor ^ checks (later ++ [last]) * (T₀ - d.blackholeTrust)) ∧
        ((∀ T₀, mapFind (d.runCalls cs).trustTable v = some T₀ → T₀ < d.blackholeTrust) →
          T ≤ d.blackholeTrust) ∧
        (d.uncertaintyBeta = 3 / 5 → d.fadingFactor = 7 / 10 → d.maliciousThreshold = 1 / 5 →
          7 ≤ checks (later ++ [last]) →
          (d.runCalls (cs ++ (later ++ [last]))).isMalicious v = true) := by
  have hstart : d.Calibrated := by
    refine ⟨hchecked, ?_, ?_⟩
    · rw [← hnew]
      exact fun kv hkv => absurd hkv List.not_mem_nil
    · rw [← hnew]
      exact fun kv hkv => absurd hkv List.not_mem_nil
  have hordered : d.MetricsOrdered := by
    rw [← hnew]
    exact List.Pairwise.nil
  have hd := hstart.runCalls cs
  refine ⟨hd.trust, fun v later last hlast hsees => ?_⟩
  have hattributes := runCalls_attributes d cs
  have hconstant : (d.runCalls cs).blackholeTrust = d.blackholeTrust :=
    eq_of_attributes blackholeTrust (fun _ => rfl) hattributes
  have hfading : (d.runCalls cs).fadingFactor = d.fadingFactor :=
    eq_of_attributes fadingFactor (fun _ => rfl) hattributes
  have hsplit : d.runCalls (cs ++ (later ++ [last])) =
      (d.runCalls cs).runCalls (later ++ [last]) := run_append _ _ _ _
  have hend : (d.runCalls cs).runCalls (later ++ [last]) =
      ((d.runCalls cs).runCalls later).call last := run_append _ _ _ _
  have hseen := hsees _ (mem_trace_last later last) hlast
  rw [hsplit]
  -- The last check leaves a trust value.
  obtain ⟨T, hT⟩ : ∃ T, mapFind ((d.runCalls cs).runCalls (later ++ [last])).trustTable v =
      some T := by
    have hcheck := hseen.periodicCheck last.now last.state (hd.runCalls later)
      ((hordered.runCalls cs).runCalls later)
    rw [hend, call, hlast]
    exact ⟨_, hcheck⟩
  have hbound : ∀ {gap : ℚ}, 0 ≤ gap → (∀ T₀, mapFind (d.runCalls cs).trustTable v = some T₀ →
      T₀ ≤ d.blackholeTrust + gap) →
      T ≤ d.blackholeTrust + d.fadingFactor ^ checks (later ++ [last]) * gap := by
    intro gap hgap hold
    rw [← hconstant] at hold
    have hle := runCalls_blackhole hd (hordered.runCalls cs) hsees hgap hold T hT
    rwa [hconstant, hfading] at hle
  refine ⟨T, hT, fun T₀ hT₀ hle => ?_, fun hlow => ?_, fun hbeta hlambda hthreshold hmany => ?_⟩
  · refine hbound (sub_nonneg.mpr hle) fun T₁ hT₁ => ?_
    rw [hT₀] at hT₁
    rw [← Option.some.inj hT₁]
    linarith
  · have hle := hbound le_rfl fun T₀ hT₀ => by linarith [hlow T₀ hT₀]
    rwa [mul_zero, add_zero] at hle
  · -- Whatever the trust was, it was at most one.
    have hvalue : d.blackholeTrust = 48 / 425 := by
      rw [blackholeTrust, hbeta]
      norm_num
    have hgap : 0 ≤ 1 - d.blackholeTrust := by
      rw [hvalue]
      norm_num
    have hle := hbound hgap fun T₀ hT₀ => by linarith [(hd.trust _ (mem_of_mapFind hT₀)).2]
    have hpower : d.fadingFactor ^ checks (later ++ [last]) ≤ (7 / 10) ^ 7 := by
      rw [hlambda]
      exact pow_le_pow_of_le_one (by norm_num) (by norm_num) hmany
    rw [hvalue] at hle
    have hsmall : T < 1 / 5 := by
      have hpart : d.fadingFactor ^ checks (later ++ [last]) * (1 - 48 / 425) ≤
          (7 / 10) ^ 7 * (1 - 48 / 425) := mul_le_mul_of_nonneg_right hpower (by norm_num)
      have hseven : (7 / 10 : ℚ) ^ 7 * (1 - 48 / 425) < 1 / 5 - 48 / 425 := by norm_num
      linarith
    have henabled : ((d.runCalls cs).runCalls (later ++ [last])).enabled = true := by
      have hsettings := periodicCheck_settings ((d.runCalls cs).runCalls later) last.now last.state
      rw [hend, call, hlast]
      show (OlsrDefenseFpnt.periodicCheck _ last.now last.state).1.settings.enabled = true
      rw [hsettings]
      exact hseen.enabled
    have hchecks : ((d.runCalls cs).runCalls (later ++ [last])).maliciousThreshold = 1 / 5 := by
      rw [← hthreshold, ← hsplit]
      exact eq_of_attributes maliciousThreshold (fun _ => rfl) (runCalls_attributes d _)
    rw [isMalicious, henabled, hT, hchecks]
    exact decide_eq_true hsmall

end Run

/-! ### A selector that drops everything -/

/-- The node 7 has chosen this node as an MPR. -/
def droppingState : OlsrState := { mprSelectorSet := [{ mainAddr := 7, expirationTime := Seconds 99 }] }

/-- A packet for the node 9 goes to the node 7, and a check follows. -/
def droppedPacket (i : ℕ) : Call where
  now := Seconds (5 * i)
  state := droppingState
  hook := .onDataPacketForwarded ⟨3, 9, UInt16.ofNat i, 100⟩ 120 7 9

def droppingCheck (i : ℕ) : Call where
  now := Seconds (5 * i + 5)
  state := droppingState
  hook := .periodicCheck

def droppingCalls : List Call :=
  ((List.range 6).flatMap fun i => [droppedPacket i, droppingCheck i]) ++ [droppedPacket 6]

/-- Seven checks find the node. -/
theorem dropping_blackhole_trust :
    (({} : OlsrDefenseFpnt).runCalls
      ([{ now := 0, hook := .setup 1 }] ++ (droppingCalls ++ [droppingCheck 6]))).isMalicious 7 =
      true := by
  have hsees : ∀ x ∈ trace call (({} : OlsrDefenseFpnt).runCalls [{ now := 0, hook := .setup 1 }])
      (droppingCalls ++ [droppingCheck 6]), isCheck x.2 = true →
      x.1.enabled = true ∧ isOurSelector x.2.state 7 = true ∧ (x.1.metricsOf 7).countRcv > 0 ∧
        (x.1.metricsOf 7).countFwd = 0 ∧ ∀ kv ∈ x.1.recommendations, kv.1.2 ≠ 7 := by
    decide +kernel
  obtain ⟨T, -, -, -, hfound⟩ := (blackhole_trust {} rfl attributesChecked_default
    [{ now := 0, hook := .setup 1 }]).2 7 droppingCalls (droppingCheck 6) rfl (by
      intro x hx hcheck
      obtain ⟨h₁, h₂, h₃, h₄, h₅⟩ := hsees x hx ((isCheck_iff x.2).mpr hcheck)
      exact ⟨h₁, h₂, h₃, h₄, h₅⟩)
  have hbeta : ({} : OlsrDefenseFpnt).uncertaintyBeta = 3 / 5 := rfl
  have hlambda : ({} : OlsrDefenseFpnt).fadingFactor = 7 / 10 := rfl
  have hthreshold : ({} : OlsrDefenseFpnt).maliciousThreshold = 1 / 5 := rfl
  exact hfound hbeta hlambda hthreshold (by decide)

end ManetOlsr.OlsrDefenseFpnt
