/-
When the deviation place is set.

The net has a place for nodes that do not keep to the protocol.  Two kinds of deviations of the MPRs
are counted: TC messages that omit this node, and silence.  The first are counted as they come, but a
check keeps the counters of its MPR selectors only, so that they are lost for an MPR that is no
selector; the second is counted once in a check, and is too little for a threshold of one or more.
-/
import ManetOlsr.Model.FpntCalls

namespace ManetOlsr.OlsrDefenseFpnt

variable {d : OlsrDefenseFpnt} (now : Time) (s : OlsrState) (m : Ipv4Address)

/-- A check computes a new evaluation of a node, with its deviation place set. -/
def DeviationFound (d : OlsrDefenseFpnt) (now : Time) (s : OlsrState) (m : Ipv4Address) : Prop :=
  ∃ mt, Lib.mapFind (d.beforeEvaluation now s).metrics m = some mt ∧
    (d.beforeEvaluation now s).metricsToS0 m mt p7RouteBad = 1 ∧
    Lib.mapFind (d.periodicCheck now s).1.lastSValues m =
      some ((d.beforeEvaluation now s).metricsToS0 m mt) ∧
    Lib.mapFind (d.periodicCheck now s).1.directEvaluationVectors m =
      some (runFuzzyPetriNet ((d.beforeEvaluation now s).metricsToS0 m mt))

/-- **One check.** -/
lemma deviationFound_iff (hordered : d.MetricsOrdered) (henabled : d.enabled = true) :
    d.DeviationFound now s m ↔ d.cheatThreshold < (d.beforeEvaluation now s).deviations m := by
  have hthreshold : (d.beforeEvaluation now s).cheatThreshold = d.cheatThreshold :=
    eq_of_attributes cheatThreshold (fun _ => rfl)
      (attributes_of_settings (beforeEvaluation_settings d now s))
  constructor
  · rintro ⟨mt, hmt, hbad, -, -⟩
    rw [metricsToS0_p7RouteBad, hthreshold] at hbad
    rw [deviations, metricsOf, hmt]
    show d.cheatThreshold < mt.countRCheat
    by_contra hnot
    rw [if_neg hnot] at hbad
    exact absurd hbad (by norm_num)
  · intro hlt
    cases hmt : Lib.mapFind (d.beforeEvaluation now s).metrics m with
    | none =>
      -- a node without counters has no deviations
      rw [deviations, metricsOf, hmt, UInt32.lt_iff_toNat_lt] at hlt
      exact absurd hlt (Nat.not_lt_zero _)
    | some mt =>
      rw [deviations, metricsOf, hmt] at hlt
      have hevaluation := (periodicCheck_evaluation now s m henabled).trans
        (foldl_evaluate_evaluation m _ (hordered.beforeEvaluation now s) hmt)
      refine ⟨mt, hmt, ?_, congrArg Prod.fst hevaluation, congrArg Prod.snd hevaluation⟩
      rw [metricsToS0_p7RouteBad, hthreshold]
      exact if_pos hlt

/-! ### Runs -/

/-- The counter of a check, after any calls. -/
lemma runCalls_beforeEvaluation (hnew : d.metrics = []) (cs : List Call)
    (hprotocol : (d.runCalls cs).hasProtocol = true) :
    ((d.runCalls cs).beforeEvaluation now s).deviations m =
      (if isOurSelector s m then UInt32.ofNat (d.omissions m cs) else 0) +
        if (d.runCalls cs).silent now s m then 1 else 0 := by
  have hzero : d.deviations m = 0 := by
    rw [deviations, metricsOf, hnew]
    rfl
  rw [beforeEvaluation_deviations, hprotocol, runCalls_deviations m hzero]
  cases isOurSelector s m <;> rfl

lemma runCalls_cheatThreshold (d : OlsrDefenseFpnt) (cs : List Call) :
    (d.runCalls cs).cheatThreshold = d.cheatThreshold :=
  eq_of_attributes cheatThreshold (fun _ => rfl) (runCalls_attributes d cs)

/-- What a check finds is a matter of the selectors, of what was counted, and of silence. -/
lemma deviationFound_runCalls_iff (hnew : d.metrics = []) (cs : List Call)
    (henabled : (d.runCalls cs).enabled = true) (hprotocol : (d.runCalls cs).hasProtocol = true)
    (hfits : d.omissions m cs + 1 < 2 ^ 32) :
    (d.runCalls cs).DeviationFound now s m ↔ d.cheatThreshold.toNat <
      (if isOurSelector s m then d.omissions m cs else 0) +
        if (d.runCalls cs).silent now s m then 1 else 0 := by
  have hordered : d.MetricsOrdered := by
    rw [MetricsOrdered, hnew]
    exact List.Pairwise.nil
  rw [deviationFound_iff now s m (hordered.runCalls cs) henabled, runCalls_cheatThreshold,
    runCalls_beforeEvaluation now s m hnew cs hprotocol, UInt32.lt_iff_toNat_lt]
  have hsum : ((if isOurSelector s m then UInt32.ofNat (d.omissions m cs) else 0) +
      if (d.runCalls cs).silent now s m then 1 else 0 : UInt32).toNat =
      (if isOurSelector s m then d.omissions m cs else 0) +
        if (d.runCalls cs).silent now s m then 1 else 0 := by
    rw [UInt32.toNat_add]
    cases isOurSelector s m <;> cases (d.runCalls cs).silent now s m <;> simp <;> omega
  rw [hsum]

lemma hasProtocol_of_silent {d : OlsrDefenseFpnt} (hsilent : d.silent now s m = true) :
    d.hasProtocol = true := by
  rw [silent, Bool.and_eq_true, Bool.and_eq_true] at hsilent
  exact hsilent.1.1

/-- A silent MPR. -/
lemma deviationFound_of_silent (hnew : d.metrics = []) (cs : List Call)
    (henabled : (d.runCalls cs).enabled = true) (hfits : d.omissions m cs + 1 < 2 ^ 32)
    (hsilent : (d.runCalls cs).silent now s m = true) :
    (d.runCalls cs).DeviationFound now s m ↔ d.cheatThreshold = 0 ∨
      isOurSelector s m = true ∧ d.cheatThreshold.toNat ≤ d.omissions m cs := by
  have hprotocol := hasProtocol_of_silent now s m hsilent
  rw [deviationFound_runCalls_iff now s m hnew cs henabled hprotocol hfits, hsilent, if_pos rfl,
    ← UInt32.toNat_inj]
  have hzero : (0 : UInt32).toNat = 0 := rfl
  rw [hzero]
  cases isOurSelector s m with
  | false => simp
  | true =>
    simp only [if_true, true_and]
    omega

/-- **The deviation rule.**  Take any calls to a new defense, and a check after them that finds it
enabled.  The deviation of an MPR is found if and only if the TC messages that omitted this node in
the period, which count if the MPR is one of the selectors, and its silence, which counts once, are
more than the threshold.  Where the TC messages alone are more, that is so if and only if the MPR is
one of the selectors, or the threshold is zero and the MPR has been silent since.  Where the MPR is
silent, it is so if and only if the threshold is zero, or the MPR is one of the selectors and as many
TC messages as the threshold omitted this node in the period; and whether it is so at some check among
any later calls is up to the same. -/
theorem deviation_rule (hnew : d.metrics = []) (cs : List Call) (m : Ipv4Address) :
    (∀ now s, (d.runCalls cs).enabled = true → (d.runCalls cs).hasProtocol = true →
      d.omissions m cs + 1 < 2 ^ 32 →
      ((d.runCalls cs).DeviationFound now s m ↔ d.cheatThreshold.toNat <
        (if isOurSelector s m then d.omissions m cs else 0) +
          if (d.runCalls cs).silent now s m then 1 else 0) ∧
      (d.cheatThreshold.toNat < d.omissions m cs →
        ((d.runCalls cs).DeviationFound now s m ↔ isOurSelector s m = true ∨
          d.cheatThreshold = 0 ∧ (d.runCalls cs).silent now s m = true)) ∧
      ((d.runCalls cs).silent now s m = true →
        ((d.runCalls cs).DeviationFound now s m ↔ d.cheatThreshold = 0 ∨
          isOurSelector s m = true ∧ d.cheatThreshold.toNat ≤ d.omissions m cs))) ∧
    ∀ later : List Call, (∃ c ∈ later, c.hook = .periodicCheck) →
      (∀ pre c post, later = pre ++ c :: post → c.hook = .periodicCheck →
        (d.runCalls (cs ++ pre)).enabled = true ∧
        (d.runCalls (cs ++ pre)).silent c.now c.state m = true ∧
        d.omissions m (cs ++ pre) + 1 < 2 ^ 32) →
      ((∃ pre c post, later = pre ++ c :: post ∧ c.hook = .periodicCheck ∧
          (d.runCalls (cs ++ pre)).DeviationFound c.now c.state m) ↔
        d.cheatThreshold = 0 ∨ ∃ pre c post, later = pre ++ c :: post ∧ c.hook = .periodicCheck ∧
          isOurSelector c.state m = true ∧
          d.cheatThreshold.toNat ≤ d.omissions m (cs ++ pre)) := by
  refine ⟨fun now s henabled hprotocol hfits =>
    ⟨deviationFound_runCalls_iff now s m hnew cs henabled hprotocol hfits, fun hmany => ?_,
      fun hsilent => ?_⟩, fun later hlater hchecks => ?_⟩
  · rw [deviationFound_runCalls_iff now s m hnew cs henabled hprotocol hfits, ← UInt32.toNat_inj]
    have hzero : (0 : UInt32).toNat = 0 := rfl
    rw [hzero]
    cases isOurSelector s m with
    | false => cases (d.runCalls cs).silent now s m <;> simp
    | true =>
      simp only [if_true, true_or, iff_true]
      omega
  · exact deviationFound_of_silent now s m hnew cs henabled hfits hsilent
  · -- Each of the later checks finds the deviation under the same condition.
    have heach : ∀ pre c post, later = pre ++ c :: post → c.hook = .periodicCheck →
        ((d.runCalls (cs ++ pre)).DeviationFound c.now c.state m ↔ d.cheatThreshold = 0 ∨
          isOurSelector c.state m = true ∧ d.cheatThreshold.toNat ≤ d.omissions m (cs ++ pre)) := by
      intro pre c post hsplit hhook
      obtain ⟨henabled, hsilent, hfits⟩ := hchecks pre c post hsplit hhook
      exact deviationFound_of_silent c.now c.state m hnew (cs ++ pre) henabled hfits hsilent
    constructor
    · rintro ⟨pre, c, post, hsplit, hhook, hfound⟩
      rcases (heach pre c post hsplit hhook).mp hfound with hzero | hcounted
      · exact Or.inl hzero
      · exact Or.inr ⟨pre, c, post, hsplit, hhook, hcounted⟩
    · rintro (hzero | ⟨pre, c, post, hsplit, hhook, hcounted⟩)
      · obtain ⟨c, hc, hhook⟩ := hlater
        obtain ⟨pre, post, hsplit⟩ := List.append_of_mem hc
        exact ⟨pre, c, post, hsplit, hhook, (heach pre c post hsplit hhook).mpr (Or.inl hzero)⟩
      · exact ⟨pre, c, post, hsplit, hhook, (heach pre c post hsplit hhook).mpr (Or.inr hcounted)⟩

/-! ### An MPR that is no selector -/

/-- The node 4 is an MPR, and no MPR selector. -/
def oneWayState : OlsrState := { mprSet := {4} }

/-- A TC message of the node 4 that advertises nobody. -/
def omittingTc (now : Time) (seqNum : UInt16) : Call where
  now := now
  state := oneWayState
  hook := .onRecvTc ⟨0, 4, 255, 0, seqNum, .tc ⟨[], 1⟩⟩ ⟨[], 1⟩

def oneWayCheck (now : Time) : Call := { now := now, state := oneWayState, hook := .periodicCheck }

/-- The first message makes the node known as an MPR, and the others come past its grace window. -/
def omittingCalls : List Call :=
  [{ now := 0, hook := .setup 1 }, omittingTc 0 1, omittingTc (Seconds 16) 2,
    omittingTc (Seconds 17) 3, omittingTc (Seconds 18) 4]

/-- Three messages that omit this node in a period are more than the threshold, and are not found; and
silence is not found by any of three checks. -/
theorem omittingCalls_not_deviation_rule :
    ((2 < ({} : OlsrDefenseFpnt).omissions 4 omittingCalls) ∧
      ¬ (({} : OlsrDefenseFpnt).runCalls omittingCalls).DeviationFound (Seconds 20) oneWayState 4) ∧
    ∀ pre ∈ [[], [oneWayCheck (Seconds 20)], [oneWayCheck (Seconds 20), oneWayCheck (Seconds 25)]],
      (({} : OlsrDefenseFpnt).runCalls (omittingCalls.take 2 ++ pre)).silent
        (Seconds (20 + 5 * pre.length)) oneWayState 4 = true ∧
      ¬ (({} : OlsrDefenseFpnt).runCalls (omittingCalls.take 2 ++ pre)).DeviationFound
        (Seconds (20 + 5 * pre.length)) oneWayState 4 := by
  constructor
  · refine ⟨by decide +kernel, ?_⟩
    rw [deviationFound_runCalls_iff _ _ _ rfl _ (by decide +kernel) (by decide +kernel)
      (by decide +kernel)]
    decide +kernel
  · intro pre hpre
    simp only [List.mem_cons, List.not_mem_nil, or_false] at hpre
    rcases hpre with rfl | rfl | rfl
    all_goals
      refine ⟨by decide +kernel, ?_⟩
      rw [deviationFound_runCalls_iff _ _ _ rfl _ (by decide +kernel) (by decide +kernel)
        (by decide +kernel)]
      decide +kernel

/-- The same messages of an MPR that is a selector as well. -/
theorem omittingCalls_deviation_rule :
    (({} : OlsrDefenseFpnt).runCalls omittingCalls).DeviationFound (Seconds 20)
      { oneWayState with mprSelectorSet := [⟨4, Seconds 40⟩] } 4 :=
  (((deviation_rule (d := {}) rfl omittingCalls 4).1 (Seconds 20) _ (by decide +kernel)
    (by decide +kernel) (by decide +kernel)).2.1 (by decide +kernel)).mpr
    (Or.inl (by decide +kernel))

end ManetOlsr.OlsrDefenseFpnt
