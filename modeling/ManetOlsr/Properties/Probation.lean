/-
What the watchdog asks for before it accuses a neighbor.

A neighbor comes into the blacklist when its probation is over and has brought new evidence.  The
evidence that counts as new is half the threshold, rounded down, so that there need be none with a
threshold below two; and it is what the counter shows beyond its value at the start, so that the
counter must not overflow in the meantime.  With neither of these, the difference is taken without
a wrap, and every accusation rests on evidence from its own probation.
-/
import ManetOlsr.Model.WatchdogVerdicts
import ManetOlsr.Properties.WatchdogLedger

namespace ManetOlsr.OlsrWatchdogDefense

variable {d : OlsrWatchdogDefense} {n : Ipv4Address}

/-- A check leaves the evidence of the neighbors on probation within its 32 bits. -/
def EvidenceFits (d : OlsrWatchdogDefense) (c : Call) : Prop :=
  d.Checks c → ∀ n, (d.statsOf n).onProbation = true → d.blacklist.contains n = false →
    (d.statsOf n).notForwardedEvidence.toNat + d.unitsOf c n < 2 ^ 32

/-- The evidence at which a probation started is still there. -/
def KeepsStart (v : Verdict) : Prop :=
  v.onProbation = true → v.blacklisted = false → v.evidenceAtProbationStart ≤ v.evidence

lemma KeepsStart.record {v : Verdict} (h : KeepsStart v) {units : ℕ}
    (hfits : v.onProbation = true → v.blacklisted = false →
      v.evidence.toNat + units < 2 ^ 32) : KeepsStart (v.record units) := by
  intro hprobation hlisted
  have hstart := UInt32.le_iff_toNat_le.mp (h hprobation hlisted)
  have hsum := hfits hprobation hlisted
  show v.evidenceAtProbationStart ≤ v.evidence + UInt32.ofNat units
  rw [UInt32.le_iff_toNat_le, UInt32.toNat_add, UInt32.toNat_ofNat']
  omega

lemma KeepsStart.decide {v : Verdict} (h : KeepsStart v) (d : OlsrWatchdogDefense) (now : Time)
    (accused : Bool) : KeepsStart (v.decide d now accused) := by
  rcases v.decide_cases d now accused with
    hsame | ⟨-, -, -, hstart⟩ | ⟨-, -, -, hclear⟩ | ⟨-, -, -, -, -, hcommit⟩
  · rwa [hsame]
  · rw [hstart]
    intro _ _
    exact UInt32.le_refl _
  · rw [hclear]
    intro hprobation
    exact absurd hprobation Bool.false_ne_true
  · rw [hcommit]
    intro _ hlisted
    exact absurd hlisted Bool.true_eq_false.mp

lemma KeepsStart.release {v : Verdict} (h : KeepsStart v) (d : OlsrWatchdogDefense) (now : Time) :
    KeepsStart (v.release d now) := by
  rcases v.release_cases d now with ⟨hkept, -⟩ | ⟨hreleased, -⟩
  · rwa [hkept]
  · rw [hreleased]
    intro hprobation
    exact absurd hprobation Bool.false_ne_true

/-- The subtraction of a check does not wrap. -/
lemma KeepsStart.ageOut (hd : d.WellKept) (h : KeepsStart (d.verdictOf n)) {c : Call}
    (hchecks : d.Checks c) (hfits : d.EvidenceFits c) :
    KeepsStart ((d.ageOut c.now).verdictOf n) := by
  rw [ageOut_verdictOf hd hchecks]
  exact h.record fun hprobation hlisted => hfits hchecks n hprobation hlisted

/-- **Step lemma.** -/
lemma KeepsStart.call (hd : d.WellKept) (h : KeepsStart (d.verdictOf n)) {c : Call}
    (hfits : d.EvidenceFits c) : KeepsStart ((d.call c).verdictOf n) := by
  rcases call_verdictOf hd c n with ⟨hchecks, accused, -, -, hcall⟩ | ⟨-, -, hreset⟩ | ⟨-, -, hsame⟩
  · rw [hcall]
    exact ((h.ageOut hd hchecks hfits).decide d c.now accused).release d c.now
  · rw [hreset]
    intro hprobation
    exact absurd hprobation Bool.false_ne_true
  · rwa [hsame]

/-- **Run lemma.** -/
lemma IsNew.keepsStart (hd : d.IsNew) (n : Ipv4Address) {cs : List Call}
    (hfits : ∀ x ∈ Lib.trace call d cs, x.1.EvidenceFits x.2) :
    ∀ x ∈ Lib.trace call d cs, x.1.WellKept ∧ KeepsStart (x.1.verdictOf n) := by
  refine Lib.inv_trace (I := fun d => d.WellKept ∧ KeepsStart (d.verdictOf n))
    (P := EvidenceFits) (fun d c hkept hc => ⟨hkept.1.call c, hkept.2.call hkept.1 hc⟩)
    ⟨hd.wellKept, ?_⟩ hfits
  rw [verdictOf, hd.recordOf]
  intro hprobation
  exact absurd hprobation Bool.false_ne_true

/-! ### From the start of a probation to its end -/

/-- The evidence on which step 2 of a check decides. -/
def evidenceAt (d : OlsrWatchdogDefense) (c : Call) (n : Ipv4Address) : UInt32 :=
  ((d.ageOut c.now).statsOf n).notForwardedEvidence

/-- A call has started a probation of the neighbor, which has lasted since and is over. -/
structure ServedProbation (d : OlsrWatchdogDefense) (before : List Call) (start : Call)
    (since : List Call) (c : Call) (n : Ipv4Address) : Prop where
  starts : (d.runCalls before).StartsProbation start n
  lasts : ∀ x ∈ Lib.trace call ((d.runCalls before).call start) since,
    (x.1.statsOf n).onProbation = true ∧ ((x.1.call x.2).statsOf n).onProbation = true
  served : start.now + d.probationDuration ≤ c.now

/-- While a probation lasts, its term and its start stay. -/
lemma run_probation (hd : d.WellKept) {cs : List Call}
    (hlasts : ∀ x ∈ Lib.trace call d cs, (x.1.statsOf n).onProbation = true ∧
      ((x.1.call x.2).statsOf n).onProbation = true) :
    ((d.runCalls cs).verdictOf n).probationUntil = (d.verdictOf n).probationUntil ∧
    ((d.runCalls cs).verdictOf n).evidenceAtProbationStart =
      (d.verdictOf n).evidenceAtProbationStart := by
  have hkept := Lib.run_eq_of_forall (I := WellKept)
    (P := fun d c => (d.verdictOf n).onProbation = true ∧
      ((d.call c).verdictOf n).onProbation = true)
    (fun d : OlsrWatchdogDefense =>
      ((d.verdictOf n).probationUntil, (d.verdictOf n).evidenceAtProbationStart))
    (fun d c hd hlasts => ⟨hd.call c, Prod.ext (call_probation hd hlasts.1 hlasts.2).1
      (call_probation hd hlasts.1 hlasts.2).2⟩) hd hlasts
  exact ⟨congrArg Prod.fst hkept, congrArg Prod.snd hkept⟩

/-- What is stored of a probation while it lasts. -/
lemma StartsProbation.verdictOf_runCalls (hd : d.WellKept) {before : List Call} {start : Call}
    {since : List Call}
    (hstarts : (d.runCalls before).StartsProbation start n)
    (hlasts : ∀ x ∈ Lib.trace call ((d.runCalls before).call start) since,
      (x.1.statsOf n).onProbation = true ∧ ((x.1.call x.2).statsOf n).onProbation = true) :
    ((d.runCalls (before ++ start :: since)).verdictOf n).probationUntil =
      start.now + d.probationDuration ∧
    ((d.runCalls (before ++ start :: since)).verdictOf n).evidenceAtProbationStart =
      (d.runCalls before).evidenceAt start n := by
  have hbefore := hd.runCalls before
  have hduration : (d.runCalls before).probationDuration = d.probationDuration :=
    congrArg (fun x => x.2.1) (runCalls_terms d before)
  have hrun : d.runCalls (before ++ start :: since) =
      ((d.runCalls before).call start).runCalls since := by
    rw [runCalls, Lib.run_append, Lib.run_cons]
  obtain ⟨huntil, hstart⟩ := run_probation (hbefore.call start) hlasts
  rw [hrun, huntil, hstart, hstarts.verdictOf_call hbefore, ← hduration]
  exact ⟨rfl, rfl⟩

/-- The evidence that a check compares with is that of the start. -/
lemma ServedProbation.evidenceAtProbationStart (hd : d.WellKept) {before : List Call} {start : Call}
    {since : List Call} {c : Call} (h : d.ServedProbation before start since c n)
    (hchecks : (d.runCalls (before ++ start :: since)).Checks c) :
    (((d.runCalls (before ++ start :: since)).ageOut c.now).statsOf n).evidenceAtProbationStart =
      (d.runCalls before).evidenceAt start n := by
  have haged := ageOut_verdictOf (n := n) (hd.runCalls (before ++ start :: since)) hchecks
  rw [← (h.starts.verdictOf_runCalls hd h.lasts).2]
  exact congrArg Verdict.evidenceAtProbationStart haged

/-- Every accusation ends a probation. -/
lemma Inserts.servedProbation (hd : d.IsNew) {pre : List Call} {c : Call}
    (hinserts : (d.runCalls pre).Inserts c n) :
    ∃ before start since, pre = before ++ start :: since ∧
      d.ServedProbation before start since c n := by
  have hwell := hd.wellKept.runCalls pre
  obtain ⟨-, hprobation, huntil, -, -⟩ := hinserts.commit hwell
  have hnew : ¬ (d.statsOf n).onProbation = true := by
    have hrecord : d.statsOf n = (d.recordOf n).statsD := rfl
    rw [hrecord, hd.recordOf]
    exact Bool.false_ne_true
  obtain ⟨before, start, since, rfl, hbefore, hafter, hlasts⟩ := Lib.exists_last_rise
    (Q := fun d : OlsrWatchdogDefense => (d.statsOf n).onProbation = true) hnew hprobation
  have hstarts := startsProbation_of_rise (hd.wellKept.runCalls before)
    (Bool.eq_false_iff.mpr hbefore) hafter
  refine ⟨before, start, since, rfl, hstarts, hlasts, ?_⟩
  rw [← (hstarts.verdictOf_runCalls hd.wellKept hlasts).1]
  rwa [ageOut_verdictOf hwell hinserts.1] at huntil

/-- With a threshold of two at least, the new evidence is not nothing. -/
lemma start_lt_of_half {threshold evidence start : UInt32} (hthreshold : 2 ≤ threshold)
    (hstart : start ≤ evidence) (hhalf : threshold / 2 ≤ evidence - start) : start < evidence := by
  rw [UInt32.le_iff_toNat_le] at hthreshold hstart hhalf
  rw [UInt32.toNat_sub_of_le _ _ (UInt32.le_iff_toNat_le.mpr hstart), UInt32.toNat_div] at hhalf
  rw [UInt32.lt_iff_toNat_lt]
  have htwo : (2 : UInt32).toNat = 2 := rfl
  rw [htwo] at hthreshold hhalf
  omega

/-- What an accusation rests on, if the evidence of the start is still there. -/
lemma Inserts.evidence_grows (hd : d.IsNew) (hthreshold : 2 ≤ d.blacklistThreshold)
    {pre : List Call} {c : Call} (hinserts : (d.runCalls pre).Inserts c n)
    (hkeeps : KeepsStart (((d.runCalls pre).ageOut c.now).verdictOf n)) :
    d.blacklistThreshold ≤ (d.runCalls pre).evidenceAt c n ∧
    ∃ before start since, pre = before ++ start :: since ∧
      d.ServedProbation before start since c n ∧
      (d.runCalls before).evidenceAt start n < (d.runCalls pre).evidenceAt c n := by
  have hwell := hd.wellKept.runCalls pre
  have hterms : (d.runCalls pre).blacklistThreshold = d.blacklistThreshold :=
    congrArg Prod.fst (runCalls_terms d pre)
  obtain ⟨hevidence, hprobation, -, hhalf, -⟩ := hinserts.commit hwell
  rw [hterms] at hevidence hhalf
  have haged := ageOut_verdictOf (n := n) hwell hinserts.1
  have hstart := hkeeps (by rw [haged]; exact hprobation) (by rw [haged]; exact hinserts.2.1)
  obtain ⟨before, start, since, rfl, hserved⟩ := hinserts.servedProbation hd
  refine ⟨hevidence, before, start, since, rfl, hserved, ?_⟩
  rw [← hserved.evidenceAtProbationStart hd.wellKept hinserts.1]
  exact start_lt_of_half hthreshold hstart hhalf

/-- **Accusations are sound.**  In every run of a new watchdog with a threshold of two at least in
which the evidence of neighbors on probation fits its counter, a neighbor comes into the blacklist
by step 2 of a check only; the difference from the evidence at the start of a probation does not
wrap; and at an insertion the evidence is at least the threshold, the probation has lasted since a
call as long ago as its term, and the evidence is larger than it was in that call. -/
theorem accusation_sound (hd : d.IsNew) (hthreshold : 2 ≤ d.blacklistThreshold) {cs : List Call}
    (hfits : ∀ x ∈ Lib.trace call d cs, x.1.EvidenceFits x.2) (n : Ipv4Address) :
    (∀ x ∈ Lib.trace call d cs,
      (x.1.blacklist.contains n = false → (x.1.call x.2).blacklist.contains n = true →
        x.1.Inserts x.2 n) ∧
      (x.1.Checks x.2 → ((x.1.ageOut x.2.now).statsOf n).onProbation = true →
        x.1.blacklist.contains n = false →
        ((x.1.ageOut x.2.now).statsOf n).evidenceAtProbationStart ≤ x.1.evidenceAt x.2 n)) ∧
    ∀ pre c post, cs = pre ++ c :: post → (d.runCalls pre).Inserts c n →
      d.blacklistThreshold ≤ (d.runCalls pre).evidenceAt c n ∧
      ∃ before start since, pre = before ++ start :: since ∧
        d.ServedProbation before start since c n ∧
        (d.runCalls before).evidenceAt start n < (d.runCalls pre).evidenceAt c n := by
  have hkept := hd.keepsStart n hfits
  have haged : ∀ x ∈ Lib.trace call d cs, x.1.Checks x.2 →
      KeepsStart ((x.1.ageOut x.2.now).verdictOf n) :=
    fun x hx hchecks => (hkept x hx).2.ageOut (hkept x hx).1 hchecks (hfits x hx)
  constructor
  · intro x hx
    have hwell := (hkept x hx).1
    refine ⟨inserts_of_rise hwell, fun hchecks hprobation hlisted => ?_⟩
    refine haged x hx hchecks hprobation ?_
    rw [ageOut_verdictOf hwell hchecks]
    exact hlisted
  · rintro pre c post rfl hinserts
    have hmem : (d.runCalls pre, c) ∈ Lib.trace call d (pre ++ c :: post) :=
      Lib.mem_trace_append d pre c post
    exact hinserts.evidence_grows hd hthreshold (haged (d.runCalls pre, c) hmem hinserts.1)

/-! ### Short runs -/

lemma length_book (d : OlsrWatchdogDefense) (r : NeighborRecord) (l : PacketLedger) (deed : Deed) :
    (book d r l deed).length ≤ l.length + 1 := by
  cases deed with
  | handOver packet => exact (Lib.Ledger.length_enter).le
  | reset => exact Nat.zero_le _
  | fail count =>
    rw [book, Lib.Ledger.length_settleFirst]
    exact Nat.le_succ _
  | overhear now uid onward =>
    rw [book]
    split
    · rw [Lib.Ledger.length_settleFirst]
      exact Nat.le_succ _
    · exact Nat.le_succ _
  | check now =>
    rw [book, Lib.Ledger.length_settleAll]
    exact Nat.le_succ _
  | nothing => exact Nat.le_succ _
  | ask => exact Nat.le_succ _
  | clear => exact Nat.le_succ _

/-- A call hands over one packet at most. -/
lemma length_audit (d : OlsrWatchdogDefense) (cs : List Call) (n : Ipv4Address) :
    ((audit d cs).ledger n).length ≤ cs.length := by
  induction cs using List.reverseRecOn with
  | nil => exact le_rfl
  | append_singleton cs c ih =>
    rw [audit, Lib.run_append, List.length_append]
    exact (length_book _ _ _ _).trans (Nat.add_le_add_right ih 1)

/-- It takes as many calls as there are numbers to make a counter overflow. -/
lemma evidenceFits_of_length_lt (hd : d.IsNew) {cs : List Call} (hcs : cs.length < 2 ^ 32) :
    ∀ x ∈ Lib.trace call d cs, x.1.EvidenceFits x.2 := by
  intro x hx hchecks n _ _
  obtain ⟨l, l', hl⟩ := List.append_of_mem hx
  obtain ⟨pre, post, rfl, hpre, -, -⟩ := Lib.trace_split hl
  have hwatchdog : (audit d pre).watchdog = x.1 := (audit_watchdog d pre).trans hpre.symm
  have hbalanced := (audit_balanced hd pre).balanced n
  rw [hwatchdog] at hbalanced
  have hunits := hbalanced.units_eq (d := x.1) x.2.now
  have hsettled := Lib.Ledger.settled_le_length (q := Fate.isEvidence)
    (l := book x.1 (x.1.recordOf n) ((audit d pre).ledger n) (.check x.2.now))
  rw [hunits, book, Lib.Ledger.length_settleAll] at hsettled
  have hevidence : (x.1.statsOf n).notForwardedEvidence.toNat ≤
    ((audit d pre).ledger n).settled Fate.isEvidence := hbalanced.evidence
  have hlength := length_audit d pre n
  rw [List.length_append, List.length_cons] at hcs
  rw [unitsOf, if_pos hchecks]
  omega

/-- A neighbor that is known drops three packets, and another one while it is on probation. -/
def accusingCalls : List Call :=
  let hello : FrameBody := ⟨100, 0x0800, 0x45, 4, 0xffffffff⟩
  [{ now := 0, hook := .setup 1 },
    { now := Seconds 19, hook := .snifferRxCallback (.data 44 Mac48Address.getBroadcast 5 hello) },
    { now := Seconds 19, hook := .snifferRxCallback (.data 44 Mac48Address.getBroadcast 6 hello) },
    { now := Seconds 20, hook := .onDataPacketForwarded 7 4 9 },
    { now := Seconds 20, hook := .onDataPacketForwarded 8 4 9 },
    { now := Seconds 20, hook := .onDataPacketForwarded 9 4 9 },
    { now := Seconds 21, hook := .periodicCheck },
    { now := Seconds 22, hook := .onDataPacketForwarded 10 4 9 }]

theorem accusingCalls_accusation_sound :
    3 ≤ (({} : OlsrWatchdogDefense).runCalls accusingCalls).evidenceAt
      { now := Seconds 23, hook := .periodicCheck } 4 ∧
    ∃ before start since, accusingCalls = before ++ start :: since ∧
      ({} : OlsrWatchdogDefense).ServedProbation before start since
        { now := Seconds 23, hook := .periodicCheck } 4 ∧
      (({} : OlsrWatchdogDefense).runCalls before).evidenceAt start 4 <
        (({} : OlsrWatchdogDefense).runCalls accusingCalls).evidenceAt
          { now := Seconds 23, hook := .periodicCheck } 4 :=
  (accusation_sound (d := {}) ⟨rfl, rfl, rfl⟩ (by decide)
    (evidenceFits_of_length_lt ⟨rfl, rfl, rfl⟩ (by decide)) 4).2 accusingCalls
    { now := Seconds 23, hook := .periodicCheck } [] rfl (by decide +kernel)

/-- A single packet is dropped, before the probation and not while it lasts. -/
def doubtfulCalls : List Call :=
  let hello : FrameBody := ⟨100, 0x0800, 0x45, 4, 0xffffffff⟩
  [{ now := 0, hook := .setup 1 },
    { now := Seconds 19, hook := .snifferRxCallback (.data 44 Mac48Address.getBroadcast 5 hello) },
    { now := Seconds 19, hook := .snifferRxCallback (.data 44 Mac48Address.getBroadcast 6 hello) },
    { now := Seconds 20, hook := .onDataPacketForwarded 7 4 9 },
    { now := Seconds 21, hook := .periodicCheck },
    { now := Seconds 22, hook := .periodicCheck }]

/-- With a threshold of one the packet that puts a neighbor on probation is enough to accuse it. -/
theorem doubtfulCalls_not_accusation_sound :
    (({ blacklistThreshold := 1 } : OlsrWatchdogDefense).runCalls doubtfulCalls).Inserts
      { now := Seconds 23, hook := .periodicCheck } 4 ∧
    ¬ ∃ before start since, doubtfulCalls = before ++ start :: since ∧
      ({ blacklistThreshold := 1 } : OlsrWatchdogDefense).ServedProbation before start since
        { now := Seconds 23, hook := .periodicCheck } 4 ∧
      (({ blacklistThreshold := 1 } : OlsrWatchdogDefense).runCalls before).evidenceAt start 4 <
        (({ blacklistThreshold := 1 } : OlsrWatchdogDefense).runCalls doubtfulCalls).evidenceAt
          { now := Seconds 23, hook := .periodicCheck } 4 := by
  refine ⟨by decide +kernel, ?_⟩
  rintro ⟨before, start, since, hsplit, hserved, hgrown⟩
  have hnew : ({ blacklistThreshold := 1 } : OlsrWatchdogDefense).IsNew := ⟨rfl, rfl, rfl⟩
  have hstart := hserved.evidenceAtProbationStart hnew.wellKept
    (by rw [← hsplit]; decide +kernel)
  rw [← hstart, ← hsplit] at hgrown
  exact absurd hgrown (by decide +kernel)

end ManetOlsr.OlsrWatchdogDefense
