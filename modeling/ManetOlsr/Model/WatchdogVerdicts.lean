/-
The verdict about a neighbor.

Of what the watchdog stores for a neighbor, the evidence, the probation and the verdict make up a
machine of their own: a check adds units of evidence to it, may start, clear or end a probation, and
may release a neighbor whose term is over.  Whether a check decides anything is up to the guards,
which look at the other counters; nothing else but a reset touches the verdict.
-/
import ManetOlsr.Model.WatchdogCalls

namespace ManetOlsr.OlsrWatchdogDefense

@[ext]
structure Verdict where
  evidence : UInt32 := 0
  onProbation : Bool := false
  probationUntil : Time := 0
  evidenceAtProbationStart : UInt32 := 0
  blacklistedAt : Time := 0
  blacklisted : Bool := false
deriving DecidableEq

namespace Verdict

variable (d : OlsrWatchdogDefense) (now : Time) (v : Verdict)

/-- Step 1 of a check. -/
def record (units : ℕ) : Verdict := { v with evidence := v.evidence + UInt32.ofNat units }

def startProbation : Verdict :=
  { v with
    onProbation := true
    probationUntil := now + d.probationDuration
    evidenceAtProbationStart := v.evidence }

def clearProbation : Verdict :=
  { v with
    onProbation := false
    probationUntil := 0
    evidence := v.evidence / 2
    evidenceAtProbationStart := 0 }

def commit : Verdict := { v with blacklistedAt := now, blacklisted := true }

/-- Step 2 of a check, where the flag tells that the neighbor is accused. -/
def decide (accused : Bool) : Verdict :=
  if v.blacklisted || !accused then v
  else if !v.onProbation then v.startProbation d now
  else if now < v.probationUntil then v
  else if v.evidence - v.evidenceAtProbationStart < d.blacklistThreshold / 2 then v.clearProbation
  else v.commit now

/-- Step 3 of a check. -/
def release : Verdict :=
  if v.blacklisted ∧ d.blacklistDuration ≠ 0 ∧ v.blacklistedAt ≠ 0 ∧
      ¬ now - v.blacklistedAt < d.blacklistDuration then {}
  else v

variable {d now v}

variable (d now v) in
/-- **Inversion.**  What step 2 can do. -/
lemma decide_cases (accused : Bool) :
    v.decide d now accused = v ∨
    (v.blacklisted = false ∧ accused = true ∧ v.onProbation = false ∧
      v.decide d now accused = v.startProbation d now) ∨
    (v.blacklisted = false ∧ accused = true ∧ v.onProbation = true ∧
      v.decide d now accused = v.clearProbation) ∨
    (v.blacklisted = false ∧ accused = true ∧ v.onProbation = true ∧ v.probationUntil ≤ now ∧
      d.blacklistThreshold / 2 ≤ v.evidence - v.evidenceAtProbationStart ∧
      v.decide d now accused = v.commit now) := by
  rw [decide]
  split
  · exact Or.inl rfl
  next hcond =>
  rw [Bool.not_eq_true, Bool.or_eq_false_iff, Bool.not_eq_false'] at hcond
  obtain ⟨hlisted, haccused⟩ := hcond
  split
  · next hprobation =>
    rw [Bool.not_eq_true'] at hprobation
    exact Or.inr (Or.inl ⟨hlisted, haccused, hprobation, rfl⟩)
  next hprobation =>
  rw [Bool.not_eq_true', Bool.not_eq_false] at hprobation
  split
  · exact Or.inl rfl
  next huntil =>
  split
  · exact Or.inr (Or.inr (Or.inl ⟨hlisted, haccused, hprobation, rfl⟩))
  · next hpersisted =>
    exact Or.inr (Or.inr (Or.inr ⟨hlisted, haccused, hprobation, not_lt.mp huntil,
      UInt32.not_lt.mp hpersisted, rfl⟩))

/-- A verdict is not released in the check that commits it. -/
lemma release_commit (hduration : 0 < d.blacklistDuration) :
    (v.commit now).release d now = v.commit now := by
  rw [release]
  refine if_neg ?_
  rintro ⟨-, -, -, hserved⟩
  have hage : now - (v.commit now).blacklistedAt = 0 := Int.sub_self now
  rw [hage] at hserved
  exact hserved hduration

variable (d now v) in
lemma release_cases :
    (v.release d now = v ∧ ¬ (v.blacklisted = true ∧ d.blacklistDuration ≠ 0 ∧ v.blacklistedAt ≠ 0 ∧
      ¬ now - v.blacklistedAt < d.blacklistDuration)) ∨
    (v.release d now = {} ∧ v.blacklisted = true ∧ d.blacklistDuration ≠ 0 ∧ v.blacklistedAt ≠ 0 ∧
      d.blacklistDuration ≤ now - v.blacklistedAt) := by
  rw [release]
  split
  · next h => exact Or.inr ⟨rfl, h.1, h.2.1, h.2.2.1, not_lt.mp h.2.2.2⟩
  · next h => exact Or.inl ⟨rfl, h⟩

end Verdict

/-! ### The verdict of a record -/

/-- A deed of `PeriodicCheck` or `SetEnabled`. -/
def Deed.touchesVerdict : Deed → Bool
  | .reset | .check _ => true
  | _ => false

namespace NeighborRecord

variable (d : OlsrWatchdogDefense) (now : Time) (r : NeighborRecord)

def verdict : Verdict where
  evidence := r.statsD.notForwardedEvidence
  onProbation := r.statsD.onProbation
  probationUntil := r.statsD.probationUntil
  evidenceAtProbationStart := r.statsD.evidenceAtProbationStart
  blacklistedAt := r.statsD.blacklistedAt
  blacklisted := r.blacklisted

/-- There are statistics, and they accuse the neighbor. -/
def accused : Bool :=
  match r.stats with
  | none => false
  | some st => accusable d st

lemma le_evidence_of_accused (h : r.accused d = true) :
    d.blacklistThreshold ≤ r.verdict.evidence := by
  obtain ⟨pending, stats, blacklisted⟩ := r
  cases stats with
  | none => exact absurd h Bool.false_ne_true
  | some st => exact UInt32.not_lt.mp ((accusable_iff st).mp h).1

lemma ageOut_verdict : (r.ageOut d now).verdict = r.verdict.record (r.units d now) := by
  rw [verdict, ageOut_statsD, ageOut_blacklisted]
  rfl

lemma maybeBlacklist_verdict :
    (r.maybeBlacklist d now).verdict = r.verdict.decide d now (r.accused d) := by
  obtain ⟨pending, stats, blacklisted⟩ := r
  rw [Verdict.decide]
  cases stats with
  | none => simp [maybeBlacklist, accused]
  | some st =>
    simp only [maybeBlacklist, accused]
    show _ = if (blacklisted || !accusable d st) = true then _
      else if (!st.onProbation) = true then _ else if now < st.probationUntil then _
      else if st.notForwardedEvidence - st.evidenceAtProbationStart < d.blacklistThreshold / 2 then _
      else _
    split
    · rfl
    split
    · rfl
    split
    · rfl
    split
    · rfl
    · rfl

lemma release_verdict : (r.release d now).verdict = r.verdict.release d now := by
  obtain ⟨pending, stats, blacklisted⟩ := r
  have hserved : ∀ st, termServed d now st = true ↔ d.blacklistDuration ≠ 0 ∧
      st.blacklistedAt ≠ 0 ∧ ¬ now - st.blacklistedAt < d.blacklistDuration := by
    intro st
    simp only [termServed, Bool.and_eq_true, Bool.not_eq_true', decide_eq_false_iff_not, and_assoc,
      ne_eq]
  rw [Verdict.release, release]
  cases blacklisted with
  | false =>
    rw [if_neg Bool.false_ne_true, if_neg fun h => Bool.false_ne_true h.1]
  | true =>
    cases stats with
    | none => exact (if_neg fun h => h.2.2.1 rfl).symm
    | some st =>
      rw [if_pos rfl]
      simp only [releaseExpired]
      by_cases hterm : termServed d now st = true
      · rw [if_pos hterm, if_pos ⟨rfl, (hserved st).mp hterm⟩]
        rfl
      · rw [if_neg hterm, if_neg fun h => hterm ((hserved st).mpr h.2)]

lemma rotate_verdict : r.rotate.verdict = r.verdict := by
  obtain ⟨pending, stats, blacklisted⟩ := r
  cases stats <;> rfl

/-- The steps of a check, seen from the verdict. -/
lemma check_verdict : (r.check d now).verdict =
    ((r.verdict.record (r.units d now)).decide d now ((r.ageOut d now).accused d)).release d now := by
  rw [check, rotate_verdict, release_verdict, maybeBlacklist_verdict, ageOut_verdict]

/-- Nothing but a check and a reset touches the verdict. -/
lemma apply_verdict {deed : Deed} (hdeed : deed.touchesVerdict = false) :
    (r.apply d deed).verdict = r.verdict := by
  cases deed with
  | reset => cases hdeed
  | check now => cases hdeed
  | overhear now uid onward =>
    rw [apply]
    split <;> rfl
  | nothing => rfl
  | handOver packet => rfl
  | fail count => rfl
  | ask => rfl
  | clear => rfl

end NeighborRecord

/-! ### The verdict of a call -/

def verdictOf (d : OlsrWatchdogDefense) (n : Ipv4Address) : Verdict := (d.recordOf n).verdict

/-- A call of `PeriodicCheck` that does something. -/
def Checks (d : OlsrWatchdogDefense) (c : Call) : Prop := c.hook = .periodicCheck ∧ d.enabled = true

instance (d : OlsrWatchdogDefense) (c : Call) : Decidable (d.Checks c) :=
  inferInstanceAs (Decidable (_ ∧ _))

/-- A call of `SetEnabled` that does something. -/
def Resets (d : OlsrWatchdogDefense) (c : Call) : Prop := c.hook = .setEnabled !d.enabled

/-- The units of evidence that a call records against a neighbor: a check takes every packet that it
times out for one, unless the silence is explained. -/
def unitsOf (d : OlsrWatchdogDefense) (c : Call) (n : Ipv4Address) : ℕ :=
  if d.Checks c then (d.recordOf n).units d c.now else 0

variable {d : OlsrWatchdogDefense} {c : Call} {n : Ipv4Address}

/-- Step 1 of a check records the units, and wraps. -/
lemma ageOut_verdictOf (h : d.WellKept) (hchecks : d.Checks c) :
    (d.ageOut c.now).verdictOf n = (d.verdictOf n).record (d.unitsOf c n) := by
  rw [verdictOf, ageOut_recordOf c.now n h, NeighborRecord.ageOut_verdict, unitsOf, if_pos hchecks]
  rfl

lemma deed_of_resets (h : d.Resets c) : d.deed n c = .reset := by
  obtain ⟨now, s, hook⟩ := c
  obtain rfl : hook = _ := h
  cases henabled : d.enabled <;> simp [deed, henabled]

lemma macDeed_touchesVerdict {deed : Deed} (hdeed : deed.touchesVerdict = false)
    (mac : Mac48Address) : (d.macDeed n deed mac).touchesVerdict = false := by
  rw [macDeed]
  split
  · exact hdeed
  · rfl

lemma overhearDeed_touchesVerdict (now : Time) (s : OlsrState) (tx rx : Mac48Address) (uid : ℕ) :
    (d.overhearDeed n now s tx rx uid).touchesVerdict = false := by
  rw [overhearDeed]
  split <;> rfl

/-- The deed of a call that neither checks nor resets. -/
lemma deed_of_not (hchecks : ¬ d.Checks c) (hresets : ¬ d.Resets c) :
    (d.deed n c).touchesVerdict = false := by
  obtain ⟨now, s, hook⟩ := c
  cases hook with
  | setup nodeAddress => rfl
  | setEnabled enabled =>
    have hsame : d.enabled = enabled := by
      by_contra hne
      refine hresets ?_
      cases henabled : d.enabled <;> cases enabled <;> simp_all [Resets]
    simp only [deed, if_pos hsame]
    rfl
  | onDataPacketForwarded uid nextHop finalDest =>
    simp only [deed, forwardDeed]
    split <;> rfl
  | onMacTxFailure neighbor count =>
    simp only [deed, failDeed]
    split <;> rfl
  | onSelfReliabilityReport count => rfl
  | onNeighborForwardedPacket tx rx uid => exact overhearDeed_touchesVerdict now s tx rx uid
  | onRtsReceived sender => exact macDeed_touchesVerdict rfl sender
  | onCtsReceived rtsSender => exact macDeed_touchesVerdict rfl rtsSender
  | snifferRxCallback frame =>
    cases frame with
    | rts tx rx => exact macDeed_touchesVerdict rfl tx
    | cts rx => exact macDeed_touchesVerdict rfl rx
    | data tx rx uid body =>
      simp only [deed]
      split
      · rfl
      · exact overhearDeed_touchesVerdict now s tx rx uid
    | other => rfl
  | phyRxDropCallback => rfl
  | periodicCheck =>
    have hdisabled : ¬ d.enabled = true := fun h => hchecks ⟨rfl, h⟩
    simp only [deed, if_neg hdisabled]
    rfl
  | take check => rfl

/-- **Step lemma.**  What a call makes of a verdict. -/
lemma call_verdictOf (h : d.WellKept) (c : Call) (n : Ipv4Address) :
    (d.Checks c ∧ ∃ accused, (accused = true →
        d.blacklistThreshold ≤ ((d.ageOut c.now).verdictOf n).evidence) ∧
      ((d.ageOut c.now).maybeBlacklistAll c.now).verdictOf n =
        ((d.ageOut c.now).verdictOf n).decide d c.now accused ∧
      (d.call c).verdictOf n =
        (((d.ageOut c.now).verdictOf n).decide d c.now accused).release d c.now) ∨
    (¬ d.Checks c ∧ d.Resets c ∧ (d.call c).verdictOf n = {}) ∨
    (¬ d.Checks c ∧ ¬ d.Resets c ∧ (d.call c).verdictOf n = d.verdictOf n) := by
  have hcall : (d.call c).verdictOf n = ((d.recordOf n).apply d (d.deed n c)).verdict := by
    rw [verdictOf, call_recordOf n h c]
  by_cases hchecks : d.Checks c
  · have haged : (d.ageOut c.now).verdictOf n = ((d.recordOf n).ageOut d c.now).verdict := by
      rw [verdictOf, ageOut_recordOf c.now n h]
    rw [haged]
    refine Or.inl ⟨hchecks, ((d.recordOf n).ageOut d c.now).accused d,
      NeighborRecord.le_evidence_of_accused d _, ?_, ?_⟩
    · have hsettings : (d.ageOut c.now).settings = d.settings :=
        settings_ignoresStats.ageOut d c.now settings_ignoresPending
      have hstep : ∀ r : NeighborRecord,
          r.maybeBlacklist (d.ageOut c.now) c.now = r.maybeBlacklist d c.now := by
        intro r
        show r.maybeBlacklist (d.ageOut c.now).settings c.now =
          r.maybeBlacklist d.settings c.now
        rw [hsettings]
      rw [verdictOf, maybeBlacklistAll_recordOf c.now n (h.ageOut c.now),
        ageOut_recordOf c.now n h, hstep, NeighborRecord.maybeBlacklist_verdict]
    · have hdeed : d.deed n c = .check c.now := by
        rw [deed, hchecks.1]
        exact if_pos hchecks.2
      rw [hcall, hdeed, NeighborRecord.ageOut_verdict]
      exact NeighborRecord.check_verdict d c.now (d.recordOf n)
  · by_cases hresets : d.Resets c
    · refine Or.inr (Or.inl ⟨hchecks, hresets, ?_⟩)
      rw [hcall, deed_of_resets hresets]
      rfl
    · refine Or.inr (Or.inr ⟨hchecks, hresets, ?_⟩)
      rw [hcall, NeighborRecord.apply_verdict d _ (deed_of_not hchecks hresets)]
      rfl

/-! ### Turning points -/

/-- Step 2 of a check inserts the neighbor in the blacklist. -/
def Inserts (d : OlsrWatchdogDefense) (c : Call) (n : Ipv4Address) : Prop :=
  d.Checks c ∧ d.blacklist.contains n = false ∧
    ((d.ageOut c.now).maybeBlacklistAll c.now).blacklist.contains n = true

/-- Step 2 of a check starts a probation. -/
def StartsProbation (d : OlsrWatchdogDefense) (c : Call) (n : Ipv4Address) : Prop :=
  d.Checks c ∧ (d.statsOf n).onProbation = false ∧
    (((d.ageOut c.now).maybeBlacklistAll c.now).statsOf n).onProbation = true

instance (d : OlsrWatchdogDefense) (c : Call) (n : Ipv4Address) : Decidable (d.Inserts c n) :=
  inferInstanceAs (Decidable (_ ∧ _ ∧ _))

/-- What an insertion takes. -/
lemma Inserts.commit (h : d.WellKept) (hinserts : d.Inserts c n) :
    d.blacklistThreshold ≤ ((d.ageOut c.now).verdictOf n).evidence ∧
    (d.verdictOf n).onProbation = true ∧
    ((d.ageOut c.now).verdictOf n).probationUntil ≤ c.now ∧
    d.blacklistThreshold / 2 ≤ ((d.ageOut c.now).verdictOf n).evidence -
      ((d.ageOut c.now).verdictOf n).evidenceAtProbationStart ∧
    (d.call c).verdictOf n =
      (((d.ageOut c.now).verdictOf n).commit c.now).release d c.now := by
  obtain ⟨hchecks, hbefore, hafter⟩ := hinserts
  rcases call_verdictOf h c n with ⟨-, accused, hevidence, hstep₂, hcall⟩ | ⟨hnot, -⟩ | ⟨hnot, -⟩
  · have hlisted : (((d.ageOut c.now).verdictOf n).decide d c.now accused).blacklisted = true := by
      rw [← hstep₂]
      exact hafter
    have haged := ageOut_verdictOf (n := n) h hchecks
    have hunlisted : ((d.ageOut c.now).verdictOf n).blacklisted = false := by
      rw [haged]
      exact hbefore
    rcases ((d.ageOut c.now).verdictOf n).decide_cases d c.now accused with
      hsame | ⟨-, -, -, hstart⟩ | ⟨-, -, -, hclear⟩ | ⟨-, haccused, hprobation, huntil, hhalf, hcommit⟩
    · rw [hsame, hunlisted] at hlisted
      exact absurd hlisted Bool.false_ne_true
    · rw [hstart] at hlisted
      exact absurd (hunlisted.symm.trans hlisted) Bool.false_ne_true
    · rw [hclear] at hlisted
      exact absurd (hunlisted.symm.trans hlisted) Bool.false_ne_true
    · rw [haged] at hprobation
      exact ⟨hevidence haccused, hprobation, huntil, hhalf, by rw [hcall, hcommit]⟩
  · exact absurd hchecks hnot
  · exact absurd hchecks hnot

/-- A neighbor comes into the blacklist by an insertion only. -/
lemma inserts_of_rise (h : d.WellKept) (hbefore : d.blacklist.contains n = false)
    (hafter : (d.call c).blacklist.contains n = true) : d.Inserts c n := by
  have hlisted : ((d.call c).verdictOf n).blacklisted = true := hafter
  rcases call_verdictOf h c n with
    ⟨hchecks, accused, -, hstep₂, hcall⟩ | ⟨-, -, hreset⟩ | ⟨-, -, hsame⟩
  · refine ⟨hchecks, hbefore, ?_⟩
    show (((d.ageOut c.now).maybeBlacklistAll c.now).verdictOf n).blacklisted = true
    rw [hcall, ← hstep₂] at hlisted
    rcases (((d.ageOut c.now).maybeBlacklistAll c.now).verdictOf n).release_cases d
      c.now with ⟨hkept, -⟩ | ⟨hreleased, -⟩
    · rwa [hkept] at hlisted
    · rw [hreleased] at hlisted
      exact absurd hlisted Bool.false_ne_true
  · rw [hreset] at hlisted
    exact absurd hlisted Bool.false_ne_true
  · rw [hsame] at hlisted
    exact absurd (hbefore.symm.trans hlisted) Bool.false_ne_true

/-- A probation starts by step 2 of a check only. -/
lemma startsProbation_of_rise (h : d.WellKept) (hbefore : (d.statsOf n).onProbation = false)
    (hafter : ((d.call c).statsOf n).onProbation = true) : d.StartsProbation c n := by
  have hprobation : ((d.call c).verdictOf n).onProbation = true := hafter
  rcases call_verdictOf h c n with
    ⟨hchecks, accused, -, hstep₂, hcall⟩ | ⟨-, -, hreset⟩ | ⟨-, -, hsame⟩
  · refine ⟨hchecks, hbefore, ?_⟩
    show (((d.ageOut c.now).maybeBlacklistAll c.now).verdictOf n).onProbation = true
    rw [hcall, ← hstep₂] at hprobation
    rcases (((d.ageOut c.now).maybeBlacklistAll c.now).verdictOf n).release_cases d
      c.now with ⟨hkept, -⟩ | ⟨hreleased, -⟩
    · rwa [hkept] at hprobation
    · rw [hreleased] at hprobation
      exact absurd hprobation Bool.false_ne_true
  · rw [hreset] at hprobation
    exact absurd hprobation Bool.false_ne_true
  · rw [hsame] at hprobation
    exact absurd (hbefore.symm.trans hprobation) Bool.false_ne_true

/-- The start notes the evidence of step 1. -/
lemma StartsProbation.verdictOf_call (h : d.WellKept) (hstarts : d.StartsProbation c n) :
    (d.call c).verdictOf n = ((d.ageOut c.now).verdictOf n).startProbation d c.now := by
  obtain ⟨hchecks, hbefore, hafter⟩ := hstarts
  rcases call_verdictOf h c n with ⟨-, accused, -, hstep₂, hcall⟩ | ⟨hnot, -⟩ | ⟨hnot, -⟩
  · have haged : ((d.ageOut c.now).verdictOf n).onProbation = false := by
      rw [ageOut_verdictOf h hchecks]
      exact hbefore
    have hon : (((d.ageOut c.now).verdictOf n).decide d c.now accused).onProbation = true := by
      rw [← hstep₂]
      exact hafter
    rcases ((d.ageOut c.now).verdictOf n).decide_cases d c.now accused with
      hsame | ⟨hlisted, -, -, hstart⟩ | ⟨-, -, hcontra, -⟩ | ⟨-, -, hcontra, -⟩
    · rw [hsame, haged] at hon
      exact absurd hon Bool.false_ne_true
    · rw [hstart] at hcall
      rcases (((d.ageOut c.now).verdictOf n).startProbation d c.now).release_cases d
        c.now with ⟨hkept, -⟩ | ⟨-, hcontra, -⟩
      · rw [hcall, hkept]
      · -- who is on the list is not put on probation
        exact absurd (hlisted.symm.trans hcontra) Bool.false_ne_true
    · exact absurd (haged.symm.trans hcontra) Bool.false_ne_true
    · exact absurd (haged.symm.trans hcontra) Bool.false_ne_true
  · exact absurd hchecks hnot
  · exact absurd hchecks hnot

/-- A probation that goes on keeps its term and the evidence of its start. -/
lemma call_probation (h : d.WellKept) (hbefore : (d.verdictOf n).onProbation = true)
    (hafter : ((d.call c).verdictOf n).onProbation = true) :
    ((d.call c).verdictOf n).probationUntil = (d.verdictOf n).probationUntil ∧
    ((d.call c).verdictOf n).evidenceAtProbationStart =
      (d.verdictOf n).evidenceAtProbationStart := by
  rcases call_verdictOf h c n with ⟨hchecks, accused, -, -, hcall⟩ | ⟨-, -, hreset⟩ | ⟨-, -, hsame⟩
  · rw [ageOut_verdictOf h hchecks] at hcall
    rcases Verdict.release_cases d c.now
      (v := ((d.verdictOf n).record (d.unitsOf c n)).decide d c.now accused) with
      ⟨hkept, -⟩ | ⟨hreleased, -⟩
    · rw [hkept] at hcall
      rw [hcall] at hafter ⊢
      rcases ((d.verdictOf n).record (d.unitsOf c n)).decide_cases d c.now accused with
        hsame | ⟨-, -, hnot, -⟩ | ⟨-, -, -, hclear⟩ | ⟨-, -, -, -, -, hcommit⟩
      · rw [hsame]
        exact ⟨rfl, rfl⟩
      · exact absurd (hnot.symm.trans hbefore) Bool.false_ne_true
      · rw [hclear] at hafter
        exact absurd hafter Bool.false_ne_true
      · rw [hcommit]
        exact ⟨rfl, rfl⟩
    · rw [hcall, hreleased] at hafter
      exact absurd hafter Bool.false_ne_true
  · rw [hreset] at hafter
    exact absurd hafter Bool.false_ne_true
  · rw [hsame]
    exact ⟨rfl, rfl⟩

end ManetOlsr.OlsrWatchdogDefense
