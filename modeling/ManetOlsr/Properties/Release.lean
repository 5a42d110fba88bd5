/-
How long the watchdog stands by an accusation.

A verdict has a term.  The check that commits it notes the time, and the first check at which the
term is over takes the neighbor from the blacklist, with a clean slate: it is not accused again
before as much evidence as the threshold asks for has been recorded since.  Only a reset takes a
neighbor from the blacklist otherwise.  The time zero stands for no verdict, so that what is committed
then stays.
-/
import ManetOlsr.Properties.Probation

namespace ManetOlsr.OlsrWatchdogDefense

variable {d : OlsrWatchdogDefense} {n : Ipv4Address}

/-! ### The term of a verdict -/

/-- A check looks at a neighbor in the blacklist for the term of its verdict only. -/
lemma Verdict.decide_of_blacklisted {v : Verdict} (h : v.blacklisted = true)
    (d : OlsrWatchdogDefense) (now : Time) (accused : Bool) : v.decide d now accused = v := by
  rw [Verdict.decide, h, Bool.true_or, if_pos rfl]

/-- What a call makes of a neighbor in the blacklist. -/
lemma call_blacklisted (hd : d.WellKept) (hduration : 0 < d.blacklistDuration)
    (hlisted : d.blacklist.contains n = true) (c : Call) :
    (d.Checks c → ((d.call c).blacklist.contains n = true ↔
      (d.statsOf n).blacklistedAt = 0 ∨
        c.now < (d.statsOf n).blacklistedAt + d.blacklistDuration)) ∧
    (d.Resets c → (d.call c).blacklist.contains n = false) ∧
    (¬ d.Checks c → ¬ d.Resets c → (d.call c).blacklist.contains n = true) ∧
    ((d.call c).blacklist.contains n = true →
      ((d.call c).statsOf n).blacklistedAt = (d.statsOf n).blacklistedAt) ∧
    ((d.call c).blacklist.contains n = false → (d.call c).verdictOf n = {}) := by
  have hresets : d.Resets c → ¬ d.Checks c := by
    intro hreset hcheck
    have hhook : c.hook = .setEnabled !d.enabled := hreset
    rw [hcheck.1] at hhook
    cases hhook
  show (d.Checks c → (((d.call c).verdictOf n).blacklisted = true ↔ _)) ∧
    (d.Resets c → ((d.call c).verdictOf n).blacklisted = false) ∧
    (¬ d.Checks c → ¬ d.Resets c → ((d.call c).verdictOf n).blacklisted = true) ∧
    (((d.call c).verdictOf n).blacklisted = true →
      ((d.call c).verdictOf n).blacklistedAt = (d.verdictOf n).blacklistedAt) ∧
    (((d.call c).verdictOf n).blacklisted = false → (d.call c).verdictOf n = {})
  have hbefore : (d.verdictOf n).blacklisted = true := hlisted
  -- A call decides on the verdict, resets it, or leaves it alone.
  rcases call_verdictOf hd c n with
    ⟨hchecks, accused, -, -, hcall⟩ | ⟨hnot, hreset, hcall⟩ | ⟨hnot, hkeep, hcall⟩
  · have haged : ((d.ageOut c.now).verdictOf n).blacklisted = true := by
      rw [ageOut_verdictOf hd hchecks]
      exact hbefore
    have hat : ((d.ageOut c.now).verdictOf n).blacklistedAt = (d.statsOf n).blacklistedAt := by
      rw [ageOut_verdictOf hd hchecks]
      rfl
    -- The check decides nothing new about it, so that only its release is left.
    rw [Verdict.decide_of_blacklisted haged] at hcall
    rcases ((d.ageOut c.now).verdictOf n).release_cases d c.now with
      ⟨hkept, hterm⟩ | ⟨hreleased, -, -, hcommitted, hserved⟩
    · rw [hkept] at hcall
      rw [hat] at hterm
      rw [hcall]
      refine ⟨fun _ => iff_of_true haged ?_, fun h => absurd hchecks (hresets h),
        fun h => absurd hchecks h, fun _ => hat, fun h => absurd (haged.symm.trans h) (by simp)⟩
      by_contra hover
      rw [not_or, not_lt] at hover
      exact hterm ⟨haged, hduration.ne', hover.1, not_lt.mpr (le_sub_iff_add_le'.mpr hover.2)⟩
    · rw [hreleased] at hcall
      rw [hat] at hcommitted hserved
      rw [hcall]
      refine ⟨fun _ => iff_of_false Bool.false_ne_true ?_, fun _ => rfl, fun h => absurd hchecks h,
        fun h => absurd h Bool.false_ne_true, fun _ => rfl⟩
      rintro (hzero | hearly)
      · exact hcommitted hzero
      · exact absurd (le_sub_iff_add_le'.mp hserved) (not_le.mpr hearly)
  · rw [hcall]
    exact ⟨fun h => absurd h hnot, fun _ => rfl, fun _ h => absurd hreset h,
      fun h => absurd h Bool.false_ne_true, fun _ => rfl⟩
  · rw [hcall]
    exact ⟨fun h => absurd h hnot, fun h => absurd h hkeep, fun _ _ => hbefore, fun _ => rfl,
      fun h => absurd (hbefore.symm.trans h) (by simp)⟩

/-- While a neighbor stays in the blacklist, the time of its verdict stays. -/
lemma run_blacklistedAt (hd : d.WellKept) (hduration : 0 < d.blacklistDuration) {cs : List Call}
    (hlisted : ∀ x ∈ Lib.trace call d cs, x.1.blacklist.contains n = true ∧
      (x.1.call x.2).blacklist.contains n = true) :
    ((d.runCalls cs).statsOf n).blacklistedAt = (d.statsOf n).blacklistedAt := by
  refine Lib.run_eq_of_forall (I := fun d => d.WellKept ∧ 0 < d.blacklistDuration)
    (P := fun d c => d.blacklist.contains n = true ∧ (d.call c).blacklist.contains n = true)
    (fun d : OlsrWatchdogDefense => (d.statsOf n).blacklistedAt) ?_ ⟨hd, hduration⟩ hlisted
  intro d c ⟨hd, hduration⟩ ⟨hbefore, hafter⟩
  have hterms : (d.call c).blacklistDuration = d.blacklistDuration :=
    congrArg (fun x => x.2.2) (call_terms d c)
  obtain ⟨-, -, -, hat, -⟩ := call_blacklisted hd hduration hbefore c
  exact ⟨⟨hd.call c, hterms ▸ hduration⟩, hat hafter⟩

/-! ### The evidence since a release -/

lemma Verdict.evidence_decide_le (v : Verdict) (d : OlsrWatchdogDefense) (now : Time)
    (accused : Bool) : (v.decide d now accused).evidence.toNat ≤ v.evidence.toNat := by
  rcases v.decide_cases d now accused with
    hsame | ⟨-, -, -, hstart⟩ | ⟨-, -, -, hclear⟩ | ⟨-, -, -, -, -, hcommit⟩
  · rw [hsame]
  · rw [hstart]
    exact le_rfl
  · rw [hclear]
    show (v.evidence / 2).toNat ≤ _
    rw [UInt32.toNat_div]
    exact Nat.div_le_self _ _
  · rw [hcommit]
    exact le_rfl

lemma Verdict.evidence_release_le (v : Verdict) (d : OlsrWatchdogDefense) (now : Time) :
    (v.release d now).evidence.toNat ≤ v.evidence.toNat := by
  rcases v.release_cases d now with ⟨hkept, -⟩ | ⟨hreleased, -⟩
  · rw [hkept]
  · rw [hreleased]
    exact Nat.zero_le _

lemma Verdict.evidence_record_le (v : Verdict) (units : ℕ) :
    (v.record units).evidence.toNat ≤ v.evidence.toNat + units := by
  show (v.evidence + UInt32.ofNat units).toNat ≤ _
  rw [UInt32.toNat_add, UInt32.toNat_ofNat']
  omega

/-- **Step lemma.**  The evidence rises by the units that are recorded at most. -/
lemma call_evidence_le (hd : d.WellKept) (c : Call) :
    ((d.call c).verdictOf n).evidence.toNat ≤
      (d.verdictOf n).evidence.toNat + d.unitsOf c n := by
  rcases call_verdictOf hd c n with ⟨hchecks, accused, -, -, hcall⟩ | ⟨-, -, hcall⟩ | ⟨-, -, hcall⟩
  · rw [hcall, ageOut_verdictOf hd hchecks]
    exact (Verdict.evidence_release_le _ d c.now).trans
      ((Verdict.evidence_decide_le _ d c.now accused).trans (Verdict.evidence_record_le _ _))
  · rw [hcall]
    exact Nat.zero_le _
  · rw [hcall]
    exact Nat.le_add_right _ _

/-- The units of evidence that some calls record. -/
def unitsSince (d : OlsrWatchdogDefense) (cs : List Call) (n : Ipv4Address) : ℕ :=
  ((Lib.trace call d cs).map fun x => x.1.unitsOf x.2 n).sum

/-- **Run lemma.** -/
lemma run_evidence_le (hd : d.WellKept) (cs : List Call) :
    ((d.runCalls cs).verdictOf n).evidence.toNat ≤
      (d.verdictOf n).evidence.toNat + d.unitsSince cs n := by
  induction cs generalizing d with
  | nil => exact Nat.le_add_right _ _
  | cons c cs ih =>
    have hfirst := call_evidence_le (n := n) hd c
    have hrest := ih (hd.call c)
    have hunits : d.unitsSince (c :: cs) n = d.unitsOf c n + (d.call c).unitsSince cs n := by
      rw [unitsSince, Lib.trace_cons, List.map_cons, List.sum_cons]
      rfl
    show (((d.call c).runCalls cs).verdictOf n).evidence.toNat ≤ _
    omega

/-- A neighbor that has been released is accused for what has been recorded since. -/
lemma Inserts.threshold_le_units (hd : d.WellKept) {cs : List Call} {c : Call}
    (hclean : d.verdictOf n = {}) (hinserts : (d.runCalls cs).Inserts c n) :
    d.blacklistThreshold.toNat ≤ d.unitsSince (cs ++ [c]) n := by
  have hwell := hd.runCalls cs
  have hterms : (d.runCalls cs).blacklistThreshold = d.blacklistThreshold :=
    congrArg Prod.fst (runCalls_terms d cs)
  obtain ⟨hevidence, -⟩ := hinserts.commit hwell
  rw [hterms, ageOut_verdictOf hwell hinserts.1, UInt32.le_iff_toNat_le] at hevidence
  have hrecord := Verdict.evidence_record_le ((d.runCalls cs).verdictOf n)
    ((d.runCalls cs).unitsOf c n)
  have hrun := run_evidence_le (n := n) hd cs
  have hzero : (d.verdictOf n).evidence.toNat = 0 := by rw [hclean]; rfl
  have hsplit : d.unitsSince (cs ++ [c]) n =
      d.unitsSince cs n + (d.runCalls cs).unitsOf c n := by
    rw [unitsSince, Lib.trace_append, List.map_append, List.sum_append]
    rfl
  omega

/-! ### Runs -/

/-- The record of a neighbor that has a verdict of some time. -/
lemma exists_stats (hat : (d.statsOf n).blacklistedAt ≠ 0) :
    ∃ st, Lib.mapFind d.neighborStats n = some st ∧
      st.blacklistedAt = (d.statsOf n).blacklistedAt := by
  rw [statsOf] at hat ⊢
  cases hfind : Lib.mapFind d.neighborStats n with
  | none =>
    rw [hfind] at hat
    exact absurd rfl hat
  | some st => exact ⟨st, rfl, rfl⟩

/-- **A verdict has a term.**  A neighbor is in the blacklist after some calls because a check among
them has inserted it, and it has been there since; unless the check was at the time zero, there is a
record of the neighbor with the time of the check.  The next enabled check removes it if and only if
the term is over, a reset removes it, and no other call does.  When it comes back after a removal, as
many units of evidence have been recorded since as the threshold asks for. -/
theorem blacklist_term (hd : d.IsNew) (hduration : 0 < d.blacklistDuration) (cs : List Call)
    (n : Ipv4Address) :
    ((d.runCalls cs).blacklist.contains n = true →
      ∃ before commit since, cs = before ++ commit :: since ∧
        (d.runCalls before).Inserts commit n ∧
        (∀ x ∈ Lib.trace call ((d.runCalls before).call commit) since,
          x.1.blacklist.contains n = true ∧ (x.1.call x.2).blacklist.contains n = true) ∧
        (commit.now ≠ 0 → ∃ st, Lib.mapFind (d.runCalls cs).neighborStats n = some st ∧
          st.blacklistedAt = commit.now) ∧
        ∀ c,
          ((d.runCalls cs).Checks c → (((d.runCalls cs).call c).blacklist.contains n = true ↔
            commit.now = 0 ∨ c.now < commit.now + d.blacklistDuration)) ∧
          ((d.runCalls cs).Resets c → ((d.runCalls cs).call c).blacklist.contains n = false) ∧
          (¬ (d.runCalls cs).Checks c → ¬ (d.runCalls cs).Resets c →
            ((d.runCalls cs).call c).blacklist.contains n = true)) ∧
    ∀ before release since c, cs = before ++ release :: since →
      (d.runCalls before).blacklist.contains n = true →
      ((d.runCalls before).call release).blacklist.contains n = false →
      (d.runCalls cs).Inserts c n →
      d.blacklistThreshold.toNat ≤
        ((d.runCalls before).call release).unitsSince (since ++ [c]) n := by
  have hterm := runCalls_terms d
  have hlasts : ∀ cs : List Call, 0 < (d.runCalls cs).blacklistDuration := by
    intro cs
    have h : (d.runCalls cs).blacklistDuration = d.blacklistDuration :=
      congrArg (fun x => x.2.2) (hterm cs)
    rwa [h]
  constructor
  · intro hlisted
    have hnew : ¬ d.blacklist.contains n = true := by simp [hd.blacklist]
    -- The last call that brought the neighbor into the blacklist is the commit.
    obtain ⟨before, commit, since, rfl, hbefore, hafter, hsince⟩ := Lib.exists_last_rise
      (Q := fun d : OlsrWatchdogDefense => d.blacklist.contains n = true) hnew hlisted
    have hwell := hd.wellKept.runCalls before
    have hinserts := inserts_of_rise hwell (Bool.eq_false_iff.mpr hbefore) hafter
    obtain ⟨-, -, -, -, hcommit⟩ := hinserts.commit hwell
    rw [Verdict.release_commit (hlasts before)] at hcommit
    have hrun : d.runCalls (before ++ commit :: since) =
        ((d.runCalls before).call commit).runCalls since := by
      rw [runCalls, Lib.run_append, Lib.run_cons]
    have hduration' : 0 < ((d.runCalls before).call commit).blacklistDuration := by
      have hpre := hlasts (before ++ [commit])
      rwa [runCalls, Lib.run_append, Lib.run_cons, Lib.run_nil] at hpre
    have hat : ((d.runCalls (before ++ commit :: since)).statsOf n).blacklistedAt =
        commit.now := by
      rw [hrun, run_blacklistedAt (hwell.call commit) hduration' hsince]
      exact congrArg Verdict.blacklistedAt hcommit
    refine ⟨before, commit, since, rfl, hinserts, hsince, ?_, fun c => ?_⟩
    · intro hnow
      have hstats := exists_stats (d := d.runCalls (before ++ commit :: since)) (n := n)
      rw [hat] at hstats
      exact hstats hnow
    · obtain ⟨hcheck, hreset, hkeep, -, -⟩ := call_blacklisted
        (hd.wellKept.runCalls (before ++ commit :: since)) (hlasts _) hlisted c
      have hdur : (d.runCalls (before ++ commit :: since)).blacklistDuration =
          d.blacklistDuration := congrArg (fun x => x.2.2) (hterm _)
      rw [hat, hdur] at hcheck
      exact ⟨hcheck, hreset, hkeep⟩
  · rintro before release since c rfl hbefore hafter hinserts
    have hwell := hd.wellKept.runCalls before
    obtain ⟨-, -, -, -, hclean⟩ := call_blacklisted hwell (hlasts before) hbefore release
    rw [runCalls, Lib.run_append, Lib.run_cons] at hinserts
    have hunits := Inserts.threshold_le_units (hwell.call release) (hclean hafter) hinserts
    have hthreshold : ((d.runCalls before).call release).blacklistThreshold =
        d.blacklistThreshold :=
      congrArg Prod.fst ((call_terms _ release).trans (hterm before))
    rwa [hthreshold] at hunits

/-- The accusation of the neighbor, and the first check after its term. -/
theorem accusingCalls_blacklist_term :
    ∃ before commit since,
      accusingCalls ++ [{ now := Seconds 23, hook := .periodicCheck }] =
        before ++ commit :: since ∧
      (({} : OlsrWatchdogDefense).runCalls before).Inserts commit 4 ∧
      commit.now + Seconds 30 ≤ Seconds 53 := by
  obtain ⟨before, commit, since, hsplit, hinserts, -, -, hnext⟩ := (blacklist_term (d := {})
    ⟨rfl, rfl, rfl⟩ (by decide) (accusingCalls ++ [{ now := Seconds 23, hook := .periodicCheck }])
    4).1 (by decide +kernel)
  refine ⟨before, commit, since, hsplit, hinserts, not_lt.mp fun hearly => ?_⟩
  have hcheck := (hnext { now := Seconds 53, hook := .periodicCheck }).1 (by decide +kernel)
  exact absurd (hcheck.mpr (Or.inr hearly)) (by decide +kernel)

end ManetOlsr.OlsrWatchdogDefense
