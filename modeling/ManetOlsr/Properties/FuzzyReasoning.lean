/-
What the fuzzy Petri net computes (`RunFuzzyPetriNet` of the FPNT defense).

Definition 5, as the comment of `MatrixOp_Threshold` has it, lets a transition fire when its input is
at least its threshold; the code asks for more than the threshold.  Both agree unless an input lies on
its threshold, and even then unless a competitor covers the difference.
-/
import ManetOlsr.Model.FuzzyNet
import Mathlib.Tactic.Ring

namespace ManetOlsr.OlsrDefenseFpnt

variable {s : Marking}

/-! ### The two tests -/

lemma fireFrom_self (threshold : ℚ) : fireFrom threshold threshold = threshold := if_pos le_rfl

lemma fireAbove_of_le {threshold x : ℚ} (hle : x ≤ threshold) : fireAbove threshold x = 0 :=
  if_neg (not_lt.mpr hle)

lemma fireAbove_of_lt {threshold x : ℚ} (hlt : threshold < x) : fireAbove threshold x = x :=
  if_pos hlt

lemma fireFrom_eq_of_ne {threshold x : ℚ} (hne : x ≠ threshold) :
    fireFrom threshold x = fireAbove threshold x := by
  rw [fireFrom, fireAbove]
  refine if_congr ?_ rfl rfl
  exact ⟨fun hle => lt_of_le_of_ne hle hne.symm, fun hlt => hlt.le⟩

lemma fireAbove_le_fireFrom {threshold x : ℚ} (hthreshold : 0 ≤ threshold) :
    fireAbove threshold x ≤ fireFrom threshold x := by
  by_cases hx : x = threshold
  · rw [hx, fireFrom_self, fireAbove_of_le le_rfl]
    exact hthreshold
  · exact (fireFrom_eq_of_ne hx).ge

lemma fireAbove_eq_fireFrom_iff {threshold x : ℚ} (hthreshold : 0 < threshold) :
    fireAbove threshold x = fireFrom threshold x ↔ x ≠ threshold := by
  constructor
  · rintro heq rfl
    rw [fireFrom_self, fireAbove_of_le le_rfl] at heq
    exact hthreshold.ne heq
  · exact fun hne => (fireFrom_eq_of_ne hne).symm

/-! ### Where the rules agree under both tests -/

lemma mul_fireAbove_le_mul_fireFrom {weight threshold x : ℚ} (hweight : 0 ≤ weight)
    (hthreshold : 0 ≤ threshold) :
    weight * fireAbove threshold x ≤ weight * fireFrom threshold x :=
  mul_le_mul_of_nonneg_left (fireAbove_le_fireFrom hthreshold) hweight

section SeriousAttack

variable {a b c : ℚ}

/-- What the load or the forwarding rate concludes above its threshold is worth a tie. -/
lemma le_mul_fireAbove (ha : 2/5 < a) : 9/25 ≤ 9/10 * fireAbove (2/5) a := by
  rw [fireAbove_of_lt ha]
  linarith

/-- Where no evidence is worth a tie, the code concludes less than a tie would. -/
lemma max_fireAbove_lt (ha : a ≤ 2/5) (hb : b ≤ 2/5) (hc : c < 3/5) :
    max (9/10 * fireAbove (2/5) a)
      (max (9/10 * fireAbove (2/5) b) (3/5 * fireAbove (1/2) c)) < 9/25 := by
  have hdelay : 3/5 * fireAbove (1/2) c < 9/25 := by
    rw [fireAbove]
    split <;> linarith
  rw [fireAbove_of_le ha, fireAbove_of_le hb, mul_zero]
  exact max_lt (by norm_num) (max_lt (by norm_num) hdelay)

/-- What fires on its threshold only is covered by a competitor. -/
lemma max_fireFrom_le (hload : a = 2/5 ∨ b = 2/5 → 2/5 < a ∨ 2/5 < b ∨ 3/5 ≤ c)
    (hdelay : c = 1/2 → 2/5 < a ∨ 2/5 < b) :
    max (9/10 * fireFrom (2/5) a) (max (9/10 * fireFrom (2/5) b) (3/5 * fireFrom (1/2) c)) ≤
      max (9/10 * fireAbove (2/5) a)
        (max (9/10 * fireAbove (2/5) b) (3/5 * fireAbove (1/2) c)) := by
  have hcovered : a = 2/5 ∨ b = 2/5 → 9/25 ≤ max (9/10 * fireAbove (2/5) a)
      (max (9/10 * fireAbove (2/5) b) (3/5 * fireAbove (1/2) c)) := by
    intro htie
    rcases hload htie with ha | hb | hc
    · exact le_max_of_le_left (le_mul_fireAbove ha)
    · exact le_max_of_le_right (le_max_of_le_left (le_mul_fireAbove hb))
    · refine le_max_of_le_right (le_max_of_le_right ?_)
      rw [fireAbove_of_lt (by linarith)]
      linarith
  refine max_le ?_ (max_le ?_ ?_)
  · by_cases ha : a = 2/5
    · refine le_trans ?_ (hcovered (Or.inl ha))
      rw [ha, fireFrom_self]
      norm_num
    · rw [fireFrom_eq_of_ne ha]
      exact le_max_left _ _
  · by_cases hb : b = 2/5
    · refine le_trans ?_ (hcovered (Or.inr hb))
      rw [hb, fireFrom_self]
      norm_num
    · rw [fireFrom_eq_of_ne hb]
      exact le_max_of_le_right (le_max_left _ _)
  · by_cases hc : c = 1/2
    · have hsmall : 3/5 * fireFrom (1/2) c ≤ 9/25 := by
        rw [hc, fireFrom_self]
        norm_num
      refine hsmall.trans ?_
      rcases hdelay hc with ha | hb
      · exact le_max_of_le_left (le_mul_fireAbove ha)
      · exact le_max_of_le_right (le_max_of_le_left (le_mul_fireAbove hb))
    · rw [fireFrom_eq_of_ne hc]
      exact le_max_of_le_right (le_max_right _ _)

end SeriousAttack

lemma ruleSeriousAttack_eq_iff :
    ruleSeriousAttack fireAbove s = ruleSeriousAttack fireFrom s ↔
      (s p1LoadHigh = 2/5 ∨ s p4FwdLow = 2/5 →
        2/5 < s p1LoadHigh ∨ 2/5 < s p4FwdLow ∨ 3/5 ≤ s p5DelayHigh) ∧
      (s p5DelayHigh = 1/2 → 2/5 < s p1LoadHigh ∨ 2/5 < s p4FwdLow) := by
  unfold ruleSeriousAttack
  generalize s p1LoadHigh = a
  generalize s p4FwdLow = b
  generalize s p5DelayHigh = c
  constructor
  · intro heq
    constructor
    · intro htie
      by_contra! hnone
      obtain ⟨ha, hb, hc⟩ := hnone
      have hstrict := max_fireAbove_lt ha hb hc
      rw [heq] at hstrict
      -- but the tie itself concludes 9/25
      rcases htie with rfl | rfl
      · have hle := (le_max_left _ _).trans_lt hstrict
        rw [fireFrom_self] at hle
        norm_num at hle
      · have hle := ((le_max_left _ _).trans (le_max_right _ _)).trans_lt hstrict
        rw [fireFrom_self] at hle
        norm_num at hle
    · rintro rfl
      by_contra! hnone
      obtain ⟨ha, hb⟩ := hnone
      -- nothing fires in the code, while the delay concludes 3/10
      have hle := ((le_max_right _ _).trans (le_max_right _ _)).trans heq.ge
      rw [fireAbove_of_le ha, fireAbove_of_le hb, fireAbove_of_le le_rfl, fireFrom_self] at hle
      norm_num at hle
  · rintro ⟨hload, hdelay⟩
    refine le_antisymm ?_ (max_fireFrom_le hload hdelay)
    refine max_le_max ?_ (max_le_max ?_ ?_)
    · exact mul_fireAbove_le_mul_fireFrom (by norm_num) (by norm_num)
    · exact mul_fireAbove_le_mul_fireFrom (by norm_num) (by norm_num)
    · exact mul_fireAbove_le_mul_fireFrom (by norm_num) (by norm_num)

/-- The rules with a single transition agree off its threshold. -/
lemma mul_fire_eq_iff {weight threshold x : ℚ} (hweight : 0 < weight) (hthreshold : 0 < threshold) :
    weight * fireAbove threshold x = weight * fireFrom threshold x ↔ x ≠ threshold := by
  rw [mul_right_inj' hweight.ne', fireAbove_eq_fireFrom_iff hthreshold]

lemma ruleJellyfish_eq_iff : ruleJellyfish fireAbove s = ruleJellyfish fireFrom s ↔
    3/5 * s p2LoadLow + 2/5 * s p5DelayHigh ≠ 1/2 :=
  mul_fire_eq_iff (by norm_num) (by norm_num)

lemma ruleRouteAttack_eq_iff : ruleRouteAttack fireAbove s = ruleRouteAttack fireFrom s ↔
    s p7RouteBad ≠ 1/2 :=
  mul_fire_eq_iff (by norm_num) (by norm_num)

lemma ruleDataOk_eq_iff : ruleDataOk fireAbove s = ruleDataOk fireFrom s ↔
    1/10 * s p2LoadLow + 3/5 * s p3FwdHigh + 3/10 * s p6DelayLow ≠ 7/10 :=
  mul_fire_eq_iff (by norm_num) (by norm_num)

lemma ruleRouteOk_eq_iff : ruleRouteOk fireAbove s = ruleRouteOk fireFrom s ↔
    s p8RouteOk ≠ 4/5 :=
  fireAbove_eq_fireFrom_iff (by norm_num)

/-- Above its threshold a transition passes its input on; below, it could not come up to 2/5. -/
lemma mul_fireAbove_iff {weight threshold x : ℚ} (hweight : 0 < weight)
    (hlow : weight * threshold < 2/5) :
    (weight * fireAbove threshold x ≤ 2/5 ↔ weight * x ≤ 2/5) ∧
      (weight * fireAbove threshold x = 2/5 ↔ weight * x = 2/5) := by
  rcases le_or_gt x threshold with hx | hx
  · have hsmall : weight * x < 2/5 := (mul_le_mul_of_nonneg_left hx hweight.le).trans_lt hlow
    rw [fireAbove_of_le hx, mul_zero]
    exact ⟨iff_of_true (by norm_num) hsmall.le, iff_of_false (by norm_num) hsmall.ne⟩
  · rw [fireAbove_of_lt hx]
    exact ⟨Iff.rfl, Iff.rfl⟩

/-- The maximum is one of the three, and no less than the others. -/
lemma max_max_eq_iff {a b c d : ℚ} : max a (max b c) = d ↔
    (a ≤ d ∧ b ≤ d ∧ c ≤ d) ∧ (a = d ∨ b = d ∨ c = d) := by
  constructor
  · rintro rfl
    refine ⟨⟨le_max_left _ _, le_max_of_le_right (le_max_left _ _),
      le_max_of_le_right (le_max_right _ _)⟩, ?_⟩
    rcases max_choice a (max b c) with h | h
    · exact Or.inl h.symm
    · rw [h]
      exact Or.inr ((max_choice b c).imp Eq.symm Eq.symm)
  · rintro ⟨⟨ha, hb, hc⟩, hattained⟩
    refine le_antisymm (max_le ha (max_le hb hc)) ?_
    rcases hattained with rfl | rfl | rfl
    · exact le_max_left _ _
    · exact le_max_of_le_right (le_max_left _ _)
    · exact le_max_of_le_right (le_max_right _ _)

/-- R1 concludes the threshold of R6 exactly from such evidence. -/
lemma ruleSeriousAttack_eq_threshold_iff : ruleSeriousAttack fireAbove s = 2/5 ↔
    max (s p1LoadHigh) (max (s p4FwdLow) (2/3 * s p5DelayHigh)) = 4/9 := by
  have hscale : ∀ x : ℚ, (9/10 * x ≤ 2/5 ↔ x ≤ 4/9) ∧ (9/10 * x = 2/5 ↔ x = 4/9) := by
    intro x
    constructor <;> constructor <;> intro h <;> linarith
  have hscale' : ∀ x : ℚ, (3/5 * x ≤ 2/5 ↔ 2/3 * x ≤ 4/9) ∧ (3/5 * x = 2/5 ↔ 2/3 * x = 4/9) := by
    intro x
    constructor <;> constructor <;> intro h <;> linarith
  have hrate : ∀ x : ℚ, _ := fun x =>
    mul_fireAbove_iff (x := x) (show (0 : ℚ) < 9/10 by norm_num) (show 9/10 * (2/5) < 2/5 by norm_num)
  have hdelay := mul_fireAbove_iff (x := s p5DelayHigh) (show (0 : ℚ) < 3/5 by norm_num)
    (show 3/5 * (1/2) < 2/5 by norm_num)
  rw [ruleSeriousAttack, max_max_eq_iff, max_max_eq_iff, (hrate _).1, (hrate _).1, hdelay.1,
    (hrate _).2, (hrate _).2, hdelay.2, (hscale _).1, (hscale _).1, (hscale _).2, (hscale _).2,
    (hscale' _).1, (hscale' _).2]

/-! ### Where the verdicts agree -/

/-- R6, once the conclusions agree: R2 and R3 never conclude the threshold of R6, and R1 may. -/
lemma ruleDistrust_eq_iff (hserious : ruleSeriousAttack fireAbove s = ruleSeriousAttack fireFrom s)
    (hjellyfish : ruleJellyfish fireAbove s = ruleJellyfish fireFrom s)
    (hroute : ruleRouteAttack fireAbove s = ruleRouteAttack fireFrom s) :
    closedForm fireAbove s p14Distrust = closedForm fireFrom s p14Distrust ↔
      (ruleSeriousAttack fireAbove s = 2/5 →
        9/14 ≤ 3/5 * s p2LoadLow + 2/5 * s p5DelayHigh ∨ 1/2 < s p7RouteBad) := by
  -- What R2 and R3 conclude is nothing, or more than the threshold.
  have hjellyfish₀ : ruleJellyfish fireAbove s ≠ 2/5 := by
    rw [ruleJellyfish, fireAbove]
    split <;> intro h <;> linarith
  have hroute₀ : ruleRouteAttack fireAbove s ≠ 2/5 := by
    rw [ruleRouteAttack, fireAbove]
    split <;> intro h <;> linarith
  rw [closedForm_distrust, closedForm_distrust, ← hserious, ← hjellyfish, ← hroute,
    fireFrom_eq_of_ne hjellyfish₀, fireFrom_eq_of_ne hroute₀]
  by_cases htie : ruleSeriousAttack fireAbove s = 2/5
  · have hcover : 9/25 ≤ max (7/10 * fireAbove (2/5) (ruleJellyfish fireAbove s))
        (9/10 * fireAbove (2/5) (ruleRouteAttack fireAbove s)) ↔
        9/14 ≤ 3/5 * s p2LoadLow + 2/5 * s p5DelayHigh ∨ 1/2 < s p7RouteBad := by
      rw [le_max_iff]
      refine or_congr ?_ ?_
      · rw [ruleJellyfish]
        generalize 3/5 * s p2LoadLow + 2/5 * s p5DelayHigh = x
        rcases le_or_gt x (1/2) with hx | hx
        · rw [fireAbove_of_le hx, mul_zero, fireAbove_of_le (by norm_num)]
          constructor <;> intro h <;> linarith
        · rw [fireAbove_of_lt hx, fireAbove_of_lt (by linarith)]
          constructor <;> intro h <;> linarith
      · rw [ruleRouteAttack]
        rcases le_or_gt (s p7RouteBad) (1/2) with hx | hx
        · rw [fireAbove_of_le hx, mul_zero, fireAbove_of_le (by norm_num)]
          constructor <;> intro h <;> linarith
        · rw [fireAbove_of_lt hx, fireAbove_of_lt (by linarith)]
          constructor <;> intro h <;> linarith
    rw [htie, fireAbove_of_le le_rfl, fireFrom_self, mul_zero, ← hcover]
    have hnonneg : 0 ≤ max (7/10 * fireAbove (2/5) (ruleJellyfish fireAbove s))
        (9/10 * fireAbove (2/5) (ruleRouteAttack fireAbove s)) :=
      le_max_of_le_left (mul_nonneg (by norm_num) (fireAbove_nonneg (by norm_num) _))
    have hvalue : (9/10 * (2/5) : ℚ) = 9/25 := by norm_num
    rw [max_eq_right hnonneg, hvalue, eq_comm, max_eq_right_iff]
    exact ⟨fun hle _ => hle, fun hle => hle rfl⟩
  · rw [fireFrom_eq_of_ne htie]
    exact iff_of_true rfl fun h => absurd h htie

/-- R7, once the conclusions agree: no two conclusions meet its threshold. -/
lemma ruleTrust_eq (hs : IsInitial s) (hdata : ruleDataOk fireAbove s = ruleDataOk fireFrom s)
    (hroute : ruleRouteOk fireAbove s = ruleRouteOk fireFrom s) :
    closedForm fireAbove s p15Trust = closedForm fireFrom s p15Trust := by
  have hp2 := hs.unit p2LoadLow
  have hp3 := hs.unit p3FwdHigh
  have hp6 := hs.unit p6DelayLow
  have hp8 := hs.unit p8RouteOk
  rw [closedForm_trust, closedForm_trust, ← hdata, ← hroute, fireFrom_eq_of_ne]
  rw [ruleDataOk, ruleRouteOk, fireAbove, fireAbove]
  split <;> split <;> intro h <;> linarith

/-- The evidence leaves no transition on its threshold, or another transition covers what it does
there. -/
structure OffThresholds (s : Marking) : Prop where
  loadOrFwd : s p1LoadHigh = 2/5 ∨ s p4FwdLow = 2/5 →
    2/5 < s p1LoadHigh ∨ 2/5 < s p4FwdLow ∨ 3/5 ≤ s p5DelayHigh
  delay : s p5DelayHigh = 1/2 → 2/5 < s p1LoadHigh ∨ 2/5 < s p4FwdLow
  jellyfish : 3/5 * s p2LoadLow + 2/5 * s p5DelayHigh ≠ 1/2
  route : s p7RouteBad ≠ 1/2
  dataOk : 1/10 * s p2LoadLow + 3/5 * s p3FwdHigh + 3/10 * s p6DelayLow ≠ 7/10
  routeOk : s p8RouteOk ≠ 4/5
  serious : max (s p1LoadHigh) (max (s p4FwdLow) (2/3 * s p5DelayHigh)) = 4/9 →
    9/14 ≤ 3/5 * s p2LoadLow + 2/5 * s p5DelayHigh ∨ 1/2 < s p7RouteBad

/-- **The two closed forms** differ exactly where a threshold is met and not covered. -/
lemma closedForm_eq_iff (hs : IsInitial s) :
    closedForm fireAbove s = closedForm fireFrom s ↔ OffThresholds s := by
  constructor
  · intro heq
    have hserious : ruleSeriousAttack fireAbove s = ruleSeriousAttack fireFrom s := congrFun heq 8
    have hjellyfish : ruleJellyfish fireAbove s = ruleJellyfish fireFrom s := congrFun heq 9
    have hroute : ruleRouteAttack fireAbove s = ruleRouteAttack fireFrom s := congrFun heq 10
    have hdata : ruleDataOk fireAbove s = ruleDataOk fireFrom s := congrFun heq 11
    have hrouteOk : ruleRouteOk fireAbove s = ruleRouteOk fireFrom s := congrFun heq 12
    obtain ⟨hload, hdelay⟩ := ruleSeriousAttack_eq_iff.mp hserious
    refine ⟨hload, hdelay, ruleJellyfish_eq_iff.mp hjellyfish, ruleRouteAttack_eq_iff.mp hroute,
      ruleDataOk_eq_iff.mp hdata, ruleRouteOk_eq_iff.mp hrouteOk, fun htie => ?_⟩
    exact (ruleDistrust_eq_iff hserious hjellyfish hroute).mp
      (congrFun heq p14Distrust)
      (ruleSeriousAttack_eq_threshold_iff.mpr htie)
  · intro h
    have hserious := ruleSeriousAttack_eq_iff.mpr ⟨h.loadOrFwd, h.delay⟩
    have hjellyfish := ruleJellyfish_eq_iff.mpr h.jellyfish
    have hroute := ruleRouteAttack_eq_iff.mpr h.route
    have hdata := ruleDataOk_eq_iff.mpr h.dataOk
    have hrouteOk := ruleRouteOk_eq_iff.mpr h.routeOk
    have hdistrust : ruleDistrust fireAbove (intermediate fireAbove s) =
        ruleDistrust fireFrom (intermediate fireFrom s) :=
      (ruleDistrust_eq_iff hserious hjellyfish hroute).mpr fun htie =>
        h.serious (ruleSeriousAttack_eq_threshold_iff.mp htie)
    have htrust : ruleTrust fireAbove (intermediate fireAbove s) =
        ruleTrust fireFrom (intermediate fireFrom s) := ruleTrust_eq hs hdata hrouteOk
    rw [closedForm, closedForm, hserious, hjellyfish, hroute, hdata, hrouteOk, hdistrust, htrust]

/-! ### The property -/

/-- More evidence of an attack is no less distrust. -/
lemma closedForm_distrust_mono {s' : Marking} (hle : ∀ p, s p ≤ s' p) :
    closedForm fireAbove s p14Distrust ≤ closedForm fireAbove s' p14Distrust := by
  have hrule : ∀ {w t x y : ℚ}, 0 ≤ w → 0 ≤ t → x ≤ y → w * fireAbove t x ≤ w * fireAbove t y :=
    fun hw ht hxy => mul_le_mul_of_nonneg_left (fireAbove_mono ht hxy) hw
  have hserious : ruleSeriousAttack fireAbove s ≤ ruleSeriousAttack fireAbove s' :=
    max_le_max (hrule (by norm_num) (by norm_num) (hle _))
      (max_le_max (hrule (by norm_num) (by norm_num) (hle _))
        (hrule (by norm_num) (by norm_num) (hle _)))
  have hjellyfish : ruleJellyfish fireAbove s ≤ ruleJellyfish fireAbove s' := by
    have hp2 := hle p2LoadLow
    have hp5 := hle p5DelayHigh
    exact hrule (by norm_num) (by norm_num) (by linarith)
  have hroute : ruleRouteAttack fireAbove s ≤ ruleRouteAttack fireAbove s' :=
    hrule (by norm_num) (by norm_num) (hle _)
  rw [closedForm_distrust, closedForm_distrust]
  exact max_le_max (hrule (by norm_num) (by norm_num) hserious)
    (max_le_max (hrule (by norm_num) (by norm_num) hjellyfish)
      (hrule (by norm_num) (by norm_num) hroute))

/-- The bytes hold the parts of a verdict, to a half, and make 255, but for one. -/
structure HoldsVerdict (e : EvaluationVector) (v : ℚ × ℚ × ℚ) : Prop where
  trust : e.trust.toNat ≤ 255 ∧ |(e.trust.toNat : ℚ) - v.1 * 255| ≤ 1 / 2
  distrust : e.distrust.toNat ≤ 255 ∧ |(e.distrust.toNat : ℚ) - v.2.1 * 255| ≤ 1 / 2
  uncertain : e.uncertain.toNat ≤ 255 ∧ |(e.uncertain.toNat : ℚ) - v.2.2 * 255| ≤ 1 / 2
  sum : 254 ≤ e.trust.toNat + e.distrust.toNat + e.uncertain.toNat ∧
    e.trust.toNat + e.distrust.toNat + e.uncertain.toNat ≤ 256

lemma IsInitial.holdsVerdict (hs : IsInitial s) :
    HoldsVerdict (runFuzzyPetriNet s) (verdict (fpnLoop s).s) := by
  have hfits : ∀ b : UInt8, b.toNat ≤ 255 := fun b => Nat.le_of_lt_succ b.toNat_lt
  obtain ⟨⟨hdistrust, hdistrust'⟩, htrust, htrust'⟩ := hs.closedForm_mem
  rw [runFuzzyPetriNet_eq, hs.fpnLoop_eq]
  simp only
  -- In both branches the parts make one, and none of them is negative.
  have hparts : (0 ≤ (verdict (closedForm fireAbove s)).1 ∧
      0 ≤ (verdict (closedForm fireAbove s)).2.1 ∧ 0 ≤ (verdict (closedForm fireAbove s)).2.2) ∧
      (verdict (closedForm fireAbove s)).1 + (verdict (closedForm fireAbove s)).2.1 +
        (verdict (closedForm fireAbove s)).2.2 = 1 := by
    rw [verdict]
    split
    · next hlt =>
      refine ⟨⟨htrust, hdistrust, ?_⟩, ?_⟩
      · show 0 ≤ 1 - _ - _
        linarith
      · ring
    · refine ⟨⟨htrust, ?_, le_rfl⟩, ?_⟩
      · show 0 ≤ 1 - _
        linarith
      · ring
  generalize verdict (closedForm fireAbove s) = v at hparts
  obtain ⟨⟨h₁, h₂, h₃⟩, hsum⟩ := hparts
  have hr₁ := roundByte_spec (x := v.1 * 255) (by linarith) (by linarith)
  have hr₂ := roundByte_spec (x := v.2.1 * 255) (by linarith) (by linarith)
  have hr₃ := roundByte_spec (x := v.2.2 * 255) (by linarith) (by linarith)
  refine ⟨⟨hfits _, hr₁⟩, ⟨hfits _, hr₂⟩, ⟨hfits _, hr₃⟩, ?_⟩
  rw [abs_le] at hr₁ hr₂ hr₃
  -- Three halves are less than two.
  have hlo : (253 : ℚ) < ((roundByte (v.1 * 255)).toNat + (roundByte (v.2.1 * 255)).toNat +
      (roundByte (v.2.2 * 255)).toNat : ℕ) := by
    push_cast
    linarith
  have hhi : ((roundByte (v.1 * 255)).toNat + (roundByte (v.2.1 * 255)).toNat +
      (roundByte (v.2.2 * 255)).toNat : ℕ) < (257 : ℚ) := by
    push_cast
    linarith
  have hlo' : 253 < (roundByte (v.1 * 255)).toNat + (roundByte (v.2.1 * 255)).toNat +
      (roundByte (v.2.2 * 255)).toNat := by exact_mod_cast hlo
  have hhi' : (roundByte (v.1 * 255)).toNat + (roundByte (v.2.1 * 255)).toNat +
      (roundByte (v.2.2 * 255)).toNat < 257 := by exact_mod_cast hhi
  exact ⟨hlo', Nat.le_of_lt_succ hhi'⟩

/-- Algorithm 1, with the threshold operator of Definition 5. -/
structure ComputesAlgorithm1 (s : Marking) : Prop where
  /-- The loop comes to its marking in time. -/
  rounds : ∃ k < maxFpnIterations, (fpnLoop s).s = fpnNext^[k] s
  /-- Another round changes nothing, and the loop has seen that. -/
  fixpoint : fpnNext (fpnLoop s).s = (fpnLoop s).s ∧ (fpnLoop s).converged = true
  closedForm : (fpnLoop s).s = closedForm fireFrom s
  monotone : ∀ p ∈ [p1LoadHigh, p4FwdLow, p5DelayHigh, p7RouteBad], ∀ x, s p ≤ x → x ≤ 1 →
    (fpnLoop s).s p14Distrust ≤ (fpnLoop (Function.update s p x)).s p14Distrust
  bytes : HoldsVerdict (runFuzzyPetriNet s) (verdict (fpnLoop s).s)

/-- **The net computes the fixpoint of Algorithm 1** unless the evidence meets a threshold. -/
theorem computesAlgorithm1_iff (hs : IsInitial s) : ComputesAlgorithm1 s ↔ OffThresholds s := by
  rw [← closedForm_eq_iff hs]
  constructor
  · intro h
    have hclosed := h.closedForm
    rwa [hs.fpnLoop_eq] at hclosed
  · intro hclosed
    refine ⟨⟨2, by decide, ?_⟩, ⟨?_, ?_⟩, ?_, ?_, hs.holdsVerdict⟩
    · rw [hs.fpnLoop_eq, hs.iterate_two]
    · rw [hs.fpnLoop_eq, hs.fpnNext_closedForm]
    · rw [hs.fpnLoop_eq]
    · rw [hs.fpnLoop_eq]
      exact hclosed
    · intro p hp x hle hone
      have hevidence : ∀ p ∈ [p1LoadHigh, p4FwdLow, p5DelayHigh, p7RouteBad], p < 8 := by decide
      have hinitial := hs.update (hevidence p hp) ⟨(hs.unit p).1.trans hle, hone⟩
      have hraised : ∀ q, s q ≤ Function.update s p x q := by
        intro q
        rcases eq_or_ne q p with rfl | hne
        · rwa [Function.update_self]
        · rw [Function.update_of_ne hne]
      rw [hs.fpnLoop_eq, hinitial.fpnLoop_eq]
      exact closedForm_distrust_mono hraised

/-- A node that an eighth of its load leaves off all thresholds. -/
theorem idle_computesAlgorithm1_iff :
    IsInitial (({} : OlsrDefenseFpnt).metricsToS0 7 { countLoad := 78125 }) ∧
      ComputesAlgorithm1 (({} : OlsrDefenseFpnt).metricsToS0 7 { countLoad := 78125 }) := by
  have hinitial : IsInitial (({} : OlsrDefenseFpnt).metricsToS0 7 { countLoad := 78125 }) :=
    metricsToS0_isInitial (fun m hm => by cases hm) _
  refine ⟨hinitial, (computesAlgorithm1_iff hinitial).mpr ?_⟩
  constructor <;> decide +kernel

/-- 250000 bytes in a period are the load 2/5, exactly the threshold of R1. -/
theorem loaded_not_computesAlgorithm1 :
    IsInitial (({} : OlsrDefenseFpnt).metricsToS0 7 { countLoad := 250000 }) ∧
      ¬ ComputesAlgorithm1 (({} : OlsrDefenseFpnt).metricsToS0 7 { countLoad := 250000 }) := by
  have hinitial : IsInitial (({} : OlsrDefenseFpnt).metricsToS0 7 { countLoad := 250000 }) :=
    metricsToS0_isInitial (fun m hm => by cases hm) _
  refine ⟨hinitial, fun h => ?_⟩
  have hclosed := h.closedForm
  rw [hinitial.fpnLoop_eq] at hclosed
  have hoff := (closedForm_eq_iff hinitial).mp hclosed
  exact absurd (hoff.loadOrFwd (Or.inl (by decide +kernel))) (by decide +kernel)

end ManetOlsr.OlsrDefenseFpnt
