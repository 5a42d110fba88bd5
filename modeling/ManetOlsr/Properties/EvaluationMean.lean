/-
The mean of the evaluations of a neighbor (`AggregateEvaluations` of the FPNT defense).

The weights go with the inverses of the sums `DIF`, and the code guards these divisions by the
largest `DIF` alone.  That is enough: the evaluations lie in a space with a distance, where one sum
cannot be zero unless all are.  The weights are there against slander, and the second result bounds
what slanderers achieve.
-/
import ManetOlsr.Lib.WeightedMean
import ManetOlsr.Model.FpntDefense

namespace ManetOlsr.OlsrDefenseFpnt

open Lib

/-- What a byte of an evaluation stands for. -/
def decode (x : UInt8) : ℚ := x.toNat / 255

lemma decode_mem (x : UInt8) : 0 ≤ decode x ∧ decode x ≤ 1 := by
  have hle : (x.toNat : ℚ) ≤ 255 := by
    have hlt : x.toNat < 256 := x.toNat_lt
    exact_mod_cast Nat.le_of_lt_succ hlt
  refine ⟨div_nonneg (Nat.cast_nonneg _) (by norm_num), ?_⟩
  rw [decode, div_le_one (by norm_num)]
  exact hle

/-- Different bytes are at least a step apart. -/
lemma le_abs_decode_sub {x y : UInt8} (hne : x ≠ y) : 1 / 255 ≤ |decode x - decode y| := by
  have hnat : x.toNat ≠ y.toNat := mt UInt8.toNat_inj.mp hne
  have hint : (1 : ℤ) ≤ |(x.toNat : ℤ) - y.toNat| := by
    apply Int.one_le_abs
    omega
  have hrat : (1 : ℚ) ≤ |(x.toNat : ℚ) - y.toNat| := by exact_mod_cast hint
  rw [decode, decode, ← sub_div, abs_div, abs_of_pos (by norm_num : (0 : ℚ) < 255)]
  gcongr

/-! ### The distance of evaluations -/

lemma isDistance_evDistance : IsDistance evDistance where
  nonneg e e' := add_nonneg (add_nonneg (abs_nonneg _) (abs_nonneg _)) (abs_nonneg _)
  self e := by simp [evDistance]
  symm e e' := by
    rw [evDistance, evDistance, abs_sub_comm (_ : ℚ) (e'.trust.toNat / 255),
      abs_sub_comm (_ : ℚ) (e'.distrust.toNat / 255),
      abs_sub_comm (_ : ℚ) (e'.uncertain.toNat / 255)]
  triangle e₁ e₂ e₃ := by
    have htrust := abs_sub_le (decode e₁.trust) (decode e₂.trust) (decode e₃.trust)
    have hdistrust := abs_sub_le (decode e₁.distrust) (decode e₂.distrust) (decode e₃.distrust)
    have huncertain := abs_sub_le (decode e₁.uncertain) (decode e₂.uncertain) (decode e₃.uncertain)
    unfold decode at htrust hdistrust huncertain
    unfold evDistance
    linarith

/-- Different evaluations are at least a step apart. -/
lemma le_evDistance {e e' : EvaluationVector} (hne : e ≠ e') : 1 / 255 ≤ evDistance e e' := by
  have htrust := abs_nonneg (decode e.trust - decode e'.trust)
  have hdistrust := abs_nonneg (decode e.distrust - decode e'.distrust)
  have huncertain := abs_nonneg (decode e.uncertain - decode e'.uncertain)
  show 1 / 255 ≤ |decode e.trust - decode e'.trust| + |decode e.distrust - decode e'.distrust| +
    |decode e.uncertain - decode e'.uncertain|
  by_cases h₁ : e.trust = e'.trust
  · by_cases h₂ : e.distrust = e'.distrust
    · have h₃ : e.uncertain ≠ e'.uncertain := by
        intro h₃
        apply hne
        cases e
        cases e'
        simp only at h₁ h₂ h₃
        rw [h₁, h₂, h₃]
      linarith [le_abs_decode_sub h₃]
    · linarith [le_abs_decode_sub h₂]
  · linarith [le_abs_decode_sub h₁]

/-! ### The weights -/

variable {evs : List EvaluationVector}

lemma dif_eq_distanceSum (evs : List EvaluationVector) : dif evs = distanceSum evDistance evs := rfl

lemma maxDif_lt_iff : maxDif evs < difEps ↔ ∀ e ∈ evs, dif evs e < difEps := by
  have heps : 0 < difEps := by norm_num [difEps]
  rw [maxDif, foldl_max_lt_iff, List.forall_mem_map]
  exact and_iff_right heps

/-- The guard is enough. -/
lemma dif_pos (hmax : difEps ≤ maxDif evs) (e : EvaluationVector) : 0 < dif evs e := by
  have heps : 0 < difEps := by norm_num [difEps]
  obtain ⟨e', he', hle⟩ : ∃ e' ∈ evs, difEps ≤ dif evs e' := by
    by_contra hnone
    push Not at hnone
    exact absurd hmax (not_le.mpr (maxDif_lt_iff.mpr hnone))
  exact isDistance_evDistance.distanceSum_pos he' (heps.trans_le hle) e

/-- The weights are equal only where the evaluations are. -/
lemma maxDif_lt_iff_eq : maxDif evs < difEps ↔ ∀ e ∈ evs, ∀ e' ∈ evs, e = e' := by
  rw [maxDif_lt_iff]
  constructor
  · intro hlt e he e' he'
    by_contra hne
    have hstep := le_evDistance hne
    have hle := isDistance_evDistance.le_distanceSum (a := e) he'
    have hdif := hlt e he
    rw [dif_eq_distanceSum, difEps] at hdif
    linarith
  · intro hall e he
    have hsum : dif evs e = 0 := List.sum_eq_zero fun x hx => by
      obtain ⟨e', he', rfl⟩ := List.mem_map.mp hx
      rw [hall e he e' he']
      exact isDistance_evDistance.self e'
    rw [hsum]
    norm_num [difEps]

/-- No divisor of `AggregateEvaluations` is zero. -/
def NoZeroDivision (evs : List EvaluationVector) : Prop :=
  if maxDif evs < difEps then (evs.length : ℚ) ≠ 0
  else (∀ e ∈ evs, dif evs e ≠ 0) ∧ (evs.map fun e => 1 / dif evs e).sum ≠ 0

lemma isWeighting_alpha (hne : evs ≠ []) :
    NoZeroDivision evs ∧ IsWeighting (alpha evs) evs := by
  unfold NoZeroDivision alpha
  split
  · exact ⟨Nat.cast_ne_zero.mpr (mt List.length_eq_zero_iff.mp hne), IsWeighting.equal hne⟩
  · next hmax =>
    have hpos := dif_pos (not_lt.mp hmax)
    obtain ⟨hsum, hweighting⟩ := IsWeighting.normalized (v := fun e => 1 / dif evs e) hne
      fun e _ => one_div_pos.mpr (hpos e)
    exact ⟨⟨fun e _ => (hpos e).ne', hsum.ne'⟩, hweighting⟩

/-! ### The outputs -/

lemma clamp_of_mem {x lo hi : ℚ} (hlo : lo ≤ x) (hhi : x ≤ hi) : clamp x lo hi = x := by
  rw [clamp, if_neg (not_lt.mpr hlo), if_neg (not_lt.mpr hhi)]

/-- The clamp finds nothing to do. -/
lemma aggregateEvaluations_eq (hne : evs ≠ []) :
    aggregateEvaluations evs = (weightedMean (alpha evs) (fun e => decode e.trust) evs,
      weightedMean (alpha evs) (fun e => decode e.uncertain) evs) := by
  have hunit : ∀ part : EvaluationVector → UInt8,
      clamp (weightedMean (alpha evs) (fun e => decode (part e)) evs) 0 1 =
        weightedMean (alpha evs) (fun e => decode (part e)) evs := by
    intro part
    have hweighting := (isWeighting_alpha hne).2
    obtain ⟨e, -, hlo⟩ := hweighting.exists_le_weightedMean (f := fun e => decode (part e))
    obtain ⟨e', -, hhi⟩ := hweighting.exists_weightedMean_le (f := fun e => decode (part e))
    exact clamp_of_mem ((decode_mem _).1.trans hlo) (hhi.trans (decode_mem _).2)
  exact Prod.ext (hunit EvaluationVector.trust) (hunit EvaluationVector.uncertain)

/-- The order of the evaluations does not matter. -/
lemma aggregateEvaluations_perm {evs' : List EvaluationVector} (h : evs'.Perm evs) :
    aggregateEvaluations evs' = aggregateEvaluations evs := by
  have hdif : dif evs' = dif evs := distanceSum_perm h
  have hmax : maxDif evs' = maxDif evs := by
    rw [maxDif, maxDif, hdif]
    exact foldl_max_perm (h.map _) 0
  have halpha : alpha evs' = alpha evs := by
    funext e
    rw [alpha, alpha, hmax, hdif, h.length_eq, (h.map fun e' => 1 / dif evs e').sum_eq]
  have hmean : ∀ f : EvaluationVector → ℚ,
      weightedMean (alpha evs') f evs' = weightedMean (alpha evs) f evs := by
    intro f
    rw [halpha]
    exact weightedMean_perm h
  exact Prod.ext (congrArg (fun x => clamp x 0 1) (hmean fun e => decode e.trust))
    (congrArg (fun x => clamp x 0 1) (hmean fun e => decode e.uncertain))

/-- A number between the least and the largest value of a list. -/
def Between (f : EvaluationVector → ℚ) (evs : List EvaluationVector) (x : ℚ) : Prop :=
  (∃ e ∈ evs, f e ≤ x) ∧ ∃ e ∈ evs, x ≤ f e

/-- **The aggregation is a weighted mean.**  Where the guard lets the inverses of the `DIF` through
they are all positive, no division is by zero, the weights are positive and sum to one, the outputs
lie between the least and the largest input, and they do not depend on the order. -/
theorem aggregateEvaluations_spec (evs : List EvaluationVector) (hne : evs ≠ []) :
    (difEps ≤ maxDif evs → ∀ e ∈ evs, 0 < dif evs e) ∧
    NoZeroDivision evs ∧
    (∀ e ∈ evs, 0 < alpha evs e) ∧ (evs.map (alpha evs)).sum = 1 ∧
    Between (fun e => decode e.trust) evs (aggregateEvaluations evs).1 ∧
    Between (fun e => decode e.uncertain) evs (aggregateEvaluations evs).2 ∧
    ∀ evs', evs'.Perm evs → aggregateEvaluations evs' = aggregateEvaluations evs := by
  obtain ⟨hdivision, hweighting⟩ := isWeighting_alpha hne
  have hbetween : ∀ f : EvaluationVector → ℚ,
      Between f evs (weightedMean (alpha evs) f evs) := fun f =>
    ⟨hweighting.exists_le_weightedMean, hweighting.exists_weightedMean_le⟩
  have houtputs := aggregateEvaluations_eq hne
  refine ⟨fun hmax e _ => dif_pos hmax e, hdivision, hweighting.pos, hweighting.sum_eq_one,
    ?_, ?_, fun evs' h => aggregateEvaluations_perm h⟩
  · rw [houtputs]
    exact hbetween _
  · rw [houtputs]
    exact hbetween _

/-- A slanderer among three. -/
theorem slander_aggregateEvaluations_spec :
    (difEps ≤ maxDif [⟨200, 30, 25⟩, ⟨0, 255, 0⟩, ⟨200, 30, 25⟩] →
      ∀ e ∈ [⟨200, 30, 25⟩, ⟨0, 255, 0⟩, ⟨200, 30, 25⟩],
        0 < dif [⟨200, 30, 25⟩, ⟨0, 255, 0⟩, ⟨200, 30, 25⟩] e) ∧
    NoZeroDivision [⟨200, 30, 25⟩, ⟨0, 255, 0⟩, ⟨200, 30, 25⟩] ∧
    (∀ e ∈ [⟨200, 30, 25⟩, ⟨0, 255, 0⟩, ⟨200, 30, 25⟩],
      0 < alpha [⟨200, 30, 25⟩, ⟨0, 255, 0⟩, ⟨200, 30, 25⟩] e) := by
  obtain ⟨hdif, hdivision, hpos, -⟩ :=
    aggregateEvaluations_spec [⟨200, 30, 25⟩, ⟨0, 255, 0⟩, ⟨200, 30, 25⟩] (by decide)
  exact ⟨hdif, hdivision, hpos⟩

/-! ### Slander -/

/-- The parts of two evaluations are not farther from each other than the evaluations. -/
lemma abs_decode_sub_le_evDistance (e e' : EvaluationVector) :
    |decode e.trust - decode e'.trust| ≤ evDistance e e' ∧
      |decode e.uncertain - decode e'.uncertain| ≤ evDistance e e' := by
  have htrust := abs_nonneg (decode e.trust - decode e'.trust)
  have hdistrust := abs_nonneg (decode e.distrust - decode e'.distrust)
  have huncertain := abs_nonneg (decode e.uncertain - decode e'.uncertain)
  have hdistance : evDistance e e' = |decode e.trust - decode e'.trust| +
      |decode e.distrust - decode e'.distrust| + |decode e.uncertain - decode e'.uncertain| := rfl
  constructor <;> linarith

/-- The largest distance of an evaluation in the list from this one. -/
def farthest (evs : List EvaluationVector) (e : EvaluationVector) : ℚ :=
  (evs.map (evDistance e)).foldl max 0

variable (evs) in
lemma evDistance_le_farthest (e : EvaluationVector) :
    0 ≤ farthest evs e ∧ ∀ e' ∈ evs, evDistance e e' ≤ farthest evs e := by
  have hle := foldl_max_le_iff.mp (le_refl (farthest evs e))
  rwa [List.forall_mem_map] at hle

/-- A part of the evaluations that is no farther apart than they are. -/
lemma weightedMean_alpha_slander {f : EvaluationVector → ℚ}
    (hf : ∀ e e', |f e - f e'| ≤ evDistance e e') {e : EvaluationVector} (he : 0 < evs.count e) :
    |weightedMean (alpha evs) f evs - f e| ≤
      ((evs.length - evs.count e) / evs.count e) ^ 2 * farthest evs e := by
  have hmem : e ∈ evs := List.count_pos_iff.mp he
  obtain ⟨hfarthest, hle⟩ := evDistance_le_farthest evs e
  by_cases hmax : maxDif evs < difEps
  · -- All evaluations are equal, and so is their mean.
    have hequal := maxDif_lt_iff_eq.mp hmax
    have hmean : weightedMean (alpha evs) f evs = f e := by
      have hweighting := (isWeighting_alpha (List.ne_nil_of_mem hmem)).2
      rw [← hweighting.weightedMean_const (f e), weightedMean, weightedMean]
      congr 1
      apply List.map_congr_left
      intro e' he'
      rw [hequal e' he' e hmem]
    rw [hmean, sub_self, abs_zero]
    exact mul_nonneg (sq_nonneg _) hfarthest
  · have halpha : alpha evs = fun a => 1 / distanceSum evDistance evs a /
        (evs.map fun b => 1 / distanceSum evDistance evs b).sum := by
      funext a
      rw [alpha, if_neg hmax]
      rfl
    rw [halpha]
    exact isDistance_evDistance.abs_weightedMean_inverse_sub_le
      (fun a _ => dif_pos (not_lt.mp hmax) a) hf he hle

/-- **Slander is bounded.**  Where `m` of `n` evaluations are `e`, the trust and the uncertainty
stay as close to those of `e` as `((n - m) / m) ^ 2` times the distance of the farthest of the
others, whatever the others are. -/
theorem aggregateEvaluations_slander (evs : List EvaluationVector) (e : EvaluationVector)
    (he : 1 ≤ evs.count e) :
    |(aggregateEvaluations evs).1 - decode e.trust| ≤
      ((evs.length - evs.count e) / evs.count e) ^ 2 * farthest evs e ∧
    |(aggregateEvaluations evs).2 - decode e.uncertain| ≤
      ((evs.length - evs.count e) / evs.count e) ^ 2 * farthest evs e := by
  have hne : evs ≠ [] := List.ne_nil_of_mem (List.count_pos_iff.mp he)
  rw [aggregateEvaluations_eq hne]
  exact ⟨weightedMean_alpha_slander (fun a b => (abs_decode_sub_le_evDistance a b).1) he,
    weightedMean_alpha_slander (fun a b => (abs_decode_sub_le_evDistance a b).2) he⟩

/-- Two who agree, and a slanderer. -/
theorem two_to_one_aggregateEvaluations_slander :
    |(aggregateEvaluations [⟨200, 30, 25⟩, ⟨0, 255, 0⟩, ⟨200, 30, 25⟩]).1 - 200 / 255| ≤
      (1 / 2) ^ 2 * (450 / 255) := by
  have hslander := (aggregateEvaluations_slander
    [⟨200, 30, 25⟩, ⟨0, 255, 0⟩, ⟨200, 30, 25⟩] ⟨200, 30, 25⟩ (by decide)).1
  have hcoefficient : (((([⟨200, 30, 25⟩, ⟨0, 255, 0⟩, ⟨200, 30, 25⟩] :
      List EvaluationVector).length : ℚ) -
      ([⟨200, 30, 25⟩, ⟨0, 255, 0⟩, ⟨200, 30, 25⟩] : List EvaluationVector).count ⟨200, 30, 25⟩) /
      ([⟨200, 30, 25⟩, ⟨0, 255, 0⟩, ⟨200, 30, 25⟩] : List EvaluationVector).count ⟨200, 30, 25⟩) =
      1 / 2 := by
    have hcount : ([⟨200, 30, 25⟩, ⟨0, 255, 0⟩, ⟨200, 30, 25⟩] : List EvaluationVector).count
        ⟨200, 30, 25⟩ = 2 := by decide
    rw [hcount]
    norm_num
  have hfarthest : farthest [⟨200, 30, 25⟩, ⟨0, 255, 0⟩, ⟨200, 30, 25⟩] ⟨200, 30, 25⟩ =
      450 / 255 := by
    decide +kernel
  rwa [hcoefficient, hfarthest] at hslander

end ManetOlsr.OlsrDefenseFpnt
