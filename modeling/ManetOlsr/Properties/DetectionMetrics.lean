/-
The bounds of the detection metrics.

A defender that has no attacker among its neighbors (any more) can accuse one all the same, so that
the accusations per defender in range need not be a share of anything.
-/
import ManetOlsr.Model.DetectionMetrics
import Mathlib.Algebra.BigOperators.Group.List.Basic
import Mathlib.Tactic.Linarith
import Mathlib.Tactic.Positivity

namespace ManetOlsr

/-! ### Percentages -/

def IsPercentage (x : ℚ) : Prop := 0 ≤ x ∧ x ≤ 100

instance (x : ℚ) : Decidable (IsPercentage x) := inferInstanceAs (Decidable (_ ∧ _))

lemma isPercentage_zero : IsPercentage 0 := ⟨le_rfl, by norm_num⟩

lemma isPercentage_div_iff {a b : ℕ} (hb : 0 < b) : IsPercentage (100 * a / b) ↔ a ≤ b := by
  have hpos : (0 : ℚ) < b := Nat.cast_pos.mpr hb
  have hle : (100 : ℚ) * a / b ≤ 100 ↔ a ≤ b := by
    rw [div_le_iff₀ hpos, mul_le_mul_iff_right₀ (by norm_num), Nat.cast_le]
  have hnonneg : (0 : ℚ) ≤ 100 * a / b := by positivity
  rw [IsPercentage, hle]
  exact and_iff_right hnonneg

/-! ### The defenders -/

def defenders (nodes : SampledNodes) (attackerIds : List UInt32) : List Defender :=
  nodes.zipIdx.filterMap (defenderAt attackerIds)

/-- The accusations of attackers by defenders out of range are no more than those that the
defenders in range have not made. -/
def RemoteAccusationsCovered (attackers : Finset Ipv4Address) (ds : List Defender) : Prop :=
  ((ds.filter fun d => !d.inRange attackers).map fun d => (d.blacklist ∩ attackers).card).sum ≤
    ((ds.filter (Defender.inRange attackers)).map fun d => (attackers \ d.blacklist).card).sum

section Defenders

variable (attackers : Finset Ipv4Address) (ds : List Defender)

/-- What the loop has counted. -/
lemma foldl_count (attackerIds : List UInt32) (l : List (Option SampledNode × ℕ))
    (c : DetectionSample) :
    l.foldl (fun c x => (defenderAt attackerIds x).elim c (c.count attackers)) c =
      (l.filterMap (defenderAt attackerIds)).foldl (DetectionSample.count attackers) c := by
  induction l generalizing c with
  | nil => rfl
  | cons x l ih =>
    rw [List.foldl_cons, ih, List.filterMap_cons]
    cases defenderAt attackerIds x with
    | none => rfl
    | some d => rfl

lemma foldl_count_totals (c : DetectionSample) :
    let c' := ds.foldl (DetectionSample.count attackers) c
    c'.defendersTotal = c.defendersTotal + UInt32.ofNat ds.length ∧
      c'.defendersInRange = c.defendersInRange +
        UInt32.ofNat (ds.filter (Defender.inRange attackers)).length ∧
      c'.trueDetections = c.trueDetections +
        UInt32.ofNat (ds.map fun d => (d.blacklist ∩ attackers).card).sum ∧
      c'.falseDetections = c.falseDetections +
        UInt32.ofNat (ds.map fun d => (d.blacklist \ attackers).card).sum := by
  induction ds generalizing c with
  | nil => exact ⟨(UInt32.add_zero _).symm, (UInt32.add_zero _).symm, (UInt32.add_zero _).symm,
      (UInt32.add_zero _).symm⟩
  | cons d ds ih =>
    obtain ⟨htotal, hrange, htrue, hfalse⟩ := ih (c.count attackers d)
    refine ⟨?_, ?_, ?_, ?_⟩
    · rw [List.foldl_cons, htotal, List.length_cons, Nat.add_comm ds.length, UInt32.ofNat_add,
        ← UInt32.add_assoc]
      rfl
    · rw [List.foldl_cons, hrange, List.filter_cons]
      cases hd : d.inRange attackers with
      | true =>
        simp only [DetectionSample.count, hd, if_true, List.length_cons, Nat.add_comm _ 1,
          UInt32.ofNat_add, ← UInt32.add_assoc]
        rfl
      | false =>
        simp only [DetectionSample.count, hd, Bool.false_eq_true, if_false, UInt32.add_zero]
    · rw [List.foldl_cons, htrue, List.map_cons, List.sum_cons, ← Finset.filter_mem_eq_inter,
        UInt32.ofNat_add, ← UInt32.add_assoc]
      rfl
    · rw [List.foldl_cons, hfalse, List.map_cons, List.sum_cons, Finset.sdiff_eq_filter,
        UInt32.ofNat_add, ← UInt32.add_assoc]
      rfl

/-- What is accused is an attacker or not. -/
lemma sum_accusations_add :
    (ds.map fun d => (d.blacklist ∩ attackers).card).sum +
      (ds.map fun d => (d.blacklist \ attackers).card).sum =
      (ds.map fun d => d.blacklist.card).sum := by
  induction ds with
  | nil => rfl
  | cons d ds ih =>
    have hd := Finset.card_inter_add_card_sdiff d.blacklist attackers
    simp only [List.map_cons, List.sum_cons]
    omega

/-- As long as they can be counted, the counters are the sums. -/
lemma foldl_count_toNat (hds : ds.length < 2 ^ 32)
    (haccusations : (ds.map fun d => d.blacklist.card).sum < 2 ^ 32) :
    let c := ds.foldl (DetectionSample.count attackers) {}
    c.defendersTotal.toNat = ds.length ∧
      c.defendersInRange.toNat = (ds.filter (Defender.inRange attackers)).length ∧
      c.trueDetections.toNat = (ds.map fun d => (d.blacklist ∩ attackers).card).sum ∧
      c.falseDetections.toNat = (ds.map fun d => (d.blacklist \ attackers).card).sum := by
  have hsize : UInt32.size = 2 ^ 32 := rfl
  have hsum := sum_accusations_add attackers ds
  have hfilter := List.length_filter_le (Defender.inRange attackers) ds
  obtain ⟨htotal, hrange, htrue, hfalse⟩ := foldl_count_totals attackers ds {}
  rw [UInt32.zero_add] at htotal hrange htrue hfalse
  -- Each of them is at most the number of the defenders or of all accusations.
  refine ⟨?_, ?_, ?_, ?_⟩
  · exact (congrArg UInt32.toNat htotal).trans (UInt32.toNat_ofNat_of_lt' (by omega))
  · exact (congrArg UInt32.toNat hrange).trans (UInt32.toNat_ofNat_of_lt' (by omega))
  · exact (congrArg UInt32.toNat htrue).trans (UInt32.toNat_ofNat_of_lt' (by omega))
  · exact (congrArg UInt32.toNat hfalse).trans (UInt32.toNat_ofNat_of_lt' (by omega))

/-- Each defender accuses at most all attackers. -/
lemma sum_accusations_le :
    (ds.map fun d => (d.blacklist ∩ attackers).card).sum ≤ ds.length * attackers.card := by
  induction ds with
  | nil => exact Nat.zero_le _
  | cons d ds ih =>
    have hd : (d.blacklist ∩ attackers).card ≤ attackers.card :=
      Finset.card_le_card Finset.inter_subset_right
    rw [List.map_cons, List.sum_cons, List.length_cons, Nat.succ_mul]
    omega

/-- The bound in range, with the accusations of the others on one side. -/
lemma sum_accusations_le_iff :
    (ds.map fun d => (d.blacklist ∩ attackers).card).sum ≤
        (ds.filter (Defender.inRange attackers)).length * attackers.card ↔
      RemoteAccusationsCovered attackers ds := by
  have hsum : (ds.map fun d => (d.blacklist ∩ attackers).card).sum +
      ((ds.filter (Defender.inRange attackers)).map fun d => (attackers \ d.blacklist).card).sum =
      (ds.filter (Defender.inRange attackers)).length * attackers.card +
        ((ds.filter fun d => !d.inRange attackers).map
          fun d => (d.blacklist ∩ attackers).card).sum := by
    induction ds with
    | nil => simp
    | cons d ds ih =>
      have hd : (attackers \ d.blacklist).card + (d.blacklist ∩ attackers).card =
          attackers.card := by
        rw [Finset.inter_comm]
        exact Finset.card_sdiff_add_card_inter attackers d.blacklist
      rw [List.map_cons, List.sum_cons, List.filter_cons, List.filter_cons]
      cases d.inRange attackers with
      | true =>
        simp only [if_true, Bool.not_true, Bool.false_eq_true, if_false, List.map_cons,
          List.sum_cons, List.length_cons, Nat.succ_mul]
        omega
      | false =>
        simp only [if_true, Bool.not_false, Bool.false_eq_true, if_false, List.map_cons,
          List.sum_cons]
        omega
  rw [RemoteAccusationsCovered]
  omega

end Defenders

/-! ### The rates -/

section Rates

variable {attackers : Finset Ipv4Address} {c : DetectionSample}

/-- A rate that is only computed where its denominator is positive. -/
lemma isPercentage_rate_iff {a b : ℕ} :
    IsPercentage (if 0 < b then 100 * a / b else 0) ↔ b = 0 ∨ a ≤ b := by
  rcases Nat.eq_zero_or_pos b with rfl | hb
  · rw [if_neg (lt_irrefl 0)]
    exact iff_of_true isPercentage_zero (Or.inl rfl)
  · rw [if_pos hb, isPercentage_div_iff hb]
    exact ⟨Or.inr, fun h => h.resolve_left hb.ne'⟩

/-- The same for a rate per defender and attacker. -/
lemma isPercentage_perAttacker_iff (hattackers : attackers.Nonempty) (a d : UInt32) :
    IsPercentage (if 0 < d then 100 * a.toNat / (d.toNat * (attackers.card : ℚ)) else 0) ↔
      d.toNat = 0 ∨ a.toNat ≤ d.toNat * attackers.card := by
  have hcard := hattackers.card_pos
  have hrate := isPercentage_rate_iff (a := a.toNat) (b := d.toNat * attackers.card)
  rw [Nat.mul_eq_zero, or_iff_left hcard.ne', Nat.cast_mul] at hrate
  rw [← hrate]
  simp only [UInt32.lt_iff_toNat_lt, UInt32.toNat_zero, Nat.mul_pos_iff_of_pos_right hcard]

/-- The false alarms are a share of the accusations, unless the sum of both wraps around. -/
lemma rates_falseAlarmRate (h : c.trueDetections.toNat + c.falseDetections.toNat < 2 ^ 32) :
    IsPercentage (c.rates attackers).falseAlarmRate := by
  have htotal : (c.trueDetections + c.falseDetections).toNat =
      c.trueDetections.toNat + c.falseDetections.toNat := by
    rw [UInt32.toNat_add, Nat.mod_eq_of_lt h]
  have hrate := isPercentage_rate_iff (a := c.falseDetections.toNat)
    (b := (c.trueDetections + c.falseDetections).toNat)
  simp only [DetectionSample.rates, UInt32.lt_iff_toNat_lt, UInt32.toNat_zero]
  rw [hrate, htotal]
  exact Or.inr (Nat.le_add_left _ _)

end Rates

/-- All three metrics are percentages. -/
structure DetectionSample.IsSound (s : DetectionSample) : Prop where
  detectionPercent : IsPercentage s.detectionPercent
  detectionPercentInRange : IsPercentage s.detectionPercentInRange
  falseAlarmRate : IsPercentage s.falseAlarmRate

/-- What is computed from the counters, as long as none of them wraps around. -/
lemma rates_isSound_iff {attackers : Finset Ipv4Address} {ds : List Defender}
    (hattackers : attackers.Nonempty) (hds : ds.length < 2 ^ 32)
    (haccusations : (ds.map fun d => d.blacklist.card).sum < 2 ^ 32) :
    ((ds.foldl (DetectionSample.count attackers) {}).rates attackers).IsSound ↔
      (∀ d ∈ ds, d.inRange attackers = false) ∨ RemoteAccusationsCovered attackers ds := by
  have hsum := sum_accusations_add attackers ds
  obtain ⟨htotal, hrange, htrue, hfalse⟩ := foldl_count_toNat attackers ds hds haccusations
  set counted := ds.foldl (DetectionSample.count attackers) {}
  have hnone : (ds.filter (Defender.inRange attackers)).length = 0 ↔
      ∀ d ∈ ds, d.inRange attackers = false := by
    simp only [List.length_eq_zero_iff, List.filter_eq_nil_iff, Bool.not_eq_true]
  -- Only the share of those in range can exceed the whole.
  have hinRange : IsPercentage (counted.rates attackers).detectionPercentInRange ↔ _ :=
    isPercentage_perAttacker_iff hattackers counted.trueDetections counted.defendersInRange
  rw [hrange, htrue, sum_accusations_le_iff, hnone] at hinRange
  have hall : IsPercentage (counted.rates attackers).detectionPercent := by
    refine (isPercentage_perAttacker_iff hattackers _ counted.defendersTotal).mpr (Or.inr ?_)
    rw [htotal, htrue]
    exact sum_accusations_le attackers ds
  have hfalseAlarm : IsPercentage (counted.rates attackers).falseAlarmRate :=
    rates_falseAlarmRate (by omega)
  exact ⟨fun h => hinRange.mp h.detectionPercentInRange,
    fun h => ⟨hall, hinRange.mpr h, hfalseAlarm⟩⟩

/-- No defender is in range of an attacker, or those in range lack enough accusations. -/
def AccusationsInRange (nodes : SampledNodes) (attackerIds : List UInt32) : Prop :=
  let attackers := attackerAddresses nodes attackerIds
  (∀ d ∈ defenders nodes attackerIds, d.inRange attackers = false) ∨
    RemoteAccusationsCovered attackers (defenders nodes attackerIds)

/-- The nodes and their accusations can be counted by a `uint32_t`. -/
def Countable (nodes : SampledNodes) (attackerIds : List UInt32) : Prop :=
  nodes.length < 2 ^ 32 ∧
    ((defenders nodes attackerIds).map fun d => d.blacklist.card).sum < 2 ^ 32

/-- **The metrics.**  As long as nodes and accusations can be counted, they are percentages exactly
where nothing is sampled or the accusations come from within range. -/
theorem sampleDetectionAccuracy_isSound_iff (runRejected : Bool) (nodes : Option SampledNodes)
    (attackerIds : List UInt32) (hcountable : ∀ ns, nodes = some ns → Countable ns attackerIds) :
    (sampleDetectionAccuracy runRejected nodes attackerIds).IsSound ↔
      runRejected = true ∨ ∀ ns, nodes = some ns → AccusationsInRange ns attackerIds := by
  have hnothing : ({} : DetectionSample).IsSound :=
    ⟨isPercentage_zero, isPercentage_zero, isPercentage_zero⟩
  rw [sampleDetectionAccuracy]
  cases runRejected with
  | true => exact iff_of_true hnothing (Or.inl rfl)
  | false =>
    rw [if_neg Bool.false_ne_true, or_iff_right Bool.false_ne_true]
    cases nodes with
    | none => exact iff_of_true hnothing (by rintro ns ⟨⟩)
    | some nodes =>
      obtain ⟨hnodes, haccusations⟩ := hcountable nodes rfl
      rw [Option.elim_some]
      simp only [Option.some.injEq, forall_eq', AccusationsInRange]
      set attackers := attackerAddresses nodes attackerIds
      rcases attackers.eq_empty_or_nonempty with hempty | hne
      · rw [if_pos hempty]
        refine iff_of_true hnothing (Or.inr ?_)
        rw [RemoteAccusationsCovered, hempty]
        simp
      · rw [if_neg hne.ne_empty, foldl_count, ← defenders]
        have hlength : (defenders nodes attackerIds).length ≤ nodes.length :=
          (List.length_filterMap_le _ _).trans (List.length_zipIdx).le
        exact rates_isSound_iff hne (hlength.trans_lt hnodes) haccusations

/-- Node 0 attacks.  Node 1 has it as a neighbor and accuses it, and so does node 2, which has no
neighbors. -/
def farAccuser : SampledNodes :=
  [some ⟨1, [], none⟩, some ⟨2, [⟨1, .sym, .default⟩], some {1}⟩, some ⟨3, [], some {1}⟩]

theorem farAccuser_isSound_iff :
    (sampleDetectionAccuracy false (some farAccuser) [0]).IsSound ↔
      false = true ∨ ∀ ns, some farAccuser = some ns → AccusationsInRange ns [0] :=
  sampleDetectionAccuracy_isSound_iff false (some farAccuser) [0] (by
    rintro ns ⟨⟩
    exact ⟨by decide, by decide⟩)

/-- Two accusations are 200 percent of what the only defender in range can make. -/
theorem farAccuser_not_isPercentage :
    (sampleDetectionAccuracy false (some farAccuser) [0]).detectionPercentInRange = 200 ∧
      ¬ IsPercentage (sampleDetectionAccuracy false (some farAccuser) [0]).detectionPercentInRange := by
  decide +kernel

end ManetOlsr
