/-
Weighted means of a list, and weights by inverse distance.

Weights that are positive and sum to one make a mean that lies between two of the values.  Such
weights come from any positive numbers by dividing them by their sum; the numbers here are the
inverses of how far an item is from the items of the list all together.  That no item is at distance
zero is a matter of the triangle inequality: an item at distance zero from the others draws them all
together.  An item that is in the list many times is close to the list all together, and everything
far from it is far from the list; so the mean stays with it (`abs_weightedMean_inverse_sub_le`).
-/
import Mathlib.Algebra.BigOperators.Ring.List
import Mathlib.Algebra.Order.AbsoluteValue.Basic
import Mathlib.Algebra.Order.BigOperators.Group.List
import Mathlib.Algebra.Order.Field.Basic
import Mathlib.Tactic.FieldSimp
import Mathlib.Tactic.Linarith
import Mathlib.Tactic.Positivity

namespace ManetOlsr.Lib

variable {α K : Type} [Field K] [LinearOrder K] [IsStrictOrderedRing K]

/-! ### Weighted means -/

def weightedMean (w f : α → K) (l : List α) : K := (l.map fun a => w a * f a).sum

/-- Positive weights that sum to one. -/
structure IsWeighting (w : α → K) (l : List α) : Prop where
  pos : ∀ a ∈ l, 0 < w a
  sum_eq_one : (l.map w).sum = 1

namespace IsWeighting

variable {w f : α → K} {l : List α} {x : K}

lemma ne_nil (h : IsWeighting w l) : l ≠ [] := by
  rintro rfl
  exact absurd h.sum_eq_one (by simp)

omit [IsStrictOrderedRing K] in
/-- The mean of a constant. -/
lemma weightedMean_const (h : IsWeighting w l) (x : K) : weightedMean w (fun _ => x) l = x := by
  rw [weightedMean, List.sum_map_mul_right, h.sum_eq_one, one_mul]

/-- Some value is at least the mean. -/
lemma exists_weightedMean_le (h : IsWeighting w l) : ∃ a ∈ l, weightedMean w f l ≤ f a := by
  have hmean := h.weightedMean_const (weightedMean w f l)
  obtain ⟨a, ha, hle⟩ := List.exists_le_of_sum_le h.ne_nil
    (fun a => w a * weightedMean w f l) (fun a => w a * f a) hmean.le
  exact ⟨a, ha, le_of_mul_le_mul_left hle (h.pos a ha)⟩

/-- Some value is at most the mean. -/
lemma exists_le_weightedMean (h : IsWeighting w l) : ∃ a ∈ l, f a ≤ weightedMean w f l := by
  have hmean := h.weightedMean_const (weightedMean w f l)
  obtain ⟨a, ha, hle⟩ := List.exists_le_of_sum_le h.ne_nil
    (fun a => w a * f a) (fun a => w a * weightedMean w f l) hmean.ge
  exact ⟨a, ha, le_of_mul_le_mul_left hle (h.pos a ha)⟩

/-- The same weight for every item. -/
lemma equal (hne : l ≠ []) : IsWeighting (fun _ => 1 / (l.length : K)) l := by
  have hlength : (0 : K) < l.length := Nat.cast_pos.mpr (List.length_pos_iff.mpr hne)
  refine ⟨fun _ _ => one_div_pos.mpr hlength, ?_⟩
  rw [List.map_const', List.sum_replicate, nsmul_eq_mul, mul_one_div_cancel hlength.ne']

/-- Weights in proportion to positive numbers. -/
lemma normalized {v : α → K} (hne : l ≠ []) (hv : ∀ a ∈ l, 0 < v a) :
    0 < (l.map v).sum ∧ IsWeighting (fun a => v a / (l.map v).sum) l := by
  have hsum : 0 < (l.map v).sum := by
    have hlt := List.sum_lt_sum_of_ne_nil hne (fun _ => (0 : K)) v hv
    simpa using hlt
  refine ⟨hsum, fun a ha => div_pos (hv a ha) hsum, ?_⟩
  simp only [div_eq_mul_inv]
  rw [List.sum_map_mul_right, mul_inv_cancel₀ hsum.ne']

end IsWeighting

omit [LinearOrder K] [IsStrictOrderedRing K] in
lemma weightedMean_perm {w f : α → K} {l l' : List α} (h : l.Perm l') :
    weightedMean w f l = weightedMean w f l' :=
  (h.map _).sum_eq

/-! ### Distances -/

/-- A distance, where different items may be at distance zero. -/
structure IsDistance (δ : α → α → K) : Prop where
  nonneg : ∀ a b, 0 ≤ δ a b
  self : ∀ a, δ a a = 0
  symm : ∀ a b, δ a b = δ b a
  triangle : ∀ a b c, δ a c ≤ δ a b + δ b c

/-- How far an item is from the items of a list all together. -/
def distanceSum (δ : α → α → K) (l : List α) (a : α) : K := (l.map (δ a)).sum

namespace IsDistance

variable {δ : α → α → K} {l : List α} {a b : α} {c : K}

lemma distanceSum_nonneg (hδ : IsDistance δ) : 0 ≤ distanceSum δ l a := by
  apply List.sum_nonneg
  intro x hx
  obtain ⟨b, -, rfl⟩ := List.mem_map.mp hx
  exact hδ.nonneg a b

lemma le_distanceSum (hδ : IsDistance δ) (hb : b ∈ l) : δ a b ≤ distanceSum δ l a := by
  have hnonneg : ∀ x ∈ l.map (δ a), 0 ≤ x := by
    intro x hx
    obtain ⟨b, -, rfl⟩ := List.mem_map.mp hx
    exact hδ.nonneg a b
  exact List.single_le_sum hnonneg _ (List.mem_map_of_mem hb)

/-- An item at distance zero from the whole list draws the items of the list together. -/
lemma eq_zero_of_distanceSum_eq_zero (hδ : IsDistance δ) (ha : distanceSum δ l a = 0) :
    ∀ b ∈ l, ∀ b' ∈ l, δ b b' = 0 := by
  have hzero : ∀ b ∈ l, δ a b = 0 := fun b hb =>
    le_antisymm ((hδ.le_distanceSum hb).trans ha.le) (hδ.nonneg a b)
  intro b hb b' hb'
  refine le_antisymm ?_ (hδ.nonneg b b')
  calc δ b b' ≤ δ b a + δ a b' := hδ.triangle b a b'
    _ = 0 := by rw [hδ.symm b a, hzero b hb, hzero b' hb', add_zero]

/-- Either every item of the list is at a positive distance from it, or none is. -/
lemma distanceSum_pos (hδ : IsDistance δ) (hb : b ∈ l) (hpos : 0 < distanceSum δ l b) (a : α) :
    0 < distanceSum δ l a := by
  refine lt_of_le_of_ne hδ.distanceSum_nonneg ?_
  intro hzero
  have hall := hδ.eq_zero_of_distanceSum_eq_zero hzero.symm b hb
  have hsum : distanceSum δ l b = 0 := List.sum_eq_zero fun x hx => by
    obtain ⟨b', hb', rfl⟩ := List.mem_map.mp hx
    exact hall b' hb'
  exact hpos.ne' hsum

end IsDistance

omit [LinearOrder K] [IsStrictOrderedRing K] in
lemma distanceSum_perm {δ : α → α → K} {l l' : List α} (h : l.Perm l') :
    distanceSum δ l = distanceSum δ l' :=
  funext fun _ => (h.map _).sum_eq

omit [Field K] [IsStrictOrderedRing K] in
/-- A running maximum is below a bound exactly if all numbers are. -/
lemma foldl_max_lt_iff {l : List K} {x c : K} : l.foldl max x < c ↔ x < c ∧ ∀ y ∈ l, y < c := by
  induction l generalizing x with
  | nil => simp
  | cons y l ih => rw [List.foldl_cons, ih, max_lt_iff, List.forall_mem_cons, and_assoc]

omit [Field K] [IsStrictOrderedRing K] in
lemma foldl_max_le_iff {l : List K} {x c : K} : l.foldl max x ≤ c ↔ x ≤ c ∧ ∀ y ∈ l, y ≤ c := by
  induction l generalizing x with
  | nil => simp
  | cons y l ih => rw [List.foldl_cons, ih, max_le_iff, List.forall_mem_cons, and_assoc]

omit [Field K] [IsStrictOrderedRing K] in
lemma foldl_max_perm {l l' : List K} (h : l.Perm l') (x : K) :
    l.foldl max x = l'.foldl max x :=
  h.foldl_eq x

/-! ### An item that is in the list many times -/

section Count

variable [DecidableEq α] {g : α → K} {l : List α} {e : α} {c : K}

lemma sum_map_le_of_count (hg : ∀ a ∈ l, g a ≤ c) (he : g e ≤ 0) :
    (l.map g).sum ≤ (l.length - l.count e) * c := by
  induction l with
  | nil => simp
  | cons a l ih =>
    have htail := ih fun b hb => hg b (List.mem_cons_of_mem a hb)
    have hhead := hg a List.mem_cons_self
    rw [List.map_cons, List.sum_cons, List.length_cons, Nat.cast_succ]
    by_cases ha : a = e
    · subst ha
      rw [List.count_cons_self, Nat.cast_succ]
      linarith
    · rw [List.count_cons_of_ne ha]
      linarith

lemma count_mul_le_sum (hg : ∀ a ∈ l, 0 ≤ g a) : l.count e * g e ≤ (l.map g).sum := by
  induction l with
  | nil => simp
  | cons a l ih =>
    have htail := ih fun b hb => hg b (List.mem_cons_of_mem a hb)
    have hhead := hg a List.mem_cons_self
    rw [List.map_cons, List.sum_cons]
    by_cases ha : a = e
    · subst ha
      rw [List.count_cons_self, Nat.cast_succ]
      linarith
    · rw [List.count_cons_of_ne ha]
      linarith

end Count

/-- The mean is as far from an item as the items are, on the average. -/
lemma IsWeighting.abs_weightedMean_sub_le {w f : α → K} {l : List α} (h : IsWeighting w l)
    {δ : α → α → K} (hf : ∀ a b, |f a - f b| ≤ δ a b) (e : α) :
    |weightedMean w f l - f e| ≤ (l.map fun a => w a * δ a e).sum := by
  have hdiff : weightedMean w f l - f e = (l.map fun a => w a * (f a - f e)).sum := by
    have hsplit : weightedMean w f l =
        (l.map fun a => w a * (f a - f e)).sum + weightedMean w (fun _ => f e) l := by
      rw [weightedMean, weightedMean, ← List.sum_map_add]
      simp only [mul_sub, sub_add_cancel]
    rw [hsplit, h.weightedMean_const, add_sub_cancel_right]
  rw [hdiff]
  refine (List.le_sum_of_subadditive abs abs_zero.le abs_add_le _).trans ?_
  rw [List.map_map]
  apply List.sum_le_sum
  intro a ha
  rw [Function.comp_apply, abs_mul, abs_of_pos (h.pos a ha)]
  exact mul_le_mul_of_nonneg_left (hf a e) (h.pos a ha).le

/-- **The slander bound.**  Weigh the items by the inverses of their distances from the list.  The
mean is no farther from an item that is `m` times among the `n` items than `((n - m) / m) ^ 2` times
the farthest of the others is. -/
theorem IsDistance.abs_weightedMean_inverse_sub_le [DecidableEq α] {δ : α → α → K}
    (hδ : IsDistance δ) {l : List α} (hpos : ∀ a ∈ l, 0 < distanceSum δ l a) {f : α → K}
    (hf : ∀ a b, |f a - f b| ≤ δ a b) {e : α} (he : 0 < l.count e) {c : K}
    (hc : ∀ a ∈ l, δ e a ≤ c) :
    |weightedMean (fun a => 1 / distanceSum δ l a / (l.map fun b => 1 / distanceSum δ l b).sum)
        f l - f e| ≤ ((l.length - l.count e) / l.count e) ^ 2 * c := by
  have hmem : e ∈ l := List.count_pos_iff.mp he
  have hcount : (0 : K) < l.count e := Nat.cast_pos.mpr he
  have hlength : (l.count e : K) ≤ l.length := Nat.cast_le.mpr List.count_le_length
  obtain ⟨hsum, hweighting⟩ := IsWeighting.normalized (v := fun a => 1 / distanceSum δ l a)
    (List.ne_nil_of_mem hmem) fun a ha => one_div_pos.mpr (hpos a ha)
  -- The inverses add up to much, as many items are close to the list.
  have hinverses : l.count e / distanceSum δ l e ≤ (l.map fun b => 1 / distanceSum δ l b).sum := by
    have hle := count_mul_le_sum (e := e) fun a ha => (one_div_pos.mpr (hpos a ha)).le
    rwa [mul_one_div] at hle
  have hclose : distanceSum δ l e ≤ (l.length - l.count e) * c :=
    sum_map_le_of_count hc (hδ.self e).le
  -- What is far from the item is far from the list.
  have hfar : (l.map fun a => 1 / distanceSum δ l a * δ a e).sum ≤
      (l.length - l.count e) * (1 / l.count e) := by
    apply sum_map_le_of_count
    · intro a ha
      have hle : l.count e * δ a e ≤ distanceSum δ l a := count_mul_le_sum fun b _ => hδ.nonneg a b
      rw [one_div_mul_eq_div, div_le_div_iff₀ (hpos a ha) hcount]
      linarith
    · rw [hδ.self, mul_zero]
  have hdistance := hpos e hmem
  calc |weightedMean _ f l - f e|
      ≤ (l.map fun a => 1 / distanceSum δ l a /
          (l.map fun b => 1 / distanceSum δ l b).sum * δ a e).sum :=
        hweighting.abs_weightedMean_sub_le hf e
    _ = (l.map fun a => 1 / distanceSum δ l a * δ a e).sum /
          (l.map fun b => 1 / distanceSum δ l b).sum := by
        rw [div_eq_mul_inv _ (List.sum _), ← List.sum_map_mul_right]
        congr 2
        funext a
        rw [div_eq_mul_inv _ (List.sum _), mul_right_comm]
    _ ≤ (l.length - l.count e) * (1 / l.count e) / (l.count e / distanceSum δ l e) := by
        have hnonneg : (0 : K) ≤ (l.length - l.count e) * (1 / l.count e) :=
          mul_nonneg (sub_nonneg.mpr hlength) (one_div_pos.mpr hcount).le
        exact div_le_div₀ hnonneg hfar (div_pos hcount hdistance) hinverses
    _ = (l.length - l.count e) / l.count e / l.count e * distanceSum δ l e := by
        field_simp
    _ ≤ (l.length - l.count e) / l.count e / l.count e * ((l.length - l.count e) * c) := by
        have hnonneg : (0 : K) ≤ (l.length - l.count e) / l.count e / l.count e :=
          div_nonneg (div_nonneg (sub_nonneg.mpr hlength) hcount.le) hcount.le
        exact mul_le_mul_of_nonneg_left hclose hnonneg
    _ = ((l.length - l.count e) / l.count e) ^ 2 * c := by
        field_simp

end ManetOlsr.Lib
