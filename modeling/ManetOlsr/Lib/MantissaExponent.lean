/-
A mantissa/exponent format with `M` mantissas.

Its values are `(1 + a/M) * 2^b` for a mantissa `a < M` and an exponent `b`; numbered by `M * b + a`,
they increase, and the number of a mantissa that is rounded up to `M` is that of the mantissa zero at
the next exponent (`gridValue_mul_add`).  Rounding half down within an exponent finds a nearest value
of the whole format (`Exponent.nearest`), to within half a step (`Exponent.abs_sub_le`), keeps the order
(`Exponent.roundIndex_le`) and leaves the values of the format as they are (`roundIndex_gridValue`).
-/
import Mathlib.Algebra.Order.Floor.Ring
import Mathlib.Algebra.Order.Field.Basic
import Mathlib.Algebra.Order.Field.Power
import Mathlib.Tactic.FieldSimp
import Mathlib.Tactic.Linarith
import Mathlib.Tactic.Positivity
import Mathlib.Tactic.Ring

namespace ManetOlsr.Lib

variable {K : Type*} [Field K] [LinearOrder K] [IsStrictOrderedRing K] {M : ℕ}

/-- The value with the number `k`. -/
def gridValue (K : Type*) [Field K] (M k : ℕ) : K := (1 + ((k % M : ℕ) : K) / M) * 2 ^ (k / M)

/-- The number of a value, its mantissa running up to and including `M`. -/
lemma gridValue_mul_add (hM : 0 < M) (b : ℕ) {a : ℕ} (ha : a ≤ M) :
    gridValue K M (M * b + a) = (1 + (a : K) / M) * 2 ^ b := by
  have hM' : (M : K) ≠ 0 := Nat.cast_ne_zero.mpr hM.ne'
  rcases ha.lt_or_eq with hlt | rfl
  · rw [gridValue, Nat.mul_add_mod, Nat.mod_eq_of_lt hlt, Nat.mul_add_div hM,
      Nat.div_eq_of_lt hlt, Nat.add_zero]
  · -- The mantissa is carried into the exponent.
    rw [gridValue, ← Nat.mul_succ, Nat.mul_mod_right, Nat.mul_div_cancel_left _ hM, Nat.cast_zero,
      zero_div, add_zero, one_mul, div_self hM', pow_succ]
    ring

lemma gridValue_strictMono (hM : 0 < M) : StrictMono (gridValue K M) := by
  refine strictMono_nat_of_lt_succ fun k => ?_
  have hM' : (0 : K) < M := Nat.cast_pos.mpr hM
  have hlt := Nat.mod_lt k hM
  have hk := gridValue_mul_add (K := K) hM (k / M) hlt.le
  have hk' := gridValue_mul_add (K := K) hM (k / M) (Nat.succ_le_of_lt hlt)
  rw [Nat.add_succ, Nat.div_add_mod] at hk'
  rw [Nat.div_add_mod] at hk
  rw [hk, hk', Nat.cast_succ]
  gcongr
  exact lt_add_one _

/-- The distance of a value from a number, in steps of the exponent. -/
lemma gridValue_sub (hM : 0 < M) (x : K) (b : ℕ) {a : ℕ} (ha : a ≤ M) :
    gridValue K M (M * b + a) - x = (a - M * (x / 2 ^ b - 1)) * (2 ^ b / M) := by
  have hM' : (M : K) ≠ 0 := Nat.cast_ne_zero.mpr hM.ne'
  rw [gridValue_mul_add hM b ha]
  field_simp
  ring

/-- The power of two below a number. -/
structure Exponent (b : ℕ) (x : K) : Prop where
  le : 2 ^ b ≤ x
  lt : x < 2 ^ (b + 1)

lemma gridValue_exponent (hM : 0 < M) (k : ℕ) : Exponent (k / M) (gridValue K M k) where
  le := by
    have hM' : (0 : K) < M := Nat.cast_pos.mpr hM
    rw [gridValue]
    refine le_mul_of_one_le_left (by positivity) ?_
    rw [le_add_iff_nonneg_right]
    positivity
  lt := by
    have hM' : (0 : K) < M := Nat.cast_pos.mpr hM
    rw [gridValue, pow_succ, mul_comm ((2 : K) ^ _)]
    gcongr
    rw [← one_add_one_eq_two, add_lt_add_iff_left, div_lt_one hM', Nat.cast_lt]
    exact Nat.mod_lt k hM

/-- The exponent of a larger number is not smaller. -/
lemma Exponent.mono {b c : ℕ} {x y : K} (hx : Exponent b x) (hy : Exponent c y) (hxy : x ≤ y) :
    b ≤ c := by
  have hlt : (2 : K) ^ b < 2 ^ (c + 1) := (hx.le.trans hxy).trans_lt hy.lt
  have hexp := (pow_lt_pow_iff_right₀ one_lt_two).mp hlt
  omega

/-! ### Rounding -/

section Round

variable [FloorRing K]

/-- The mantissa, rounded half down. -/
def roundedMantissa (M b : ℕ) (x : K) : ℤ := ⌈M * (x / 2 ^ b - 1) - 1 / 2⌉

/-- The number of the value that is rounded to. -/
def roundIndex (M b : ℕ) (x : K) : ℕ := M * b + (roundedMantissa M b x).toNat

namespace Exponent

variable {b c : ℕ} {x y : K}

lemma mantissa_nonneg (h : Exponent b x) : 0 ≤ roundedMantissa M b x := by
  have hone : 1 ≤ x / 2 ^ b := (one_le_div (by positivity)).mpr h.le
  have hM : (0 : K) ≤ M := Nat.cast_nonneg M
  refine Int.ceil_nonneg_of_neg_one_lt ?_
  nlinarith

lemma mantissa_le (h : Exponent b x) : roundedMantissa M b x ≤ M := by
  have htwo : x / 2 ^ b < 2 := by
    rw [div_lt_iff₀ (by positivity), ← pow_succ']
    exact h.lt
  have hM : (0 : K) ≤ M := Nat.cast_nonneg M
  rw [roundedMantissa, Int.ceil_le]
  push_cast
  nlinarith

lemma toNat_mantissa_cast (h : Exponent b x) :
    (((roundedMantissa M b x).toNat : ℕ) : K) = roundedMantissa M b x := by
  have hcast : (((roundedMantissa M b x).toNat : ℤ) : K) = roundedMantissa M b x := by
    rw [Int.toNat_of_nonneg h.mantissa_nonneg]
  rwa [Int.cast_natCast] at hcast

lemma toNat_mantissa_le (h : Exponent b x) : (roundedMantissa M b x).toNat ≤ M := by
  have hle := h.mantissa_le (M := M)
  omega

/-- The mantissa is at most half a step away. -/
lemma mantissa_near (M b : ℕ) (x : K) :
    (M * (x / 2 ^ b - 1) - 1 / 2 : K) ≤ roundedMantissa M b x ∧
      (roundedMantissa M b x : K) < M * (x / 2 ^ b - 1) + 1 / 2 := by
  refine ⟨Int.le_ceil _, ?_⟩
  have hlt := Int.ceil_lt_add_one ((M : K) * (x / 2 ^ b - 1) - 1 / 2)
  rw [← roundedMantissa] at hlt
  linarith

/-- The error is at most half a step. -/
lemma abs_sub_le (hM : 0 < M) (h : Exponent b x) :
    |gridValue K M (roundIndex M b x) - x| ≤ 2 ^ b / M / 2 := by
  have hM' : (0 : K) < M := Nat.cast_pos.mpr hM
  obtain ⟨hlow, hhigh⟩ := mantissa_near M b x
  rw [roundIndex, gridValue_sub hM x b h.toNat_mantissa_le, h.toNat_mantissa_cast, abs_mul,
    abs_of_pos (show (0 : K) < 2 ^ b / M by positivity)]
  have habs : |(roundedMantissa M b x : K) - M * (x / 2 ^ b - 1)| ≤ 1 / 2 := by
    rw [abs_le]
    constructor <;> linarith
  calc |(roundedMantissa M b x : K) - M * (x / 2 ^ b - 1)| * (2 ^ b / M)
      ≤ 1 / 2 * (2 ^ b / M) := by gcongr
    _ = 2 ^ b / M / 2 := by ring

/-- No value of the format is nearer. -/
lemma nearest (hM : 0 < M) (h : Exponent b x) (j : ℕ) :
    |gridValue K M (roundIndex M b x) - x| ≤ |gridValue K M j - x| := by
  have hM' : (0 : K) < M := Nat.cast_pos.mpr hM
  have hmono := gridValue_strictMono (K := K) hM
  have hstep : (0 : K) < 2 ^ b / M := by positivity
  have herror := h.abs_sub_le hM
  obtain ⟨hlow, hhigh⟩ := mantissa_near M b x
  rw [← h.toNat_mantissa_cast] at hlow hhigh
  have hale := h.toNat_mantissa_le (M := M)
  have hvalue := gridValue_sub hM x b hale
  rw [roundIndex] at herror ⊢
  generalize (roundedMantissa M b x).toNat = a at *
  -- The grid increases, so that the neighbors of the rounded value are the only rivals.
  rcases lt_trichotomy j (M * b + a) with hlt | rfl | hgt
  · have hbelow := hmono hlt
    by_cases ha : a = 0
    · -- The rounded value is the power of two itself, which is not above the number.
      have hle : gridValue K M (M * b + a) ≤ x := by
        rw [gridValue_mul_add hM b hale, ha, Nat.cast_zero, zero_div, add_zero, one_mul]
        exact h.le
      rw [abs_of_nonpos (by linarith), abs_of_nonpos (by linarith)]
      linarith
    · -- The value below it is half a step away already.
      have hpred := gridValue_sub hM x b (show a - 1 ≤ M by omega)
      have hj : gridValue K M j ≤ gridValue K M (M * b + (a - 1)) :=
        hmono.monotone (by omega)
      rw [Nat.cast_sub (by omega), Nat.cast_one] at hpred
      have hfar : gridValue K M (M * b + (a - 1)) - x ≤ -(2 ^ b / M / 2) := by
        rw [hpred]
        nlinarith
      rw [abs_of_nonpos (show gridValue K M j - x ≤ 0 by linarith)]
      linarith
  · exact le_rfl
  · have habove := hmono hgt
    by_cases ha : a = M
    · -- The rounded value is the next power of two, which is above the number.
      have hle : x ≤ gridValue K M (M * b + a) := by
        have hone : (1 : K) + M / M = 2 := by
          rw [div_self hM'.ne', one_add_one_eq_two]
        rw [gridValue_mul_add hM b hale, ha, hone, ← pow_succ']
        exact h.lt.le
      rw [abs_of_nonneg (by linarith), abs_of_nonneg (by linarith)]
      linarith
    · have hsucc := gridValue_sub hM x b (show a + 1 ≤ M by omega)
      have hj : gridValue K M (M * b + (a + 1)) ≤ gridValue K M j :=
        hmono.monotone (by omega)
      rw [Nat.cast_add, Nat.cast_one] at hsucc
      have hfar : 2 ^ b / M / 2 ≤ gridValue K M (M * b + (a + 1)) - x := by
        rw [hsucc]
        nlinarith
      rw [abs_of_nonneg (show 0 ≤ gridValue K M j - x by linarith)]
      linarith

/-- Rounding keeps the order. -/
lemma roundIndex_le (hx : Exponent b x) (hy : Exponent c y) (hxy : x ≤ y) :
    roundIndex M b x ≤ roundIndex M c y := by
  rcases (hx.mono hy hxy).lt_or_eq with hlt | rfl
  · calc roundIndex M b x ≤ M * b + M := Nat.add_le_add_left hx.toNat_mantissa_le _
      _ = M * (b + 1) := (Nat.mul_succ M b).symm
      _ ≤ M * c := Nat.mul_le_mul_left M hlt
      _ ≤ roundIndex M c y := Nat.le_add_right _ _
  · refine Nat.add_le_add_left (Int.toNat_le_toNat (Int.ceil_le_ceil ?_)) _
    gcongr

end Exponent

/-- The values of the format are rounded to themselves. -/
lemma roundIndex_gridValue (hM : 0 < M) (k : ℕ) : roundIndex M (k / M) (gridValue K M k) = k := by
  have hM' : (M : K) ≠ 0 := Nat.cast_ne_zero.mpr hM.ne'
  have hmantissa : (M : K) * (gridValue K M k / 2 ^ (k / M) - 1) = ((k % M : ℕ) : K) := by
    rw [gridValue, mul_div_cancel_right₀ _ (pow_ne_zero _ two_ne_zero), add_sub_cancel_left,
      mul_div_cancel₀ _ hM']
  have hceil : roundedMantissa M (k / M) (gridValue K M k) = (k % M : ℕ) := by
    rw [roundedMantissa, hmantissa, Int.ceil_eq_iff, Int.cast_natCast]
    constructor <;> linarith
  rw [roundIndex, hceil, Int.toNat_natCast, Nat.div_add_mod]

end Round

end ManetOlsr.Lib
