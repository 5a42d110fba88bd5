/-
The bytes of validity times (`SecondsToEmf`, `EmfToSeconds`).

In units of `OLSR_C`, the 256 bytes are the values of a mantissa/exponent format with sixteen mantissas
and exponents below sixteen.  `SecondsToEmf` rounds within the exponent that its loop finds and carries
a mantissa of sixteen into the next exponent; from 4032 s on that would be a seventeenth exponent.
-/
import ManetOlsr.Lib.MantissaExponent
import ManetOlsr.Model.Header

namespace ManetOlsr

open Lib

/-! ### Bytes and their numbers -/

/-- The byte with a number in the order of the values. -/
def emfByte (k : ℕ) : UInt8 := UInt8.ofNat (k % 16 * 16 + k / 16)

/-- The number of a byte in the order of the values. -/
def emfIndex (v : UInt8) : ℕ := 16 * (v.toNat % 16) + v.toNat / 16

lemma emfIndex_lt (v : UInt8) : emfIndex v < 256 := by
  have hv := v.toNat_lt
  rw [emfIndex]
  omega

lemma emfByte_toNat {k : ℕ} (hk : k < 256) : (emfByte k).toNat = k % 16 * 16 + k / 16 := by
  rw [emfByte, UInt8.toNat_ofNat']
  omega

lemma emfIndex_emfByte {k : ℕ} (hk : k < 256) : emfIndex (emfByte k) = k := by
  rw [emfIndex, emfByte_toNat hk]
  omega

lemma emfByte_emfIndex (v : UInt8) : emfByte (emfIndex v) = v := by
  have hv := v.toNat_lt
  rw [← UInt8.toNat_inj, emfByte_toNat (emfIndex_lt v), emfIndex]
  omega

/-- A byte stands for the value with its number. -/
lemma emfToSeconds_eq (v : UInt8) : emfToSeconds v = olsrC * gridValue ℚ 16 (emfIndex v) := by
  have hv := v.toNat_lt
  have hmantissa : v.toNat / 16 ≤ 16 := by omega
  rw [emfIndex, gridValue_mul_add (by decide) _ hmantissa, emfToSeconds, olsrC, mul_assoc]
  rfl

/-! ### The exponent -/

variable {T T' : ℚ}

/-- Every time in the range has an exponent below sixteen. -/
lemma exists_exponent (hlow : 1 / 16 ≤ T) (hhigh : T < 4032) :
    ∃ b < 16, Exponent b (T / olsrC) := by
  have hunits : T / olsrC = T * 16 := by
    rw [olsrC]
    ring
  have hex : ∃ k : ℕ, T / olsrC < 2 ^ k := ⟨16, by rw [hunits]; norm_num; linarith⟩
  have hlt := Nat.find_spec hex
  have hle : Nat.find hex ≤ 16 := Nat.find_min' hex (by rw [hunits]; norm_num; linarith)
  have hpos : Nat.find hex ≠ 0 := by
    intro hzero
    rw [hzero, pow_zero, hunits] at hlt
    linarith
  obtain ⟨b, hb⟩ := Nat.exists_eq_succ_of_ne_zero hpos
  refine ⟨b, by omega, not_lt.mp (Nat.find_min hex (by omega)), ?_⟩
  rwa [hb] at hlt

/-- The loop leaves the exponent one too high. -/
lemma whileLoop_exponent {b fuel : ℕ} {x : ℚ} (h : Exponent b x) (hfuel : b ≤ fuel) :
    whileLoop (fun k : ℕ => decide (x ≥ 2 ^ k)) (· + 1) fuel 1 = b + 1 := by
  refine whileLoop_count (decide_eq_false h.lt.not_ge) (by omega) (fun i _ hi => ?_) (by omega)
  refine decide_eq_true (le_trans ?_ h.le)
  exact pow_le_pow_right₀ one_le_two (by omega)

lemma emfExponent_eq_whileLoop (x : ℚ) (fuel b : ℕ) :
    emfExponent x fuel b = whileLoop (fun k : ℕ => decide (x ≥ 2 ^ k)) (· + 1) fuel b := by
  induction fuel generalizing b with
  | zero => rfl
  | succ fuel ih => simp only [emfExponent, whileLoop, ih, decide_eq_true_eq]

/-! ### Rounding -/

/-- The byte is that of the rounded value. -/
lemma secondsToEmf_eq {b : ℕ} (hb : b < 16) (h : Exponent b (T / olsrC)) :
    secondsToEmf T = emfByte (roundIndex 16 b (T / olsrC)) := by
  have hunits : T / olsrC = T * 16 := by
    rw [olsrC]
    ring
  rw [hunits] at h ⊢
  have hnonneg := h.mantissa_nonneg (M := 16)
  have hle := h.mantissa_le (M := 16)
  have hmantissa : ⌈16 * (T * 16 / 2 ^ b - 1) - 1 / 2⌉ = roundedMantissa 16 b (T * 16) := rfl
  rw [secondsToEmf, roundIndex, emfByte, emfExponent_eq_whileLoop, whileLoop_exponent h (by omega), Nat.add_sub_cancel, hmantissa]
  generalize roundedMantissa 16 b (T * 16) = a at *
  split
  · next heq =>
    rw [heq]
    congr 1
    omega
  · congr 1
    omega

/-- None of the assertions fails, if the rounded value is one of the format. -/
lemma assertedSecondsToEmf_eq {b : ℕ} (hb : b < 16) (h : Exponent b (T / olsrC))
    (hindex : roundIndex 16 b (T / olsrC) < 256) :
    assertedSecondsToEmf T = some (emfByte (roundIndex 16 b (T / olsrC))) := by
  have hlow : T ≥ olsrC := by
    have hone : 1 ≤ T / olsrC := (one_le_pow₀ one_le_two).trans h.le
    rwa [one_le_div (by norm_num [olsrC])] at hone
  have hmantissa : ⌈16 * (T / (olsrC * 2 ^ b) - 1) - 1 / 2⌉ =
      roundedMantissa 16 b (T / olsrC) := by
    rw [← div_div]
    rfl
  have hnonneg := h.mantissa_nonneg (M := 16)
  have hle := h.mantissa_le (M := 16)
  rw [assertedSecondsToEmf, whileLoop_exponent h (by omega)]
  dsimp only
  rw [Nat.add_sub_cancel, hmantissa]
  rw [roundIndex] at hindex ⊢
  simp only [guard, if_pos hlow, if_pos h.lt, if_pos (ge_iff_le.mpr h.le)]
  generalize roundedMantissa 16 b (T / olsrC) = a at *
  rw [emfByte]
  by_cases hcarry : a = 16
  · have hnext : b + 1 < 16 := by omega
    have hzero : (0 : ℤ) ≤ 0 ∧ (0 : ℤ) < 16 := by decide
    have hbyte : Int.toNat 0 * 16 + (b + 1) =
        (16 * b + a.toNat) % 16 * 16 + (16 * b + a.toNat) / 16 := by omega
    simp only [if_pos hcarry, if_pos hnext, if_pos hzero, ← hbyte]
    rfl
  · have hfits : 0 ≤ a ∧ a < 16 := by omega
    have hbyte : a.toNat * 16 + b =
        (16 * b + a.toNat) % 16 * 16 + (16 * b + a.toNat) / 16 := by omega
    simp only [if_neg hcarry, if_pos hfits, if_pos hb, ← hbyte]
    rfl

/-- Below 4032 s the rounded value is one of the format. -/
lemma roundIndex_lt {b : ℕ} (hhigh : T < 4032) (h : Exponent b (T / olsrC)) :
    roundIndex 16 b (T / olsrC) < 256 := by
  have hlt : T / olsrC < 64512 := by
    rw [olsrC]
    linarith
  by_contra hge
  have hnearest := h.nearest (M := 16) (by decide) 255
  have hmono := (gridValue_strictMono (K := ℚ) (M := 16) (by decide)).monotone (not_lt.mp hge)
  have hnext : gridValue ℚ 16 256 = 65536 := by norm_num [gridValue]
  have hlast : gridValue ℚ 16 255 = 63488 := by norm_num [gridValue]
  rw [hnext] at hmono
  rw [hlast, abs_of_nonneg (by linarith)] at hnearest
  -- The last value of the format is nearer than the next power of two.
  rcases abs_cases ((63488 : ℚ) - T / olsrC) with ⟨habs, -⟩ | ⟨habs, -⟩
  · rw [habs] at hnearest
    linarith
  · rw [habs] at hnearest
    linarith

/-- In the range, the byte is that of the rounded value, and no assertion fails. -/
lemma exists_round (hlow : 1 / 16 ≤ T) (hhigh : T < 4032) :
    ∃ b < 16, Exponent b (T / olsrC) ∧
      assertedSecondsToEmf T = some (secondsToEmf T) ∧
      emfToSeconds (secondsToEmf T) =
        olsrC * gridValue ℚ 16 (roundIndex 16 b (T / olsrC)) := by
  obtain ⟨b, hb, h⟩ := exists_exponent hlow hhigh
  have hindex := roundIndex_lt hhigh h
  refine ⟨b, hb, h, ?_, ?_⟩
  · rw [assertedSecondsToEmf_eq hb h hindex, secondsToEmf_eq hb h]
  · rw [secondsToEmf_eq hb h, emfToSeconds_eq, emfIndex_emfByte hindex]

/-- Distances are measured in units of `OLSR_C`. -/
lemma abs_olsrC_mul_sub (x T : ℚ) : |olsrC * x - T| = olsrC * |x - T / olsrC| := by
  have hpos : 0 < olsrC := by norm_num [olsrC]
  rw [← abs_of_pos hpos, ← abs_mul, abs_of_pos hpos, mul_sub, mul_div_cancel₀ _ hpos.ne']

/-- The byte of a value of the format is the byte it came from. -/
lemma secondsToEmf_emfToSeconds (v : UInt8) : secondsToEmf (emfToSeconds v) = v := by
  have hpos : olsrC ≠ 0 := by norm_num [olsrC]
  have hunits : emfToSeconds v / olsrC = gridValue ℚ 16 (emfIndex v) := by
    rw [emfToSeconds_eq, mul_div_cancel_left₀ _ hpos]
  have hexp : Exponent (emfIndex v / 16) (emfToSeconds v / olsrC) := by
    rw [hunits]
    exact gridValue_exponent (by decide) _
  have hlt := emfIndex_lt v
  rw [secondsToEmf_eq (by omega) hexp, hunits, roundIndex_gridValue (by decide), emfByte_emfIndex]

/-- Every byte stands for a time in the range. -/
lemma emfToSeconds_mem (v : UInt8) : 1 / 16 ≤ emfToSeconds v ∧ emfToSeconds v < 4032 := by
  have hmono := (gridValue_strictMono (K := ℚ) (M := 16) (by decide)).monotone
  have hfirst : gridValue ℚ 16 0 = 1 := by norm_num [gridValue]
  have hlast : gridValue ℚ 16 255 = 63488 := by norm_num [gridValue]
  have hlow := hmono (Nat.zero_le (emfIndex v))
  have hhigh := hmono (Nat.le_of_lt_succ (emfIndex_lt v))
  rw [hfirst] at hlow
  rw [hlast] at hhigh
  rw [emfToSeconds_eq, olsrC]
  constructor <;> linarith

/-- Between a sixteenth of a second and 4032 s, `SecondsToEmf` ends without a failed assertion, and
what it encodes is decoded to a nearest value of the format, in the order of the times; every byte is
encoded again as it was. -/
theorem emf_spec :
    (∀ T : ℚ, 1 / 16 ≤ T → T < 4032 →
      Terminates (fun b : ℕ => decide (T / olsrC ≥ 2 ^ b)) (· + 1) 1 ∧
      assertedSecondsToEmf T = some (secondsToEmf T) ∧
      (∀ v, |emfToSeconds (secondsToEmf T) - T| ≤ |emfToSeconds v - T|) ∧
      ∀ b : ℕ, olsrC * 2 ^ b ≤ T → T < olsrC * 2 ^ (b + 1) →
        |emfToSeconds (secondsToEmf T) - T| ≤ olsrC * 2 ^ b / 16 / 2) ∧
    (∀ T T' : ℚ, 1 / 16 ≤ T → T ≤ T' → T' < 4032 →
      emfToSeconds (secondsToEmf T) ≤ emfToSeconds (secondsToEmf T')) ∧
    ∀ v, assertedSecondsToEmf (emfToSeconds v) = some v := by
  have hpos : 0 < olsrC := by norm_num [olsrC]
  refine ⟨fun T hlow hhigh => ?_, fun T T' hlow hle hhigh => ?_, fun v => ?_⟩
  · obtain ⟨b, hb, h, hasserted, hround⟩ := exists_round hlow hhigh
    refine ⟨⟨b, ?_⟩, hasserted, fun v => ?_, fun c hc hc' => ?_⟩
    · rw [whileLoop_exponent h le_rfl]
      exact decide_eq_false h.lt.not_ge
    · rw [hround, emfToSeconds_eq v, abs_olsrC_mul_sub, abs_olsrC_mul_sub]
      exact mul_le_mul_of_nonneg_left (h.nearest (by decide) _) hpos.le
    · -- The exponent is the one of the time.
      have hexp : Exponent c (T / olsrC) := by
        refine ⟨?_, ?_⟩
        · rwa [le_div_iff₀ hpos, mul_comm]
        · rwa [div_lt_iff₀ hpos, mul_comm]
      obtain rfl := (h.mono hexp le_rfl).antisymm (hexp.mono h le_rfl)
      rw [hround, abs_olsrC_mul_sub]
      calc olsrC * |gridValue ℚ 16 (roundIndex 16 b (T / olsrC)) - T / olsrC|
          ≤ olsrC * (2 ^ b / (16 : ℕ) / 2) :=
            mul_le_mul_of_nonneg_left (h.abs_sub_le (by decide)) hpos.le
        _ = olsrC * 2 ^ b / 16 / 2 := by
            push_cast
            ring
  · obtain ⟨b, -, h, -, hround⟩ := exists_round hlow (hle.trans_lt hhigh)
    obtain ⟨c, -, h', -, hround'⟩ := exists_round (hlow.trans hle) hhigh
    have hunits : T / olsrC ≤ T' / olsrC := div_le_div_of_nonneg_right hle hpos.le
    rw [hround, hround']
    refine mul_le_mul_of_nonneg_left ?_ hpos.le
    exact (gridValue_strictMono (by decide)).monotone (h.roundIndex_le h' hunits)
  · obtain ⟨hlow, hhigh⟩ := emfToSeconds_mem v
    obtain ⟨-, -, -, hasserted, -⟩ := exists_round hlow hhigh
    rw [hasserted, secondsToEmf_emfToSeconds]

theorem emf_spec_halfMinute : |emfToSeconds (secondsToEmf 30) - 30| ≤ 1 / 2 := by
  have herror := (emf_spec.1 30 (by norm_num) (by norm_num)).2.2.2 8 (by norm_num [olsrC])
    (by norm_num [olsrC])
  norm_num [olsrC] at herror ⊢
  exact herror

end ManetOlsr
