/-
Serial number arithmetic on 16-bit counters.

A counter that wraps has no greatest value.  One value of it is *newer* than another when it is
reached from it by fewer than `2 ^ 15` increments; this is the comparison to be used as long as
the values compared are less than half the range apart.  Comparing the values as numbers agrees
with it exactly when their numerical distance is at most half the range.
-/
import Mathlib.Data.UInt
import Mathlib.Tactic.Common

namespace ManetOlsr.Lib

/-- `b` is newer than `a` in serial number arithmetic modulo `2 ^ 16`. -/
def Newer (b a : UInt16) : Prop := 0 < (b - a).toNat ∧ (b - a).toNat < 2 ^ 15

instance (b a : UInt16) : Decidable (Newer b a) := inferInstanceAs (Decidable (_ ∧ _))

variable {a b : UInt16}

lemma newer_iff :
    Newer b a ↔ (a < b ∧ b.toNat - a.toNat < 2 ^ 15) ∨ (b < a ∧ 2 ^ 15 < a.toNat - b.toNat) := by
  have ha := a.toNat_lt
  have hb := b.toNat_lt
  simp only [Newer, UInt16.toNat_sub, UInt16.lt_iff_toNat_lt]
  omega

/-- Fewer than `2 ^ 15` increments make a counter newer, also when it wraps. -/
lemma newer_add {k : ℕ} (hpos : 0 < k) (hlt : k < 2 ^ 15) : Newer (a + UInt16.ofNat k) a := by
  have hk : (a + UInt16.ofNat k - a).toNat = k := by
    have ha := a.toNat_lt
    simp only [UInt16.toNat_sub, UInt16.toNat_add, UInt16.toNat_ofNat']
    omega
  rw [Newer, hk]
  exact ⟨hpos, hlt⟩

lemma not_newer_self : ¬ Newer a a := by
  simp [Newer]

/-- The numerical distance of two values of the counter. -/
def numericDistance (a b : UInt16) : ℕ := max a.toNat b.toNat - min a.toNat b.toNat

/-- Comparing two values as numbers gives the right answer, in both directions, exactly when they
are at most half the range apart. -/
lemma numeric_agrees_iff :
    ((Newer b a → a < b) ∧ (Newer a b → b < a)) ↔ numericDistance a b ≤ 2 ^ 15 := by
  have ha := a.toNat_lt
  have hb := b.toNat_lt
  simp only [newer_iff, UInt16.lt_iff_toNat_lt, numericDistance]
  omega

end ManetOlsr.Lib
