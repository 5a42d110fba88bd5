/-
Providers and what they cover.

A list of offers, each with a provider and a target, says which provider covers which target.  How
often a target is covered by some of the providers can be counted along the list, one provider after
another (`coverage_insert`); if no offer comes twice the count is the number of the providers that
cover it (`coverage_eq_card`).  A choice to which no provider of the target can be added covers it as
often as it can be covered (`min_card_le_coverage`).
-/
import Mathlib.Data.Finset.Card
import Mathlib.Data.Finset.Dedup
import Mathlib.Tactic.Common

namespace ManetOlsr.Lib

variable {ι κ τ : Type*} [DecidableEq κ] [DecidableEq τ] (offers : List ι) (provider : ι → κ)
  (target : ι → τ)

/-- How often the target is covered by the chosen providers. -/
def coverage (chosen : Finset κ) (a : τ) : ℕ :=
  offers.countP fun t => decide (provider t ∈ chosen) && target t == a

/-- The providers that cover the target. -/
def providersOf (a : τ) : Finset κ :=
  ((offers.filter fun t => target t == a).map provider).toFinset

variable {offers provider target} {chosen : Finset κ} {a : τ} {k : κ}

lemma mem_providersOf : k ∈ providersOf offers provider target a ↔
    ∃ t ∈ offers, target t = a ∧ provider t = k := by
  simp [providersOf, and_assoc]

@[simp] lemma coverage_empty : coverage offers provider target ∅ a = 0 := by
  simp [coverage]

/-- A new provider adds its own offers. -/
lemma coverage_insert (hk : k ∉ chosen) :
    coverage offers provider target (insert k chosen) a =
      coverage offers provider target chosen a +
        offers.countP fun t => provider t == k && target t == a := by
  rw [coverage, coverage]
  induction offers with
  | nil => rfl
  | cons t l ih =>
    rw [List.countP_cons, List.countP_cons, List.countP_cons, ih]
    by_cases hnew : provider t = k
    · have hfresh : provider t ∉ chosen := hnew ▸ hk
      simp only [Finset.mem_insert, hnew, true_or, decide_true, hk, decide_false, Bool.true_and,
        Bool.false_and, beq_self_eq_true]
      simp only [Bool.false_eq_true, if_false]
      omega
    · have hne : (provider t == k) = false := beq_eq_false_iff_ne.mpr hnew
      simp only [Finset.mem_insert, hnew, false_or, hne, Bool.false_and, Bool.false_eq_true, if_false]
      omega

/-- If no offer comes twice, the providers are counted. -/
lemma coverage_eq_card (hoffers : (offers.map fun t => (provider t, target t)).Nodup)
    (chosen : Finset κ) (a : τ) : coverage offers provider target chosen a =
      (chosen ∩ providersOf offers provider target a).card := by
  have hmem : ∀ t, t ∈ (offers.filter fun t => decide (provider t ∈ chosen) && target t == a) ↔
      t ∈ offers ∧ provider t ∈ chosen ∧ target t = a := by
    simp
  have hnodup : ((offers.filter fun t => decide (provider t ∈ chosen) && target t == a).map
      provider).Nodup := by
    refine List.Nodup.map_on ?_ ((List.Nodup.of_map _ hoffers).filter _)
    intro t ht t' ht' heq
    obtain ⟨ht, -, htarget⟩ := (hmem t).mp ht
    obtain ⟨ht', -, htarget'⟩ := (hmem t').mp ht'
    exact List.inj_on_of_nodup_map hoffers ht ht' (Prod.ext heq (htarget.trans htarget'.symm))
  have hset : ((offers.filter fun t => decide (provider t ∈ chosen) && target t == a).map
      provider).toFinset = chosen ∩ providersOf offers provider target a := by
    ext k
    rw [List.mem_toFinset, List.mem_map, Finset.mem_inter, mem_providersOf]
    constructor
    · rintro ⟨t, ht, rfl⟩
      obtain ⟨ht, hchosen, htarget⟩ := (hmem t).mp ht
      exact ⟨hchosen, t, ht, htarget, rfl⟩
    · rintro ⟨hchosen, t, ht, htarget, rfl⟩
      exact ⟨t, (hmem t).mpr ⟨ht, hchosen, htarget⟩, rfl⟩
  rw [← hset, List.toFinset_card_of_nodup hnodup, List.length_map, coverage,
    List.countP_eq_length_filter]

/-- A target that is not covered `r` times is covered by all its providers, if none can be added. -/
lemma min_card_le_coverage {r : ℕ}
    (hoffers : (offers.map fun t => (provider t, target t)).Nodup)
    (hdone : coverage offers provider target chosen a < r →
      providersOf offers provider target a ⊆ chosen) :
    min r (providersOf offers provider target a).card ≤
      (chosen ∩ providersOf offers provider target a).card := by
  by_cases hlt : coverage offers provider target chosen a < r
  · rw [Finset.inter_eq_right.mpr (hdone hlt)]
    exact min_le_right _ _
  · rw [← coverage_eq_card hoffers]
    exact (min_le_left _ _).trans (not_lt.mp hlt)

end ManetOlsr.Lib
