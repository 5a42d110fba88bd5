/-
Draws and shuffles without bias.

A draw rejects the outputs that are not below the largest multiple of its bound, and reduces the
first one that it accepts.  Both shuffles are exchanges at the places that their draws give, so each
permutation comes from exactly one of the ways in which the draws can end.
-/
import ManetOlsr.Model.FlowSelection
import Mathlib.Data.Int.CardIntervalMod
import Mathlib.Data.Set.Card

namespace ManetOlsr

/-! ### The limit -/

/-- The output is not rejected. -/
def Accepted (bound r : UInt32) : Prop := r.toUInt64 < drawLimit bound.toUInt64

section Limit

variable {b : UInt64}

lemma toNat_drawLimit (b : UInt64) : (drawLimit b).toNat = 2 ^ 32 - 2 ^ 32 % b.toNat := by
  have hle : mt19937Range % b ≤ mt19937Range := by
    rw [UInt64.le_iff_toNat_le, UInt64.toNat_mod]
    exact Nat.mod_le _ _
  rw [drawLimit, UInt64.toNat_sub_of_le _ _ hle, UInt64.toNat_mod]
  rfl

lemma dvd_toNat_drawLimit (b : UInt64) : b.toNat ∣ (drawLimit b).toNat := by
  rw [toNat_drawLimit]
  exact Nat.dvd_sub_mod _

lemma toNat_drawLimit_div (b : UInt64) : (drawLimit b).toNat / b.toNat = 2 ^ 32 / b.toNat := by
  rcases Nat.eq_zero_or_pos b.toNat with hzero | hpos
  · rw [hzero, Nat.div_zero, Nat.div_zero]
  · rw [toNat_drawLimit]
    have hsplit := Nat.div_add_mod (2 ^ 32) b.toNat
    have hmul : 2 ^ 32 - 2 ^ 32 % b.toNat = b.toNat * (2 ^ 32 / b.toNat) := by omega
    rw [hmul, Nat.mul_div_cancel_left _ hpos]

lemma toNat_drawLimit_le (b : UInt64) : (drawLimit b).toNat ≤ 2 ^ 32 := by
  rw [toNat_drawLimit]
  exact Nat.sub_le _ _

/-- A multiple of the bound is left, unless the bound exceeds the range. -/
lemma le_toNat_drawLimit (hb : b.toNat ≤ 2 ^ 32) : b.toNat ≤ (drawLimit b).toNat := by
  rw [toNat_drawLimit]
  rcases Nat.eq_zero_or_pos b.toNat with hzero | hpos
  · omega
  · have hsplit := Nat.div_add_mod (2 ^ 32) b.toNat
    have hquot : 1 ≤ 2 ^ 32 / b.toNat := (Nat.one_le_div_iff hpos).mpr hb
    have := Nat.mul_le_mul_left b.toNat hquot
    omega

end Limit

lemma accepted_iff {bound r : UInt32} :
    Accepted bound r ↔ r.toNat < (drawLimit bound.toUInt64).toNat := by
  rw [Accepted, UInt64.lt_iff_toNat_lt, UInt32.toNat_toUInt64]

instance (bound r : UInt32) : Decidable (Accepted bound r) :=
  inferInstanceAs (Decidable (_ < _))

/-- The outputs below the bound are accepted. -/
lemma accepted_of_lt {bound r : UInt32} (h : r < bound) : Accepted bound r := by
  have hle : bound.toUInt64.toNat ≤ 2 ^ 32 := by
    rw [UInt32.toNat_toUInt64]
    exact bound.toNat_lt.le
  have hlimit := le_toNat_drawLimit hle
  rw [UInt32.toNat_toUInt64] at hlimit
  exact accepted_iff.mpr (lt_of_lt_of_le (UInt32.lt_iff_toNat_lt.mp h) hlimit)

/-! ### One draw -/

lemma drawBelow_append {limit : UInt64} {rejected : RawOutputs} {r : UInt32}
    (hrejected : ∀ x ∈ rejected, ¬ x.toUInt64 < limit) (hr : r.toUInt64 < limit)
    (rng : RawOutputs) : drawBelow limit (rejected ++ r :: rng) = some (r, rng) := by
  induction rejected with
  | nil => rw [List.nil_append, drawBelow, if_neg (UInt64.not_le.mpr hr)]
  | cons x rejected ih =>
    obtain ⟨hx, htail⟩ := List.forall_mem_cons.mp hrejected
    rw [List.cons_append, drawBelow, if_pos (UInt64.not_lt.mp hx), ih htail]

lemma drawBelow_eq_none {limit : UInt64} {rng : RawOutputs}
    (h : ∀ r ∈ rng, ¬ r.toUInt64 < limit) : drawBelow limit rng = none := by
  induction rng with
  | nil => rfl
  | cons r rng ih =>
    obtain ⟨hr, htail⟩ := List.forall_mem_cons.mp h
    rw [drawBelow, if_pos (UInt64.not_lt.mp hr), ih htail]

/-- A loop that ends has passed over the outputs that it rejects. -/
lemma exists_of_drawBelow {limit : UInt64} {rng rest : RawOutputs} {r : UInt32}
    (h : drawBelow limit rng = some (r, rest)) :
    r.toUInt64 < limit ∧ ∃ rejected, (∀ x ∈ rejected, ¬ x.toUInt64 < limit) ∧
      rng = rejected ++ r :: rest := by
  induction rng with
  | nil => cases h
  | cons x rng ih =>
    rw [drawBelow] at h
    split at h
    · rename_i hx
      obtain ⟨hr, rejected, hrejected, rfl⟩ := ih h
      exact ⟨hr, x :: rejected, List.forall_mem_cons.mpr ⟨UInt64.not_lt.mpr hx, hrejected⟩, rfl⟩
    · rename_i hx
      cases h
      exact ⟨UInt64.not_le.mp hx, [], List.forall_mem_nil _, rfl⟩

/-- What a draw makes of an output. -/
def reduced (bound r : UInt32) : UInt32 := (r.toUInt64 % bound.toUInt64).toUInt32

@[simp] lemma toNat_reduced (bound r : UInt32) : (reduced bound r).toNat = r.toNat % bound.toNat := by
  have hlt : r.toNat % bound.toNat < 2 ^ 32 := lt_of_le_of_lt (Nat.mod_le _ _) r.toNat_lt
  rw [reduced, UInt64.toNat_toUInt32, UInt64.toNat_mod, UInt32.toNat_toUInt64,
    UInt32.toNat_toUInt64, Nat.mod_eq_of_lt hlt]

lemma reduced_lt {bound : UInt32} (hbound : bound ≠ 0) (r : UInt32) : reduced bound r < bound := by
  have hpos : 0 < bound.toNat := by
    rw [Nat.pos_iff_ne_zero]
    intro h
    exact hbound (UInt32.toNat_inj.mp h)
  rw [UInt32.lt_iff_toNat_lt, toNat_reduced]
  exact Nat.mod_lt _ hpos

lemma reduced_of_lt {bound r : UInt32} (h : r < bound) : reduced bound r = r := by
  rw [← UInt32.toNat_inj, toNat_reduced]
  exact Nat.mod_eq_of_lt (UInt32.lt_iff_toNat_lt.mp h)

section DeterministicDraw

variable {bound : UInt32}

lemma deterministicDraw_eq (hbound : bound ≠ 0) (rng : RawOutputs) :
    deterministicDraw rng bound =
      (drawBelow (drawLimit bound.toUInt64) rng).map fun x => (reduced bound x.1, x.2) := by
  rw [deterministicDraw, if_neg hbound]
  rfl

/-- A draw ends with the first output that it accepts. -/
lemma deterministicDraw_append (hbound : bound ≠ 0) {rejected : RawOutputs} {r : UInt32}
    (hrejected : ∀ x ∈ rejected, ¬ Accepted bound x) (hr : Accepted bound r) (rng : RawOutputs) :
    deterministicDraw (rejected ++ r :: rng) bound = some (reduced bound r, rng) := by
  rw [deterministicDraw_eq hbound, drawBelow_append hrejected hr, Option.map_some]

lemma deterministicDraw_eq_none (hbound : bound ≠ 0) {rng : RawOutputs}
    (h : ∀ r ∈ rng, ¬ Accepted bound r) : deterministicDraw rng bound = none := by
  rw [deterministicDraw_eq hbound, drawBelow_eq_none h, Option.map_none]

lemma exists_of_deterministicDraw (hbound : bound ≠ 0) {rng rest : RawOutputs} {v : UInt32}
    (h : deterministicDraw rng bound = some (v, rest)) :
    ∃ rejected r, (∀ x ∈ rejected, ¬ Accepted bound x) ∧ Accepted bound r ∧
      rng = rejected ++ r :: rest ∧ v = reduced bound r := by
  rw [deterministicDraw_eq hbound] at h
  obtain ⟨⟨r, rest'⟩, hdraw, heq⟩ := Option.map_eq_some_iff.mp h
  cases heq
  obtain ⟨hr, rejected, hrejected, hrng⟩ := exists_of_drawBelow hdraw
  exact ⟨rejected, r, hrejected, hr, hrng, rfl⟩

lemma deterministicDraw_singleton_iff (hbound : bound ≠ 0) {r v : UInt32} :
    deterministicDraw [r] bound = some (v, []) ↔ Accepted bound r ∧ reduced bound r = v := by
  by_cases hr : Accepted bound r
  · have hdraw := deterministicDraw_append hbound (List.forall_mem_nil _) hr []
    rw [List.nil_append] at hdraw
    rw [hdraw, Option.some.injEq, Prod.mk.injEq, eq_self_iff_true, and_true]
    exact (and_iff_right hr).symm
  · rw [deterministicDraw_eq_none hbound (List.forall_mem_singleton.mpr hr)]
    exact iff_of_false (by rintro ⟨⟩) fun h => hr h.1

/-- As many outputs below the limit leave one rest as another. -/
lemma ncard_accepted {v : UInt32} (hv : v < bound) :
    {r | Accepted bound r ∧ reduced bound r = v}.ncard = 2 ^ 32 / bound.toNat := by
  have hlt : v.toNat < bound.toNat := UInt32.lt_iff_toNat_lt.mp hv
  have hlimit := toNat_drawLimit_le bound.toUInt64
  set limit := (drawLimit bound.toUInt64).toNat with hdef
  have himage : UInt32.toNat '' {r | Accepted bound r ∧ reduced bound r = v} =
      ((Finset.range limit).filter (· ≡ v.toNat [MOD bound.toNat]) : Set ℕ) := by
    ext m
    simp only [Set.mem_image, Set.mem_ofPred_eq, Finset.coe_filter, Finset.mem_range]
    constructor
    · rintro ⟨r, ⟨hr, rfl⟩, rfl⟩
      refine ⟨accepted_iff.mp hr, ?_⟩
      rw [toNat_reduced]
      exact (Nat.mod_modEq _ _).symm
    · rintro ⟨hm, hmod⟩
      have hofNat : (UInt32.ofNat m).toNat = m := UInt32.toNat_ofNat_of_lt' (lt_of_lt_of_le hm hlimit)
      refine ⟨UInt32.ofNat m, ⟨accepted_iff.mpr (by rwa [hofNat]), ?_⟩, hofNat⟩
      rw [← UInt32.toNat_inj, toNat_reduced, hofNat, hmod, Nat.mod_eq_of_lt hlt]
  have hinjective : Function.Injective UInt32.toNat := fun _ _ => UInt32.toNat_inj.mp
  rw [← Set.ncard_image_of_injective _ hinjective, himage, Set.ncard_coe_finset,
    ← Nat.count_eq_card_filter_range]
  have hdvd := dvd_toNat_drawLimit bound.toUInt64
  have hdiv := toNat_drawLimit_div bound.toUInt64
  rw [UInt32.toNat_toUInt64, ← hdef] at hdvd hdiv
  rw [Nat.count_modEq_card _ (by omega), Nat.mod_eq_zero_of_dvd hdvd, if_neg (Nat.not_lt_zero _),
    hdiv, add_zero]

end DeterministicDraw

/-- A draw ends with the first output that it accepts, and each value below the bound comes from
equally many outputs. -/
structure DrawsUniformly (bound : UInt32) : Prop where
  waits : ∀ rng, (∀ r ∈ rng, ¬ Accepted bound r) → deterministicDraw rng bound = none
  returns : ∀ rejected r rest, (∀ x ∈ rejected, ¬ Accepted bound x) → Accepted bound r →
    ∃ v < bound, deterministicDraw (rejected ++ r :: rest) bound = some (v, rest)
  fibres : ∀ v < bound,
    {r | deterministicDraw [r] bound = some (v, [])}.ncard = 2 ^ 32 / bound.toNat

lemma drawsUniformly {bound : UInt32} (hbound : bound ≠ 0) : DrawsUniformly bound where
  waits := fun _ h => deterministicDraw_eq_none hbound h
  returns := fun _ r rest hrejected hr =>
    ⟨reduced bound r, reduced_lt hbound r, deterministicDraw_append hbound hrejected hr rest⟩
  fibres := by
    intro v hv
    simp only [deterministicDraw_singleton_iff hbound]
    exact ncard_accepted hv

/-! ### The draws of a shuffle -/

/-- One draw for each of the bounds. -/
def drawAll : List ℕ → RawOutputs → Option (List ℕ × RawOutputs)
  | [], rng => some ([], rng)
  | b :: bounds, rng => (deterministicDraw rng (UInt32.ofNat b)).bind fun x =>
      (drawAll bounds x.2).map fun y => (x.1.toNat :: y.1, y.2)

lemma ofNat_ne_zero {b : ℕ} (hpos : 0 < b) (hlt : b < 2 ^ 32) : UInt32.ofNat b ≠ 0 := by
  intro h
  have hofNat := UInt32.toNat_ofNat_of_lt' hlt
  rw [h] at hofNat
  exact hpos.ne hofNat

section DrawAll

variable {bounds : List ℕ} (hbounds : ∀ b ∈ bounds, 0 < b ∧ b < 2 ^ 32)

include hbounds in
lemma lt_of_drawAll {rng rest : RawOutputs} {choices : List ℕ}
    (h : drawAll bounds rng = some (choices, rest)) : List.Forall₂ (· < ·) choices bounds := by
  induction bounds generalizing rng rest choices with
  | nil =>
    cases h
    exact List.Forall₂.nil
  | cons b bounds ih =>
    obtain ⟨⟨hpos, hlt⟩, htail⟩ := List.forall_mem_cons.mp hbounds
    have hofNat : (UInt32.ofNat b).toNat = b := UInt32.toNat_ofNat_of_lt' hlt
    have hne := ofNat_ne_zero hpos hlt
    obtain ⟨⟨v, rng'⟩, hdraw, hrest⟩ := Option.bind_eq_some_iff.mp h
    obtain ⟨⟨choices', rest'⟩, hall, heq⟩ := Option.map_eq_some_iff.mp hrest
    cases heq
    obtain ⟨-, r, -, -, -, rfl⟩ := exists_of_deterministicDraw hne hdraw
    have hv := UInt32.lt_iff_toNat_lt.mp (reduced_lt hne r)
    rw [hofNat] at hv
    exact List.Forall₂.cons hv (ih htail hall)

/-- Every choice is drawn from the outputs that are equal to it. -/
lemma drawAll_choices {choices : List ℕ} (hlt : ∀ b ∈ bounds, b < 2 ^ 32)
    (h : List.Forall₂ (· < ·) choices bounds) :
    drawAll bounds (choices.map UInt32.ofNat) = some (choices, []) := by
  induction h with
  | nil => rfl
  | @cons c b choices bounds hc _ ih =>
    obtain ⟨hb, htail⟩ := List.forall_mem_cons.mp hlt
    have hofNat : (UInt32.ofNat c).toNat = c := UInt32.toNat_ofNat_of_lt' (hc.trans hb)
    have hcb : UInt32.ofNat c < UInt32.ofNat b := by
      rw [UInt32.lt_iff_toNat_lt, hofNat, UInt32.toNat_ofNat_of_lt' hb]
      exact hc
    have hne : UInt32.ofNat b ≠ 0 := by
      intro h
      rw [h] at hcb
      exact UInt32.not_lt_zero hcb
    have hdraw := deterministicDraw_append hne (List.forall_mem_nil _) (accepted_of_lt hcb)
      (choices.map UInt32.ofNat)
    rw [List.nil_append, reduced_of_lt hcb] at hdraw
    rw [List.map_cons, drawAll, hdraw, Option.bind_some, ih htail, Option.map_some, hofNat]

end DrawAll

/-- The draws decide about the exchanges. -/
lemma shuffleCandidates_eq (n : ℕ) (cand : List UInt32) (rng : RawOutputs) :
    shuffleCandidates n cand rng = (drawAll (Lib.choiceBounds n) rng).map fun y =>
      (Lib.exchanges n y.1 cand, y.2) := by
  induction n, cand, rng using shuffleCandidates.induct with
  | case1 i cand rng ih =>
    rw [shuffleCandidates, Lib.choiceBounds, drawAll]
    cases hdraw : deterministicDraw rng (UInt32.ofNat (i + 2)) with
    | none => rfl
    | some x =>
      rw [Option.bind_some, Option.bind_some, ih, Option.map_map]
      rfl
  | case2 n cand rng hbase =>
    rw [shuffleCandidates, Lib.choiceBounds]
    · rw [drawAll, Option.map_some, Lib.exchanges_nil]
    · exact hbase
    · exact hbase

lemma deterministicShuffleFrom_eq {i : ℕ} (hi : i + 1 < 2 ^ 32) (a : List ℤ) (rng : RawOutputs) :
    deterministicShuffleFrom i a rng = (drawAll (Lib.choiceBounds (i + 1)) rng).map fun y =>
      (Lib.exchanges (i + 1) y.1 a, y.2) := by
  induction i generalizing a rng with
  | zero => rfl
  | succ i ih =>
    have hbound : UInt64.ofNat (i + 1) + 1 = (UInt32.ofNat (i + 2)).toUInt64 := by
      rw [← UInt64.toNat_inj, UInt32.toNat_toUInt64, UInt32.toNat_ofNat_of_lt' hi,
        UInt64.toNat_add, UInt64.toNat_ofNat_of_lt' (by simp only [UInt64.size]; omega)]
      show (i + 1 + 1) % 2 ^ 64 = i + 2
      omega
    have hne : UInt32.ofNat (i + 2) ≠ 0 := ofNat_ne_zero (by omega) hi
    rw [deterministicShuffleFrom, hbound, Lib.choiceBounds, drawAll, deterministicDraw_eq hne]
    cases hdraw : drawBelow (drawLimit (UInt32.ofNat (i + 2)).toUInt64) rng with
    | none => rfl
    | some x =>
      have hindex : (x.1.toUInt64 % (UInt32.ofNat (i + 2)).toUInt64).toNat =
          (reduced (UInt32.ofNat (i + 2)) x.1).toNat := by
        rw [toNat_reduced, UInt64.toNat_mod, UInt32.toNat_toUInt64, UInt32.toNat_toUInt64]
      rw [Option.map_some, Option.bind_some, Option.bind_some, hindex, ih (by omega),
        Option.map_map]
      rfl

/-! ### Uniform shuffles -/

/-- A shuffle ends when its draws do, it returns a permutation, and each permutation of the places
comes from exactly one way in which the draws can end. -/
structure ShufflesUniformly {α : Type} (n : ℕ)
    (shuffle : List α → RawOutputs → Option (List α × RawOutputs)) : Prop where
  ends : ∀ l rng, l.length = n →
    ((shuffle l rng).isSome ↔ (drawAll (Lib.choiceBounds n) rng).isSome)
  perm : ∀ l rng l' rest, l.length = n → shuffle l rng = some (l', rest) → l'.Perm l
  once : ∀ σ : Equiv.Perm (Fin n), ∃! choices,
    (∃ rng rest, drawAll (Lib.choiceBounds n) rng = some (choices, rest)) ∧
      ∀ v rng rest, drawAll (Lib.choiceBounds n) rng = some (choices, rest) →
        shuffle (List.ofFn v) rng = some (List.ofFn (v ∘ σ), rest)

lemma shufflesUniformly {α : Type} {n : ℕ} (hn : n < 2 ^ 32) (f : Fin n ↪ α)
    {shuffle : List α → RawOutputs → Option (List α × RawOutputs)}
    (hshuffle : ∀ l rng, shuffle l rng = (drawAll (Lib.choiceBounds n) rng).map fun y =>
      (Lib.exchanges n y.1 l, y.2)) : ShufflesUniformly n shuffle where
  ends := by
    intro l rng _
    rw [hshuffle, Option.isSome_map]
  perm := by
    intro l rng l' rest _ h
    rw [hshuffle] at h
    obtain ⟨⟨choices, rest'⟩, -, heq⟩ := Option.map_eq_some_iff.mp h
    cases heq
    exact Lib.exchanges_perm n choices l
  once := by
    intro σ
    have hbounds : ∀ b ∈ Lib.choiceBounds n, 0 < b ∧ b < 2 ^ 32 := by
      intro b hb
      have := Lib.of_mem_choiceBounds hb
      omega
    obtain ⟨choices, ⟨hadm, hexchanges⟩, hunique⟩ := Lib.existsUnique_choices f σ
    refine ⟨choices, ⟨⟨_, [], drawAll_choices (fun b hb => (hbounds b hb).2) hadm⟩, ?_⟩, ?_⟩
    · intro v rng rest hdraws
      rw [hshuffle, hdraws, Option.map_some, hexchanges v]
    · rintro choices' ⟨⟨rng, rest, hdraws⟩, hperm⟩
      refine hunique choices' ⟨lt_of_drawAll hbounds hdraws, fun v => ?_⟩
      have heq := hperm v rng rest hdraws
      rw [hshuffle, hdraws, Option.map_some] at heq
      exact congrArg Prod.fst (Option.some_injective _ heq)

/-- **Unbiased draws and shuffles.** -/
theorem draws_unbiased :
    (∀ bound : UInt32, 1 ≤ bound → DrawsUniformly bound) ∧
      ShufflesUniformly numSlots deterministicShuffle ∧
        ∀ n < 2 ^ 32, ShufflesUniformly n (shuffleCandidates n) := by
  refine ⟨?_, ?_, ?_⟩
  · rintro bound hbound
    refine drawsUniformly ?_
    rintro rfl
    exact absurd hbound (by decide)
  · have hlt : numSlots < 2 ^ 32 := by decide
    exact shufflesUniformly hlt ⟨fun k => (k : ℤ), fun _ _ h => Fin.ext (Int.ofNat_inj.mp h)⟩
      fun a rng => deterministicShuffleFrom_eq hlt a rng
  · intro n hn
    refine shufflesUniformly hn ⟨fun k => UInt32.ofNat k, ?_⟩ (shuffleCandidates_eq n)
    intro k k' h
    have hlt : ∀ k : Fin n, (UInt32.ofNat k).toNat = k := fun k =>
      UInt32.toNat_ofNat_of_lt' (k.isLt.trans hn)
    replace h : UInt32.ofNat k = UInt32.ofNat k' := h
    exact Fin.ext (by rw [← hlt k, ← hlt k', h])

theorem draws_unbiased_five : DrawsUniformly 5 ∧ ShufflesUniformly 5 (shuffleCandidates 5) :=
  ⟨draws_unbiased.1 5 (by decide), draws_unbiased.2.2 5 (by decide)⟩

end ManetOlsr
