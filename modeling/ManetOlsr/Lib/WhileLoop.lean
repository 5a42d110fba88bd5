/-
While loops, run for a bounded number of rounds.

A loop `while (cond) body` is modelled by the function that runs at most a given
number of rounds and stops as soon as the condition fails.  The loop terminates
from a state when some number of rounds is enough for the condition to fail; from
there on, further rounds change nothing, so that the state reached is *the* state
in which the loop ends.

The rules used on the loops of a program are `whileLoop_inv` (an invariant of the
rounds holds at the end), `RoundBegins.inv` (and whenever a round begins),
`whileLoop_map` (two loops whose rounds commute with a map end in states that the map
relates), `whileLoop_exit` (a measure that every round decreases bounds the number of
rounds) and `Terminates.within_card` (a loop through finitely many states that
terminates does so before it comes to a state again).
-/
import Mathlib.Data.Fintype.Card
import Mathlib.Logic.Function.Iterate
import Mathlib.Order.Basic
import Mathlib.Tactic.Common

namespace ManetOlsr.Lib

variable {σ : Type*}

/-- At most `fuel` rounds of `while (cond) body`. -/
def whileLoop (cond : σ → Bool) (body : σ → σ) : ℕ → σ → σ
  | 0, s => s
  | fuel + 1, s => if cond s then whileLoop cond body fuel (body s) else s

variable {cond : σ → Bool} {body : σ → σ}

@[simp] lemma whileLoop_zero (s : σ) : whileLoop cond body 0 s = s := rfl

lemma whileLoop_of_true {s : σ} (h : cond s = true) (fuel : ℕ) :
    whileLoop cond body (fuel + 1) s = whileLoop cond body fuel (body s) := by
  simp [whileLoop, h]

lemma whileLoop_of_false {s : σ} (h : cond s = false) (fuel : ℕ) :
    whileLoop cond body fuel s = s := by
  cases fuel with
  | zero => rfl
  | succ fuel => simp [whileLoop, h]

/-- Every property that the rounds preserve holds when the loop stops. -/
lemma whileLoop_inv (I : σ → Prop) (hbody : ∀ s, I s → cond s = true → I (body s))
    (fuel : ℕ) {s : σ} (hs : I s) : I (whileLoop cond body fuel s) := by
  induction fuel generalizing s with
  | zero => exact hs
  | succ fuel ih =>
    cases hc : cond s with
    | false => rwa [whileLoop_of_false hc]
    | true =>
      rw [whileLoop_of_true hc]
      exact ih (hbody s hs hc)

/-- **Simulation.**  Two loops take the same course when a map between their states commutes with
the rounds, along the states that an invariant of the first loop describes. -/
lemma whileLoop_map {τ : Type*} {cond' : τ → Bool} {body' : τ → τ} (f : σ → τ) (I : σ → Prop)
    (hcond : ∀ s, I s → cond' (f s) = cond s) (hbody : ∀ s, I s → cond s = true → I (body s))
    (hcomm : ∀ s, I s → cond s = true → body' (f s) = f (body s)) (fuel : ℕ) {s : σ} (hs : I s) :
    whileLoop cond' body' fuel (f s) = f (whileLoop cond body fuel s) := by
  induction fuel generalizing s with
  | zero => rfl
  | succ fuel ih =>
    cases hc : cond s with
    | false =>
      have hc' : cond' (f s) = false := by rw [hcond s hs, hc]
      rw [whileLoop_of_false hc, whileLoop_of_false hc']
    | true =>
      have hc' : cond' (f s) = true := by rw [hcond s hs, hc]
      rw [whileLoop_of_true hc, whileLoop_of_true hc', hcomm s hs hc]
      exact ih (hbody s hs hc)

/-- The states in which a round of the loop begins. -/
inductive RoundBegins (cond : σ → Bool) (body : σ → σ) (s : σ) : σ → Prop
  | first : cond s = true → RoundBegins cond body s s
  | next {t : σ} : RoundBegins cond body s t → cond (body t) = true →
      RoundBegins cond body s (body t)

lemma RoundBegins.cond_eq_true {s t : σ} (h : RoundBegins cond body s t) : cond t = true := by
  cases h with
  | first hcond => exact hcond
  | next _ hcond => exact hcond

/-- Every property that the rounds preserve holds when a round begins. -/
lemma RoundBegins.inv (I : σ → Prop) (hbody : ∀ s, I s → cond s = true → I (body s)) {s t : σ}
    (h : RoundBegins cond body s t) (hs : I s) : I t := by
  induction h with
  | first => exact hs
  | next hbegins _ ih => exact hbody _ ih hbegins.cond_eq_true

/-- If every round decreases the measure `μ`, the loop has ended after `μ s` rounds. -/
lemma whileLoop_exit (I : σ → Prop) (μ : σ → ℕ)
    (hbody : ∀ s, I s → cond s = true → I (body s) ∧ μ (body s) < μ s)
    {fuel : ℕ} {s : σ} (hs : I s) (hfuel : μ s ≤ fuel) :
    cond (whileLoop cond body fuel s) = false := by
  induction fuel generalizing s with
  | zero =>
    -- No round can decrease the measure any more.
    rw [whileLoop_zero, ← Bool.not_eq_true]
    intro hc
    have hlt := (hbody s hs hc).2
    omega
  | succ fuel ih =>
    cases hc : cond s with
    | false => rwa [whileLoop_of_false hc]
    | true =>
      rw [whileLoop_of_true hc]
      obtain ⟨hI, hμ⟩ := hbody s hs hc
      exact ih hI (by omega)

/-- Once the condition has failed, more rounds change nothing. -/
lemma whileLoop_stable {fuel : ℕ} {s : σ} (h : cond (whileLoop cond body fuel s) = false)
    (extra : ℕ) : whileLoop cond body (fuel + extra) s = whileLoop cond body fuel s := by
  induction fuel generalizing s with
  | zero =>
    rw [Nat.zero_add]
    exact whileLoop_of_false h extra
  | succ fuel ih =>
    rw [Nat.add_right_comm]
    cases hc : cond s with
    | false => rw [whileLoop_of_false hc, whileLoop_of_false hc]
    | true =>
      rw [whileLoop_of_true hc, whileLoop_of_true hc]
      rw [whileLoop_of_true hc] at h
      exact ih h

/-- A loop that counts up stops at the first number at which its condition fails. -/
lemma whileLoop_count {cond : ℕ → Bool} {m : ℕ} (hm : cond m = false) {fuel k : ℕ} (hk : k ≤ m)
    (hcond : ∀ i, k ≤ i → i < m → cond i = true) (hfuel : m ≤ k + fuel) :
    whileLoop cond (· + 1) fuel k = m := by
  induction fuel generalizing k with
  | zero => exact Nat.le_antisymm hk hfuel
  | succ fuel ih =>
    rcases hk.lt_or_eq with hlt | rfl
    · rw [whileLoop_of_true (hcond k le_rfl hlt)]
      exact ih hlt (fun i hi => hcond i (by omega)) (by omega)
    · exact whileLoop_of_false hm _

/-- The loop `while (cond) body` terminates from `s`. -/
def Terminates (cond : σ → Bool) (body : σ → σ) (s : σ) : Prop :=
  ∃ fuel, cond (whileLoop cond body fuel s) = false

/-- As long as the condition holds, the loop iterates its body. -/
lemma whileLoop_eq_iterate {fuel : ℕ} {s : σ} (h : ∀ i < fuel, cond (body^[i] s) = true) :
    whileLoop cond body fuel s = body^[fuel] s := by
  induction fuel generalizing s with
  | zero => rfl
  | succ fuel ih =>
    have hfirst : cond s = true := h 0 (Nat.succ_pos fuel)
    rw [whileLoop_of_true hfirst, Function.iterate_succ_apply]
    refine ih fun i hi => ?_
    rw [← Function.iterate_succ_apply]
    exact h (i + 1) (Nat.succ_lt_succ hi)

/-- **The pigeonhole rule.**  When the states of a loop are told apart by finitely many keys, a
loop that terminates has ended after as many rounds as there are keys. -/
theorem Terminates.within_card {κ : Type*} [Fintype κ] {s : σ} (h : Terminates cond body s)
    (key : σ → κ) (I : σ → Prop) (hbody : ∀ s, I s → cond s = true → I (body s))
    (hkey : ∀ s s', I s → I s' → key s = key s' → s = s') (hs : I s) :
    cond (whileLoop cond body (Fintype.card κ) s) = false := by
  have hexit : ∃ i, cond (body^[i] s) = false := by
    obtain ⟨fuel, hfuel⟩ := h
    by_contra hall
    have htrue : ∀ i, cond (body^[i] s) = true := fun i => by simpa using not_exists.mp hall i
    rw [whileLoop_eq_iterate fun i _ => htrue i, htrue] at hfuel
    cases hfuel
  set f := Nat.find hexit with hf
  have hlast : cond (body^[f] s) = false := Nat.find_spec hexit
  have hbefore : ∀ i < f, cond (body^[i] s) = true := fun i hi => by
    simpa using Nat.find_min hexit hi
  have hinv : ∀ i ≤ f, I (body^[i] s) := by
    intro i hi
    induction i with
    | zero => exact hs
    | succ i ih =>
      rw [Function.iterate_succ_apply']
      exact hbody _ (ih (Nat.le_of_succ_le hi)) (hbefore i hi)
  -- A state that came again would end the loop earlier.
  have hdistinct : ∀ i j : Fin f, i < j → key (body^[i.1] s) ≠ key (body^[j.1] s) := by
    intro i j hij hsame
    have hstate := hkey _ _ (hinv i i.2.le) (hinv j j.2.le) hsame
    have hearlier : body^[(f - j.1) + i.1] s = body^[f] s := by
      rw [Function.iterate_add_apply, hstate, ← Function.iterate_add_apply,
        Nat.sub_add_cancel j.2.le]
    have hlt : (f - j.1) + i.1 < f := by
      have hj := j.2
      have hij' : i.1 < j.1 := hij
      omega
    have hgoes := hbefore _ hlt
    rw [hearlier, hlast] at hgoes
    cases hgoes
  have hinjective : Function.Injective fun i : Fin f => key (body^[i.1] s) := by
    intro i j hsame
    rcases lt_trichotomy i j with hij | hij | hij
    · exact absurd hsame (hdistinct i j hij)
    · exact hij
    · exact absurd hsame.symm (hdistinct j i hij)
  have hcard : f ≤ Fintype.card κ := by
    simpa using Fintype.card_le_of_injective _ hinjective
  have hended : cond (whileLoop cond body f s) = false := by
    rw [whileLoop_eq_iterate hbefore, hlast]
  rw [← Nat.add_sub_of_le hcard, whileLoop_stable hended]
  exact hended

end ManetOlsr.Lib
