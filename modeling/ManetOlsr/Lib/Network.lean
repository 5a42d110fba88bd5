/-
Machines side by side.

A network has a machine at each of its places.  An action of the network is an action of the
machine at one place: it changes the state there and leaves the other machines alone, although
whether it is possible may depend on all of them.  What happens at one place is a run of the
machine there.  What holds of every machine is derived from what an action preserves at its place.
-/
import Mathlib.Logic.Function.Basic
import ManetOlsr.Lib.Machine

namespace ManetOlsr.Lib

variable {ν σ ι : Type*} [DecidableEq ν] (exec : σ → ι → σ)

/-- The effect of an action at a place. -/
def netExec (s : ν → σ) (x : ν × ι) : ν → σ := Function.update s x.1 (exec (s x.1) x.2)

/-- The actions at a place. -/
def actionsAt (v : ν) (xs : List (ν × ι)) : List ι := (xs.filter fun x => x.1 = v).map Prod.snd

@[simp] lemma actionsAt_nil (v : ν) : actionsAt v ([] : List (ν × ι)) = [] := rfl

lemma actionsAt_cons_self (v : ν) (a : ι) (xs : List (ν × ι)) :
    actionsAt v ((v, a) :: xs) = a :: actionsAt v xs := by
  simp [actionsAt]

lemma actionsAt_cons_of_ne {v w : ν} (h : w ≠ v) (a : ι) (xs : List (ν × ι)) :
    actionsAt v ((w, a) :: xs) = actionsAt v xs := by
  simp [actionsAt, h]

variable {exec}

lemma netExec_self (s : ν → σ) (v : ν) (a : ι) : netExec exec s (v, a) v = exec (s v) a :=
  Function.update_self _ _ _

lemma netExec_of_ne (s : ν → σ) {v w : ν} (h : w ≠ v) (a : ι) : netExec exec s (w, a) v = s v :=
  Function.update_of_ne (Ne.symm h) _ _

/-- The network and the machine at a place go through the same run. -/
lemma run_netExec (v : ν) (xs : List (ν × ι)) (s : ν → σ) :
    run (netExec exec) s xs v = run exec (s v) (actionsAt v xs) := by
  induction xs generalizing s with
  | nil => rfl
  | cons x xs ih =>
    obtain ⟨w, a⟩ := x
    rw [run_cons, ih]
    by_cases h : w = v
    · subst h
      rw [actionsAt_cons_self, netExec_self, run_cons]
    · rw [actionsAt_cons_of_ne h, netExec_of_ne s h]

/-- Each action at a place comes from an action of the network. -/
lemma mem_trace_of_actionsAt {v : ν} {xs : List (ν × ι)} {s : ν → σ} {y : σ × ι}
    (h : y ∈ trace exec (s v) (actionsAt v xs)) :
    ∃ x ∈ trace (netExec exec) s xs, x.2 = (v, y.2) ∧ x.1 v = y.1 := by
  induction xs generalizing s with
  | nil => simp at h
  | cons x xs ih =>
    obtain ⟨w, a⟩ := x
    by_cases hw : w = v
    · subst hw
      rw [actionsAt_cons_self, trace_cons] at h
      rcases List.mem_cons.mp h with rfl | h
      · exact ⟨(s, (w, a)), List.mem_cons_self, rfl, rfl⟩
      · have hself : netExec exec s (w, a) w = exec (s w) a := netExec_self s w a
        rw [← hself] at h
        obtain ⟨x, hx, hxy⟩ := ih h
        exact ⟨x, List.mem_cons_of_mem _ hx, hxy⟩
    · have hother : netExec exec s (w, a) v = s v := netExec_of_ne s hw a
      rw [actionsAt_cons_of_ne hw, ← hother] at h
      obtain ⟨x, hx, hxy⟩ := ih h
      exact ⟨x, List.mem_cons_of_mem _ hx, hxy⟩

section Invariants

variable {I : ν → σ → Prop} {P : (ν → σ) → ν × ι → Prop}

/-- What an action preserves at its place it preserves at every place. -/
lemma netExec_inv (hstep : ∀ s v a, (∀ w, I w (s w)) → P s (v, a) → I v (exec (s v) a))
    (s : ν → σ) (x : ν × ι) (hs : ∀ w, I w (s w)) (hx : P s x) (w : ν) :
    I w (netExec exec s x w) := by
  obtain ⟨v, a⟩ := x
  by_cases h : v = w
  · subst h
    rw [netExec_self]
    exact hstep s v a hs hx
  · rw [netExec_of_ne s h]
    exact hs w

variable (hstep : ∀ s v a, (∀ w, I w (s w)) → P s (v, a) → I v (exec (s v) a))

include hstep

/-- **Invariant rule for networks.** -/
theorem inv_run_net {s : ν → σ} {xs : List (ν × ι)} (hs : ∀ w, I w (s w))
    (hP : ∀ x ∈ trace (netExec exec) s xs, P x.1 x.2) (w : ν) :
    I w (run (netExec exec) s xs w) :=
  inv_run (I := fun s => ∀ w, I w (s w)) (netExec_inv hstep) hs hP w

/-- The invariant rule for all the states that a network goes through. -/
theorem inv_trace_net {s : ν → σ} {xs : List (ν × ι)} (hs : ∀ w, I w (s w))
    (hP : ∀ x ∈ trace (netExec exec) s xs, P x.1 x.2) :
    ∀ x ∈ trace (netExec exec) s xs, ∀ w, I w (x.1 w) :=
  inv_trace (I := fun s => ∀ w, I w (s w)) (netExec_inv hstep) hs hP

end Invariants

end ManetOlsr.Lib
