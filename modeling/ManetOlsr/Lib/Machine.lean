/-
Runs of a deterministic machine.

A machine is a function `exec` from a state and an action to a state.  A run is
given by its starting state and the list of the actions taken; its trace lists the
actions together with the states in which they are taken.  The rules below derive
what holds along a run from what one action preserves, where the actions of the run
may be restricted by a condition on the state they are taken in.
-/
import Mathlib.Algebra.BigOperators.Group.List.Basic
import Mathlib.Algebra.Ring.Nat
import Mathlib.Data.List.Induction
import Mathlib.Order.Basic
import Mathlib.Tactic.Common

namespace ManetOlsr.Lib

variable {σ ι : Type*} (exec : σ → ι → σ)

/-- The state in which a run ends. -/
def run (s : σ) (as : List ι) : σ := as.foldl exec s

/-- A quantity that no step of a loop changes is the same after the loop. -/
lemma foldl_eq {β : Type*} (g : σ → β) {f : σ → ι → σ} (hf : ∀ s a, g (f s a) = g s) (l : List ι)
    (s : σ) : g (l.foldl f s) = g s := by
  induction l generalizing s with
  | nil => rfl
  | cons a l ih => rw [List.foldl_cons, ih, hf]

/-- A loop over a list without duplicates comes to an element once. -/
lemma foldl_once {τ : Type*} {f : σ → ι → σ} {r : σ → τ} {I : σ → Prop} {k : ι} {g : τ → τ}
    (hI : ∀ s a, I s → I (f s a)) (hother : ∀ s a, I s → a ≠ k → r (f s a) = r s)
    (hself : ∀ s, I s → r (f s k) = g (r s)) {l : List ι} (hl : l.Nodup) {s : σ} (hs : I s) :
    (k ∈ l → r (l.foldl f s) = g (r s)) ∧ (k ∉ l → r (l.foldl f s) = r s) := by
  induction l generalizing s with
  | nil => exact ⟨fun h => absurd h List.not_mem_nil, fun _ => rfl⟩
  | cons a l ih =>
    rw [List.nodup_cons] at hl
    obtain ⟨hmem, hnot⟩ := ih hl.2 (hI s a hs)
    rw [List.foldl_cons]
    constructor
    · intro hk
      rcases List.mem_cons.mp hk with rfl | hk
      · rw [hnot hl.1, hself s hs]
      · have hne : a ≠ k := fun heq => hl.1 (heq ▸ hk)
        rw [hmem hk, hother s a hs hne]
    · intro hk
      rw [List.mem_cons, not_or] at hk
      rw [hnot hk.2, hother s a hs (Ne.symm hk.1)]

/-- The actions of a run, each with the state it is taken in. -/
def trace : σ → List ι → List (σ × ι)
  | _, [] => []
  | s, a :: as => (s, a) :: trace (exec s a) as

@[simp] lemma run_nil (s : σ) : run exec s [] = s := rfl

@[simp] lemma run_cons (s : σ) (a : ι) (as : List ι) :
    run exec s (a :: as) = run exec (exec s a) as := rfl

@[simp] lemma run_append (s : σ) (as bs : List ι) :
    run exec s (as ++ bs) = run exec (run exec s as) bs :=
  List.foldl_append

@[simp] lemma trace_nil (s : σ) : trace exec s [] = [] := rfl

@[simp] lemma trace_cons (s : σ) (a : ι) (as : List ι) :
    trace exec s (a :: as) = (s, a) :: trace exec (exec s a) as := rfl

@[simp] lemma trace_append (s : σ) (as bs : List ι) :
    trace exec s (as ++ bs) = trace exec s as ++ trace exec (run exec s as) bs := by
  induction as generalizing s with
  | nil => rfl
  | cons a as ih => simp [ih]

variable {exec}

lemma snd_mem_of_mem_trace {s : σ} {as : List ι} {x : σ × ι} (h : x ∈ trace exec s as) :
    x.2 ∈ as := by
  induction as generalizing s with
  | nil => simp at h
  | cons a as ih =>
    rcases List.mem_cons.mp h with rfl | h
    · simp
    · exact List.mem_cons_of_mem a (ih h)

/-- What an action makes of its state is the next state of the run, or the state it ends in. -/
lemma exec_mem_of_mem_trace {s : σ} {as : List ι} {x : σ × ι} (h : x ∈ trace exec s as) :
    exec x.1 x.2 = run exec s as ∨ ∃ y ∈ trace exec s as, y.1 = exec x.1 x.2 := by
  induction as generalizing s with
  | nil => simp at h
  | cons a as ih =>
    rw [trace_cons] at h ⊢
    rcases List.mem_cons.mp h with rfl | h
    · cases as with
      | nil => exact Or.inl rfl
      | cons b bs => exact Or.inr ⟨(exec s a, b), by simp, rfl⟩
    · rcases ih h with hlast | ⟨y, hy, hnext⟩
      · exact Or.inl hlast
      · exact Or.inr ⟨y, List.mem_cons_of_mem _ hy, hnext⟩

lemma mem_trace_append (s : σ) (as : List ι) (a : ι) (bs : List ι) :
    (run exec s as, a) ∈ trace exec s (as ++ a :: bs) := by
  simp

/-- Each action is taken in the state after the actions before it. -/
lemma mem_trace_of_getElem? {as : List ι} {i : ℕ} {a : ι} (h : as[i]? = some a) (s : σ) :
    (run exec s (as.take i), a) ∈ trace exec s as := by
  obtain ⟨hi, ha⟩ := List.getElem?_eq_some_iff.mp h
  have hsplit : as = as.take i ++ a :: as.drop (i + 1) := by
    rw [← ha, ← List.drop_eq_getElem_cons hi, List.take_append_drop]
  have hmem : (run exec s (as.take i), a) ∈ trace exec s _ :=
    mem_trace_append s (as.take i) a (as.drop (i + 1))
  rwa [← hsplit] at hmem

/-- The action at a position of a trace is preceded by a run that ends in its state. -/
lemma trace_split {s : σ} {as : List ι} {pre post : List (σ × ι)} {x : σ × ι}
    (h : trace exec s as = pre ++ x :: post) :
    ∃ before after, as = before ++ x.2 :: after ∧ x.1 = run exec s before ∧
      pre = trace exec s before ∧ post = trace exec (exec x.1 x.2) after := by
  induction pre generalizing s as with
  | nil =>
    cases as with
    | nil => simp at h
    | cons a as =>
      simp only [trace_cons, List.nil_append, List.cons.injEq] at h
      obtain ⟨rfl, rfl⟩ := h
      exact ⟨[], as, rfl, rfl, rfl, rfl⟩
  | cons y pre ih =>
    cases as with
    | nil => simp at h
    | cons a as =>
      simp only [trace_cons, List.cons_append, List.cons.injEq] at h
      obtain ⟨rfl, h⟩ := h
      obtain ⟨before, after, rfl, hx, rfl, hpost⟩ := ih h
      exact ⟨a :: before, after, rfl, hx, rfl, hpost⟩

/-- The parts of a trace are traces. -/
lemma trace_eq_append {s : σ} {as : List ι} {l l' : List (σ × ι)}
    (h : trace exec s as = l ++ l') :
    ∃ before after, as = before ++ after ∧ l = trace exec s before ∧
      l' = trace exec (run exec s before) after := by
  induction l generalizing s as with
  | nil => exact ⟨[], as, rfl, rfl, h.symm⟩
  | cons x l ih =>
    cases as with
    | nil => simp at h
    | cons a as =>
      rw [trace_cons, List.cons_append, List.cons.injEq] at h
      obtain ⟨rfl, h⟩ := h
      obtain ⟨before, after, rfl, rfl, rfl⟩ := ih h
      exact ⟨a :: before, after, rfl, rfl, rfl⟩

/-- A trace, split at the position of an action. -/
lemma split_at (l : List (σ × ι)) {k : ℕ} (hk : k < l.length) {a : ι} (ha : l[k].2 = a) :
    l = l.take k ++ (l[k].1, a) :: l.drop (k + 1) := by
  have hget : (l[k].1, a) = l[k] := Prod.ext rfl ha.symm
  rw [hget, ← List.drop_eq_getElem_cons, List.take_append_drop]

/-- The trace of the first actions. -/
lemma mem_trace_of_take {s : σ} {as : List ι} {i : ℕ} {x : σ × ι}
    (h : x ∈ trace exec s (as.take i)) : x ∈ trace exec s as := by
  rw [← List.take_append_drop i as, trace_append]
  exact List.mem_append_left _ h

variable {I : σ → Prop} {P : σ → ι → Prop}

/-- A condition on runs that each action meets when its turn comes holds along the trace. -/
lemma forall_trace_of_cons {Q : σ → List ι → Prop}
    (hQ : ∀ s a as, Q s (a :: as) → P s a ∧ Q (exec s a) as) {s : σ} {as : List ι} (h : Q s as) :
    ∀ x ∈ trace exec s as, P x.1 x.2 := by
  induction as generalizing s with
  | nil => simp
  | cons a as ih =>
    obtain ⟨hfirst, hrest⟩ := hQ s a as h
    intro x hx
    rcases List.mem_cons.mp hx with rfl | hx
    · exact hfirst
    · exact ih hrest x hx

/-- **Invariant rule.**  What every action of the run preserves holds where it ends. -/
theorem inv_run (hstep : ∀ s a, I s → P s a → I (exec s a)) {s : σ} {as : List ι} (hs : I s)
    (hP : ∀ x ∈ trace exec s as, P x.1 x.2) : I (run exec s as) := by
  induction as generalizing s with
  | nil => exact hs
  | cons a as ih =>
    rw [run_cons]
    refine ih (hstep s a hs (hP (s, a) (by simp))) fun x hx => hP x ?_
    exact List.mem_cons_of_mem _ hx

/-- What every action of the run preserves holds in every state of its trace. -/
theorem inv_trace (hstep : ∀ s a, I s → P s a → I (exec s a)) {s : σ} {as : List ι} (hs : I s)
    (hP : ∀ x ∈ trace exec s as, P x.1 x.2) : ∀ x ∈ trace exec s as, I x.1 := by
  induction as generalizing s with
  | nil => simp
  | cons a as ih =>
    intro x hx
    rcases List.mem_cons.mp hx with rfl | hx
    · exact hs
    · exact ih (hstep s a hs (hP (s, a) (by simp)))
        (fun y hy => hP y (List.mem_cons_of_mem _ hy)) x hx

/-- A quantity that no action of the run changes is the same where it ends. -/
theorem run_eq_of_forall {β : Type*} (f : σ → β)
    (hstep : ∀ s a, I s → P s a → I (exec s a) ∧ f (exec s a) = f s) {s : σ} {as : List ι}
    (hs : I s) (hP : ∀ x ∈ trace exec s as, P x.1 x.2) : f (run exec s as) = f s :=
  (inv_run (I := fun t => I t ∧ f t = f s)
    (fun t a ht hPa => ⟨(hstep t a ht.1 hPa).1, (hstep t a ht.1 hPa).2.trans ht.2⟩)
    ⟨hs, rfl⟩ hP).2

/-- A quantity rises by what the actions of every run up to some point are worth, if each action of
the run raises it by its worth, and not otherwise. -/
theorem account_iff (m : σ → ℕ) (w : ι → ℕ) {s : σ} {as : List ι} :
    (∀ bs, bs <+: as → m (run exec s bs) = m s + (bs.map w).sum) ↔
      ∀ x ∈ trace exec s as, m (exec x.1 x.2) = m x.1 + w x.2 := by
  induction as generalizing s with
  | nil => simp
  | cons a as ih =>
    rw [trace_cons, List.forall_mem_cons]
    constructor
    · intro h
      have hfirst : m (exec s a) = m s + w a := by simpa using h [a] (by simp)
      refine ⟨hfirst, ih.mp fun bs hbs => ?_⟩
      have hrest := h (a :: bs) (List.cons_prefix_cons.mpr ⟨rfl, hbs⟩)
      rw [run_cons, List.map_cons, List.sum_cons] at hrest
      omega
    · rintro ⟨hfirst, hrest⟩ bs hbs
      cases bs with
      | nil => simp
      | cons b bs =>
        obtain ⟨rfl, htail⟩ := List.cons_prefix_cons.mp hbs
        have hfirst : m (exec s b) = m s + w b := hfirst
        have hlater := ih.mpr hrest bs htail
        rw [run_cons, List.map_cons, List.sum_cons]
        omega

/-- **Simulation rule.**  If a reading of the state follows every action in a machine of its own, the
reading at the end of a run is the end of a run. -/
lemma run_reading {τ : Type*} {r : σ → τ} {exec' : τ → ι → τ}
    (hI : ∀ s a, I s → P s a → I (exec s a))
    (hr : ∀ s a, I s → P s a → r (exec s a) = exec' (r s) a) {s : σ} {as : List ι} (hs : I s)
    (hP : ∀ x ∈ trace exec s as, P x.1 x.2) : r (run exec s as) = run exec' (r s) as := by
  induction as generalizing s with
  | nil => rfl
  | cons a as ih =>
    have hfirst : P s a := hP (s, a) (by simp)
    rw [run_cons, run_cons, ← hr s a hs hfirst]
    exact ih (hI s a hs hfirst) fun x hx => hP x (List.mem_cons_of_mem _ hx)

/-- Runs from states that a reading does not tell apart are not told apart, if no action makes a
difference. -/
lemma run_congr {β : Type*} {f : σ → β}
    (hf : ∀ s s' a, f s = f s' → f (exec s a) = f (exec s' a)) {s s' : σ} (h : f s = f s')
    (as : List ι) : f (run exec s as) = f (run exec s' as) := by
  induction as generalizing s s' with
  | nil => exact h
  | cons a as ih => exact ih (hf s s' a h)

/-- **The last rise.**  A property that does not hold in the beginning and holds in the end has come
about in an action, and has held ever since. -/
lemma exists_last_rise {Q : σ → Prop} {s : σ} {as : List ι} (hs : ¬ Q s) (h : Q (run exec s as)) :
    ∃ before a after, as = before ++ a :: after ∧ ¬ Q (run exec s before) ∧
      Q (exec (run exec s before) a) ∧
      ∀ x ∈ trace exec (exec (run exec s before) a) after, Q x.1 ∧ Q (exec x.1 x.2) := by
  induction as using List.reverseRecOn with
  | nil => exact absurd h hs
  | append_singleton as a ih =>
    rw [run_append, run_cons, run_nil] at h
    by_cases hlast : Q (run exec s as)
    · obtain ⟨before, b, after, rfl, hbefore, hb, hafter⟩ := ih hlast
      refine ⟨before, b, after ++ [a], by simp, hbefore, hb, ?_⟩
      intro x hx
      rw [trace_append] at hx
      rcases List.mem_append.mp hx with hx | hx
      · exact hafter x hx
      · rw [trace_cons, trace_nil, List.mem_singleton] at hx
        rw [run_append, run_cons] at h hlast
        rw [hx]
        exact ⟨hlast, h⟩
    · exact ⟨as, a, [], rfl, hlast, h, by simp⟩

variable (exec) in
/-- What the actions of a run write last, when `w` says what each of them writes. -/
def lastWrite {τ : Type*} (w : σ → ι → Option τ) (s : σ) (as : List ι) : Option τ :=
  ((trace exec s as).filterMap fun x => w x.1 x.2).getLast?

lemma lastWrite_cons {τ : Type*} (w : σ → ι → Option τ) (s : σ) (a : ι) (as : List ι) :
    lastWrite exec w s (a :: as) = (lastWrite exec w (exec s a) as).or (w s a) := by
  rw [lastWrite, trace_cons, List.filterMap_cons]
  cases w s a with
  | none => exact (Option.or_none).symm
  | some z =>
    show (z :: _).getLast? = Option.or (List.getLast? _) (some z)
    rw [List.getLast?_cons]
    cases ((trace exec (exec s a) as).filterMap fun x => w x.1 x.2).getLast? <;> rfl

/-- **The last write.**  A part of the state that the actions write now and then, as `w` says, is at
the end of a run what was written last. -/
theorem run_eq_lastWrite {β τ : Type*} {p : σ → β} {w : σ → ι → Option τ} {val : τ → β}
    (hw : ∀ s a, p (exec s a) = ((w s a).map val).getD (p s)) (s : σ) (as : List ι) :
    p (run exec s as) = ((lastWrite exec w s as).map val).getD (p s) := by
  induction as generalizing s with
  | nil => rfl
  | cons a as ih =>
    rw [run_cons, ih, hw s a, lastWrite_cons]
    cases lastWrite exec w (exec s a) as <;> rfl

/-- What every action of the run preserves, of the state and of what was written last, holds where
it ends. -/
theorem inv_lastWrite {τ : Type*} {w : σ → ι → Option τ} {J : σ → Option τ → Prop}
    (hstep : ∀ s a c, J s c → P s a → J (exec s a) ((w s a).or c)) {s : σ} {c : Option τ}
    {as : List ι} (hs : J s c) (hP : ∀ x ∈ trace exec s as, P x.1 x.2) :
    J (run exec s as) ((lastWrite exec w s as).or c) := by
  induction as generalizing s c with
  | nil => exact hs
  | cons a as ih =>
    have hrest : ∀ x ∈ trace exec (exec s a) as, P x.1 x.2 :=
      fun x hx => hP x (List.mem_cons_of_mem _ hx)
    have hlater := ih (hstep s a c hs (hP (s, a) (by simp))) hrest
    rwa [run_cons, lastWrite_cons, Option.or_assoc]

end ManetOlsr.Lib
