/-
Partial maps that are built by writing one entry after another.

A pass over a list looks at the map built so far and, for each element, either writes
one entry or leaves the map alone.  This file has the invariant rule for a pass
(`foldl_write_inv`) and its case of a property of all entries (`Holds.foldl_write`), the
rule for entries that are never overwritten (`Keeps.foldl_write`), and the decomposition
of a pass at the last write to a key (`foldl_write_cases`), from which one reads off
what the pass leaves there.
-/
import Mathlib.Data.List.Basic
import Mathlib.Logic.Function.Basic
import Mathlib.Tactic.Common

namespace ManetOlsr.Lib

variable {κ ε τ : Type*}

/-- Every entry of the map has a property. -/
def Holds (Q : κ → ε → Prop) (m : κ → Option ε) : Prop := ∀ k v, m k = some v → Q k v

/-- Every entry of the map `m` is an entry of the map `m'`. -/
def Keeps (m m' : κ → Option ε) : Prop := ∀ k v, m k = some v → m' k = some v

lemma Keeps.refl (m : κ → Option ε) : Keeps m m := fun _ _ h => h

lemma Keeps.trans {m₁ m₂ m₃ : κ → Option ε} (h : Keeps m₁ m₂) (h' : Keeps m₂ m₃) : Keeps m₁ m₃ :=
  fun k v hv => h' k v (h k v hv)

lemma Keeps.eq_none {m m' : κ → Option ε} (h : Keeps m m') {k : κ} (hk : m' k = none) :
    m k = none := by
  cases hv : m k with
  | none => rfl
  | some v => exact absurd (h k v hv) (by simp [hk])

lemma Holds.empty (Q : κ → ε → Prop) : Holds Q fun _ => none := by
  intro k v hv
  simp at hv

lemma Holds.of_keeps {Q : κ → ε → Prop} {m m' : κ → Option ε} (h : Holds Q m') (hk : Keeps m m') :
    Holds Q m :=
  fun k v hv => h k v (hk k v hv)

variable [DecidableEq κ]

lemma Holds.update {Q : κ → ε → Prop} {m : κ → Option ε} (h : Holds Q m) {k : κ} {v : ε}
    (hv : Q k v) : Holds Q (Function.update m k (some v)) := by
  intro k' v' hv'
  by_cases hk : k' = k
  · subst hk
    rw [Function.update_self] at hv'
    exact Option.some.inj hv' ▸ hv
  · rw [Function.update_of_ne hk] at hv'
    exact h k' v' hv'

lemma Keeps.update {m : κ → Option ε} {k : κ} (h : m k = none) (v : ε) :
    Keeps m (Function.update m k (some v)) := by
  intro k' v' hv'
  by_cases hk : k' = k
  · subst hk
    rw [h] at hv'
    exact absurd hv' (by simp)
  · rwa [Function.update_of_ne hk]

/-- One step of a pass: `f` says which entry the element writes, if any. -/
def write (f : (κ → Option ε) → τ → Option (κ × ε)) (m : κ → Option ε) (t : τ) : κ → Option ε :=
  match f m t with
  | some (k, v) => Function.update m k (some v)
  | none => m

variable {f : (κ → Option ε) → τ → Option (κ × ε)} {m : κ → Option ε} {t : τ}

lemma write_of_some {k : κ} {v : ε} (h : f m t = some (k, v)) :
    write f m t = Function.update m k (some v) := by
  rw [write, h]

lemma write_of_none (h : f m t = none) : write f m t = m := by
  rw [write, h]

lemma write_of_ne {k : κ} (h : ∀ v, f m t ≠ some (k, v)) : write f m t k = m k := by
  cases hw : f m t with
  | none => rw [write_of_none hw]
  | some kv =>
    obtain ⟨k', v'⟩ := kv
    have hk : k ≠ k' := by
      rintro rfl
      exact h v' hw
    rw [write_of_some hw, Function.update_of_ne hk]

/-- **Invariant rule.**  What every write preserves holds after the pass. -/
lemma foldl_write_inv {I : (κ → Option ε) → Prop} (ts : List τ) (hm : I m)
    (hstep : ∀ m, I m → ∀ t ∈ ts, ∀ k v, f m t = some (k, v) →
      I (Function.update m k (some v))) : I (ts.foldl (write f) m) := by
  induction ts generalizing m with
  | nil => exact hm
  | cons t ts ih =>
    refine ih ?_ fun m hm t' ht' => hstep m hm t' (List.mem_cons_of_mem _ ht')
    cases hw : f m t with
    | none => rwa [write_of_none hw]
    | some kv =>
      rw [write_of_some hw]
      exact hstep m hm t List.mem_cons_self _ _ hw

/-- A property of the entries that every write establishes. -/
lemma Holds.foldl_write {Q : κ → ε → Prop} (ts : List τ) (hm : Holds Q m)
    (hstep : ∀ m, Holds Q m → ∀ t ∈ ts, ∀ k v, f m t = some (k, v) → Q k v) :
    Holds Q (ts.foldl (write f) m) :=
  foldl_write_inv ts hm fun m hm t ht k v hw => hm.update (hstep m hm t ht k v hw)

/-- A pass that writes unset keys only keeps the entries there are. -/
lemma Keeps.foldl_write (hnew : ∀ m t k v, f m t = some (k, v) → m k = none) (ts : List τ)
    (m : κ → Option ε) : Keeps m (ts.foldl (write f) m) := by
  induction ts generalizing m with
  | nil => exact Keeps.refl m
  | cons t ts ih =>
    refine Keeps.trans ?_ (ih (write f m t))
    cases hw : f m t with
    | none =>
      rw [write_of_none hw]
      exact Keeps.refl m
    | some kv =>
      rw [write_of_some hw]
      exact Keeps.update (hnew m t _ _ hw) _

/-- **The last write to a key.**  Either no element of the pass writes the key, and the pass leaves
what was there, or there is a last element that writes it, and the pass leaves what it writes. -/
theorem foldl_write_cases (f : (κ → Option ε) → τ → Option (κ × ε)) (ts : List τ)
    (m : κ → Option ε) (k : κ) :
    ((ts.foldl (write f) m) k = m k ∧
      ∀ pre t post v, ts = pre ++ t :: post → f (pre.foldl (write f) m) t ≠ some (k, v)) ∨
    ∃ pre t post v, ts = pre ++ t :: post ∧ f (pre.foldl (write f) m) t = some (k, v) ∧
      (ts.foldl (write f) m) k = some v ∧
      ∀ p t' q v', post = p ++ t' :: q →
        f ((pre ++ t :: p).foldl (write f) m) t' ≠ some (k, v') := by
  induction ts generalizing m with
  | nil => exact Or.inl ⟨rfl, by simp⟩
  | cons t ts ih =>
    rcases ih (write f m t) with ⟨hsame, hnone⟩ | ⟨pre, t', post, v, rfl, hw, hv, hlast⟩
    · by_cases hw : ∃ v, f m t = some (k, v)
      · obtain ⟨v, hw⟩ := hw
        refine Or.inr ⟨[], t, ts, v, rfl, hw, ?_, fun p t' q v' hts => hnone p t' q v' hts⟩
        rw [List.foldl_cons, hsame, write_of_some hw, Function.update_self]
      · refine Or.inl ⟨?_, fun pre t' post v hts hw' => ?_⟩
        · rw [List.foldl_cons, hsame, write_of_ne fun v hv => hw ⟨v, hv⟩]
        · cases pre with
          | nil =>
            obtain ⟨rfl, -⟩ := List.cons.inj hts
            exact hw ⟨v, hw'⟩
          | cons s pre =>
            obtain ⟨rfl, hts'⟩ := List.cons.inj hts
            exact hnone pre t' post v hts' hw'
    · exact Or.inr ⟨t :: pre, t', post, v, rfl, hw, hv, hlast⟩

/-- The keys that are set after a pass. -/
theorem isSome_foldl_write_iff (ts : List τ) (m : κ → Option ε) (k : κ) :
    ((ts.foldl (write f) m) k).isSome ↔ (m k).isSome ∨
      ∃ pre t post v, ts = pre ++ t :: post ∧ f (pre.foldl (write f) m) t = some (k, v) := by
  rcases foldl_write_cases f ts m k with ⟨hsame, hnone⟩ | ⟨pre, t, post, v, hts, hw, hv, -⟩
  · rw [hsame]
    refine ⟨Or.inl, ?_⟩
    rintro (hm | ⟨pre, t, post, v, hts, hw⟩)
    · exact hm
    · exact absurd hw (hnone pre t post v hts)
  · rw [hv]
    exact ⟨fun _ => Or.inr ⟨pre, t, post, v, hts, hw⟩, fun _ => rfl⟩

/-- **When all entries have a property after a pass**: every write of an entry without it is
followed by a write of an entry with it to the same key. -/
theorem holds_foldl_write_iff {Q : κ → ε → Prop} (ts : List τ) (hm : Holds Q m) :
    Holds Q (ts.foldl (write f) m) ↔
      ∀ pre t post k v, ts = pre ++ t :: post → f (pre.foldl (write f) m) t = some (k, v) →
        ¬ Q k v → ∃ p t' q v', post = p ++ t' :: q ∧
          f ((pre ++ t :: p).foldl (write f) m) t' = some (k, v') ∧ Q k v' := by
  constructor
  · intro h pre t post k v hts hw hbad
    have hfold : ts.foldl (write f) m = post.foldl (write f) ((pre ++ [t]).foldl (write f) m) := by
      rw [hts, ← List.foldl_append, List.append_assoc, List.singleton_append]
    have hset : (pre ++ [t]).foldl (write f) m k = some v := by
      rw [List.foldl_append, List.foldl_cons, List.foldl_nil, write_of_some hw,
        Function.update_self]
    rcases foldl_write_cases f post ((pre ++ [t]).foldl (write f) m) k with
      ⟨hsame, -⟩ | ⟨p, t', q, v', hpost, hw', hv', -⟩
    · rw [← hfold, hset] at hsame
      exact absurd (h k v hsame) hbad
    · rw [← hfold] at hv'
      refine ⟨p, t', q, v', hpost, ?_, h k v' hv'⟩
      rwa [← List.foldl_append, List.append_assoc, List.singleton_append] at hw'
  · intro h k v hv
    rcases foldl_write_cases f ts m k with ⟨hsame, -⟩ | ⟨pre, t, post, v', hts, hw, hv', hlast⟩
    · exact hm k v (hsame ▸ hv)
    · obtain rfl : v' = v := Option.some.inj (hv'.symm.trans hv)
      by_contra hbad
      obtain ⟨p, t', q, v', hpost, hw', -⟩ := h pre t post k v' hts hw hbad
      exact hlast p t' q v' hpost hw'

end ManetOlsr.Lib
