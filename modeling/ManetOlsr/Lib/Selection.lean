/-
One-pass selection of an element of a vector.

A loop that keeps the best element so far, and replaces it when the next element is better, ends
with an element of the vector unless the vector is empty.  Nothing is assumed of the comparison,
which need not be an order.  Where it compares keys from an order, the loop ends with the first
element of the greatest key (`select_eq_find?`); a vector sorted into buckets has the same first
element of a kind as the vector itself, if the kind lies in one bucket (`find?_buckets`).
-/
import Mathlib.Data.List.Find
import Mathlib.Order.Basic
import Mathlib.Tactic.Common

namespace ManetOlsr.Lib

variable {α : Type*} {better : α → α → Bool}

/-- Replace the best element so far by one that is better, or take the first one. -/
def selectStep (better : α → α → Bool) (best : Option α) (a : α) : Option α :=
  match best with
  | none => some a
  | some b => if better a b then some a else some b

/-- The element that a loop over the vector selects. -/
def select (better : α → α → Bool) (l : List α) : Option α := l.foldl (selectStep better) none

lemma selectStep_ne_none (best : Option α) (a : α) : selectStep better best a ≠ none := by
  cases best with
  | none => simp [selectStep]
  | some b => simp only [selectStep]; split <;> simp

lemma selectStep_eq_some {best : Option α} {a x : α} (h : selectStep better best a = some x) :
    best = some x ∨ x = a := by
  cases best with
  | none => exact Or.inr (Option.some.inj h).symm
  | some b =>
    simp only [selectStep] at h
    split at h
    · exact Or.inr (Option.some.inj h).symm
    · exact Or.inl h

lemma foldl_selectStep_ne_none {best : Option α} {l : List α} (h : best ≠ none) :
    l.foldl (selectStep better) best ≠ none := by
  induction l generalizing best with
  | nil => exact h
  | cons a l ih => exact ih (selectStep_ne_none best a)

lemma foldl_selectStep_eq_some {l : List α} {best : Option α} {x : α}
    (h : l.foldl (selectStep better) best = some x) : best = some x ∨ x ∈ l := by
  induction l generalizing best with
  | nil => exact Or.inl h
  | cons a l ih =>
    rcases ih h with h | h
    · rcases selectStep_eq_some h with h | rfl
      · exact Or.inl h
      · exact Or.inr (by simp)
    · exact Or.inr (List.mem_cons_of_mem a h)

lemma select_ne_none {l : List α} (h : l ≠ []) : select better l ≠ none := by
  cases l with
  | nil => exact absurd rfl h
  | cons a l =>
    rw [select, List.foldl_cons]
    exact foldl_selectStep_ne_none (selectStep_ne_none none a)

lemma mem_of_select {l : List α} {x : α} (h : select better l = some x) : x ∈ l := by
  rcases foldl_selectStep_eq_some h with h | h
  · exact absurd h (by simp)
  · exact h

/-! ### Greater keys -/

section Keys

variable {κ : Type*} [LinearOrder κ] {key : α → κ} {P : α → Prop}

/-- The best element so far stays, or the first element of the greatest key replaces it. -/
lemma foldl_selectStep_key (hbetter : ∀ a, P a → ∀ b, P b → (better a b = true ↔ key b < key a))
    {l : List α} (hl : ∀ a ∈ l, P a) {b x : α} (hb : P b)
    (h : l.foldl (selectStep better) (some b) = some x) :
    (x = b ∧ ∀ z ∈ l, key z ≤ key b) ∨ ∃ pre post, l = pre ++ x :: post ∧ key b < key x ∧
      (∀ z ∈ pre, key z < key x) ∧ ∀ z ∈ post, key z ≤ key x := by
  induction l generalizing b with
  | nil => exact Or.inl ⟨(Option.some.inj h).symm, fun z hz => absurd hz List.not_mem_nil⟩
  | cons a l ih =>
    have ha := hl a List.mem_cons_self
    have htail : ∀ z ∈ l, P z := fun z hz => hl z (List.mem_cons_of_mem a hz)
    rw [List.foldl_cons, selectStep] at h
    split at h
    · next hreplaced =>
      have hlt := (hbetter a ha b hb).mp hreplaced
      rcases ih htail ha h with ⟨rfl, hle⟩ | ⟨pre, post, rfl, hgreater, hpre, hpost⟩
      · exact Or.inr ⟨[], l, rfl, hlt, fun z hz => absurd hz List.not_mem_nil, hle⟩
      · refine Or.inr ⟨a :: pre, post, rfl, hlt.trans hgreater, ?_, hpost⟩
        intro z hz
        rcases List.mem_cons.mp hz with rfl | hz
        · exact hgreater
        · exact hpre z hz
    · next hkept =>
      have hle : key a ≤ key b := not_lt.mp fun hlt => hkept ((hbetter a ha b hb).mpr hlt)
      rcases ih htail hb h with ⟨rfl, hrest⟩ | ⟨pre, post, rfl, hgreater, hpre, hpost⟩
      · refine Or.inl ⟨rfl, fun z hz => ?_⟩
        rcases List.mem_cons.mp hz with rfl | hz
        · exact hle
        · exact hrest z hz
      · refine Or.inr ⟨a :: pre, post, rfl, hgreater, ?_, hpost⟩
        intro z hz
        rcases List.mem_cons.mp hz with rfl | hz
        · exact hle.trans_lt hgreater
        · exact hpre z hz

/-- The loop selects the first element of the greatest key. -/
lemma select_eq_find? (hbetter : ∀ a, P a → ∀ b, P b → (better a b = true ↔ key b < key a))
    {l : List α} (hl : ∀ a ∈ l, P a) :
    select better l = l.find? fun x => decide (∀ z ∈ l, key z ≤ key x) := by
  cases l with
  | nil => rfl
  | cons b l =>
    have hb := hl b List.mem_cons_self
    have htail : ∀ z ∈ l, P z := fun z hz => hl z (List.mem_cons_of_mem b hz)
    have hselects : select better (b :: l) ≠ none := select_ne_none (List.cons_ne_nil b l)
    obtain ⟨x, hx⟩ := Option.ne_none_iff_exists'.mp hselects
    rw [hx, eq_comm, List.find?_eq_some_iff_append]
    rcases foldl_selectStep_key hbetter htail hb hx with
      ⟨rfl, hle⟩ | ⟨pre, post, rfl, hgreater, hpre, hpost⟩
    · refine ⟨decide_eq_true fun z hz => ?_, [], l, rfl, fun z hz => absurd hz List.not_mem_nil⟩
      rcases List.mem_cons.mp hz with rfl | hz
      · exact le_rfl
      · exact hle z hz
    · have hbefore : ∀ z ∈ b :: pre, key z < key x := by
        intro z hz
        rcases List.mem_cons.mp hz with rfl | hz
        · exact hgreater
        · exact hpre z hz
      refine ⟨decide_eq_true fun z hz => ?_, b :: pre, post, rfl, fun z hz => ?_⟩
      · rw [← List.cons_append] at hz
        rcases List.mem_append.mp hz with hz | hz
        · exact (hbefore z hz).le
        · rcases List.mem_cons.mp hz with hself | hz
          · rw [hself]
          · exact hpost z hz
      · -- Whoever comes before has a smaller key.
        rw [Bool.not_eq_true', decide_eq_false_iff_not]
        intro hall
        have hle := hall x (by simp)
        exact absurd (hbefore z hz) hle.not_gt

end Keys

/-! ### Buckets -/

/-- If the elements of a kind lie in one bucket, the buckets have the first of them first. -/
lemma find?_buckets {κ : Type*} [DecidableEq κ] {f : α → κ} {p : α → Bool} {rs : List κ}
    {l : List α} (hkind : ∀ a ∈ l, p a = true → ∀ b ∈ l, p b = true → f a = f b)
    (hrs : ∀ a ∈ l, p a = true → f a ∈ rs) :
    (rs.flatMap fun r => l.filter fun a => f a == r).find? p = l.find? p := by
  cases hfind : l.find? p with
  | none =>
    rw [List.find?_flatMap_eq_none_iff]
    intro r _ a ha
    rw [Bool.not_eq_true', ← Bool.not_eq_true]
    exact List.find?_eq_none.mp hfind a (List.mem_filter.mp ha).1
  | some x =>
    have hx := List.mem_of_find?_eq_some hfind
    have hp := List.find?_some hfind
    have hbucket : ∀ r, (l.filter fun a => f a == r).find? p = if r = f x then some x else none := by
      intro r
      rw [List.find?_filter]
      split
      · next heq =>
        rw [← hfind]
        refine List.find?_congr fun a ha => ?_
        cases hpa : p a with
        | false => simp
        | true => simp [heq, hkind a ha hpa x hx hp]
      · next hne =>
        rw [List.find?_eq_none]
        intro a ha hboth
        rw [decide_eq_true_eq, beq_iff_eq] at hboth
        exact hne (hboth.1.symm.trans (hkind a ha hboth.2 x hx hp))
    obtain ⟨pre, post, rfl⟩ := List.append_of_mem (hrs x hx hp)
    rw [List.find?_flatMap]
    simp only [hbucket]
    cases hpre : pre.findSome? fun r => if r = f x then some x else none with
    | none => simp [List.findSome?_append, hpre]
    | some y =>
      obtain ⟨r, -, hr⟩ := List.exists_of_findSome?_eq_some hpre
      split at hr
      · simp [List.findSome?_append, hpre, ← hr]
      · cases hr

end ManetOlsr.Lib
