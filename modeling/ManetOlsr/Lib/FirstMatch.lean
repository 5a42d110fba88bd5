/-
Vectors searched from the front.

A repository kept as a vector is read and changed through its *first* element that
satisfies a predicate: `List.find?` reads it, `List.eraseP` erases it, `updateFirst`
changes it in place, and `upsert` overwrites it or, when there is none, appends.
This file collects the facts on these four operations that do not depend on what
the elements are: how they act on the keys of a vector, and that they keep its keys
distinct.
-/
import Mathlib.Data.List.Nodup
import Mathlib.Tactic.Common

namespace ManetOlsr.Lib

variable {α κ : Type*}

/-- Change the first element of the vector that satisfies `p` to its image under `f`. -/
def updateFirst (p : α → Bool) (f : α → α) (l : List α) : List α :=
  l.replaceF fun a => if p a then some (f a) else none

/-- Overwrite the first element that satisfies `p`, or append when there is none. -/
def upsert (p : α → Bool) (a : α) (l : List α) : List α :=
  if l.any p then updateFirst p (fun _ => a) l else l ++ [a]

section UpdateFirst

variable {p : α → Bool} {f : α → α} {l : List α} {a : α}

@[simp] lemma updateFirst_nil : updateFirst p f [] = [] := rfl

lemma updateFirst_cons_of_pos (h : p a = true) (l : List α) :
    updateFirst p f (a :: l) = f a :: l := by
  simp [updateFirst, h]

lemma updateFirst_cons_of_neg (h : p a = false) (l : List α) :
    updateFirst p f (a :: l) = a :: updateFirst p f l := by
  simp [updateFirst, h]

/-- An element of the changed vector is an old element or the image of one. -/
lemma mem_updateFirst (h : a ∈ updateFirst p f l) :
    a ∈ l ∨ ∃ b ∈ l, p b = true ∧ a = f b := by
  induction l with
  | nil => simp at h
  | cons b l ih =>
    cases hb : p b with
    | true =>
      rw [updateFirst_cons_of_pos hb, List.mem_cons] at h
      rcases h with rfl | h
      · exact Or.inr ⟨b, by simp, hb, rfl⟩
      · exact Or.inl (List.mem_cons_of_mem b h)
    | false =>
      rw [updateFirst_cons_of_neg hb, List.mem_cons] at h
      rcases h with rfl | h
      · exact Or.inl (by simp)
      · rcases ih h with h | ⟨c, hc, hpc, rfl⟩
        · exact Or.inl (List.mem_cons_of_mem b h)
        · exact Or.inr ⟨c, List.mem_cons_of_mem b hc, hpc, rfl⟩

/-- An update that does not touch the values of `key` keeps the keys of the vector. -/
lemma map_updateFirst {key : α → κ} (h : ∀ b ∈ l, p b = true → key (f b) = key b) :
    (updateFirst p f l).map key = l.map key := by
  induction l with
  | nil => rfl
  | cons b l ih =>
    cases hb : p b with
    | true =>
      rw [updateFirst_cons_of_pos hb, List.map_cons, List.map_cons, h b (by simp) hb]
    | false =>
      rw [updateFirst_cons_of_neg hb, List.map_cons, List.map_cons,
        ih fun c hc => h c (List.mem_cons_of_mem b hc)]

lemma find?_updateFirst_self (hf : ∀ b, p b = true → p (f b) = true) :
    (updateFirst p f l).find? p = (l.find? p).map f := by
  induction l with
  | nil => rfl
  | cons b l ih =>
    cases hb : p b with
    | true => simp [updateFirst_cons_of_pos hb, hb, hf b hb]
    | false => simp [updateFirst_cons_of_neg hb, hb, ih]

/-- An update that a search does not see does not change whether it finds an element. -/
lemma isSome_find?_updateFirst {q : α → Bool} (hf : ∀ b, q (f b) = q b) :
    ((updateFirst p f l).find? q).isSome = (l.find? q).isSome := by
  induction l with
  | nil => rfl
  | cons b l ih =>
    cases hb : p b with
    | true =>
      rw [updateFirst_cons_of_pos hb, List.find?_cons, List.find?_cons, hf b]
      split <;> rfl
    | false =>
      rw [updateFirst_cons_of_neg hb, List.find?_cons, List.find?_cons]
      split
      · rfl
      · exact ih

/-- An update does not change what a disjoint search finds. -/
lemma find?_updateFirst_of_disjoint {q : α → Bool} (hq : ∀ b, p b = true → q b = false)
    (hf : ∀ b, p b = true → q (f b) = false) :
    (updateFirst p f l).find? q = l.find? q := by
  induction l with
  | nil => rfl
  | cons b l ih =>
    cases hb : p b with
    | true => simp [updateFirst_cons_of_pos hb, hq b hb, hf b hb]
    | false => simp [updateFirst_cons_of_neg hb, List.find?_cons, ih]

/-- An update does not change what a disjoint filter keeps. -/
lemma filter_updateFirst_of_disjoint {q : α → Bool} (hq : ∀ b, p b = true → q b = false)
    (hf : ∀ b, p b = true → q (f b) = false) :
    (updateFirst p f l).filter q = l.filter q := by
  induction l with
  | nil => rfl
  | cons b l ih =>
    cases hb : p b with
    | true => simp [updateFirst_cons_of_pos hb, hq b hb, hf b hb]
    | false => simp [updateFirst_cons_of_neg hb, List.filter_cons, ih]

end UpdateFirst

section Upsert

variable {key : α → κ} [DecidableEq κ] {l : List α} {a : α}

/-- Inserting by key leaves the keys alone when the key is there, and appends it otherwise. -/
lemma map_key_upsert :
    (upsert (fun b => key b == key a) a l).map key =
      if key a ∈ l.map key then l.map key else l.map key ++ [key a] := by
  by_cases h : key a ∈ l.map key
  · have hany : l.any (fun b => key b == key a) = true := by
      obtain ⟨b, hb, hkey⟩ := List.mem_map.mp h
      exact List.any_eq_true.mpr ⟨b, hb, by simp [hkey]⟩
    rw [upsert, if_pos hany, if_pos h]
    exact map_updateFirst fun b _ hb => (beq_iff_eq.mp hb).symm
  · have hany : ¬ l.any (fun b => key b == key a) = true := by
      intro hany
      obtain ⟨b, hb, hkey⟩ := List.any_eq_true.mp hany
      exact h (List.mem_map.mpr ⟨b, hb, beq_iff_eq.mp hkey⟩)
    rw [upsert, if_neg hany, if_neg h, List.map_append, List.map_cons, List.map_nil]

/-- Inserting by key keeps the keys distinct. -/
lemma nodup_upsert (h : (l.map key).Nodup) :
    ((upsert (fun b => key b == key a) a l).map key).Nodup := by
  rw [map_key_upsert]
  split
  · exact h
  · next hnot => exact List.Nodup.append h (List.nodup_singleton _) (by simpa using hnot)

lemma mem_upsert {p : α → Bool} {b : α} (h : b ∈ upsert p a l) : b ∈ l ∨ b = a := by
  rw [upsert] at h
  split at h
  · rcases mem_updateFirst h with h | ⟨c, -, -, rfl⟩
    · exact Or.inl h
    · exact Or.inr rfl
  · simpa using h

lemma find?_upsert_self {p : α → Bool} (ha : p a = true) : (upsert p a l).find? p = some a := by
  rw [upsert]
  split
  · next hany =>
    rw [find?_updateFirst_self fun _ _ => ha]
    cases hfind : l.find? p with
    | some b => rfl
    | none =>
      obtain ⟨b, hb, hpb⟩ := List.any_eq_true.mp hany
      exact absurd hpb (List.find?_eq_none.mp hfind b hb)
  · next hany =>
    have hnone : l.find? p = none :=
      List.find?_eq_none.mpr fun b hb hpb => hany (List.any_eq_true.mpr ⟨b, hb, hpb⟩)
    simp [hnone, ha]

/-- Overwriting or appending does not change what a disjoint search finds. -/
lemma find?_upsert_of_disjoint {p q : α → Bool} (hq : ∀ b, p b = true → q b = false)
    (ha : p a = true) : (upsert p a l).find? q = l.find? q := by
  rw [upsert]
  split
  · exact find?_updateFirst_of_disjoint hq fun _ _ => hq a ha
  · simp [hq a ha]

end Upsert

/-- A search finds an element of a longer vector if it finds one before or the new one. -/
lemma isSome_find?_append {p : α → Bool} (l : List α) (a : α) :
    ((l ++ [a]).find? p).isSome = ((l.find? p).isSome || p a) := by
  rw [List.find?_append, Option.isSome_or, List.find?_singleton]
  cases p a <;> rfl

/-- Erasing the first match does not change what a disjoint search finds. -/
lemma find?_eraseP_of_disjoint {p q : α → Bool} (hq : ∀ b, p b = true → q b = false)
    (l : List α) : (l.eraseP p).find? q = l.find? q := by
  induction l with
  | nil => rfl
  | cons b l ih =>
    cases hb : p b with
    | true => simp [hb, hq b hb]
    | false => simp [hb, List.find?_cons, ih]

/-- Erasing the first match of a predicate that implies a key leaves no element of that key. -/
lemma key_ne_of_mem_eraseP {key : α → κ} {l : List α} {p : α → Bool} {k : κ}
    (h : (l.map key).Nodup) (hp : ∀ b, p b = true → key b = k) (hex : ∃ a ∈ l, p a = true) {b : α}
    (hb : b ∈ l.eraseP p) : key b ≠ k := by
  obtain ⟨a, ha, hpa⟩ := hex
  obtain ⟨c, l₁, l₂, -, hpc, hl, herase⟩ := List.exists_of_eraseP ha hpa
  rw [herase] at hb
  rintro rfl
  rw [hl, List.map_append, List.map_cons, List.nodup_middle, List.nodup_cons, hp c hpc] at h
  refine h.1 ?_
  rw [← List.map_append]
  exact List.mem_map_of_mem hb

/-- Appending an element whose key is new keeps the keys distinct. -/
lemma nodup_append_key {key : α → κ} {l : List α} {a : α} (h : (l.map key).Nodup)
    (hnew : ∀ b ∈ l, key b ≠ key a) : ((l ++ [a]).map key).Nodup := by
  rw [List.map_append, List.map_cons, List.map_nil]
  refine List.Nodup.append h (List.nodup_singleton _) ?_
  rw [List.disjoint_singleton]
  rintro hmem
  obtain ⟨b, hb, hkey⟩ := List.mem_map.mp hmem
  exact hnew b hb hkey

/-- A part of a vector with distinct keys has distinct keys. -/
lemma nodup_of_sublist {key : α → κ} {l l' : List α} (hsub : l'.Sublist l)
    (h : (l.map key).Nodup) : (l'.map key).Nodup :=
  h.sublist (hsub.map key)

end ManetOlsr.Lib
