/-
Ledgers of items that are open until they are settled.

The items are entered one after another, and an item is settled once, with a fate.  What is still
open is the list that a program keeps that appends what comes in and erases what it is done with:
`settleFirst` leaves open what `List.eraseP` leaves, and `settleAll` what `List.filter` leaves.
-/
import Mathlib.Data.List.Forall2
import Mathlib.Tactic.Common

namespace ManetOlsr.Lib

/-- The items with their fates. -/
abbrev Ledger (ι φ : Type*) : Type _ := List (ι × Option φ)

namespace Ledger

variable {ι φ : Type*} (l : Ledger ι φ)

def enter (i : ι) : Ledger ι φ := l ++ [(i, none)]

/-- Settle the first open item of a kind. -/
def settleFirst (p : ι → Bool) (f : φ) : Ledger ι φ → Ledger ι φ
  | [] => []
  | (i, some g) :: l => (i, some g) :: settleFirst p f l
  | (i, none) :: l => if p i then (i, some f) :: l else (i, none) :: settleFirst p f l

/-- Settle all open items of a kind. -/
def settleAll (p : ι → Bool) (f : φ) : Ledger ι φ → Ledger ι φ
  | [] => []
  | (i, some g) :: l => (i, some g) :: settleAll p f l
  | (i, none) :: l => (i, if p i then some f else none) :: settleAll p f l

def openItems : Ledger ι φ → List ι
  | [] => []
  | (_, some _) :: l => openItems l
  | (i, none) :: l => i :: openItems l

/-- How many items have had a fate of a kind. -/
def settled (q : φ → Bool) : Ledger ι φ → ℕ
  | [] => 0
  | (_, some f) :: l => (if q f then 1 else 0) + settled q l
  | (_, none) :: l => settled q l

variable {l} {p : ι → Bool} {f : φ} {q q₁ q₂ : φ → Bool} {i : ι}

/-! ### What is open -/

@[simp] lemma openItems_enter : (l.enter i).openItems = l.openItems ++ [i] := by
  induction l with
  | nil => rfl
  | cons e l ih =>
    obtain ⟨j, _ | g⟩ := e
    · exact congrArg (j :: ·) ih
    · exact ih

@[simp] lemma openItems_settleFirst : (l.settleFirst p f).openItems = l.openItems.eraseP p := by
  induction l with
  | nil => rfl
  | cons e l ih =>
    obtain ⟨j, _ | g⟩ := e
    · rw [settleFirst, openItems, List.eraseP_cons]
      cases p j with
      | true => rfl
      | false => exact congrArg (j :: ·) ih
    · exact ih

@[simp] lemma openItems_settleAll :
    (l.settleAll p f).openItems = l.openItems.filter fun i => !p i := by
  induction l with
  | nil => rfl
  | cons e l ih =>
    obtain ⟨j, _ | g⟩ := e
    · rw [settleAll, openItems, List.filter_cons]
      cases p j with
      | true => exact ih
      | false => exact congrArg (j :: ·) ih
    · exact ih

/-! ### How many there are -/

@[simp] lemma length_enter : (l.enter i).length = l.length + 1 := by
  rw [enter, List.length_append, List.length_singleton]

@[simp] lemma length_settleFirst : (l.settleFirst p f).length = l.length := by
  induction l with
  | nil => rfl
  | cons e l ih =>
    obtain ⟨j, _ | g⟩ := e
    · rw [settleFirst]
      split
      · rfl
      · rw [List.length_cons, List.length_cons, ih]
    · rw [settleFirst, List.length_cons, List.length_cons, ih]

@[simp] lemma length_settleAll : (l.settleAll p f).length = l.length := by
  induction l with
  | nil => rfl
  | cons e l ih =>
    obtain ⟨j, _ | g⟩ := e
    · rw [settleAll, List.length_cons, List.length_cons, ih]
    · rw [settleAll, List.length_cons, List.length_cons, ih]

/-- Every item is open or settled. -/
lemma length_eq : l.length = l.openItems.length + l.settled fun _ => true := by
  induction l with
  | nil => rfl
  | cons e l ih =>
    obtain ⟨j, _ | g⟩ := e
    · rw [List.length_cons, openItems, settled, List.length_cons, ih]
      omega
    · rw [List.length_cons, openItems, settled, if_pos rfl, ih]
      omega

lemma settled_le_length : l.settled q ≤ l.length := by
  induction l with
  | nil => exact Nat.le_refl 0
  | cons e l ih =>
    obtain ⟨i, _ | f⟩ := e
    · exact Nat.le_succ_of_le ih
    · simp only [settled, List.length_cons]
      split <;> omega

/-- Fates of two kinds that exclude each other. -/
lemma settled_or (hq : ∀ f, ¬ (q₁ f = true ∧ q₂ f = true)) :
    (l.settled fun f => q₁ f || q₂ f) = l.settled q₁ + l.settled q₂ := by
  induction l with
  | nil => rfl
  | cons e l ih =>
    obtain ⟨j, _ | g⟩ := e
    · exact ih
    · rw [settled, settled, settled, ih]
      have hg := hq g
      cases h₁ : q₁ g with
      | true =>
        have h₂ : q₂ g = false := Bool.eq_false_iff.mpr fun h₂ => hg ⟨h₁, h₂⟩
        simp only [h₂, Bool.true_or, if_true, Bool.false_eq_true, if_false]
        omega
      | false =>
        simp only [Bool.false_or, Bool.false_eq_true, if_false]
        omega

@[simp] lemma settled_enter : (l.enter i).settled q = l.settled q := by
  induction l with
  | nil => rfl
  | cons e l ih =>
    obtain ⟨j, _ | g⟩ := e
    · exact ih
    · exact congrArg (_ + ·) ih

/-- One item more has had the fate, if there was one to settle. -/
lemma settled_settleFirst : (l.settleFirst p f).settled q =
    l.settled q + if l.openItems.any p && q f then 1 else 0 := by
  induction l with
  | nil => rfl
  | cons e l ih =>
    obtain ⟨j, _ | g⟩ := e
    · rw [settleFirst, openItems, List.any_cons]
      cases p j with
      | true =>
        simp only [if_true, settled, Bool.true_or, Bool.true_and]
        omega
      | false =>
        simp only [Bool.false_eq_true, if_false, settled, Bool.false_or]
        exact ih
    · rw [settleFirst, settled, ih, openItems, settled, Nat.add_assoc]

/-- As many items more have had the fate as were open and of the kind. -/
lemma settled_settleAll : (l.settleAll p f).settled q =
    l.settled q + if q f then (l.openItems.filter p).length else 0 := by
  induction l with
  | nil =>
    simp only [settleAll, settled, openItems, List.filter_nil, List.length_nil, ite_self]
  | cons e l ih =>
    obtain ⟨j, _ | g⟩ := e
    · rw [settleAll, openItems, List.filter_cons]
      cases p j with
      | true =>
        simp only [if_true, settled, ih, List.length_cons]
        split <;> omega
      | false =>
        simp only [Bool.false_eq_true, if_false, settled]
        exact ih
    · rw [settleAll, settled, ih, openItems, settled, Nat.add_assoc]

/-! ### What stays -/

/-- The later ledger has the same items in front, and what was settled has kept its fate. -/
def Continues (l l' : Ledger ι φ) : Prop :=
  ∃ l₁ l₂, l' = l₁ ++ l₂ ∧
    List.Forall₂ (fun e e' => e'.1 = e.1 ∧ ∀ f, e.2 = some f → e'.2 = some f) l l₁

lemma Continues.of_forall₂ {l' : Ledger ι φ}
    (h : List.Forall₂ (fun e e' => e'.1 = e.1 ∧ ∀ f, e.2 = some f → e'.2 = some f) l l') :
    Continues l l' :=
  ⟨l', [], (List.append_nil l').symm, h⟩

lemma forall₂_same :
    List.Forall₂ (fun e e' : ι × Option φ => e'.1 = e.1 ∧ ∀ f, e.2 = some f → e'.2 = some f) l l :=
  List.forall₂_same.mpr fun _ _ => ⟨rfl, fun _ h => h⟩

lemma Continues.refl (l : Ledger ι φ) : Continues l l := Continues.of_forall₂ forall₂_same

lemma continues_enter : Continues l (l.enter i) := ⟨l, [(i, none)], rfl, forall₂_same⟩

lemma continues_settleFirst : Continues l (l.settleFirst p f) := by
  apply Continues.of_forall₂
  induction l with
  | nil => exact List.Forall₂.nil
  | cons e l ih =>
    obtain ⟨j, _ | g⟩ := e
    · rw [settleFirst]
      split
      · exact List.Forall₂.cons ⟨rfl, fun _ h => by cases h⟩ forall₂_same
      · exact List.Forall₂.cons ⟨rfl, fun _ h => h⟩ ih
    · exact List.Forall₂.cons ⟨rfl, fun _ h => h⟩ ih

lemma continues_settleAll : Continues l (l.settleAll p f) := by
  apply Continues.of_forall₂
  induction l with
  | nil => exact List.Forall₂.nil
  | cons e l ih =>
    obtain ⟨j, _ | g⟩ := e
    · exact List.Forall₂.cons ⟨rfl, fun _ h => by cases h⟩ ih
    · exact List.Forall₂.cons ⟨rfl, fun _ h => h⟩ ih

end Ledger

end ManetOlsr.Lib
