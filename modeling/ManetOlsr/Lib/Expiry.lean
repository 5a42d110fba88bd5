/-
Entries that expire under alarms.

Each entry of a vector has a key, and a time after which it must not be there any more.  Alarms are
set for keys, and an alarm that goes off looks for the first entry of its key: there may be none, it
may remove the entry, or set the alarm again.  An entry is not there too long as long as an alarm
of its key is not set later than the entry is due, and as no two entries share a key.

Some of the entries may never expire; `tracked` tells the others.
-/
import ManetOlsr.Lib.FirstMatch
import Mathlib.Data.List.Forall2
import Mathlib.Data.List.Pairwise
import Mathlib.Order.Basic

namespace ManetOlsr.Lib

variable {α κ T : Type*}

/-- The tracked entries have keys of their own, and each has an alarm that is not late. -/
structure Watched [LE T] (tracked : α → Prop) (key : α → κ) (due : α → T) (alarm : κ → T → Prop)
    (l : List α) : Prop where
  distinct : l.Pairwise fun a b => tracked a ∨ tracked b → key a ≠ key b
  alarmed : ∀ a ∈ l, tracked a → ∃ t, alarm (key a) t ∧ t ≤ due a

section UpdateFirst

variable {p : α → Bool} {f : α → α} {R : α → α → Prop} {l : List α}

/-- What relates an entry to itself and to its update relates the vectors. -/
lemma forall₂_updateFirst (hrefl : ∀ a, R a a) (hf : ∀ a ∈ l, p a = true → R a (f a)) :
    List.Forall₂ R l (updateFirst p f l) := by
  induction l with
  | nil => exact List.Forall₂.nil
  | cons a l ih =>
    cases ha : p a with
    | true =>
      rw [updateFirst_cons_of_pos ha]
      exact .cons (hf a (by simp) ha) (List.forall₂_same.mpr fun b _ => hrefl b)
    | false =>
      rw [updateFirst_cons_of_neg ha]
      exact .cons (hrefl a) (ih fun b hb => hf b (List.mem_cons_of_mem a hb))

end UpdateFirst

lemma exists_of_forall₂ {β : Type*} {R : α → β → Prop} {l : List α} {l' : List β}
    (h : List.Forall₂ R l l') {b : β} (hb : b ∈ l') : ∃ a ∈ l, R a b := by
  induction h with
  | nil => cases hb
  | @cons a b' l l' hab _ ih =>
    rcases List.mem_cons.mp hb with rfl | hb
    · exact ⟨a, by simp, hab⟩
    · obtain ⟨c, hc, hcb⟩ := ih hb
      exact ⟨c, List.mem_cons_of_mem a hc, hcb⟩

variable {tracked : α → Prop} {key : α → κ} {l l' : List α}

/-- Related entries have the same keys. -/
lemma pairwise_key_of_forall₂ (h : l.Pairwise fun a b => tracked a ∨ tracked b → key a ≠ key b)
    (hl : List.Forall₂ (fun a a' => key a' = key a ∧ (tracked a' ↔ tracked a)) l l') :
    l'.Pairwise fun a b => tracked a ∨ tracked b → key a ≠ key b := by
  induction hl with
  | nil => exact List.Pairwise.nil
  | @cons a a' l l' ha hl ih =>
    rw [List.pairwise_cons] at h ⊢
    refine ⟨fun b' hb' => ?_, ih h.2⟩
    obtain ⟨b, hb, hkey, htracked⟩ := exists_of_forall₂ hl hb'
    rw [ha.1, ha.2, hkey, htracked]
    exact h.1 b hb

section Watched

variable [Preorder T] {due : α → T} {alarm alarm' : κ → T → Prop}

namespace Watched

/-- No tracked entry is overdue while no alarm is. -/
lemma le_due (h : Watched tracked key due alarm l) {now : T} (hnow : ∀ k t, alarm k t → now ≤ t)
    {a : α} (ha : a ∈ l) (htracked : tracked a) : now ≤ due a := by
  obtain ⟨t, halarm, hle⟩ := h.alarmed a ha htracked
  exact (hnow _ t halarm).trans hle

/-- More alarms do no harm. -/
lemma mono (h : Watched tracked key due alarm l)
    (halarm : ∀ k t, alarm k t → alarm' k t) : Watched tracked key due alarm' l where
  distinct := h.distinct
  alarmed a ha htracked := by
    obtain ⟨t, ht, hle⟩ := h.alarmed a ha htracked
    exact ⟨t, halarm _ t ht, hle⟩

lemma sublist (h : Watched tracked key due alarm l) (hsub : l'.Sublist l) :
    Watched tracked key due alarm l' where
  distinct := h.distinct.sublist hsub
  alarmed a ha := h.alarmed a (hsub.mem ha)

/-- An entry of a new key, with an alarm of its own. -/
lemma append (h : Watched tracked key due alarm l) {a : α} (hnew : ∀ b ∈ l, key b ≠ key a)
    (ha : ∃ t, alarm (key a) t ∧ t ≤ due a) : Watched tracked key due alarm (l ++ [a]) where
  distinct := by
    rw [List.pairwise_append]
    refine ⟨h.distinct, List.pairwise_singleton _ _, fun b hb c hc _ => ?_⟩
    rw [List.mem_singleton.mp hc]
    exact hnew b hb
  alarmed b hb htracked := by
    rcases List.mem_append.mp hb with hb | hb
    · exact h.alarmed b hb htracked
    · rw [List.mem_singleton.mp hb]
      exact ha

/-- Entries may become due at another time, if an alarm is set for them in time. -/
lemma renew (h : Watched tracked key due alarm l)
    (hl : List.Forall₂ (fun a a' => key a' = key a ∧ (tracked a' ↔ tracked a) ∧
      (tracked a → ∃ t, alarm (key a) t ∧ t ≤ due a')) l l') :
    Watched tracked key due alarm l' where
  distinct := pairwise_key_of_forall₂ h.distinct (hl.imp fun _ _ h => ⟨h.1, h.2.1⟩)
  alarmed a' ha' htracked := by
    obtain ⟨a, -, hkey, htrack, halarm⟩ := exists_of_forall₂ hl ha'
    rw [hkey]
    exact halarm (htrack.mp htracked)

/-- An alarm goes off: those of other keys stay set, and the entry of its key is removed or watched
again. -/
lemma fire (h : Watched tracked key due alarm l) {k : κ}
    (hkeep : ∀ k' t, k' ≠ k → alarm k' t → alarm' k' t) (hsub : l'.Sublist l)
    (hk : ∀ a ∈ l', tracked a → key a = k → ∃ t, alarm' k t ∧ t ≤ due a) :
    Watched tracked key due alarm' l' where
  distinct := h.distinct.sublist hsub
  alarmed a ha htracked := by
    by_cases hkey : key a = k
    · rw [hkey]
      exact hk a ha htracked hkey
    · obtain ⟨t, halarm, hle⟩ := h.alarmed a (hsub.mem ha) htracked
      exact ⟨t, hkeep _ t hkey halarm, hle⟩

/-- Once the first entry of some kind of one key is erased, no tracked entry has that key. -/
lemma key_ne_of_mem_eraseP (h : Watched tracked key due alarm l) {p : α → Bool} {k : κ}
    (hp : ∀ b, p b = true → key b = k) (hex : ∃ b ∈ l, p b = true) {a : α} (ha : a ∈ l.eraseP p)
    (htracked : tracked a) : key a ≠ k := by
  obtain ⟨b, hb, hpb⟩ := hex
  obtain ⟨c, l₁, l₂, -, hpc, hl, herase⟩ := List.exists_of_eraseP hb hpb
  have hdistinct := h.distinct
  rw [hl, List.pairwise_append, List.pairwise_cons] at hdistinct
  obtain ⟨-, ⟨hafter, -⟩, hbefore⟩ := hdistinct
  rw [← hp c hpc]
  rw [herase] at ha
  rcases List.mem_append.mp ha with ha | ha
  · exact hbefore a ha c (by simp) (Or.inl htracked)
  · exact (hafter a ha (Or.inr htracked)).symm

/-- A tracked entry is the only one of its key. -/
lemma eq_of_key (h : Watched tracked key due alarm l) {a b : α} (ha : a ∈ l) (hb : b ∈ l)
    (htracked : tracked a) (hkey : key a = key b) : a = b := by
  have hsymm : Std.Symm fun x y : α => tracked x ∨ tracked y → key x ≠ key y :=
    ⟨fun _ _ hxy htracked => (hxy htracked.symm).symm⟩
  by_contra hne
  exact h.distinct.forall ha hb hne (Or.inl htracked) hkey

end Watched

end Watched

/-! ### How often an entry is entered -/

/-- Whether an entry is there, and how often it has been entered, once it is announced (`true`) or
revoked (`false`): it is entered when it is announced while it is not there. -/
def announce (x : Bool × ℕ) (announced : Bool) : Bool × ℕ :=
  (announced, if announced && !x.1 then x.2 + 1 else x.2)

/-- How often an entry, present or not, is entered by a list of announcements and revocations. -/
def entries (present : Bool) (l : List Bool) : ℕ := (l.foldl announce (present, 0)).2

lemma foldl_announce_snd (present : Bool) (c : ℕ) (l : List Bool) :
    (l.foldl announce (present, c)).2 = c + entries present l := by
  rw [entries]
  induction l generalizing present c with
  | nil => rfl
  | cons announced l ih =>
    have hcons : ∀ c, ((announced :: l).foldl announce (present, c)).2 =
        (if announced && !present then c + 1 else c) + (l.foldl announce (announced, 0)).2 :=
      fun c => ih announced _
    rw [hcons c, hcons 0]
    split
    · omega
    · omega

end ManetOlsr.Lib
