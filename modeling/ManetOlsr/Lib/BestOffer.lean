/-
Keeping the cheapest offer for each key.

A vector holds at most one element for each key.  Offers come in one by one; an
offer whose key is new is appended, and an offer that is cheaper than the first
element with its key takes the place of that element.  A vector that was empty then
holds one cheapest offer for each key.  This file says what is left of the elements
that the vector held before.
-/
import ManetOlsr.Lib.FirstMatch
import Mathlib.Data.List.Induction
import Mathlib.Data.List.Nodup
import Mathlib.Data.List.Perm.Basic
import Mathlib.Order.Basic
import Mathlib.Tactic.Common

namespace ManetOlsr.Lib

variable {α κ : Type*} [BEq κ] (key : α → κ) (cost : α → ℕ)

/-- Take an offer if its key is new, or if it is cheaper than the first element with its key. -/
def takeOffer (l : List α) (b : α) : List α :=
  match l.find? fun a => key a == key b with
  | none => l ++ [b]
  | some a => if cost b < cost a then l.eraseP (fun a => key a == key b) ++ [b] else l

/-- `a` is an offer, and no offer with its key is cheaper. -/
def Cheapest (offers : List α) (a : α) : Prop :=
  a ∈ offers ∧ ∀ b ∈ offers, key b = key a → cost a ≤ cost b

/-- The vector holds one cheapest offer for each key that is offered, and nothing else. -/
structure HoldsBest (offers l : List α) : Prop where
  nodup : (l.map key).Nodup
  cheapest : ∀ a ∈ l, Cheapest key cost offers a
  complete : ∀ b ∈ offers, ∃ a ∈ l, key a = key b

/-- An old element that does not stand in the way of the offers: it is beaten, or is itself one of
the cheapest. -/
def Replaceable (offers : List α) (a : α) : Prop :=
  (∃ b ∈ offers, key b = key a ∧ cost b < cost a) ∨ Cheapest key cost offers a

variable {key cost} [LawfulBEq κ] {l : List α} {a b : α}

variable (key cost) in
/-- The keys after an offer: those before it, and perhaps that of the offer. -/
lemma takeOffer_perm (l : List α) (b : α) :
    ∃ ks, ((takeOffer key cost l b).map key).Perm (l.map key ++ ks) := by
  rw [takeOffer]
  split
  · exact ⟨[key b], by simp⟩
  · next a ha =>
    have hp : (key a == key b) = true := List.find?_some (p := fun a => key a == key b) ha
    split
    · obtain ⟨c, l₁, l₂, -, hc, hl, herase⟩ :=
        List.exists_of_eraseP (p := fun a => key a == key b) (List.mem_of_find?_eq_some ha) hp
      refine ⟨[], ?_⟩
      rw [herase, hl]
      have hkey : key b = key c := (beq_iff_eq.mp hc).symm
      simp only [List.map_append, List.map_cons, List.map_nil, List.append_nil, List.append_assoc,
        hkey]
      exact (List.perm_append_singleton _ _).append_left _
    · exact ⟨[], by simp⟩

omit [LawfulBEq κ] in
/-- What is held was held before or offered. -/
lemma mem_foldl_takeOffer {offers : List α} (ha : a ∈ offers.foldl (takeOffer key cost) l) :
    a ∈ l ∨ a ∈ offers := by
  induction offers generalizing l with
  | nil => exact Or.inl ha
  | cons b offers ih =>
    rcases ih ha with htaken | hoffer
    · rw [takeOffer] at htaken
      have hcases : a ∈ l ∨ a = b := by
        split at htaken
        · simpa using htaken
        · split at htaken
          · rcases List.mem_append.mp htaken with herased | hb
            · exact Or.inl (List.mem_of_mem_eraseP herased)
            · exact Or.inr (List.mem_singleton.mp hb)
          · exact Or.inl htaken
      rcases hcases with hl | rfl
      · exact Or.inl hl
      · exact Or.inr List.mem_cons_self
    · exact Or.inr (List.mem_cons_of_mem b hoffer)

variable (key cost) in
lemma foldl_takeOffer_perm (offers l : List α) :
    ∃ ks, ((offers.foldl (takeOffer key cost) l).map key).Perm (l.map key ++ ks) := by
  induction offers generalizing l with
  | nil => exact ⟨[], by simp⟩
  | cons b offers ih =>
    obtain ⟨ks, hks⟩ := takeOffer_perm key cost l b
    obtain ⟨ks', hks'⟩ := ih (takeOffer key cost l b)
    refine ⟨ks ++ ks', ?_⟩
    rw [← List.append_assoc]
    exact hks'.trans (hks.append_right ks')

/-- When the keys are distinct, erasing one element with a key erases them all. -/
lemma eraseP_eq_filter (h : (l.map key).Nodup) (k : κ) :
    l.eraseP (fun a => key a == k) = l.filter fun a => !(key a == k) := by
  induction l with
  | nil => rfl
  | cons c l ih =>
    rw [List.map_cons, List.nodup_cons] at h
    by_cases hc : key c = k
    · have hnone : ∀ a ∈ l, key a ≠ k := by
        intro a ha hak
        exact h.1 (List.mem_map.mpr ⟨a, ha, hak.trans hc.symm⟩)
      rw [List.eraseP_cons_of_pos (by simp [hc]), List.filter_cons_of_neg (by simp [hc])]
      exact (List.filter_eq_self.mpr fun a ha => by simp [hnone a ha]).symm
    · rw [List.eraseP_cons_of_neg (by simp [hc]), List.filter_cons_of_pos (by simp [hc]), ih h.2]

variable (cost) in
/-- What an offer does when the keys are distinct: it is new, or too expensive, or takes the place
of the element with its key. -/
lemma takeOffer_cases (h : (l.map key).Nodup) (b : α) :
    ((∀ a ∈ l, key a ≠ key b) ∧ takeOffer key cost l b = l ++ [b]) ∨
    (∃ a ∈ l, key a = key b ∧ cost a ≤ cost b ∧ takeOffer key cost l b = l) ∨
    ∃ a ∈ l, key a = key b ∧ cost b < cost a ∧
      takeOffer key cost l b = l.filter (fun a => !(key a == key b)) ++ [b] := by
  rw [takeOffer]
  split
  · next hnone =>
    exact Or.inl ⟨fun a ha => by simpa using List.find?_eq_none.mp hnone a ha, rfl⟩
  · next a ha =>
    have hmem := List.mem_of_find?_eq_some ha
    have hkey : key a = key b :=
      beq_iff_eq.mp (List.find?_some (p := fun a => key a == key b) ha)
    split
    · next hlt => exact Or.inr (Or.inr ⟨a, hmem, hkey, hlt, by rw [eraseP_eq_filter h]⟩)
    · next hlt => exact Or.inr (Or.inl ⟨a, hmem, hkey, Nat.le_of_not_lt hlt, rfl⟩)

variable (key cost) in
/-- What holds after some offers: `s` is the vector before them. -/
structure OffersTaken (s offers l : List α) : Prop where
  nodup : (l.map key).Nodup
  origin : ∀ a ∈ l, a ∈ s ∨ a ∈ offers
  complete : ∀ b ∈ offers, ∃ a ∈ l, key a = key b
  least : ∀ a ∈ l, ∀ b ∈ offers, key b = key a → cost a ≤ cost b
  kept : ∀ a ∈ s, ∃ a' ∈ l, key a' = key a ∧ (a' = a ∨ cost a' < cost a)

namespace OffersTaken

variable {s offers : List α}

omit [BEq κ] [LawfulBEq κ] in
lemma start (h : (s.map key).Nodup) : OffersTaken key cost s [] s where
  nodup := h
  origin a ha := Or.inl ha
  complete := by simp
  least := by simp
  kept a ha := ⟨a, ha, rfl, Or.inl rfl⟩

omit [BEq κ] [LawfulBEq κ] in
/-- An offer with a new key. -/
lemma append (h : OffersTaken key cost s offers l) (hnew : ∀ a ∈ l, key a ≠ key b) :
    OffersTaken key cost s (offers ++ [b]) (l ++ [b]) where
  nodup := nodup_append_key h.nodup hnew
  origin := by
    intro c hc
    rcases List.mem_append.mp hc with hc | hc
    · exact (h.origin c hc).imp id (List.mem_append_left _)
    · exact Or.inr (List.mem_append_right _ hc)
  complete := by
    intro c hc
    rcases List.mem_append.mp hc with hc | hc
    · obtain ⟨a, ha, hkey⟩ := h.complete c hc
      exact ⟨a, List.mem_append_left _ ha, hkey⟩
    · exact ⟨c, List.mem_append_right _ hc, rfl⟩
  least := by
    intro c hc d hd hkey
    rcases List.mem_append.mp hc with hc | hc <;> rcases List.mem_append.mp hd with hd | hd
    · exact h.least c hc d hd hkey
    · rw [List.mem_singleton.mp hd] at hkey
      exact absurd hkey.symm (hnew c hc)
    · -- The key of an earlier offer is held, so that it is not new.
      rw [List.mem_singleton.mp hc] at hkey
      obtain ⟨a, ha, hkey'⟩ := h.complete d hd
      exact absurd (hkey'.trans hkey) (hnew a ha)
    · have hcd : c = d := (List.mem_singleton.mp hc).trans (List.mem_singleton.mp hd).symm
      exact Nat.le_of_eq (congrArg cost hcd)
  kept := by
    intro c hc
    obtain ⟨a, ha, hkey⟩ := h.kept c hc
    exact ⟨a, List.mem_append_left _ ha, hkey⟩

omit [BEq κ] [LawfulBEq κ] in
/-- An offer that is no cheaper than the element with its key. -/
lemma keep (h : OffersTaken key cost s offers l) (ha : a ∈ l) (hkey : key a = key b)
    (hle : cost a ≤ cost b) : OffersTaken key cost s (offers ++ [b]) l where
  nodup := h.nodup
  origin c hc := (h.origin c hc).imp id (List.mem_append_left _)
  complete := by
    intro c hc
    rcases List.mem_append.mp hc with hc | hc
    · exact h.complete c hc
    · rw [List.mem_singleton.mp hc]
      exact ⟨a, ha, hkey⟩
  least := by
    intro c hc d hd hkey'
    rcases List.mem_append.mp hd with hd | hd
    · exact h.least c hc d hd hkey'
    · rw [List.mem_singleton.mp hd] at hkey' ⊢
      rwa [List.inj_on_of_nodup_map h.nodup hc ha (hkey'.symm.trans hkey.symm)]
  kept := h.kept

/-- An offer that is cheaper than the element with its key. -/
lemma replace (h : OffersTaken key cost s offers l) (ha : a ∈ l) (hkey : key a = key b)
    (hlt : cost b < cost a) :
    OffersTaken key cost s (offers ++ [b]) (l.filter (fun a => !(key a == key b)) ++ [b]) := by
  have hmem : ∀ c ∈ l, key c ≠ key b → c ∈ l.filter fun a => !(key a == key b) :=
    fun c hc hne => List.mem_filter.mpr ⟨hc, by simpa using hne⟩
  have hold : ∀ c ∈ l.filter fun a => !(key a == key b), c ∈ l ∧ key c ≠ key b :=
    fun c hc => ⟨(List.mem_filter.mp hc).1, by simpa using (List.mem_filter.mp hc).2⟩
  constructor
  case nodup =>
    exact nodup_append_key (nodup_of_sublist List.filter_sublist h.nodup) fun c hc =>
      (hold c hc).2
  case origin =>
    intro c hc
    rcases List.mem_append.mp hc with hc | hc
    · exact (h.origin c (hold c hc).1).imp id (List.mem_append_left _)
    · exact Or.inr (List.mem_append_right _ hc)
  case complete =>
    intro c hc
    by_cases hcb : key c = key b
    · exact ⟨b, by simp, hcb.symm⟩
    · rcases List.mem_append.mp hc with hc | hc
      · obtain ⟨d, hd, hdc⟩ := h.complete c hc
        exact ⟨d, List.mem_append_left _ (hmem d hd (by rwa [hdc])), hdc⟩
      · exact absurd (congrArg key (List.mem_singleton.mp hc)) hcb
  case least =>
    intro c hc d hd hkey'
    rcases List.mem_append.mp hc with hc | hc <;> rcases List.mem_append.mp hd with hd | hd
    · exact h.least c (hold c hc).1 d hd hkey'
    · rw [List.mem_singleton.mp hd] at hkey'
      exact absurd hkey'.symm (hold c hc).2
    · -- The offer is cheaper than `a`, which is as cheap as the earlier ones.
      rw [List.mem_singleton.mp hc] at hkey' ⊢
      have hleast := h.least a ha d hd (hkey'.trans hkey.symm)
      omega
    · have hcd : c = d := (List.mem_singleton.mp hc).trans (List.mem_singleton.mp hd).symm
      exact Nat.le_of_eq (congrArg cost hcd)
  case kept =>
    intro c hc
    obtain ⟨d, hd, hdc, hcost⟩ := h.kept c hc
    by_cases hdb : key d = key b
    · -- What stood for this key is the element that the offer replaces.
      have hda : d = a := List.inj_on_of_nodup_map h.nodup hd ha (hdb.trans hkey.symm)
      refine ⟨b, by simp, hdb.symm.trans hdc, Or.inr ?_⟩
      rw [hda] at hcost
      rcases hcost with rfl | hcost
      · exact hlt
      · omega
    · exact ⟨d, List.mem_append_left _ (hmem d hd hdb), hdc, hcost⟩

lemma takeOffer (h : OffersTaken key cost s offers l) (b : α) :
    OffersTaken key cost s (offers ++ [b]) (Lib.takeOffer key cost l b) := by
  rcases takeOffer_cases cost h.nodup b with
    ⟨hnew, heq⟩ | ⟨a, ha, hkey, hle, heq⟩ | ⟨a, ha, hkey, hlt, heq⟩
  · rw [heq]
    exact h.append hnew
  · rw [heq]
    exact h.keep ha hkey hle
  · rw [heq]
    exact h.replace ha hkey hlt

variable (cost) in
lemma foldl (h : (s.map key).Nodup) (offers : List α) :
    OffersTaken key cost s offers (offers.foldl (Lib.takeOffer key cost) s) := by
  induction offers using List.reverseRecOn with
  | nil => exact start h
  | append_singleton offers b ih =>
    rw [List.foldl_append]
    exact ih.takeOffer b

end OffersTaken

/-- **What is held after all the offers is the best of them if and only if nothing old stands in
the way**: the old keys are distinct, and each old element is replaceable. -/
theorem holdsBest_foldl_iff {s offers : List α} :
    HoldsBest key cost offers (offers.foldl (takeOffer key cost) s) ↔
      (s.map key).Nodup ∧ ∀ a ∈ s, Replaceable key cost offers a := by
  constructor
  · intro h
    obtain ⟨ks, hks⟩ := foldl_takeOffer_perm key cost offers s
    have hnodup : (s.map key).Nodup := (List.Nodup.of_append_left (hks.nodup_iff.mp h.nodup))
    refine ⟨hnodup, fun a ha => ?_⟩
    obtain ⟨a', ha', hkey, rfl | hlt⟩ := (OffersTaken.foldl cost hnodup offers).kept a ha
    · exact Or.inr (h.cheapest a' ha')
    · exact Or.inl ⟨a', (h.cheapest a' ha').1, hkey, hlt⟩
  · rintro ⟨hnodup, hold⟩
    have htaken := OffersTaken.foldl cost hnodup offers
    refine ⟨htaken.nodup, fun a ha => ?_, htaken.complete⟩
    have hleast := htaken.least a ha
    rcases htaken.origin a ha with hs | hoffer
    · rcases hold a hs with ⟨b, hb, hkey, hlt⟩ | hcheapest
      · exact absurd (hleast b hb hkey) (Nat.not_le.mpr hlt)
      · exact hcheapest
    · exact ⟨hoffer, hleast⟩

end ManetOlsr.Lib
