/-
Sets and maps kept as lists in increasing order, as `std::set` and `std::map` keep their elements.

The order is given by a comparison function.  The lemmas assume that it compares the keys of the
elements, in a linear order, and that different elements have different keys.
-/
import Mathlib.Algebra.Group.Basic
import Mathlib.Algebra.BigOperators.Group.List.Defs
import Mathlib.Order.Lattice
import Mathlib.Data.List.Pairwise
import Mathlib.Tactic.Common

namespace ManetOlsr.Lib

variable {α κ : Type*}

/-- `insert`: an element that is equivalent to one of the set changes nothing. -/
def setInsert (lt : α → α → Bool) (a : α) : List α → List α
  | [] => [a]
  | b :: l =>
    if lt a b then a :: b :: l
    else if lt b a then b :: setInsert lt a l
    else b :: l

/-- A map that keeps the place of the new element in the set. -/
lemma setInsert_map {β : Type*} {lt' : β → β → Bool} {lt : α → α → Bool} (f : α → β) (a : α)
    {l : List α} (hl : ∀ b ∈ l, lt' (f a) (f b) = lt a b ∧ lt' (f b) (f a) = lt b a) :
    setInsert lt' (f a) (l.map f) = (setInsert lt a l).map f := by
  induction l with
  | nil => rfl
  | cons b l ih =>
    obtain ⟨hab, hba⟩ := hl b List.mem_cons_self
    rw [List.map_cons, setInsert, setInsert, hab, hba,
      ih fun c hc => hl c (List.mem_cons_of_mem b hc)]
    split
    · rfl
    · split <;> rfl

/-- The elements are in increasing order. -/
def Ordered (lt : α → α → Bool) (l : List α) : Prop := l.Pairwise fun a b => lt a b = true

lemma sublist_setInsert (lt : α → α → Bool) (a : α) (l : List α) :
    List.Sublist l (setInsert lt a l) := by
  induction l with
  | nil => exact List.nil_sublist _
  | cons b l ih =>
    rw [setInsert]
    split
    · exact List.sublist_cons_self a (b :: l)
    · split
      · exact ih.cons_cons b
      · exact List.Sublist.refl _

/-- The comparison is that of the keys. -/
structure ComparesKeys [LinearOrder κ] (lt : α → α → Bool) (key : α → κ) : Prop where
  lt_iff : ∀ a b, lt a b = true ↔ key a < key b
  injective : Function.Injective key

variable [LinearOrder κ] {lt : α → α → Bool} {key : α → κ}

namespace ComparesKeys

variable (h : ComparesKeys lt key)
include h

lemma eq_of_not_lt {a b : α} (hab : ¬ lt a b = true) (hba : ¬ lt b a = true) : a = b := by
  rw [h.lt_iff, not_lt] at hab hba
  exact h.injective (le_antisymm hba hab)

lemma mem_setInsert {a x : α} {l : List α} : x ∈ setInsert lt a l ↔ x = a ∨ x ∈ l := by
  induction l with
  | nil => simp [setInsert]
  | cons b l ih =>
    rw [setInsert]
    split
    · simp
    · rename_i hab
      split
      · rw [List.mem_cons, ih, List.mem_cons]
        tauto
      · rename_i hba
        obtain rfl := h.eq_of_not_lt hab hba
        simp

lemma ordered_setInsert {a : α} {l : List α} (hl : Ordered lt l) :
    Ordered lt (setInsert lt a l) := by
  induction l with
  | nil => simp [setInsert, Ordered]
  | cons b l ih =>
    obtain ⟨hb, hl⟩ := List.pairwise_cons.mp hl
    rw [setInsert]
    split
    · rename_i hab
      refine List.pairwise_cons.mpr ⟨?_, List.pairwise_cons.mpr ⟨hb, hl⟩⟩
      intro x hx
      rcases List.mem_cons.mp hx with rfl | hx
      · exact hab
      · rw [h.lt_iff] at hab ⊢
        exact lt_trans hab ((h.lt_iff b x).mp (hb x hx))
    · split
      · rename_i hba
        refine List.pairwise_cons.mpr ⟨?_, ih hl⟩
        intro x hx
        rcases h.mem_setInsert.mp hx with rfl | hx
        · exact hba
        · exact hb x hx
      · exact List.pairwise_cons.mpr ⟨hb, hl⟩

lemma setInsert_of_mem {a : α} {l : List α} (hl : Ordered lt l) (ha : a ∈ l) :
    setInsert lt a l = l := by
  induction l with
  | nil => cases ha
  | cons b l ih =>
    obtain ⟨hb, htail⟩ := List.pairwise_cons.mp hl
    rw [setInsert]
    rcases List.mem_cons.mp ha with rfl | hmem
    · have hirrefl : ¬ lt a a = true := fun hlt => lt_irrefl _ ((h.lt_iff a a).mp hlt)
      rw [if_neg hirrefl, if_neg hirrefl]
    · have hba := (h.lt_iff b a).mp (hb a hmem)
      rw [if_neg fun hab => lt_asymm hba ((h.lt_iff a b).mp hab), if_pos (hb a hmem),
        ih htail hmem]

lemma nodup {l : List α} (hl : Ordered lt l) : l.Nodup := by
  refine hl.imp fun {a b} hab => ?_
  rintro rfl
  exact lt_irrefl _ ((h.lt_iff a a).mp hab)

/-- The first element is the least one. -/
lemma le_of_head {a : α} {l : List α} (hl : Ordered lt (a :: l)) {x : α} (hx : x ∈ a :: l) :
    key a ≤ key x := by
  rcases List.mem_cons.mp hx with rfl | hx
  · exact le_rfl
  · exact ((h.lt_iff a x).mp ((List.pairwise_cons.mp hl).1 x hx)).le

end ComparesKeys

lemma Ordered.tail {a : α} {l : List α} (hl : Ordered lt (a :: l)) : Ordered lt l :=
  (List.pairwise_cons.mp hl).2

lemma Ordered.erase [DecidableEq α] {a : α} {l : List α} (hl : Ordered lt l) :
    Ordered lt (l.erase a) :=
  hl.sublist List.erase_sublist

/-! ### Maps -/

variable {β : Type*}

/-- `m[k] = v`. -/
def mapSet (lt : α → α → Bool) (k : α) (v : β) : List (α × β) → List (α × β)
  | [] => [(k, v)]
  | (k', v') :: m =>
    if lt k k' then (k, v) :: (k', v') :: m
    else if lt k' k then (k', v') :: mapSet lt k v m
    else (k, v) :: m

lemma mem_mapSet {k : α} {v : β} {m : List (α × β)} {p : α × β} (hp : p ∈ mapSet lt k v m) :
    p = (k, v) ∨ p ∈ m := by
  induction m with
  | nil => exact .inl (List.mem_singleton.mp hp)
  | cons q m ih =>
    rw [mapSet] at hp
    split at hp
    · exact List.mem_cons.mp hp
    · split at hp
      · rcases List.mem_cons.mp hp with rfl | hp
        · exact .inr List.mem_cons_self
        · exact (ih hp).imp_right (List.mem_cons_of_mem q)
      · exact (List.mem_cons.mp hp).imp_right (List.mem_cons_of_mem q)

/-- A pass that drops entries leaves the keys in their order. -/
lemma map_fst_filterMap_sublist {γ : Type*} {f : α × β → Option (α × γ)}
    (hf : ∀ kv p, f kv = some p → p.1 = kv.1) (m : List (α × β)) :
    ((m.filterMap f).map Prod.fst).Sublist (m.map Prod.fst) := by
  induction m with
  | nil => exact List.Sublist.slnil
  | cons kv m ih =>
    rw [List.filterMap_cons, List.map_cons]
    split
    · exact ih.cons _
    · next p hp =>
      rw [List.map_cons, hf kv p hp]
      exact ih.cons_cons _

/-- `find`. -/
def mapFind [DecidableEq α] (m : List (α × β)) (k : α) : Option β := m.lookup k

section MapLemmas

variable [DecidableEq α]

@[simp] lemma mapFind_nil (k : α) : mapFind ([] : List (α × β)) k = none := rfl

lemma mapFind_cons (p : α × β) (m : List (α × β)) (k : α) :
    mapFind (p :: m) k = if k = p.1 then some p.2 else mapFind m k := by
  obtain ⟨k', v⟩ := p
  rw [mapFind, List.lookup_cons]
  by_cases hk : k = k'
  · simp [hk]
  · have hbeq : (k == k') = false := beq_false_of_ne hk
    simp [hbeq, hk, mapFind]

lemma mem_of_mapFind {m : List (α × β)} {k : α} {v : β} (h : mapFind m k = some v) :
    (k, v) ∈ m := by
  induction m with
  | nil => cases h
  | cons p m ih =>
    rw [mapFind_cons] at h
    split at h
    · next hk =>
      obtain rfl := Option.some.inj h
      exact hk ▸ List.mem_cons_self
    · exact List.mem_cons_of_mem p (ih h)

lemma mapFind_of_mem {m : List (α × β)} (hm : (m.map Prod.fst).Nodup) {k : α} {v : β}
    (h : (k, v) ∈ m) : mapFind m k = some v := by
  induction m with
  | nil => cases h
  | cons p m ih =>
    rw [List.map_cons, List.nodup_cons] at hm
    rw [mapFind_cons]
    rcases List.mem_cons.mp h with rfl | h
    · rw [if_pos rfl]
    · rw [if_neg, ih hm.2 h]
      rintro rfl
      exact hm.1 (List.mem_map.mpr ⟨_, h, rfl⟩)

lemma mapFind_eq_none_iff {m : List (α × β)} {k : α} : mapFind m k = none ↔ k ∉ m.map Prod.fst := by
  induction m with
  | nil => simp
  | cons p m ih =>
    rw [mapFind_cons, List.map_cons, List.mem_cons, not_or, ← ih]
    by_cases hk : k = p.1
    · simp [hk]
    · simp [hk]

/-- A pass over a map that drops entries by their keys. -/
lemma mapFind_filter_fst (p : α → Bool) (m : List (α × β)) (k : α) :
    mapFind (m.filter fun kv => p kv.1) k = if p k then mapFind m k else none := by
  induction m with
  | nil => simp
  | cons q m ih =>
    rw [List.filter_cons, mapFind_cons]
    by_cases hk : k = q.1
    · subst hk
      split
      · next hq => rw [mapFind_cons, if_pos rfl, if_pos rfl]
      · next hq => rw [ih, if_neg hq]
    · rw [if_neg hk]
      split
      · rw [mapFind_cons, if_neg hk, ih]
      · exact ih

lemma mapFind_map {γ : Type*} (g : β → γ) (m : List (α × β)) (k : α) :
    mapFind (m.map fun kv => (kv.1, g kv.2)) k = (mapFind m k).map g := by
  induction m with
  | nil => rfl
  | cons p m ih =>
    rw [List.map_cons, mapFind_cons, mapFind_cons, ih]
    split <;> rfl

/-- A pass over a map that rewrites some entries and drops the others. -/
lemma mapFind_filterMap {γ : Type*} {f : α × β → Option (α × γ)} {g : β → Option γ}
    (hf : ∀ kv, f kv = (g kv.2).map fun v => (kv.1, v)) {m : List (α × β)}
    (hm : (m.map Prod.fst).Nodup) (k : α) :
    mapFind (m.filterMap f) k = (mapFind m k).bind g := by
  induction m with
  | nil => rfl
  | cons p m ih =>
    rw [List.map_cons, List.nodup_cons] at hm
    rw [List.filterMap_cons, hf, mapFind_cons]
    by_cases hk : k = p.1
    · rw [if_pos hk, Option.bind_some]
      cases hg : g p.2 with
      | none =>
        -- no entry of the rest has this key
        have hrest : mapFind m k = none := mapFind_eq_none_iff.mpr (hk ▸ hm.1)
        simp only [Option.map_none]
        rw [ih hm.2, hrest, Option.bind_none]
      | some v =>
        simp only [Option.map_some]
        rw [mapFind_cons, if_pos hk]
    · rw [if_neg hk, ← ih hm.2]
      cases g p.2 with
      | none => rfl
      | some v =>
        simp only [Option.map_some]
        rw [mapFind_cons, if_neg hk]

/-- A loop over the entries of a map, each of which concerns what is read for its own key. -/
lemma foldl_mapFind {σ τ : Type*} {f : σ → α × β → σ} {r : σ → τ} {I : σ → Prop} {k : α}
    {g : β → τ → τ} (hI : ∀ s kv, I s → I (f s kv))
    (hother : ∀ s kv, I s → kv.1 ≠ k → r (f s kv) = r s)
    (hself : ∀ s v, I s → r (f s (k, v)) = g v (r s)) {m : List (α × β)}
    (hm : (m.map Prod.fst).Nodup) {s : σ} (hs : I s) :
    r (m.foldl f s) = match mapFind m k with
      | some v => g v (r s)
      | none => r s := by
  induction m generalizing s with
  | nil => rfl
  | cons p m ih =>
    rw [List.map_cons, List.nodup_cons] at hm
    rw [List.foldl_cons, ih hm.2 (hI s p hs), mapFind_cons]
    by_cases hk : k = p.1
    · have hrest : mapFind m k = none := mapFind_eq_none_iff.mpr (hk ▸ hm.1)
      have hp : p = (k, p.2) := by rw [hk]
      rw [hrest, if_pos hk]
      show r (f s p) = g p.2 (r s)
      rw [hp]
      exact hself s p.2 hs
    · rw [if_neg hk, hother s p hs (Ne.symm hk)]

namespace ComparesKeys

variable (h : ComparesKeys lt key)
include h

omit [DecidableEq α] in
/-- The keys of a map are kept like the elements of a set. -/
lemma map_fst_mapSet (k : α) (v : β) (m : List (α × β)) :
    (mapSet lt k v m).map Prod.fst = setInsert lt k (m.map Prod.fst) := by
  induction m with
  | nil => rfl
  | cons p m ih =>
    rw [mapSet, List.map_cons, setInsert]
    split
    · rfl
    · next hlt =>
      split
      · rw [List.map_cons, ih]
      · next hlt' => rw [List.map_cons, h.eq_of_not_lt hlt hlt']

omit [DecidableEq α] in
lemma ordered_mapSet {k : α} {v : β} {m : List (α × β)} (hm : Ordered lt (m.map Prod.fst)) :
    Ordered lt ((mapSet lt k v m).map Prod.fst) := by
  rw [h.map_fst_mapSet]
  exact h.ordered_setInsert hm

lemma mapFind_mapSet_self (k : α) (v : β) (m : List (α × β)) :
    mapFind (mapSet lt k v m) k = some v := by
  induction m with
  | nil => simp [mapSet, mapFind_cons]
  | cons p m ih =>
    rw [mapSet]
    split
    · simp [mapFind_cons]
    · split
      · next hlt =>
        have hne : k ≠ p.1 := by
          rintro rfl
          exact lt_irrefl _ ((h.lt_iff _ _).mp hlt)
        rw [mapFind_cons, if_neg hne, ih]
      · simp [mapFind_cons]

lemma mapFind_mapSet_of_ne {k k' : α} (hk : k' ≠ k) (v : β) (m : List (α × β)) :
    mapFind (mapSet lt k v m) k' = mapFind m k' := by
  induction m with
  | nil => simp [mapSet, mapFind_cons, hk]
  | cons p m ih =>
    rw [mapSet]
    split
    · rw [mapFind_cons, if_neg hk]
    · next hlt =>
      split
      · rw [mapFind_cons, mapFind_cons, ih]
      · next hlt' =>
        have heq : p.1 = k := (h.eq_of_not_lt hlt hlt').symm
        rw [mapFind_cons, mapFind_cons, if_neg hk, if_neg (heq ▸ hk)]

/-- `m[k] += d` adds to the sum of the values. -/
lemma sum_mapSet_add {M : Type*} [AddCommMonoid M] (k : α) (d : M) {m : List (α × M)}
    (hm : Ordered lt (m.map Prod.fst)) :
    ((mapSet lt k ((mapFind m k).getD 0 + d) m).map Prod.snd).sum =
      (m.map Prod.snd).sum + d := by
  induction m with
  | nil => simp [mapSet]
  | cons p m ih =>
    obtain ⟨hp, htail⟩ := List.pairwise_cons.mp hm
    rw [mapSet, mapFind_cons]
    split
    · next hlt =>
      -- all keys of the map come after `k`
      have hne : k ≠ p.1 := by
        intro heq
        rw [heq] at hlt
        exact lt_irrefl _ ((h.lt_iff _ _).mp hlt)
      have hrest : mapFind m k = none := by
        refine mapFind_eq_none_iff.mpr fun hmem => ?_
        exact lt_asymm ((h.lt_iff _ _).mp hlt) ((h.lt_iff _ _).mp (hp k hmem))
      rw [if_neg hne, hrest, Option.getD_none, zero_add, List.map_cons, List.sum_cons, add_comm]
    · next hlt =>
      split
      · next hlt' =>
        have hne : k ≠ p.1 := by
          intro heq
          rw [heq] at hlt'
          exact lt_irrefl _ ((h.lt_iff _ _).mp hlt')
        rw [if_neg hne, List.map_cons, List.sum_cons, ih htail, List.map_cons, List.sum_cons,
          add_assoc]
      · next hlt' =>
        rw [if_pos (h.eq_of_not_lt hlt hlt'), Option.getD_some, List.map_cons, List.sum_cons,
          List.map_cons, List.sum_cons, add_right_comm]

/-- `m[k] = v` changes the value at `k` only. -/
lemma mapFind_mapSet (k k' : α) (v : β) (m : List (α × β)) :
    mapFind (mapSet lt k v m) k' = if k' = k then some v else mapFind m k' := by
  split
  · next hk =>
    subst hk
    exact h.mapFind_mapSet_self k' v m
  · next hk => exact h.mapFind_mapSet_of_ne hk v m

end ComparesKeys

end MapLemmas

end ManetOlsr.Lib
