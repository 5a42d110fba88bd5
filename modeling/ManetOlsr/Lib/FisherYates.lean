/-
Fisher–Yates shuffles of a list.

The last element is exchanged with one of all the elements, then the one before it with one of
those that are left, down to the second.  `exchanges n choices` does so with the places that
`choices` gives, and `Admissible n choices` says that each of them is one of the places left.

The rules used on the shuffles of a program are `exchanges_perm` (nothing is lost) and
`existsUnique_choices` (each rearrangement of the places comes from exactly one way to choose).
-/
import Mathlib.Data.List.FinRange
import Mathlib.Data.List.OfFn
import Mathlib.Logic.Equiv.Basic
import Mathlib.Tactic.Common

namespace ManetOlsr.Lib

variable {α β : Type*}

/-- The elements at two places change places. -/
def exchange (l : List α) (i j : ℕ) : List α :=
  match l[i]?, l[j]? with
  | some x, some y => (l.set i y).set j x
  | _, _ => l

/-- The exchanges at the places `i - 1, …, 1`. -/
def exchanges : ℕ → List ℕ → List α → List α
  | i + 2, j :: choices, l => exchanges (i + 1) choices (exchange l (i + 1) j)
  | _, _, l => l

/-- How many places each of the exchanges has to choose from. -/
def choiceBounds : ℕ → List ℕ
  | i + 2 => (i + 2) :: choiceBounds (i + 1)
  | _ => []

def Admissible (n : ℕ) (choices : List ℕ) : Prop :=
  List.Forall₂ (· < ·) choices (choiceBounds n)

lemma of_mem_choiceBounds {n b : ℕ} (h : b ∈ choiceBounds n) : 2 ≤ b ∧ b ≤ n := by
  induction n using choiceBounds.induct with
  | case1 i ih =>
    rcases List.mem_cons.mp h with rfl | h
    · omega
    · have := ih h
      omega
  | case2 n hbase =>
    rw [choiceBounds] at h
    · cases h
    · exact hbase

/-! ### One exchange -/

lemma exchange_of_lt {l : List α} {i j : ℕ} (hi : i < l.length) (hj : j < l.length) :
    exchange l i j = (l.set i l[j]).set j l[i] := by
  simp [exchange, hi, hj]

lemma exchange_perm (l : List α) (i j : ℕ) : (exchange l i j).Perm l := by
  unfold exchange
  split
  · rename_i x y hx hy
    obtain ⟨hi, rfl⟩ := List.getElem?_eq_some_iff.mp hx
    obtain ⟨hj, rfl⟩ := List.getElem?_eq_some_iff.mp hy
    exact List.set_set_perm hi hj
  · exact List.Perm.refl l

@[simp] lemma length_exchange (l : List α) (i j : ℕ) : (exchange l i j).length = l.length :=
  (exchange_perm l i j).length_eq

lemma exchange_map (f : α → β) (l : List α) (i j : ℕ) :
    exchange (l.map f) i j = (exchange l i j).map f := by
  unfold exchange
  cases hi : l[i]? with
  | none => simp [hi]
  | some x =>
    cases hj : l[j]? with
    | none => simp [hi, hj]
    | some y => simp [hi, hj, List.map_set]

lemma exchange_append {l : List α} {i j : ℕ} (hi : i < l.length) (hj : j < l.length)
    (r : List α) : exchange (l ++ r) i j = exchange l i j ++ r := by
  have hi' : i < (l ++ r).length := by rw [List.length_append]; omega
  have hj' : j < (l ++ r).length := by rw [List.length_append]; omega
  rw [exchange_of_lt hi' hj', exchange_of_lt hi hj, List.getElem_append_left hi,
    List.getElem_append_left hj, List.set_append_left _ _ hi,
    List.set_append_left _ _ (by rwa [List.length_set])]

/-- After the exchange with the last place, the element chosen is the last. -/
lemma exists_exchange_eq_concat {l : List α} {n j : ℕ} (hn : l.length = n + 1) (hj : j < n + 1) :
    ∃ m, m.length = n ∧ exchange l n j = m ++ [l[j]] := by
  have hlen : (exchange l n j).length = n + 1 := by rw [length_exchange, hn]
  have hne : exchange l n j ≠ [] := by
    intro h
    rw [h] at hlen
    exact Nat.succ_ne_zero n hlen.symm
  refine ⟨(exchange l n j).dropLast, by rw [List.length_dropLast, hlen]; rfl, ?_⟩
  have hlast : (exchange l n j).getLast hne = l[j] := by
    rw [List.getLast_eq_getElem]
    simp only [hlen, Nat.add_sub_cancel]
    simp only [exchange_of_lt (i := n) (j := j) (by omega : n < l.length) (by omega : j < l.length)]
    rw [List.getElem_set]
    split
    · subst j
      rfl
    · rw [List.getElem_set_self]
  rw [← hlast, List.dropLast_append_getLast]

/-! ### The exchanges of a shuffle -/

lemma exchanges_perm (n : ℕ) (choices : List ℕ) (l : List α) :
    (exchanges n choices l).Perm l := by
  induction n, choices, l using exchanges.induct with
  | case1 i j choices l ih => exact ih.trans (exchange_perm l (i + 1) j)
  | case2 n choices l h =>
    rw [exchanges]
    exact h

lemma exchanges_map (f : α → β) (n : ℕ) (choices : List ℕ) (l : List α) :
    exchanges n choices (l.map f) = (exchanges n choices l).map f := by
  induction n, choices, l using exchanges.induct with
  | case1 i j choices l ih => rw [exchanges, exchanges, exchange_map, ih]
  | case2 n choices l h =>
    rw [exchanges, exchanges]
    · exact h
    · exact h

@[simp] lemma exchanges_nil (n : ℕ) (l : List α) : exchanges n [] l = l := by
  unfold exchanges
  split
  · contradiction
  · rfl

@[simp] lemma admissible_cons_iff {n j : ℕ} {choices : List ℕ} :
    Admissible (n + 2) (j :: choices) ↔ j < n + 2 ∧ Admissible (n + 1) choices := by
  simp [Admissible, choiceBounds]

lemma Admissible.exists_cons {n : ℕ} {choices : List ℕ} (h : Admissible (n + 2) choices) :
    ∃ j choices', choices = j :: choices' ∧ j < n + 2 ∧ Admissible (n + 1) choices' := by
  cases choices with
  | nil => simp [Admissible, choiceBounds] at h
  | cons j choices => exact ⟨j, choices, rfl, admissible_cons_iff.mp h⟩

/-- The elements behind the first `n` stay where they are. -/
lemma exchanges_append {n : ℕ} {choices : List ℕ} {l : List α} (h : Admissible n choices)
    (hl : n ≤ l.length) (r : List α) :
    exchanges n choices (l ++ r) = exchanges n choices l ++ r := by
  induction n, choices, l using exchanges.induct with
  | case1 i j choices l ih =>
    obtain ⟨hj, htail⟩ := admissible_cons_iff.mp h
    rw [exchanges, exchanges, exchange_append (by omega) (by omega),
      ih htail (by rw [length_exchange]; omega)]
  | case2 n choices l hbase =>
    rw [exchanges, exchanges]
    · exact hbase
    · exact hbase

/-- The first choice decides about the last element, and the others about what is before it. -/
lemma exists_exchanges_eq_concat {l : List α} {n j : ℕ} (hl : l.length = n + 2) (hj : j < n + 2) :
    ∃ m, m.length = n + 1 ∧ (m ++ [l[j]]).Perm l ∧ ∀ choices, Admissible (n + 1) choices →
      exchanges (n + 2) (j :: choices) l = exchanges (n + 1) choices m ++ [l[j]] := by
  obtain ⟨m, hm, hexchange⟩ := exists_exchange_eq_concat hl hj
  refine ⟨m, hm, ?_, ?_⟩
  · rw [← hexchange]
    exact exchange_perm l (n + 1) j
  · intro choices h
    rw [exchanges, hexchange, exchanges_append h hm.ge]

/-! ### Every permutation once -/

lemma admissible_nil {n : ℕ} (hn : n ≤ 1) {choices : List ℕ} :
    Admissible n choices ↔ choices = [] := by
  have hbounds : choiceBounds n = [] := by
    match n, hn with
    | 0, _ | 1, _ => rfl
  rw [Admissible, hbounds, List.forall₂_nil_right_iff]

/-- Each rearrangement of a list without repetitions comes from exactly one way to choose. -/
theorem existsUnique_exchanges {n : ℕ} {l l' : List α} (hn : l.length = n) (hl : l.Nodup)
    (hperm : l'.Perm l) :
    ∃! choices, Admissible n choices ∧ exchanges n choices l = l' := by
  induction n generalizing l l' with
  | zero =>
    obtain rfl := List.length_eq_zero_iff.mp hn
    refine ⟨[], ⟨(admissible_nil (by omega)).mpr rfl, hperm.eq_nil.symm⟩, ?_⟩
    rintro choices ⟨h, -⟩
    exact (admissible_nil (by omega)).mp h
  | succ n ih =>
    cases n with
    | zero =>
      obtain ⟨x, rfl⟩ := List.length_eq_one_iff.mp hn
      refine ⟨[], ⟨(admissible_nil le_rfl).mpr rfl, (List.perm_singleton.mp hperm).symm⟩, ?_⟩
      rintro choices ⟨h, -⟩
      exact (admissible_nil le_rfl).mp h
    | succ n =>
      have hne : l' ≠ [] := by
        rintro rfl
        rw [hperm.symm.eq_nil] at hn
        cases hn
      obtain ⟨q, x, rfl⟩ : ∃ q x, l' = q ++ [x] :=
        ⟨_, _, (List.dropLast_append_getLast hne).symm⟩
      obtain ⟨j, hj, rfl⟩ := List.getElem_of_mem (hperm.subset (List.mem_append_right q
        (List.mem_singleton_self x)))
      obtain ⟨m, hm, hml, hexchanges⟩ := exists_exchanges_eq_concat hn (hn ▸ hj)
      have hqm : q.Perm m := (List.perm_append_right_iff [l[j]]).mp (hperm.trans hml.symm)
      have hnodup : m.Nodup := (hml.nodup_iff.mpr hl).of_append_left
      obtain ⟨choices, ⟨hadm, heq⟩, hunique⟩ := ih hm hnodup hqm
      refine ⟨j :: choices, ⟨admissible_cons_iff.mpr ⟨hn ▸ hj, hadm⟩, ?_⟩, ?_⟩
      · rw [hexchanges choices hadm, heq]
      · rintro choices' ⟨hadm', heq'⟩
        obtain ⟨j', tail, rfl, hj', htail⟩ := hadm'.exists_cons
        obtain ⟨m', -, -, hexchanges'⟩ := exists_exchanges_eq_concat hn hj'
        rw [hexchanges' tail htail] at heq'
        obtain ⟨-, hlast⟩ := List.append_inj' heq' rfl
        obtain rfl : j' = j := hl.getElem_inj_iff.mp (List.singleton_inj.mp hlast)
        rw [← hexchanges' tail htail, hexchanges tail htail] at heq'
        rw [hunique tail ⟨htail, List.append_cancel_right heq'⟩]

/-- **Every permutation once.**  Each rearrangement of `n` places comes from exactly one way to
choose, whatever stands at the places. -/
theorem existsUnique_choices {n : ℕ} (f : Fin n ↪ α) (σ : Equiv.Perm (Fin n)) :
    ∃! choices, Admissible n choices ∧
      ∀ v : Fin n → α, exchanges n choices (List.ofFn v) = List.ofFn (v ∘ σ) := by
  have hnodup : (List.ofFn f).Nodup := List.nodup_ofFn.mpr f.injective
  have hperm : (List.ofFn (f ∘ σ)).Perm (List.ofFn f) := Equiv.Perm.ofFn_comp_perm σ f
  obtain ⟨choices, ⟨hadm, heq⟩, hunique⟩ :=
    existsUnique_exchanges List.length_ofFn hnodup hperm
  -- the places themselves go the same way
  have hplaces : exchanges n choices (List.ofFn id) = List.ofFn σ := by
    refine List.map_injective_iff.mpr f.injective ?_
    rw [← exchanges_map, List.map_ofFn, List.map_ofFn]
    exact heq
  refine ⟨choices, ⟨hadm, fun v => ?_⟩, ?_⟩
  · have hmap : List.ofFn v = (List.ofFn id).map v := by rw [List.map_ofFn, Function.comp_id]
    rw [hmap, exchanges_map, hplaces, List.map_ofFn]
  · rintro choices' ⟨hadm', heq'⟩
    exact hunique choices' ⟨hadm', heq' f⟩

end ManetOlsr.Lib
