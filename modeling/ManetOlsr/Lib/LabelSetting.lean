/-
Label-setting search in a graph, with labels from an arbitrary linear order.

Every node is to get a label, the better the smaller.  The source starts with a given label, and
a node whose label is `l` offers `extend u l` to each of its neighbours.  The search keeps a set of
waiting nodes; a round takes a waiting node whose label is least among them, and hands its offer to
every neighbour that has a larger label or none.  This is the algorithm of Dijkstra, without its
assumption that `extend` is monotone: all that is assumed is that an offer is larger than the
label it is made from.

Under that assumption no label changes after its node has been taken (`Round.settled`), so that
a search through finitely many nodes ends, and at the end the labels solve the equations of
Bellman (`Solved`): no offer is smaller than the label of the node it is made to, and the label of
every node but the source is the offer of its parent.  What such labels say of the walks from the
source depends on how `extend` acts.  The parents always give a path with the label of its end
(`Solved.exists_path`).  In a projection of the labels in which `extend` is monotone, no walk is
better (`Solved.proj_le`).  Where `extend` is monotone only among labels of one projection, no walk
is better whose prefixes are all optimal in the projection (`Solved.le_of_optimal`).
-/
import Mathlib.Combinatorics.SimpleGraph.Paths
import Mathlib.Data.Fintype.EquivFin
import Mathlib.Order.WithBot

namespace ManetOlsr.Lib

variable {V L : Type*} {G : SimpleGraph V} {source : V}

/-- A search from a node of a graph: the label it starts with, and what the nodes offer. -/
structure Search (G : SimpleGraph V) (source : V) (L : Type*) where
  start : L
  extend : V → L → L

/-- The labels that the nodes have so far, the nodes they were offered by, and the nodes that are
waiting. -/
structure Labels (V L : Type*) where
  label : V → WithTop L
  parent : V → Option V
  waiting : Set V

namespace Search

/-- The label that reaches the end of a walk, when each node offers the one it has got. -/
def along (S : Search G source L) {a b : V} : G.Walk a b → L → L
  | .nil, l => l
  | .cons _ p, l => along S p (S.extend a l)

/-- The walk goes along the parents. -/
def FollowsParents (parent : V → Option V) {a b : V} (p : G.Walk a b) : Prop :=
  ∀ d ∈ p.darts, parent d.snd = some d.fst

lemma along_concat {S : Search G source L} {a b c : V} (p : G.Walk a b) (h : G.Adj b c)
    (l : L) : S.along (p.concat h) l = S.extend b (S.along p l) := by
  induction p generalizing l with
  | nil => rfl
  | cons hadj p ih => exact ih h _

lemma followsParents_concat {parent : V → Option V} {a b c : V} {p : G.Walk a b} {h : G.Adj b c}
    (hp : FollowsParents parent p) (hc : parent c = some b) :
    FollowsParents parent (p.concat h) := by
  intro d hd
  rw [SimpleGraph.Walk.darts_concat, List.concat_eq_append, List.mem_append] at hd
  rcases hd with hd | hd
  · exact hp d hd
  · obtain rfl := List.mem_singleton.mp hd
    exact hc

variable [LinearOrder L] (S : Search G source L)

/-- An offer is larger than the label it is made from. -/
def Grows : Prop := ∀ u l, l < S.extend u l

/-- The offer of `u`, whose label is `l`, improves on the label of `v`. -/
def Improves (σ : Labels V L) (u : V) (l : L) (v : V) : Prop :=
  G.Adj u v ∧ (S.extend u l : WithTop L) < σ.label v

/-- One round, in which `u` is taken with its label `l`. -/
structure Round (u : V) (l : L) (σ σ' : Labels V L) : Prop where
  waits : u ∈ σ.waiting
  label_eq : σ.label u = l
  least : ∀ w ∈ σ.waiting, (l : WithTop L) ≤ σ.label w
  improved : ∀ v, S.Improves σ u l v →
    σ'.label v = S.extend u l ∧ σ'.parent v = some u ∧ v ∈ σ'.waiting
  kept : ∀ v, ¬ S.Improves σ u l v →
    σ'.label v = σ.label v ∧ σ'.parent v = σ.parent v ∧ (v ∈ σ'.waiting ↔ v ∈ σ.waiting ∧ v ≠ u)

/-- What holds between the rounds. -/
structure Inv (σ : Labels V L) : Prop where
  atSource : σ.label source = S.start ∧ σ.parent source = none
  waiting_label : ∀ v ∈ σ.waiting, σ.label v ≠ ⊤
  frontier : ∀ v ∉ σ.waiting, σ.label v ≠ ⊤ → ∀ w ∈ σ.waiting, σ.label v ≤ σ.label w
  start_le : ∀ v, (S.start : WithTop L) ≤ σ.label v
  relaxed : ∀ v ∉ σ.waiting, ∀ l : L, σ.label v = l → ∀ w, G.Adj v w →
    σ.label w ≤ S.extend v l
  parent : ∀ v, v ≠ source → σ.label v ≠ ⊤ → ∃ u, ∃ l : L, σ.parent v = some u ∧
    G.Adj u v ∧ u ∉ σ.waiting ∧ σ.label u = l ∧ σ.label v = S.extend u l

/-- Only the source has a label, and it is waiting. -/
structure Initial (σ : Labels V L) : Prop where
  atSource : σ.label source = S.start ∧ σ.parent source = none
  label_eq : ∀ v, v ≠ source → σ.label v = ⊤
  waiting_iff : ∀ v, v ∈ σ.waiting ↔ v = source

variable {S}

lemma Grows.lt_offer (hS : S.Grows) (u : V) (l : L) : (l : WithTop L) < S.extend u l :=
  WithTop.coe_lt_coe.mpr (hS u l)

lemma Initial.inv {σ : Labels V L} (h : S.Initial σ) : S.Inv σ where
  atSource := h.atSource
  waiting_label v hv := by
    rw [(h.waiting_iff v).mp hv, h.atSource.1]
    exact WithTop.coe_ne_top
  frontier v hv hlabel := by
    refine absurd (h.label_eq v fun hvs => hv ?_) hlabel
    rw [hvs]
    exact (h.waiting_iff _).mpr rfl
  start_le v := by
    by_cases hv : v = source
    · rw [hv, h.atSource.1]
    · rw [h.label_eq v hv]
      exact le_top
  relaxed v hv l hl := by
    have hvs : v ≠ source := by
      rintro rfl
      exact hv ((h.waiting_iff _).mpr rfl)
    rw [h.label_eq v hvs] at hl
    exact absurd hl.symm WithTop.coe_ne_top
  parent v hvs hlabel := absurd (h.label_eq v hvs) hlabel

/-! ### One round -/

namespace Round

variable {u : V} {l : L} {σ σ' : Labels V L}

/-- An offer improves on no label of a node that has been taken. -/
lemma not_improves (hS : S.Grows) (hR : S.Round u l σ σ') (hσ : S.Inv σ) {v : V}
    (hv : v ∉ σ.waiting) (hlabel : σ.label v ≠ ⊤) : ¬ S.Improves σ u l v := by
  rintro ⟨-, hlt⟩
  have hle := hσ.frontier v hv hlabel u hR.waits
  rw [hR.label_eq] at hle
  exact absurd (hlt.trans_le hle) (hS.lt_offer u l).asymm

lemma label_le (hR : S.Round u l σ σ') (v : V) : σ'.label v ≤ σ.label v := by
  by_cases h : S.Improves σ u l v
  · rw [(hR.improved v h).1]
    exact h.2.le
  · exact (hR.kept v h).1.le

/-- A node that has been taken keeps its label and its parent, and does not wait again. -/
lemma settled (hS : S.Grows) (hR : S.Round u l σ σ') (hσ : S.Inv σ) {v : V} (hv : v ∉ σ.waiting)
    (hlabel : σ.label v ≠ ⊤) :
    σ'.label v = σ.label v ∧ σ'.parent v = σ.parent v ∧ v ∉ σ'.waiting := by
  obtain ⟨hl, hp, hw⟩ := hR.kept v (hR.not_improves hS hσ hv hlabel)
  exact ⟨hl, hp, fun h => hv (hw.mp h).1⟩

/-- The node taken keeps its label, and no longer waits. -/
lemma taken (hR : S.Round u l σ σ') :
    σ'.label u = l ∧ σ'.parent u = σ.parent u ∧ u ∉ σ'.waiting := by
  obtain ⟨hl, hp, hw⟩ := hR.kept u fun h => G.loopless.irrefl u h.1
  exact ⟨hl.trans hR.label_eq, hp, fun h => (hw.mp h).2 rfl⟩

/-- A node with a label that does not wait after the round had been taken, or is taken by it. -/
lemma not_waiting (hR : S.Round u l σ σ') {v : V} (hv : v ∉ σ'.waiting)
    (hlabel : σ'.label v ≠ ⊤) : v = u ∨ v ∉ σ.waiting ∧ σ.label v ≠ ⊤ := by
  have h : ¬ S.Improves σ u l v := fun h => hv (hR.improved v h).2.2
  obtain ⟨hl, -, hw⟩ := hR.kept v h
  by_cases hvu : v = u
  · exact Or.inl hvu
  · exact Or.inr ⟨fun hwait => hv (hw.mpr ⟨hwait, hvu⟩), hl ▸ hlabel⟩

/-- Every node that waits after the round has a label of at least `l`. -/
lemma le_waiting (hS : S.Grows) (hR : S.Round u l σ σ') {w : V} (hw : w ∈ σ'.waiting) :
    (l : WithTop L) ≤ σ'.label w := by
  by_cases h : S.Improves σ u l w
  · rw [(hR.improved w h).1]
    exact (hS.lt_offer u l).le
  · obtain ⟨hl, -, hwait⟩ := hR.kept w h
    rw [hl]
    exact hR.least w (hwait.mp hw).1

/-- A round keeps the invariant. -/
theorem inv (hS : S.Grows) (hR : S.Round u l σ σ') (hσ : S.Inv σ) : S.Inv σ' where
  atSource := by
    have h : ¬ S.Improves σ u l source := by
      rintro ⟨-, hlt⟩
      rw [hσ.atSource.1] at hlt
      have hle : (S.start : WithTop L) ≤ l := hR.label_eq ▸ hσ.start_le u
      exact absurd (hlt.trans_le hle) (hS.lt_offer u l).asymm
    obtain ⟨hl, hp, -⟩ := hR.kept _ h
    exact ⟨hl.trans hσ.atSource.1, hp.trans hσ.atSource.2⟩
  waiting_label v hv := by
    -- A label is offered by `u`, or it is the old one.
    by_cases h : S.Improves σ u l v
    · rw [(hR.improved v h).1]
      exact WithTop.coe_ne_top
    · obtain ⟨hl, -, hw⟩ := hR.kept v h
      rw [hl]
      exact hσ.waiting_label v (hw.mp hv).1
  frontier v hv hlabel w hw := by
    rcases hR.not_waiting hv hlabel with rfl | ⟨hv', hlabel'⟩
    · rw [hR.taken.1]
      exact hR.le_waiting hS hw
    · rw [(hR.settled hS hσ hv' hlabel').1]
      have hle : σ.label v ≤ l := hR.label_eq ▸ hσ.frontier v hv' hlabel' u hR.waits
      exact hle.trans (hR.le_waiting hS hw)
  start_le v := by
    by_cases h : S.Improves σ u l v
    · rw [(hR.improved v h).1]
      exact (hR.label_eq ▸ hσ.start_le u).trans (hS.lt_offer u l).le
    · rw [(hR.kept v h).1]
      exact hσ.start_le v
  relaxed v hv k hk w hvw := by
    have hlabel : σ'.label v ≠ ⊤ := by rw [hk]; exact WithTop.coe_ne_top
    rcases hR.not_waiting hv hlabel with rfl | ⟨hv', hlabel'⟩
    · -- The node taken has just made its offers.
      rw [hR.taken.1, WithTop.coe_inj] at hk
      subst hk
      by_cases h : S.Improves σ v l w
      · exact (hR.improved w h).1.le
      · rw [(hR.kept w h).1]
        exact not_lt.mp fun hlt => h ⟨hvw, hlt⟩
    · rw [(hR.settled hS hσ hv' hlabel').1] at hk
      exact (hR.label_le w).trans (hσ.relaxed v hv' k hk w hvw)
  parent v hvs hlabel := by
    by_cases h : S.Improves σ u l v
    · obtain ⟨hl, hp, -⟩ := hR.improved v h
      exact ⟨u, l, hp, h.1, hR.taken.2.2, hR.taken.1, hl⟩
    · obtain ⟨hl, hp, -⟩ := hR.kept v h
      obtain ⟨p, k, hpar, hadj, hpw, hpl, heq⟩ := hσ.parent v hvs (hl ▸ hlabel)
      have hpt : σ.label p ≠ ⊤ := by rw [hpl]; exact WithTop.coe_ne_top
      obtain ⟨hpl', -, hpw'⟩ := hR.settled hS hσ hpw hpt
      exact ⟨p, k, hp.trans hpar, hadj, hpw', hpl'.trans hpl, hl.trans heq⟩

/-- The nodes that have been taken are those of before, with the one taken. -/
lemma settled_iff (hS : S.Grows) (hR : S.Round u l σ σ') (hσ : S.Inv σ) (v : V) :
    v ∉ σ'.waiting ∧ σ'.label v ≠ ⊤ ↔ v = u ∨ v ∉ σ.waiting ∧ σ.label v ≠ ⊤ := by
  constructor
  · rintro ⟨hv, hlabel⟩
    exact hR.not_waiting hv hlabel
  · rintro (rfl | ⟨hv, hlabel⟩)
    · refine ⟨hR.taken.2.2, ?_⟩
      rw [hR.taken.1]
      exact WithTop.coe_ne_top
    · obtain ⟨hl, -, hw⟩ := hR.settled hS hσ hv hlabel
      exact ⟨hw, hl ▸ hlabel⟩

open Classical in
/-- A round leaves fewer nodes to be taken. -/
lemma card_lt (hS : S.Grows) (hR : S.Round u l σ σ') (hσ : S.Inv σ) {nodes : Finset V}
    (hu : u ∈ nodes) :
    {v ∈ nodes | ¬ (v ∉ σ'.waiting ∧ σ'.label v ≠ ⊤)}.card <
      {v ∈ nodes | ¬ (v ∉ σ.waiting ∧ σ.label v ≠ ⊤)}.card := by
  refine Finset.card_lt_card ⟨fun v hv => ?_, fun hsub => ?_⟩
  · obtain ⟨hmem, hnot⟩ := Finset.mem_filter.mp hv
    exact Finset.mem_filter.mpr ⟨hmem, fun h => hnot ((hR.settled_iff hS hσ v).mpr (Or.inr h))⟩
  · have hin : u ∈ {v ∈ nodes | ¬ (v ∉ σ.waiting ∧ σ.label v ≠ ⊤)} :=
      Finset.mem_filter.mpr ⟨hu, fun h => h.1 hR.waits⟩
    exact (Finset.mem_filter.mp (hsub hin)).2 ((hR.settled_iff hS hσ u).mpr (Or.inl rfl))

end Round

/-! ### The labels at the end -/

variable (S) in
/-- The labels solve the equations of Bellman. -/
structure Solved (σ : Labels V L) : Prop where
  atSource : σ.label source = S.start ∧ σ.parent source = none
  relaxed : ∀ v, ∀ l : L, σ.label v = l → ∀ w, G.Adj v w → σ.label w ≤ S.extend v l
  parent : ∀ v, v ≠ source → σ.label v ≠ ⊤ → ∃ u, ∃ l : L, σ.parent v = some u ∧
    G.Adj u v ∧ σ.label u = l ∧ σ.label v = S.extend u l

lemma Inv.solved {σ : Labels V L} (h : S.Inv σ) (hdone : ∀ v, v ∉ σ.waiting) : S.Solved σ where
  atSource := h.atSource
  relaxed v := h.relaxed v (hdone v)
  parent v hv hlabel := by
    obtain ⟨u, l, hp, hadj, -, hl, heq⟩ := h.parent v hv hlabel
    exact ⟨u, l, hp, hadj, hl, heq⟩

/-! ### Walks -/

section Walks

variable {σ : Labels V L} (hσ : S.Solved σ)
include hσ

/-- The parents give a path from the source to every node with a label, and the label is the one
that reaches the node along it. -/
theorem Solved.exists_path [Finite V] (hS : S.Grows) {v : V} {l : L} (hl : σ.label v = l) :
    ∃ p : G.Walk source v, p.IsPath ∧ FollowsParents σ.parent p ∧
      S.along p S.start = l ∧ ∀ w ∈ p.support, σ.label w ≤ l := by
  let smaller : V → V → Prop := fun u v => σ.label u < σ.label v
  have : IsTrans V smaller := ⟨fun _ _ _ => lt_trans⟩
  have : Std.Irrefl smaller := ⟨fun _ => lt_irrefl _⟩
  have hwf : WellFounded smaller := Finite.wellFounded_of_trans_of_irrefl smaller
  induction v using hwf.induction generalizing l with
  | _ v ih =>
    by_cases hvs : v = source
    · subst hvs
      refine ⟨.nil, .nil, by simp [FollowsParents], ?_, by simp [hl]⟩
      exact WithTop.coe_injective (hσ.atSource.1.symm.trans hl)
    · obtain ⟨u, k, hpar, hadj, hk, heq⟩ := hσ.parent v hvs (by rw [hl]; exact WithTop.coe_ne_top)
      have hlt : σ.label u < σ.label v := by
        rw [hk, heq]
        exact hS.lt_offer u k
      obtain ⟨p, hpath, hfollows, halong, hsupport⟩ := ih u hlt hk
      have hkl : (k : WithTop L) < l := by rwa [← hk, ← hl]
      refine ⟨p.concat hadj, ?_, followsParents_concat hfollows hpar, ?_, ?_⟩
      · refine (SimpleGraph.Walk.concat_isPath_iff hadj).mpr ⟨hpath, fun hv => ?_⟩
        exact absurd hkl (not_lt.mpr (hl ▸ hsupport v hv))
      · rw [along_concat, halong]
        exact WithTop.coe_injective (heq.symm.trans hl)
      · intro w hw
        rw [SimpleGraph.Walk.support_concat, List.mem_append] at hw
        rcases hw with hw | hw
        · exact (hsupport w hw).trans hkl.le
        · obtain rfl := List.mem_singleton.mp hw
          exact hl.le

/-- An edge leads from a node with a label to one whose label is at most the offer. -/
lemma Solved.label_le {u v : V} {l : L} (hl : σ.label u = l) (hadj : G.Adj u v) :
    ∃ k : L, σ.label v = k ∧ k ≤ S.extend u l :=
  WithTop.le_coe_iff.mp (hσ.relaxed u l hl v hadj)

/-- A walk along the parents has the label of its end. -/
lemma Solved.along_eq {a b : V} (p : G.Walk a b) (hp : FollowsParents σ.parent p) {l : L}
    (hl : σ.label a = l) : σ.label b = S.along p l := by
  induction p generalizing l with
  | nil => exact hl
  | @cons a c b hadj p ih =>
    rw [FollowsParents, SimpleGraph.Walk.darts_cons, List.forall_mem_cons] at hp
    obtain ⟨hpar, hp⟩ := hp
    obtain ⟨k, hk, -⟩ := hσ.label_le hl hadj
    have hcs : c ≠ source := by
      rintro rfl
      rw [hσ.atSource.2] at hpar
      cases hpar
    obtain ⟨u, m, hu, -, hm, heq⟩ := hσ.parent c hcs (by rw [hk]; exact WithTop.coe_ne_top)
    obtain rfl : u = a := Option.some.inj (hu.symm.trans hpar)
    obtain rfl : m = l := WithTop.coe_injective (hm.symm.trans hl)
    exact ih hp heq

variable {M : Type*}

/-- In a projection of the labels in which the offers are monotone, no walk is better than the
label of its end. -/
theorem Solved.proj_le [Preorder M] {π : L → M} (hπ : Monotone π)
    (hext : ∀ u l l', π l ≤ π l' → π (S.extend u l) ≤ π (S.extend u l')) {a b : V}
    (p : G.Walk a b) {l : L} (hl : ∃ k : L, σ.label a = k ∧ π k ≤ π l) :
    ∃ k : L, σ.label b = k ∧ π k ≤ π (S.along p l) := by
  induction p generalizing l with
  | nil => exact hl
  | @cons a c b hadj p ih =>
    obtain ⟨k, hk, hle⟩ := hl
    obtain ⟨m, hm, hmk⟩ := hσ.label_le hk hadj
    exact ih ⟨m, hm, (hπ hmk).trans (hext a k l hle)⟩

/-- Where the offers are monotone among labels of one projection, no walk is better than the label
of its end if all its prefixes have the projection of the label of theirs. -/
theorem Solved.le_of_optimal {π : L → M}
    (hext : ∀ u l l', π l = π l' → l ≤ l' → S.extend u l ≤ S.extend u l') {a b : V}
    (p : G.Walk a b) {l : L} (hl : σ.label a ≤ l)
    (hopt : ∀ c, ∀ q : G.Walk a c, ∀ r : G.Walk c b, q.append r = p →
      ∃ k : L, σ.label c = k ∧ π (S.along q l) = π k) :
    σ.label b ≤ S.along p l := by
  induction p generalizing l with
  | nil => exact hl
  | @cons a c b hadj p ih =>
    obtain ⟨k, hk, hproj⟩ := hopt a .nil (.cons hadj p) rfl
    obtain ⟨m, hm, hmk⟩ := hσ.label_le hk hadj
    rw [hk, WithTop.coe_le_coe] at hl
    have hle : m ≤ S.extend a l := hmk.trans (hext a k l hproj.symm hl)
    refine ih (hm.trans_le (WithTop.coe_le_coe.mpr hle)) fun d q r hqr => ?_
    exact hopt d (.cons hadj q) r (by rw [SimpleGraph.Walk.cons_append, hqr])

end Walks

end Search

end ManetOlsr.Lib
