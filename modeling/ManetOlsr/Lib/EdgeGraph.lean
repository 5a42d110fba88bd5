/-
The undirected graph of a list of pairs, and the adjacency sets that represent it.

A pair may be listed in either direction, more than once, or with the same node twice; the graph has
an edge between two different nodes that some pair names.  Adjacency sets represent the list if they
say the same of every two nodes (`Represents`).  Going out from a node, as many steps as one likes,
over the sets of those reached so far reaches the nodes within that distance (`Represents.mem_within`).
-/
import Mathlib.Combinatorics.SimpleGraph.Metric
import Mathlib.Data.Finset.Union

namespace ManetOlsr.Lib

variable {V : Type*}

/-- The graph of a list of pairs. -/
def edgeGraph (edges : List (V × V)) : SimpleGraph V :=
  SimpleGraph.fromRel fun u v => (u, v) ∈ edges

variable {edges : List (V × V)} {u v w : V}

lemma edgeGraph_adj :
    (edgeGraph edges).Adj u v ↔ u ≠ v ∧ ((u, v) ∈ edges ∨ (v, u) ∈ edges) := by
  rw [edgeGraph, SimpleGraph.fromRel_adj]

/-- The adjacency sets name the pairs of the list, in either direction. -/
def Represents (adj : V → Finset V) (edges : List (V × V)) : Prop :=
  ∀ u v, v ∈ adj u ↔ (u, v) ∈ edges ∨ (v, u) ∈ edges

lemma represents_nil : Represents (fun _ : V => ∅) [] := by
  intro u v
  simp

namespace Represents

variable {adj : V → Finset V}

/-- One pair more. -/
lemma concat (h : Represents adj edges) {adj' : V → Finset V} {x y : V}
    (hadj : ∀ u v, v ∈ adj' u ↔ v ∈ adj u ∨ (u = x ∧ v = y) ∨ (u = y ∧ v = x)) :
    Represents adj' (edges ++ [(x, y)]) := by
  intro u v
  simp only [hadj, h u v, List.mem_append, List.mem_singleton, Prod.mk.injEq]
  tauto

lemma mem_comm (h : Represents adj edges) : v ∈ adj u ↔ u ∈ adj v := by
  rw [h u v, h v u, or_comm]

lemma adj_iff (h : Represents adj edges) : (edgeGraph edges).Adj u v ↔ u ≠ v ∧ v ∈ adj u := by
  rw [edgeGraph_adj, h u v]

end Represents

/-! ### Going out from a node -/

/-- The distance goes over a last edge. -/
lemma edist_le_succ_iff {G : SimpleGraph V} {k : ℕ} : G.edist u v ≤ (k + 1 : ℕ) ↔
    G.edist u v ≤ k ∨ ∃ w, G.edist u w ≤ k ∧ G.Adj w v := by
  constructor
  · intro hdist
    have hne : G.edist u v ≠ ⊤ := ne_top_of_le_ne_top (ENat.natCast_ne_top _) hdist
    obtain ⟨p, hp⟩ := SimpleGraph.exists_walk_of_edist_ne_top hne
    rw [← hp, Nat.cast_le] at hdist
    -- Taken backwards, the walk begins with the last edge.
    cases hq : p.reverse with
    | nil =>
      have hlength := congrArg SimpleGraph.Walk.length hq
      rw [SimpleGraph.Walk.length_reverse, SimpleGraph.Walk.length_nil] at hlength
      left
      rw [← hp, hlength]
      exact Nat.cast_le.mpr (Nat.zero_le k)
    | @cons _ w _ hadj q =>
      have hlength := congrArg SimpleGraph.Walk.length hq
      rw [SimpleGraph.Walk.length_reverse, SimpleGraph.Walk.length_cons] at hlength
      refine Or.inr ⟨w, ?_, hadj.symm⟩
      calc G.edist u w ≤ q.reverse.length := q.reverse.edist_le
        _ ≤ k := by
          rw [SimpleGraph.Walk.length_reverse, Nat.cast_le]
          omega
  · rintro (hdist | ⟨w, hdist, hadj⟩)
    · exact hdist.trans (Nat.cast_le.mpr (Nat.le_succ k))
    · calc G.edist u v ≤ G.edist u w + G.edist w v := SimpleGraph.edist_triangle
        _ ≤ k + 1 := add_le_add hdist (SimpleGraph.edist_eq_one_iff_adj.mpr hadj).le
        _ = (k + 1 : ℕ) := (Nat.cast_succ k).symm

variable [DecidableEq V]

/-- The nodes reached from `u` in at most `k` steps, each over the sets of the nodes reached. -/
def within (adj : V → Finset V) (u : V) : ℕ → Finset V
  | 0 => {u}
  | k + 1 => within adj u k ∪ (within adj u k).biUnion adj

/-- What is reached in `k` steps is what is within distance `k`. -/
lemma Represents.mem_within {adj : V → Finset V} (h : Represents adj edges) {k : ℕ} :
    v ∈ within adj u k ↔ (edgeGraph edges).edist u v ≤ k := by
  induction k generalizing v with
  | zero =>
    rw [within, Finset.mem_singleton, Nat.cast_zero, nonpos_iff_eq_zero,
      SimpleGraph.edist_eq_zero_iff, eq_comm]
  | succ k ih =>
    rw [within, Finset.mem_union, Finset.mem_biUnion, edist_le_succ_iff, ih]
    constructor
    · rintro (hdist | ⟨w, hw, hmem⟩)
      · exact Or.inl hdist
      · rw [ih] at hw
        by_cases heq : w = v
        · exact Or.inl (heq ▸ hw)
        · exact Or.inr ⟨w, hw, h.adj_iff.mpr ⟨heq, hmem⟩⟩
    · rintro (hdist | ⟨w, hdist, hadj⟩)
      · exact Or.inl hdist
      · exact Or.inr ⟨w, ih.mpr hdist, (h.adj_iff.mp hadj).2⟩

end ManetOlsr.Lib
