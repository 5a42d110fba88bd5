/-
Relays in a graph.

Every vertex of a graph chooses some of its neighbors as relays, such that each vertex two hops away
is a neighbor of a relay.  Then little of the graph is enough to find shortest paths in it: beyond
two hops, the edges between the vertices and the relays they have chosen lead to every vertex as
soon as the edges of the whole graph do (`relayPath_dist`).
-/
import Mathlib.Combinatorics.SimpleGraph.Metric

namespace ManetOlsr.Lib

variable {V : Type*}

section Distance

variable {G : SimpleGraph V} {s d : V}

/-- A shortest path has a last edge. -/
lemma exists_adj_of_dist_succ {k : ℕ} (h : G.dist s d = k + 1) :
    ∃ u, G.Adj u d ∧ G.Reachable s u ∧ G.dist s u = k := by
  have hreach : G.Reachable s d := by
    by_contra hnot
    rw [SimpleGraph.dist_eq_zero_of_not_reachable hnot] at h
    omega
  obtain ⟨p, hp⟩ := hreach.exists_walk_length_eq_dist
  -- Taken backwards, the path begins with the last edge.
  cases hq : p.reverse with
  | nil =>
    rw [SimpleGraph.dist_self] at h
    omega
  | @cons _ u _ hadj q =>
    have hlength := congrArg SimpleGraph.Walk.length hq
    rw [SimpleGraph.Walk.length_reverse, SimpleGraph.Walk.length_cons, hp, h] at hlength
    refine ⟨u, hadj.symm, ⟨q.reverse⟩, le_antisymm ?_ ?_⟩
    · have hle := G.dist_le q.reverse
      rw [SimpleGraph.Walk.length_reverse] at hle
      omega
    · obtain ⟨p', hp'⟩ := SimpleGraph.Reachable.exists_walk_length_eq_dist ⟨q.reverse⟩
      have hle := G.dist_le (p'.concat hadj.symm)
      rw [SimpleGraph.Walk.length_concat, hp', h] at hle
      omega

/-- One edge more is one hop more at most. -/
lemma dist_le_succ_of_adj {u : V} (hreach : G.Reachable s u) (hadj : G.Adj u d) :
    G.dist s d ≤ G.dist s u + 1 := by
  obtain ⟨p, hp⟩ := hreach.exists_walk_length_eq_dist
  have hle := G.dist_le (p.concat hadj)
  rwa [SimpleGraph.Walk.length_concat, hp] at hle

end Distance

variable (G : SimpleGraph V) (relays : V → Set V)

/-- The vertices that have a common neighbor and are not neighbors themselves. -/
def TwoHops (v w : V) : Prop := v ≠ w ∧ ¬ G.Adj v w ∧ ∃ u, G.Adj v u ∧ G.Adj u w

/-- The relays of a vertex are neighbors of it and cover the vertices two hops away. -/
structure RelaysCover : Prop where
  adj : ∀ v, ∀ m ∈ relays v, G.Adj v m
  covers : ∀ v w, TwoHops G v w → ∃ m ∈ relays v, G.Adj m w

/-- The paths that a vertex knows: to its neighbors, to the neighbors of these, and from there over
edges between a relay and a vertex that has chosen it. -/
inductive RelayPath (s : V) : ℕ → V → Prop where
  | neighbor {a : V} (ha : G.Adj s a) : RelayPath s 1 a
  | twoHop {a b : V} (hab : G.Adj a b) (hself : b ≠ s) (hfar : ¬ G.Adj s b)
      (path : RelayPath s 1 a) : RelayPath s 2 b
  | relay {k : ℕ} {a b : V} (hk : 2 ≤ k) (hab : a ∈ relays b) (hself : b ≠ s)
      (hfar : ¬ G.Adj s b) (path : RelayPath s k a) : RelayPath s (k + 1) b

variable {G relays}

/-- A vertex at distance three or more has a relay that is nearer. -/
lemma RelaysCover.exists_relay (h : RelaysCover G relays) {s d : V} {k : ℕ} (hk : 2 ≤ k)
    (hd : G.dist s d = k + 1) : ∃ m ∈ relays d, G.Reachable s m ∧ G.dist s m = k := by
  obtain ⟨j, rfl⟩ : ∃ j, k = j + 1 := ⟨k - 1, by omega⟩
  obtain ⟨u, hud, -, hu⟩ := exists_adj_of_dist_succ hd
  obtain ⟨w, hwu, hsw, hw⟩ := exists_adj_of_dist_succ hu
  have htwo : TwoHops G d w := by
    refine ⟨?_, fun hadj => ?_, u, hud.symm, hwu.symm⟩
    · rintro rfl
      omega
    · have hle := dist_le_succ_of_adj hsw hadj.symm
      omega
  obtain ⟨m, hm, hmw⟩ := h.covers d w htwo
  have hsm : G.Reachable s m := hsw.trans hmw.symm.reachable
  refine ⟨m, hm, hsm, le_antisymm ?_ ?_⟩
  · have hle := dist_le_succ_of_adj hsw hmw.symm
    omega
  · have hle := dist_le_succ_of_adj hsm (h.adj d m hm).symm
    omega

/-- **Relays keep the distances.**  To every vertex that can be reached there is a known path that
is a shortest one. -/
theorem relayPath_dist (h : RelaysCover G relays) {s d : V} (hd : G.Reachable s d) (hsd : d ≠ s) :
    RelayPath G relays s (G.dist s d) d := by
  have hpos : 0 < G.dist s d := hd.pos_dist_of_ne hsd.symm
  obtain ⟨k, hk⟩ : ∃ k, G.dist s d = k + 1 := ⟨G.dist s d - 1, by omega⟩
  rw [hk]
  have hfar : ∀ {j : ℕ} {b : V}, G.dist s b = j + 2 → b ≠ s ∧ ¬ G.Adj s b := by
    intro j b hb
    constructor
    · rintro rfl
      rw [SimpleGraph.dist_self] at hb
      omega
    · intro hadj
      rw [SimpleGraph.dist_eq_one_iff_adj.mpr hadj] at hb
      omega
  clear hd hsd hpos
  induction k generalizing d with
  | zero => exact .neighbor (SimpleGraph.dist_eq_one_iff_adj.mp hk)
  | succ k ih =>
    obtain ⟨hself, hadj⟩ := hfar hk
    cases k with
    | zero =>
      obtain ⟨u, hud, -, hu⟩ := exists_adj_of_dist_succ hk
      exact .twoHop hud hself hadj (ih hu)
    | succ k =>
      obtain ⟨m, hm, -, hdist⟩ := h.exists_relay (by omega) hk
      exact .relay (by omega) hm hself hadj (ih hdist)

end ManetOlsr.Lib
