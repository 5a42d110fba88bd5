/-
The most trusted paths.

The trust of a path is the least trust of the nodes between its ends.  The search of
`RunTrustDijkstra` is a label-setting search whose labels are ordered by trust first and then by the
number of hops, so that no label changes once its node has been taken from the queue.  It ends, and
gives every node that the source is connected to a path of greatest trust.

Its hop counts are least only among the paths all of whose prefixes are most trusted: the label of
a node keeps the most trusted way to it, even if a node further on is trusted so little that a
shorter and less trusted way would have done as well.
-/
import ManetOlsr.Lib.LabelSetting
import ManetOlsr.Model.TrustRouting
import Mathlib.Algebra.Order.Field.Rat
import Mathlib.Combinatorics.SimpleGraph.Connectivity.Connected
import Mathlib.Data.Prod.Lex

namespace ManetOlsr

/-! ### The graph -/

namespace OlsrState

variable (s : OlsrState) (mainAddress : Ipv4Address)

/-- The relationships of the repositories, in the direction they are recorded in. -/
def Related (a b : Ipv4Address) : Prop :=
  (a = mainAddress ∧ ∃ nb ∈ s.neighborSet, nb.status = Status.sym ∧ nb.neighborMainAddr = b) ∨
  (∃ nb2 ∈ s.twoHopNeighborSet, nb2.neighborMainAddr = a ∧ nb2.twoHopNeighborAddr = b) ∨
  ∃ topo ∈ s.topologySet, topo.lastAddr ≠ mainAddress ∧ topo.destAddr ≠ mainAddress ∧
    topo.lastAddr = a ∧ topo.destAddr = b

/-- The undirected graph of the relationships. -/
def relationships : SimpleGraph Ipv4Address := SimpleGraph.fromRel (s.Related mainAddress)

end OlsrState

namespace TrustGraph

variable {source : Ipv4Address}

/-- The graph has the edges of a relation, in both directions, and its nodes are listed together
with the source. -/
structure Represents (g : TrustGraph) (source : Ipv4Address)
    (r : Ipv4Address → Ipv4Address → Prop) : Prop where
  source_mem : source ∈ g.allNodes
  mem_graph : ∀ a b, b ∈ g.graph a ↔ (SimpleGraph.fromRel r).Adj a b
  mem_allNodes : ∀ a b, b ∈ g.graph a → b ∈ g.allNodes

lemma Represents.addEdge {g : TrustGraph} {r : Ipv4Address → Ipv4Address → Prop}
    (h : g.Represents source r) (a b : Ipv4Address) :
    (g.addEdge a b).Represents source fun x y => r x y ∨ x = a ∧ y = b := by
  by_cases hab : a = b
  · -- A loop is not added, and a simple graph has none.
    rw [TrustGraph.addEdge, if_pos hab]
    refine ⟨h.source_mem, fun x y => ?_, h.mem_allNodes⟩
    rw [h.mem_graph, SimpleGraph.fromRel_adj, SimpleGraph.fromRel_adj]
    refine and_congr_right fun hxy => ?_
    constructor
    · tauto
    · rintro ((hr | ⟨rfl, rfl⟩) | (hr | ⟨rfl, rfl⟩))
      · exact Or.inl hr
      · exact absurd hab hxy
      · exact Or.inr hr
      · exact absurd hab.symm hxy
  · have hmem : ∀ x y, y ∈ (g.addEdge a b).graph x ↔
        y ∈ g.graph x ∨ x = a ∧ y = b ∨ x = b ∧ y = a := by
      intro x y
      rw [TrustGraph.addEdge, if_neg hab]
      by_cases hxa : x = a
      · subst hxa
        simp only [if_pos, Ipv4Address.comparesKeys.mem_setInsert]
        tauto
      · by_cases hxb : x = b
        · subst hxb
          simp only [if_neg hxa, if_pos, Ipv4Address.comparesKeys.mem_setInsert]
          tauto
        · simp only [if_neg hxa, if_neg hxb]
          tauto
    have hnodes : ∀ y, y ∈ (g.addEdge a b).allNodes ↔ y = b ∨ y = a ∨ y ∈ g.allNodes := by
      intro y
      rw [TrustGraph.addEdge, if_neg hab, Ipv4Address.comparesKeys.mem_setInsert,
        Ipv4Address.comparesKeys.mem_setInsert]
    refine ⟨(hnodes source).mpr (Or.inr (Or.inr h.source_mem)), ?_, ?_⟩
    · intro x y
      rw [hmem, h.mem_graph, SimpleGraph.fromRel_adj, SimpleGraph.fromRel_adj]
      constructor
      · rintro (⟨hxy, hr⟩ | ⟨rfl, rfl⟩ | ⟨rfl, rfl⟩)
        · tauto
        · exact ⟨hab, Or.inl (Or.inr ⟨rfl, rfl⟩)⟩
        · exact ⟨Ne.symm hab, Or.inr (Or.inr ⟨rfl, rfl⟩)⟩
      · tauto
    · intro x y hy
      rw [hnodes]
      rcases (hmem x y).mp hy with hy | ⟨-, rfl⟩ | ⟨-, rfl⟩
      · exact Or.inr (Or.inr (h.mem_allNodes x y hy))
      · exact Or.inl rfl
      · exact Or.inr (Or.inl rfl)

lemma Represents.congr {g : TrustGraph} {r r' : Ipv4Address → Ipv4Address → Prop}
    (h : g.Represents source r) (hr : ∀ a b, r a b ↔ r' a b) : g.Represents source r' := by
  obtain rfl : r = r' := by
    ext a b
    exact hr a b
  exact h

/-- The rule for the loops over the repositories. -/
lemma Represents.foldl {α : Type} {add : TrustGraph → α → TrustGraph}
    {p : α → Ipv4Address → Ipv4Address → Prop}
    (hadd : ∀ g : TrustGraph, ∀ r, g.Represents source r → ∀ x,
      (add g x).Represents source fun a b => r a b ∨ p x a b)
    (l : List α) {g : TrustGraph} {r : Ipv4Address → Ipv4Address → Prop} (h : g.Represents source r) :
    (l.foldl add g).Represents source fun a b => r a b ∨ ∃ x ∈ l, p x a b := by
  induction l generalizing g r with
  | nil => exact h.congr (by simp)
  | cons x l ih =>
    refine (ih (hadd g r h x)).congr fun a b => ?_
    simp only [List.exists_mem_cons_iff, or_assoc]

lemma Represents.addNeighbor {g : TrustGraph} {r : Ipv4Address → Ipv4Address → Prop}
    (h : g.Represents source r) (mainAddress : Ipv4Address) (nb : NeighborTuple) :
    (g.addNeighbor mainAddress nb).Represents source fun a b =>
      r a b ∨ nb.status = Status.sym ∧ a = mainAddress ∧ b = nb.neighborMainAddr := by
  rw [TrustGraph.addNeighbor]
  split
  · next hsym => exact (h.addEdge _ _).congr (by simp [hsym])
  · next hsym => exact h.congr (by simp [hsym])

lemma Represents.addTwoHop {g : TrustGraph} {r : Ipv4Address → Ipv4Address → Prop}
    (h : g.Represents source r) (nb2 : TwoHopNeighborTuple) :
    (g.addTwoHop nb2).Represents source fun a b =>
      r a b ∨ a = nb2.neighborMainAddr ∧ b = nb2.twoHopNeighborAddr :=
  h.addEdge _ _

lemma Represents.addTopology {g : TrustGraph} {r : Ipv4Address → Ipv4Address → Prop}
    (h : g.Represents source r) (mainAddress : Ipv4Address) (topo : TopologyTuple) :
    (g.addTopology mainAddress topo).Represents source fun a b =>
      r a b ∨ (topo.lastAddr ≠ mainAddress ∧ topo.destAddr ≠ mainAddress) ∧
        a = topo.lastAddr ∧ b = topo.destAddr := by
  rw [TrustGraph.addTopology]
  split
  · next hmain =>
    refine h.congr fun a b => ?_
    tauto
  · next hmain => exact (h.addEdge _ _).congr (by tauto)

end TrustGraph

section Graph

variable (s : OlsrState) (mainAddress : Ipv4Address)

lemma OlsrState.trustGraph_represents :
    (s.trustGraph mainAddress).Represents mainAddress (s.Related mainAddress) := by
  have hempty : TrustGraph.Represents
      { allNodes := Lib.setInsert Ipv4Address.lt mainAddress [] } mainAddress fun _ _ => False :=
    ⟨by simp [Lib.setInsert], fun a b => by simp, fun a b hb => absurd hb (by simp)⟩
  have hneighbors :=
    hempty.foldl (fun g r h nb => h.addNeighbor mainAddress nb) s.neighborSet
  have htwoHops := hneighbors.foldl (fun g r h nb2 => h.addTwoHop nb2) s.twoHopNeighborSet
  have htopology :=
    htwoHops.foldl (fun g r h topo => h.addTopology mainAddress topo) s.topologySet
  -- The three repositories one by one: the equalities stand in another order.
  refine htopology.congr fun a b => ?_
  simp only [OlsrState.Related, false_or, or_assoc]
  refine or_congr ?_ (or_congr ?_ ?_)
  · constructor
    · rintro ⟨nb, hnb, hsym, rfl, rfl⟩
      exact ⟨rfl, nb, hnb, hsym, rfl⟩
    · rintro ⟨rfl, nb, hnb, hsym, rfl⟩
      exact ⟨nb, hnb, hsym, rfl, rfl⟩
  · exact exists_congr fun nb2 => and_congr_right fun _ => and_congr eq_comm eq_comm
  · refine exists_congr fun topo => and_congr_right fun _ => ?_
    rw [and_assoc]
    exact and_congr_right fun _ => and_congr_right fun _ => and_congr eq_comm eq_comm

end Graph

/-! ### The search -/

lemma PathState.comparesKeys : Lib.ComparesKeys PathState.lt fun e : PathState =>
    toLex (OrderDual.toDual e.trust, toLex (e.hops, e.addr.toNat)) where
  lt_iff a b := by
    simp only [PathState.lt, Prod.Lex.toLex_lt_toLex, OrderDual.toDual_lt_toDual,
      EmbeddingLike.apply_eq_iff_eq]
    split
    · next htrust => simp [htrust]
    · next htrust =>
      rw [not_not] at htrust
      split
      · next hhops => simp [htrust, hhops]
      · next hhops =>
        rw [not_not] at hhops
        simp [htrust, hhops, Ipv4Address.comparesKeys.lt_iff]
  injective a b h := by
    simp only [EmbeddingLike.apply_eq_iff_eq, Prod.mk.injEq] at h
    obtain ⟨htrust, hhops, haddr⟩ := h
    cases a
    cases b
    simp only [PathState.mk.injEq]
    exact ⟨htrust, hhops, UInt32.toNat_inj.mp haddr⟩

/-- A label of the search: more trust is better, and then fewer hops. -/
abbrev TrustLabel : Type := ℚᵒᵈ ×ₗ ℕ

def trustLabel (trust : ℚ) (hops : ℕ) : TrustLabel := toLex (OrderDual.toDual trust, hops)

/-- The trust of a label, smaller when better. -/
def labelTrust (l : TrustLabel) : ℚᵒᵈ := (ofLex l).1

lemma labelTrust_monotone : Monotone labelTrust := Prod.Lex.monotone_fst_ofLex

lemma trustLabel_lt_iff {trust trust' : ℚ} {hops hops' : ℕ} :
    trustLabel trust hops < trustLabel trust' hops' ↔
      trust > trust' ∨ trust = trust' ∧ hops < hops' := by
  simp [trustLabel, Prod.Lex.toLex_lt_toLex]

lemma trustLabel_inj {trust trust' : ℚ} {hops hops' : ℕ} :
    trustLabel trust hops = trustLabel trust' hops' ↔ trust = trust' ∧ hops = hops' := by
  simp [trustLabel]

namespace TrustSearch

variable (x : TrustSearch)

/-- The label of a node, which has none as long as its trust is negative. -/
def label (v : Ipv4Address) : WithTop TrustLabel :=
  if x.maxTrust v = -1 then ⊤ else trustLabel (x.maxTrust v) (x.hops v)

/-- The nodes with an entry in the queue. -/
def waiting : Set Ipv4Address := {v | ∃ e ∈ x.q, e.addr = v}

/-- What the label-setting search sees of the variables. -/
def labels : Lib.Labels Ipv4Address TrustLabel where
  label := x.label
  parent := x.parent
  waiting := x.waiting

/-- The queue holds the current labels of its nodes, in order. -/
structure Queued : Prop where
  ordered : Lib.Ordered PathState.lt x.q
  current : ∀ e ∈ x.q, e = ⟨x.maxTrust e.addr, x.hops e.addr, e.addr⟩ ∧ x.maxTrust e.addr ≠ -1

variable {x}

lemma label_eq {v : Ipv4Address} (h : x.maxTrust v ≠ -1) :
    x.label v = trustLabel (x.maxTrust v) (x.hops v) := if_neg h

lemma label_eq_top {v : Ipv4Address} : x.label v = ⊤ ↔ x.maxTrust v = -1 := by
  rw [label]
  split
  · next h => simp [h]
  · next h => simp [h]

lemma update_iff {pathTrust : ℚ} {pathHops : ℕ} {v : Ipv4Address} (hpath : 0 ≤ pathTrust) :
    x.update pathTrust pathHops v = true ↔ trustLabel pathTrust pathHops < x.label v := by
  rw [update, label]
  split
  · next h =>
    have hlt : x.maxTrust v < pathTrust := by rw [h]; linarith
    simp [hlt]
  · rw [WithTop.coe_lt_coe, trustLabel_lt_iff]
    simp

/-- The eager removal takes exactly the label of `v` out of the queue. -/
lemma Queued.mem_dequeued (h : x.Queued) {v : Ipv4Address} {e : PathState} :
    e ∈ x.dequeued v ↔ e ∈ x.q ∧ e.addr ≠ v := by
  have hsame : ∀ e ∈ x.q, e.addr = v → e = ⟨x.maxTrust v, x.hops v, v⟩ := by
    rintro e he rfl
    exact (h.current e he).1
  rw [dequeued]
  split
  · rw [(PathState.comparesKeys.nodup h.ordered).mem_erase_iff, and_comm]
    refine and_congr_right fun he => not_congr ?_
    constructor
    · rintro rfl
      rfl
    · exact hsame e he
  · next hv =>
    rw [not_not] at hv
    refine ⟨fun he => ⟨he, ?_⟩, fun he => he.1⟩
    rintro rfl
    exact (h.current e he).2 hv

section Relax

variable {u v w : Ipv4Address} {pathTrust : ℚ} {pathHops : ℕ} {l : List Ipv4Address}

lemma relax_of_not_update (h : ¬ x.update pathTrust pathHops v = true) :
    x.relax u pathTrust pathHops v = x := by
  rw [relax, if_neg h]

/-- What the relaxation of one edge leaves of the node at its end. -/
lemma relax_self (u : Ipv4Address) (h : x.update pathTrust pathHops v = true) :
    (x.relax u pathTrust pathHops v).maxTrust v = pathTrust ∧
    (x.relax u pathTrust pathHops v).hops v = pathHops ∧
    (x.relax u pathTrust pathHops v).parent v = some u ∧
    v ∈ (x.relax u pathTrust pathHops v).waiting := by
  rw [relax, if_pos h]
  refine ⟨if_pos rfl, if_pos rfl, if_pos rfl, ⟨pathTrust, pathHops, v⟩, ?_, rfl⟩
  exact PathState.comparesKeys.mem_setInsert.mpr (Or.inl rfl)

/-- What it leaves of another node. -/
lemma Queued.relax_of_ne (hx : x.Queued) (u : Ipv4Address) (pathTrust : ℚ) (pathHops : ℕ)
    (hwv : w ≠ v) :
    (x.relax u pathTrust pathHops v).maxTrust w = x.maxTrust w ∧
    (x.relax u pathTrust pathHops v).hops w = x.hops w ∧
    (x.relax u pathTrust pathHops v).parent w = x.parent w ∧
    (w ∈ (x.relax u pathTrust pathHops v).waiting ↔ w ∈ x.waiting) := by
  by_cases h : x.update pathTrust pathHops v = true
  · rw [relax, if_pos h]
    refine ⟨if_neg hwv, if_neg hwv, if_neg hwv, ?_⟩
    constructor
    · rintro ⟨e, he, rfl⟩
      rcases PathState.comparesKeys.mem_setInsert.mp he with rfl | he
      · exact absurd rfl hwv
      · exact ⟨e, (hx.mem_dequeued.mp he).1, rfl⟩
    · rintro ⟨e, he, rfl⟩
      refine ⟨e, PathState.comparesKeys.mem_setInsert.mpr (Or.inr ?_), rfl⟩
      exact hx.mem_dequeued.mpr ⟨he, hwv⟩
  · rw [relax_of_not_update h]
    exact ⟨rfl, rfl, rfl, Iff.rfl⟩

lemma Queued.relax (hx : x.Queued) (u : Ipv4Address) (pathHops : ℕ) (v : Ipv4Address)
    (hpath : 0 ≤ pathTrust) :
    (x.relax u pathTrust pathHops v).Queued := by
  by_cases h : x.update pathTrust pathHops v = true
  · have hself := relax_self u h
    refine ⟨?_, fun e he => ?_⟩
    · rw [TrustSearch.relax, if_pos h]
      refine PathState.comparesKeys.ordered_setInsert ?_
      rw [dequeued]
      split
      · exact hx.ordered.erase
      · exact hx.ordered
    · have hmem : e = ⟨pathTrust, pathHops, v⟩ ∨ e ∈ x.dequeued v := by
        rw [TrustSearch.relax, if_pos h] at he
        exact PathState.comparesKeys.mem_setInsert.mp he
      rcases hmem with rfl | hmem
      · rw [hself.1, hself.2.1]
        refine ⟨rfl, fun hneg => ?_⟩
        linarith
      · obtain ⟨he, hev⟩ := hx.mem_dequeued.mp hmem
        obtain ⟨htrust, hhops, -⟩ := hx.relax_of_ne u pathTrust pathHops hev
        rw [htrust, hhops]
        exact hx.current e he
  · rw [relax_of_not_update h]
    exact hx

/-- What the relaxation of the edges to a list of nodes does. -/
structure Relaxed (u : Ipv4Address) (pathTrust : ℚ) (pathHops : ℕ) (l : List Ipv4Address)
    (x x' : TrustSearch) : Prop where
  queued : x'.Queued
  improved : ∀ v ∈ l, x.update pathTrust pathHops v = true →
    x'.maxTrust v = pathTrust ∧ x'.hops v = pathHops ∧ x'.parent v = some u ∧ v ∈ x'.waiting
  kept : ∀ v, ¬ (v ∈ l ∧ x.update pathTrust pathHops v = true) →
    x'.maxTrust v = x.maxTrust v ∧ x'.hops v = x.hops v ∧ x'.parent v = x.parent v ∧
      (v ∈ x'.waiting ↔ v ∈ x.waiting)

lemma Queued.relaxed (hx : x.Queued) (u : Ipv4Address) (pathHops : ℕ) (l : List Ipv4Address)
    (hpath : 0 ≤ pathTrust) :
    Relaxed u pathTrust pathHops l x (l.foldl (TrustSearch.relax u pathTrust pathHops) x) := by
  induction l generalizing x with
  | nil => exact ⟨hx, by simp, by simp⟩
  | cons w l ih =>
    have hrest := ih (hx.relax u pathHops w hpath)
    -- The node just relaxed has the label, on which it does not improve any more.
    have hsame : ∀ v, (x.relax u pathTrust pathHops w).update pathTrust pathHops v = true ↔
        v ≠ w ∧ x.update pathTrust pathHops v = true := by
      intro v
      by_cases hv : v = w
      · subst hv
        by_cases h : x.update pathTrust pathHops v = true
        · obtain ⟨htrust, hhops, -, -⟩ := relax_self u h
          simp [update, htrust, hhops]
        · simp [relax_of_not_update h, h]
      · obtain ⟨htrust, hhops, -, -⟩ := hx.relax_of_ne u pathTrust pathHops hv
        simp [update, htrust, hhops, hv]
    refine ⟨hrest.queued, fun v hv h => ?_, fun v hv => ?_⟩
    · by_cases hvw : v = w
      · subst hvw
        obtain ⟨htrust, hhops, hparent, hwait⟩ := relax_self u h
        obtain ⟨htrust', hhops', hparent', hwait'⟩ := hrest.kept v fun hv => by
          exact absurd rfl ((hsame v).mp hv.2).1
        rw [List.foldl_cons]
        exact ⟨htrust'.trans htrust, hhops'.trans hhops, hparent'.trans hparent,
          hwait'.mpr hwait⟩
      · have hvl : v ∈ l := (List.mem_cons.mp hv).resolve_left hvw
        exact hrest.improved v hvl ((hsame v).mpr ⟨hvw, h⟩)
    · have hnot : ¬ (v ∈ l ∧
          (x.relax u pathTrust pathHops w).update pathTrust pathHops v = true) := by
        rintro ⟨hvl, h⟩
        exact hv ⟨List.mem_cons_of_mem w hvl, ((hsame v).mp h).2⟩
      obtain ⟨htrust', hhops', hparent', hwait'⟩ := hrest.kept v hnot
      rw [List.foldl_cons, htrust', hhops', hparent', hwait']
      by_cases hvw : v = w
      · subst hvw
        rw [relax_of_not_update fun h => hv ⟨List.mem_cons_self, h⟩]
        exact ⟨rfl, rfl, rfl, Iff.rfl⟩
      · exact hx.relax_of_ne u pathTrust pathHops hvw

end Relax

end TrustSearch

/-! ### The search as a label-setting search -/

section Rounds

variable (s : OlsrState) (mainAddress : Ipv4Address) (getNodeTrust : Option (Ipv4Address → ℚ))

/-- What the nodes offer: the trust of the way through a node is limited by that of the node. -/
def OlsrState.trustOffers :
    Lib.Search (s.relationships mainAddress) mainAddress TrustLabel where
  start := trustLabel 1 0
  extend u l :=
    trustLabel (min (OrderDual.ofDual (ofLex l).1) (TrustSearch.nodeTrust mainAddress getNodeTrust u))
      ((ofLex l).2 + 1)

lemma OlsrState.trustOffers_grows : (s.trustOffers mainAddress getNodeTrust).Grows := by
  intro u l
  rw [show l = trustLabel (OrderDual.ofDual (ofLex l).1) (ofLex l).2 from rfl]
  refine trustLabel_lt_iff.mpr ?_
  rcases (min_le_left (OrderDual.ofDual (ofLex l).1)
    (TrustSearch.nodeTrust mainAddress getNodeTrust u)).lt_or_eq with hlt | heq
  · exact Or.inl hlt
  · exact Or.inr ⟨heq.symm, Nat.lt_succ_self _⟩

namespace TrustSearch

/-- What holds between the rounds. -/
structure Sound (x : TrustSearch) : Prop where
  queued : x.Queued
  nonneg : ∀ v, x.maxTrust v ≠ -1 → 0 ≤ x.maxTrust v
  listed : ∀ v, x.maxTrust v ≠ -1 → v ∈ (s.trustGraph mainAddress).allNodes
  inv : (s.trustOffers mainAddress getNodeTrust).Inv x.labels

variable {s mainAddress getNodeTrust} {x : TrustSearch} {top : PathState} {q : List PathState}

/-- Without its first entry, the queue is one of the nodes other than the first. -/
lemma Queued.tail (hx : x.Queued) (hq : x.q = top :: q) :
    Queued { x with q := q } ∧
      ∀ v, v ∈ waiting { x with q := q } ↔ v ∈ x.waiting ∧ v ≠ top.addr := by
  have hord := hx.ordered
  rw [hq] at hord
  have htop : top ∉ q := (List.nodup_cons.mp (PathState.comparesKeys.nodup hord)).1
  have hsub : ∀ e ∈ q, e ∈ x.q := fun e he => hq ▸ List.mem_cons_of_mem top he
  refine ⟨⟨hord.tail, fun e he => hx.current e (hsub e he)⟩, fun v => ⟨?_, ?_⟩⟩
  · rintro ⟨e, he, rfl⟩
    refine ⟨⟨e, hsub e he, rfl⟩, fun haddr => htop ?_⟩
    have heq : e = top := by
      rw [(hx.current e (hsub e he)).1, (hx.current top (hq ▸ List.mem_cons_self)).1, haddr]
    exact heq ▸ he
  · rintro ⟨⟨e, he, rfl⟩, hne⟩
    rw [hq] at he
    rcases List.mem_cons.mp he with rfl | he
    · exact absurd rfl hne
    · exact ⟨e, he, rfl⟩

/-- The first entry of the queue has the least label. -/
lemma Queued.label_top (hx : x.Queued) (hq : x.q = top :: q) :
    x.label top.addr = trustLabel top.trust top.hops ∧
      ∀ w ∈ x.waiting, (trustLabel top.trust top.hops : WithTop TrustLabel) ≤ x.label w := by
  have hlabel : ∀ e ∈ x.q, x.label e.addr = trustLabel e.trust e.hops := by
    intro e he
    obtain ⟨heq, hpos⟩ := hx.current e he
    rw [label_eq hpos, WithTop.coe_inj, trustLabel_inj]
    exact ⟨(congrArg PathState.trust heq).symm, (congrArg PathState.hops heq).symm⟩
  refine ⟨hlabel top (hq ▸ List.mem_cons_self), ?_⟩
  rintro w ⟨e, he, rfl⟩
  rw [hlabel e he, WithTop.coe_le_coe]
  have hord := hx.ordered
  rw [hq] at hord he
  have hle := PathState.comparesKeys.le_of_head hord he
  rw [Prod.Lex.toLex_le_toLex] at hle
  rw [trustLabel, trustLabel, Prod.Lex.toLex_le_toLex]
  refine hle.imp_right fun h => ⟨h.1, ?_⟩
  rcases Prod.Lex.toLex_le_toLex.mp h.2 with hlt | heq
  · exact hlt.le
  · exact heq.1.le

variable (htrust : ∀ u, 0 ≤ nodeTrust mainAddress getNodeTrust u)
include htrust

lemma Sound.round_relaxed (hx : Sound s mainAddress getNodeTrust x) (hq : x.q = top :: q) :
    0 ≤ min top.trust (nodeTrust mainAddress getNodeTrust top.addr) ∧
    Relaxed top.addr (min top.trust (nodeTrust mainAddress getNodeTrust top.addr)) (top.hops + 1)
      ((s.trustGraph mainAddress).graph top.addr) { x with q := q }
      (x.round (s.trustGraph mainAddress) mainAddress getNodeTrust) := by
  have hpath : 0 ≤ min top.trust (nodeTrust mainAddress getNodeTrust top.addr) := by
    obtain ⟨heq, hpos⟩ := hx.queued.current top (hq ▸ List.mem_cons_self)
    rw [heq]
    exact le_min (hx.nonneg _ hpos) (htrust _)
  refine ⟨hpath, ?_⟩
  rw [TrustSearch.round, hq]
  exact (hx.queued.tail hq).1.relaxed _ _ _ hpath

/-- A round of the search is a round of the label-setting search. -/
lemma Sound.isRound (hx : Sound s mainAddress getNodeTrust x) (hq : x.q = top :: q) :
    (s.trustOffers mainAddress getNodeTrust).Round top.addr (trustLabel top.trust top.hops) x.labels
      (x.round (s.trustGraph mainAddress) mainAddress getNodeTrust).labels := by
  obtain ⟨hpath, hrel⟩ := hx.round_relaxed htrust hq
  obtain ⟨hlabel, hleast⟩ := hx.queued.label_top hq
  have hwaits := (hx.queued.tail hq).2
  have himproves : ∀ v,
      (s.trustOffers mainAddress getNodeTrust).Improves x.labels top.addr
        (trustLabel top.trust top.hops) v ↔
      v ∈ (s.trustGraph mainAddress).graph top.addr ∧
        update { x with q := q } (min top.trust (nodeTrust mainAddress getNodeTrust top.addr))
          (top.hops + 1) v = true := by
    intro v
    rw [(s.trustGraph_represents mainAddress).mem_graph, update_iff hpath]
    rfl
  refine ⟨⟨top, hq ▸ List.mem_cons_self, rfl⟩, hlabel, hleast, fun v hv => ?_, fun v hv => ?_⟩
  · obtain ⟨hmem, hupdate⟩ := (himproves v).mp hv
    obtain ⟨ht, hh, hp, hw⟩ := hrel.improved v hmem hupdate
    refine ⟨?_, hp, hw⟩
    have hpos : (x.round (s.trustGraph mainAddress) mainAddress getNodeTrust).maxTrust v ≠ -1 := by
      rw [ht]
      intro hneg
      linarith
    exact (label_eq hpos).trans (by rw [ht, hh]; rfl)
  · rw [himproves] at hv
    obtain ⟨ht, hh, hp, hw⟩ := hrel.kept v hv
    exact ⟨by simp only [labels, label, ht, hh], hp, hw.trans (hwaits v)⟩

lemma Sound.round (hx : Sound s mainAddress getNodeTrust x) (hq : x.q = top :: q) :
    Sound s mainAddress getNodeTrust
      (x.round (s.trustGraph mainAddress) mainAddress getNodeTrust) := by
  obtain ⟨hpath, hrel⟩ := hx.round_relaxed htrust hq
  have hvalue : ∀ v, (x.round (s.trustGraph mainAddress) mainAddress getNodeTrust).maxTrust v ≠ -1 →
      v ∈ (s.trustGraph mainAddress).graph top.addr ∧
        (x.round (s.trustGraph mainAddress) mainAddress getNodeTrust).maxTrust v =
          min top.trust (nodeTrust mainAddress getNodeTrust top.addr) ∨
      x.maxTrust v ≠ -1 ∧
        (x.round (s.trustGraph mainAddress) mainAddress getNodeTrust).maxTrust v =
          x.maxTrust v := by
    intro v hv
    by_cases h : v ∈ (s.trustGraph mainAddress).graph top.addr ∧
        update { x with q := q } (min top.trust (nodeTrust mainAddress getNodeTrust top.addr))
          (top.hops + 1) v = true
    · exact Or.inl ⟨h.1, (hrel.improved v h.1 h.2).1⟩
    · have hkept : _ = x.maxTrust v := (hrel.kept v h).1
      exact Or.inr ⟨hkept ▸ hv, hkept⟩
  refine ⟨hrel.queued, fun v hv => ?_, fun v hv => ?_, ?_⟩
  · rcases hvalue v hv with ⟨-, heq⟩ | ⟨hold, heq⟩
    · rw [heq]
      exact hpath
    · rw [heq]
      exact hx.nonneg v hold
  · rcases hvalue v hv with ⟨hmem, -⟩ | ⟨hold, -⟩
    · exact (s.trustGraph_represents mainAddress).mem_allNodes _ v hmem
    · exact hx.listed v hold
  · exact (hx.isRound htrust hq).inv (s.trustOffers_grows mainAddress getNodeTrust) hx.inv

omit htrust in
lemma sound_init : Sound s mainAddress getNodeTrust (init mainAddress) := by
  have hmain : ∀ v, (init mainAddress).maxTrust v ≠ -1 → v = mainAddress := by
    intro v hv
    by_contra hne
    exact hv (if_neg hne)
  have htrust : (init mainAddress).maxTrust mainAddress = 1 := if_pos rfl
  have hhops : (init mainAddress).hops mainAddress = 0 := if_pos rfl
  have hlabel : (init mainAddress).label mainAddress = trustLabel 1 0 := by
    rw [label_eq (by rw [htrust]; norm_num), htrust, hhops]
  refine ⟨⟨by simp [init, Lib.setInsert, Lib.Ordered], fun e he => ?_⟩, fun v hv => ?_,
    fun v hv => ?_, Lib.Search.Initial.inv ⟨⟨hlabel, rfl⟩, fun v hv => ?_, fun v => ?_⟩⟩
  · obtain rfl : e = ⟨1, 0, mainAddress⟩ := by simpa [init, Lib.setInsert] using he
    rw [htrust, hhops]
    exact ⟨rfl, by norm_num⟩
  · rw [hmain v hv, htrust]
    exact zero_le_one
  · rw [hmain v hv]
    exact (s.trustGraph_represents mainAddress).source_mem
  · exact label_eq_top.mpr (if_neg hv)
  · simp [labels, waiting, init, Lib.setInsert, eq_comm]

end TrustSearch

variable (htrust : ∀ u, 0 ≤ TrustSearch.nodeTrust mainAddress getNodeTrust u)
include htrust

/-- The search ends, and then its labels solve the equations. -/
theorem OlsrState.trustSearch_solved :
    (s.trustSearch mainAddress getNodeTrust).goesOn = false ∧
      (s.trustOffers mainAddress getNodeTrust).Solved
        (s.trustSearch mainAddress getNodeTrust).labels := by
  classical
  let nodes := (s.trustGraph mainAddress).allNodes.toFinset
  have hround : ∀ x, TrustSearch.Sound s mainAddress getNodeTrust x → x.goesOn = true →
      ∃ top q, x.q = top :: q := by
    intro x _ hx
    rw [← List.ne_nil_iff_exists_cons]
    rintro hnil
    rw [TrustSearch.goesOn, hnil] at hx
    cases hx
  have hsound : TrustSearch.Sound s mainAddress getNodeTrust
      (s.trustSearch mainAddress getNodeTrust) := by
    refine Lib.whileLoop_inv _ (fun x hx hgo => ?_) _ TrustSearch.sound_init
    obtain ⟨top, q, hq⟩ := hround x hx hgo
    exact hx.round htrust hq
  have hend : (s.trustSearch mainAddress getNodeTrust).goesOn = false := by
    refine Lib.whileLoop_exit (TrustSearch.Sound s mainAddress getNodeTrust)
      (fun x => {v ∈ nodes | ¬ (v ∉ x.waiting ∧ x.label v ≠ ⊤)}.card) (fun x hx hgo => ?_)
      TrustSearch.sound_init ?_
    · obtain ⟨top, q, hq⟩ := hround x hx hgo
      refine ⟨hx.round htrust hq, ?_⟩
      refine (hx.isRound htrust hq).card_lt (s.trustOffers_grows mainAddress getNodeTrust) hx.inv ?_
      exact List.mem_toFinset.mpr (hx.listed _ (hx.queued.current top (hq ▸ List.mem_cons_self)).2)
    · exact (Finset.card_filter_le _ _).trans (List.toFinset_card_le _)
  refine ⟨hend, hsound.inv.solved fun v hv => ?_⟩
  obtain ⟨e, he, -⟩ := hv
  have hnil : (s.trustSearch mainAddress getNodeTrust).q = [] := by
    simpa [TrustSearch.goesOn] using hend
  rw [hnil] at he
  cases he

end Rounds

/-! ### The trust of a path -/

/-- The least trust of the nodes of a path between its ends. -/
def pathTrust (trust : Ipv4Address → ℚ) {G : SimpleGraph Ipv4Address} {a b : Ipv4Address}
    (p : G.Walk a b) : ℚ :=
  p.support.tail.dropLast.foldr (fun u t => min (trust u) t) 1

/-- Every prefix of the walk is a most trusted path to its end. -/
def MostTrustedPrefixes (trust : Ipv4Address → ℚ) {G : SimpleGraph Ipv4Address}
    {a b : Ipv4Address} (p : G.Walk a b) : Prop :=
  ∀ c, ∀ q : G.Walk a c, ∀ r : G.Walk c b, q.append r = p →
    ∀ q' : G.Walk a c, q'.IsPath → pathTrust trust q' ≤ pathTrust trust q

section Paths

variable {s : OlsrState} {mainAddress : Ipv4Address} {trust : Ipv4Address → ℚ}

lemma foldl_min_eq (f : Ipv4Address → ℚ) (l : List Ipv4Address) {t : ℚ} (ht : t ≤ 1) :
    l.foldl (fun t u => min t (f u)) t = min t (l.foldr (fun u t => min (f u) t) 1) := by
  induction l generalizing t with
  | nil => exact (min_eq_left ht).symm
  | cons u l ih =>
    rw [List.foldl_cons, List.foldr_cons, ih ((min_le_left _ _).trans ht), min_assoc]

/-- More trust in the label of a node means no less trust in what it offers. -/
lemma labelTrust_extend_le (mainAddress : Ipv4Address) (getNodeTrust : Option (Ipv4Address → ℚ))
    (u : Ipv4Address) (l l' : TrustLabel) (h : labelTrust l ≤ labelTrust l') :
    labelTrust ((s.trustOffers mainAddress getNodeTrust).extend u l) ≤
      labelTrust ((s.trustOffers mainAddress getNodeTrust).extend u l') :=
  OrderDual.toDual_le_toDual.mpr (min_le_min_right _ (OrderDual.ofDual_le_ofDual.mpr h))

/-- The label that the offers along a walk end in. -/
lemma along_eq_trustLabel (getNodeTrust : Option (Ipv4Address → ℚ)) {a b : Ipv4Address}
    (p : (s.relationships mainAddress).Walk a b) (t : ℚ) (h : ℕ) :
    (s.trustOffers mainAddress getNodeTrust).along p (trustLabel t h) =
      trustLabel (p.support.dropLast.foldl
        (fun t u => min t (TrustSearch.nodeTrust mainAddress getNodeTrust u)) t) (h + p.length) := by
  induction p generalizing t h with
  | nil => rfl
  | @cons a c b hadj p ih =>
    have hne : p.support ≠ [] := p.support_ne_nil
    rw [SimpleGraph.Walk.support_cons, List.dropLast_cons_of_ne_nil hne, List.foldl_cons,
      SimpleGraph.Walk.length_cons, Nat.add_comm p.length, ← Nat.add_assoc]
    exact ih _ _

/-- Along a path, only the nodes between its ends count. -/
lemma along_path {b : Ipv4Address} {p : (s.relationships mainAddress).Walk mainAddress b}
    (hp : p.IsPath) :
    (s.trustOffers mainAddress (some trust)).along p (trustLabel 1 0) =
      trustLabel (pathTrust trust p) p.length := by
  rw [along_eq_trustLabel, trustLabel_inj, pathTrust]
  refine ⟨?_, Nat.zero_add _⟩
  cases p with
  | nil => rfl
  | @cons _ c _ hadj p =>
    have hne : p.support ≠ [] := p.support_ne_nil
    have hfresh : ∀ u ∈ p.support.dropLast, u ≠ mainAddress := by
      rintro u hu rfl
      exact ((SimpleGraph.Walk.cons_isPath_iff hadj p).mp hp).2 (List.dropLast_subset _ hu)
    rw [SimpleGraph.Walk.support_cons, List.dropLast_cons_of_ne_nil hne, List.foldl_cons,
      List.tail_cons]
    have hsource : TrustSearch.nodeTrust mainAddress (some trust) mainAddress = 1 := if_pos rfl
    rw [hsource, min_self, foldl_min_eq _ _ le_rfl]
    have hsame : p.support.dropLast.foldr
          (fun u t => min (TrustSearch.nodeTrust mainAddress (some trust) u) t) 1 =
        p.support.dropLast.foldr (fun u t => min (trust u) t) 1 := by
      refine List.foldr_ext _ _ _ fun u hu t => ?_
      rw [show TrustSearch.nodeTrust mainAddress (some trust) u = trust u from if_neg (hfresh u hu)]
    rw [hsame]
    refine min_eq_right ?_
    induction p.support.dropLast with
    | nil => exact le_rfl
    | cons u l ih => exact (min_le_right _ _).trans ih

variable (htrust : ∀ a, 0 ≤ trust a ∧ trust a ≤ 1)
include htrust

lemma nodeTrust_nonneg (u : Ipv4Address) :
    0 ≤ TrustSearch.nodeTrust mainAddress (some trust) u := by
  rw [TrustSearch.nodeTrust]
  split
  · exact zero_le_one
  · exact (htrust u).1

/-- The parents give a path with the trust and the hops of the label. -/
lemma exists_parentPath {dest : Ipv4Address}
    (hdest : (s.trustSearch mainAddress (some trust)).maxTrust dest ≠ -1) :
    ∃ p : (s.relationships mainAddress).Walk mainAddress dest, p.IsPath ∧
      Lib.Search.FollowsParents (s.trustSearch mainAddress (some trust)).parent p ∧
      p.length = (s.trustSearch mainAddress (some trust)).hops dest ∧
      pathTrust trust p = (s.trustSearch mainAddress (some trust)).maxTrust dest := by
  have hsolved := (s.trustSearch_solved mainAddress (some trust) (nodeTrust_nonneg htrust)).2
  have : Finite Ipv4Address := Finite.of_injective UInt32.toFin fun _ _ => UInt32.toFin_inj.mp
  obtain ⟨p, hpath, hfollows, halong, -⟩ := hsolved.exists_path
    (s.trustOffers_grows mainAddress (some trust)) (TrustSearch.label_eq hdest)
  rw [show (s.trustOffers mainAddress (some trust)).start = trustLabel 1 0 from rfl,
    along_path hpath, trustLabel_inj] at halong
  exact ⟨p, hpath, hfollows, halong.2, halong.1⟩

/-- No path is trusted more than the label of its end. -/
lemma pathTrust_le {dest : Ipv4Address}
    {p : (s.relationships mainAddress).Walk mainAddress dest} (hp : p.IsPath) :
    pathTrust trust p ≤ (s.trustSearch mainAddress (some trust)).maxTrust dest := by
  have hsolved := (s.trustSearch_solved mainAddress (some trust) (nodeTrust_nonneg htrust)).2
  obtain ⟨k, hk, hle⟩ := hsolved.proj_le labelTrust_monotone
    (labelTrust_extend_le mainAddress (some trust)) p
    (l := trustLabel 1 0) ⟨trustLabel 1 0, hsolved.atSource.1, le_rfl⟩
  rw [along_path hp] at hle
  have hdest : (s.trustSearch mainAddress (some trust)).maxTrust dest ≠ -1 := fun htop =>
    absurd (hk.symm.trans (TrustSearch.label_eq_top.mpr htop)) WithTop.coe_ne_top
  obtain rfl := WithTop.coe_injective (hk.symm.trans (TrustSearch.label_eq hdest))
  exact hle

variable (s mainAddress) in
/-- **Path trust optimality.**  The loop ends, in the same state for any number of rounds that is
enough.  The parents of every node it has reached lead back to the source along a path with the hops
and the trust of its label, and no path to the node has more trust. -/
theorem OlsrState.trustSearch_optimal :
    (∀ rounds, (s.trustGraph mainAddress).allNodes.length ≤ rounds →
      (s.trustRounds mainAddress (some trust) rounds).goesOn = false ∧
      s.trustRounds mainAddress (some trust) rounds = s.trustSearch mainAddress (some trust)) ∧
    ∀ dest, (s.trustSearch mainAddress (some trust)).maxTrust dest ≠ -1 →
      (∃ p : (s.relationships mainAddress).Walk mainAddress dest, p.IsPath ∧
        Lib.Search.FollowsParents (s.trustSearch mainAddress (some trust)).parent p ∧
        p.length = (s.trustSearch mainAddress (some trust)).hops dest ∧
        pathTrust trust p = (s.trustSearch mainAddress (some trust)).maxTrust dest) ∧
      ∀ p : (s.relationships mainAddress).Walk mainAddress dest, p.IsPath →
        pathTrust trust p ≤ (s.trustSearch mainAddress (some trust)).maxTrust dest := by
  refine ⟨fun rounds hrounds => ?_, fun dest hdest => ⟨exists_parentPath htrust hdest,
    fun p hp => pathTrust_le htrust hp⟩⟩
  have hend := (s.trustSearch_solved mainAddress (some trust) (nodeTrust_nonneg htrust)).1
  obtain ⟨extra, rfl⟩ := Nat.exists_eq_add_of_le hrounds
  have hsame : s.trustRounds mainAddress (some trust) _ = _ := Lib.whileLoop_stable hend extra
  rw [hsame]
  exact ⟨hend, rfl⟩

/-- The search reaches the nodes that are connected to the source. -/
theorem OlsrState.trustSearch_reaches_iff (dest : Ipv4Address) :
    (s.trustSearch mainAddress (some trust)).maxTrust dest ≠ -1 ↔
      (s.relationships mainAddress).Reachable mainAddress dest := by
  classical
  constructor
  · intro hdest
    obtain ⟨p, -⟩ := exists_parentPath htrust hdest
    exact ⟨p⟩
  · rintro ⟨p⟩ htop
    have hle := pathTrust_le htrust p.toPath.2
    have hnonneg : ∀ l : List Ipv4Address, 0 ≤ l.foldr (fun u t => min (trust u) t) 1 := by
      intro l
      induction l with
      | nil => exact zero_le_one
      | cons u l ih => exact le_min (htrust u).1 ih
    have hpos : 0 ≤ pathTrust trust p.toPath.1 := hnonneg _
    linarith

lemma reached_of_path {dest : Ipv4Address}
    (p : (s.relationships mainAddress).Walk mainAddress dest) :
    (s.trustSearch mainAddress (some trust)).maxTrust dest ≠ -1 :=
  (OlsrState.trustSearch_reaches_iff htrust dest).mpr ⟨p⟩

/-- A path along the parents has the trust of the label of its end. -/
lemma pathTrust_eq_of_followsParents {dest : Ipv4Address}
    {p : (s.relationships mainAddress).Walk mainAddress dest} (hp : p.IsPath)
    (hfollows : Lib.Search.FollowsParents (s.trustSearch mainAddress (some trust)).parent p) :
    pathTrust trust p = (s.trustSearch mainAddress (some trust)).maxTrust dest := by
  have hsolved := (s.trustSearch_solved mainAddress (some trust) (nodeTrust_nonneg htrust)).2
  have hlabel := hsolved.along_eq p hfollows (l := trustLabel 1 0) hsolved.atSource.1
  rw [along_path hp] at hlabel
  have heq := hlabel.symm.trans (TrustSearch.label_eq (reached_of_path htrust p))
  exact (trustLabel_inj.mp (WithTop.coe_injective heq)).1

/-- A most trusted path has the trust of the label of its end. -/
lemma pathTrust_eq_of_mostTrusted {dest : Ipv4Address}
    {p : (s.relationships mainAddress).Walk mainAddress dest} (hp : p.IsPath)
    (hmost : ∀ q : (s.relationships mainAddress).Walk mainAddress dest, q.IsPath →
      pathTrust trust q ≤ pathTrust trust p) :
    pathTrust trust p = (s.trustSearch mainAddress (some trust)).maxTrust dest := by
  refine le_antisymm (pathTrust_le htrust hp) ?_
  obtain ⟨q, hq, -, -, heq⟩ := exists_parentPath htrust (reached_of_path htrust p)
  rw [← heq]
  exact hmost q hq

omit htrust in
/-- Among labels of the same trust, fewer hops of a node mean fewer hops in what it offers. -/
lemma extend_le_of_labelTrust_eq (u : Ipv4Address) (l l' : TrustLabel)
    (h : labelTrust l = labelTrust l') (hle : l ≤ l') :
    (s.trustOffers mainAddress (some trust)).extend u l ≤
      (s.trustOffers mainAddress (some trust)).extend u l' := by
  have hhops : (ofLex l).2 ≤ (ofLex l').2 := by
    rcases Prod.Lex.le_iff.mp hle with hlt | ⟨-, hle⟩
    · exact absurd hlt (not_lt.mpr h.ge)
    · exact hle
  refine Prod.Lex.le_iff.mpr (Or.inr ⟨?_, Nat.succ_le_succ hhops⟩)
  exact congrArg (fun t => OrderDual.toDual (min (OrderDual.ofDual t) _)) h

/-- **Hop optimality.**  The hops of a label are the least among the paths all of whose prefixes
are most trusted. -/
theorem OlsrState.trustSearch_hops_isLeast {dest : Ipv4Address}
    (hdest : (s.trustSearch mainAddress (some trust)).maxTrust dest ≠ -1) :
    IsLeast {k | ∃ p : (s.relationships mainAddress).Walk mainAddress dest, p.IsPath ∧
        MostTrustedPrefixes trust p ∧ p.length = k}
      ((s.trustSearch mainAddress (some trust)).hops dest) := by
  constructor
  · obtain ⟨p, hp, hfollows, hlength, -⟩ := exists_parentPath htrust hdest
    refine ⟨p, hp, ?_, hlength⟩
    rintro c q r rfl q' hq'
    have hq : Lib.Search.FollowsParents (s.trustSearch mainAddress (some trust)).parent q := by
      intro d hd
      exact hfollows d (by rw [SimpleGraph.Walk.darts_append]; exact List.mem_append_left _ hd)
    rw [pathTrust_eq_of_followsParents htrust hp.of_append_left hq]
    exact pathTrust_le htrust hq'
  · rintro k ⟨p, hp, hmost, rfl⟩
    have hsolved := (s.trustSearch_solved mainAddress (some trust) (nodeTrust_nonneg htrust)).2
    have hle := hsolved.le_of_optimal extend_le_of_labelTrust_eq p (l := trustLabel 1 0)
      hsolved.atSource.1.le ?_
    · rw [along_path hp] at hle
      have htrusted := pathTrust_eq_of_mostTrusted htrust hp (hmost dest p .nil (p.append_nil))
      rw [htrusted] at hle
      have hlabel : trustLabel _ _ ≤ trustLabel _ _ :=
        WithTop.coe_le_coe.mp ((TrustSearch.label_eq hdest).symm.trans_le hle)
      rcases Prod.Lex.le_iff.mp hlabel with hlt | ⟨-, hhops⟩
      · exact absurd hlt (lt_irrefl _)
      · exact hhops
    · rintro c q r rfl
      have hq : q.IsPath := hp.of_append_left
      refine ⟨_, TrustSearch.label_eq (reached_of_path htrust q), ?_⟩
      rw [along_path hq, pathTrust_eq_of_mostTrusted htrust hq (hmost c q r rfl)]
      rfl

end Paths

/-! ### A detour -/

/-- Node `1` reaches node `5` through `2` and `4`, and through `3`, and node `6` through `5`. -/
def detour : OlsrState where
  neighborSet := [⟨2, Status.sym, Willingness.default⟩, ⟨3, Status.sym, Willingness.default⟩]
  twoHopNeighborSet := [⟨2, 4, 0⟩, ⟨3, 5, 0⟩]
  topologySet := [⟨5, 4, 1, 0⟩, ⟨6, 5, 1, 0⟩]

/-- The way through `2` and `4` is trusted more than the way through `3`, and node `5` less than
either. -/
def detourTrust (a : Ipv4Address) : ℚ :=
  if a = 2 ∨ a = 4 then 9 / 10 else if a = 3 then 1 / 2 else if a = 5 then 3 / 10 else 1

lemma detourTrust_mem (a : Ipv4Address) : 0 ≤ detourTrust a ∧ detourTrust a ≤ 1 := by
  rw [detourTrust]
  split_ifs <;> norm_num

lemma detour_label : (detour.trustSearch 1 (some detourTrust)).maxTrust 6 = 3 / 10 ∧
    (detour.trustSearch 1 (some detourTrust)).hops 6 = 4 := by
  decide +kernel

/-- The optimality of the search, on the detour. -/
theorem detour_trustSearch_optimal :
    ∃ p : (detour.relationships 1).Walk 1 6, p.IsPath ∧ p.length = 4 ∧
      pathTrust detourTrust p = 3 / 10 ∧
      ∀ q : (detour.relationships 1).Walk 1 6, q.IsPath → pathTrust detourTrust q ≤ 3 / 10 := by
  have hreached : (detour.trustSearch 1 (some detourTrust)).maxTrust 6 ≠ -1 := by
    rw [detour_label.1]
    norm_num
  obtain ⟨⟨p, hp, -, hlength, heq⟩, hle⟩ :=
    (OlsrState.trustSearch_optimal detour 1 detourTrust_mem).2 6 hreached
  rw [detour_label.2] at hlength
  rw [detour_label.1] at heq hle
  exact ⟨p, hp, hlength, heq, hle⟩

/-- The direct way, over node `3`. -/
def direct : (detour.relationships 1).Walk 1 6 :=
  .cons (v := 3) (by simp [OlsrState.relationships, OlsrState.Related, detour])
    (.cons (v := 5) (by simp [OlsrState.relationships, OlsrState.Related, detour])
      (.cons (by simp [OlsrState.relationships, OlsrState.Related, detour]) .nil))

lemma direct_isPath : direct.IsPath := by
  rw [SimpleGraph.Walk.isPath_def]
  decide

lemma direct_trust : pathTrust detourTrust direct = 3 / 10 := by decide +kernel

/-- **A shorter most trusted path.**  The search keeps the four hops of the detour, and the direct
way has three. -/
theorem detour_hops_not_least :
    (detour.trustSearch 1 (some detourTrust)).maxTrust 6 ≠ -1 ∧
    ¬ IsLeast {k | ∃ p : (detour.relationships 1).Walk 1 6, p.IsPath ∧
        (∀ q : (detour.relationships 1).Walk 1 6, q.IsPath →
          pathTrust detourTrust q ≤ pathTrust detourTrust p) ∧ p.length = k}
      ((detour.trustSearch 1 (some detourTrust)).hops 6) := by
  refine ⟨reached_of_path detourTrust_mem direct, fun hleast => ?_⟩
  have hmost : ∀ q : (detour.relationships 1).Walk 1 6, q.IsPath →
      pathTrust detourTrust q ≤ pathTrust detourTrust direct := by
    intro q hq
    rw [direct_trust, ← detour_label.1]
    exact pathTrust_le detourTrust_mem hq
  have hle := hleast.2 ⟨direct, direct_isPath, hmost, rfl⟩
  rw [detour_label.2] at hle
  exact absurd hle (by decide)

/-- The optimality of the hops, on the detour. -/
theorem detour_trustSearch_hops_isLeast :
    IsLeast {k | ∃ p : (detour.relationships 1).Walk 1 6, p.IsPath ∧
      MostTrustedPrefixes detourTrust p ∧ p.length = k} 4 := by
  rw [← detour_label.2]
  exact OlsrState.trustSearch_hops_isLeast detourTrust_mem (reached_of_path detourTrust_mem direct)

end ManetOlsr
