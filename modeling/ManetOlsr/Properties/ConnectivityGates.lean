/-
The gates of the evaluation harness in a converged network.

When the tables are those of shortest paths, the harness sees the graph in them: its walk along the
routes takes a shortest path (`walkOlsrPath_shortest`), the gate of connectivity lets a run pass just
if the nodes are connected, and the gate of the flows just if each flow has a path (`gates_spec`).
-/
import ManetOlsr.Model.ConnectivityGates
import ManetOlsr.Properties.ShortestRoutes
import Mathlib.Combinatorics.SimpleGraph.Paths

namespace ManetOlsr

variable {G : SimpleGraph Ipv4Address}

/-! ### Tables as lists -/

namespace Table

variable {tbl : Table}

lemma mem_getRoutingTableEntries {e : RoutingTableEntry} :
    e ∈ tbl.getRoutingTableEntries ↔ ∃ a, tbl a = some e := by
  rw [getRoutingTableEntries, List.mem_filterMap]
  constructor
  · rintro ⟨a, -, ha⟩
    exact ⟨a, ha⟩
  · rintro ⟨a, ha⟩
    exact ⟨a, mem_allAddresses a, ha⟩

/-- The entries are listed, so that a search by destination is a search in the table. -/
def Lists (tbl : Table) (entries : List RoutingTableEntry) : Prop :=
  ∀ d, (entries.find? fun e => e.destAddr == d) = tbl d

lemma lists_getRoutingTableEntries (h : ∀ d e, tbl d = some e → e.destAddr = d) :
    tbl.Lists tbl.getRoutingTableEntries := by
  intro d
  cases hfind : tbl.getRoutingTableEntries.find? fun e => e.destAddr == d with
  | some e =>
    have hd : e.destAddr = d := by simpa using List.find?_some hfind
    obtain ⟨a, ha⟩ := mem_getRoutingTableEntries.mp (List.mem_of_find?_eq_some hfind)
    rw [← hd, h a e ha, ha]
  | none =>
    cases hd : tbl d with
    | none => rfl
    | some e =>
      have hno := List.find?_eq_none.mp hfind e (mem_getRoutingTableEntries.mpr ⟨d, hd⟩)
      simp [h d e hd] at hno

variable {entries : List RoutingTableEntry}

lemma Lists.any (h : tbl.Lists entries) (d : Ipv4Address) :
    (entries.any fun e => e.destAddr == d) = (tbl d).isSome := by
  rw [← h d, Bool.eq_iff_iff, List.any_eq_true, List.find?_isSome]

lemma Lists.mem_destinations (h : tbl.Lists entries) {d : Ipv4Address} :
    d ∈ (entries.map RoutingTableEntry.destAddr).toFinset ↔ (tbl d).isSome = true := by
  rw [← h.any d, List.any_eq_true, List.mem_toFinset, List.mem_map]
  simp only [beq_iff_eq]

end Table

/-! ### Containers -/

namespace NodeContainer

variable {nodes : NodeContainer}

variable (G nodes) in
/-- The nodes have different addresses and tables of shortest paths, and there is one at each end of
an edge. -/
structure Routed : Prop where
  nodup : (nodes.map SimNode.address).Nodup
  table : ∀ n ∈ nodes, ∃ entries tbl, n.entries = some entries ∧ Table.Lists tbl entries ∧
    tbl.Shortest G n.address
  node : ∀ a b, G.Adj a b → ∃ n ∈ nodes, n.address = a

namespace Routed

lemma ipToNode (h : Routed G nodes) {i : ℕ} {a : Ipv4Address} (hi : nodes.nodeToIp i = some a) :
    nodes.ipToNode a = some i := by
  have hnumber : ∀ x ∈ nodes.zipIdx, x.1.address = a → x.2 = i := by
    rintro ⟨n, j⟩ hx rfl
    have hj : nodes.nodeToIp j = some n.address := by
      rw [nodeToIp, List.mk_mem_zipIdx_iff_getElem?.mp hx]
      rfl
    rw [nodeToIp, ← List.getElem?_map] at hi hj
    have hlt : j < (nodes.map SimNode.address).length := by
      rw [List.getElem?_eq_some_iff] at hj
      exact hj.1
    exact (List.getElem?_inj hlt h.nodup).mp (hj.trans hi.symm)
  obtain ⟨n, hn, ha⟩ := Option.map_eq_some_iff.mp hi
  have hsome : (nodes.zipIdx.reverse.find? fun x => x.1.address == a).isSome := by
    rw [List.find?_isSome]
    exact ⟨(n, i), List.mem_reverse.mpr (List.mk_mem_zipIdx_iff_getElem?.mpr hn), by simp [ha]⟩
  obtain ⟨x, hx⟩ := Option.isSome_iff_exists.mp hsome
  have haddress : x.1.address = a := by simpa using List.find?_some hx
  rw [NodeContainer.ipToNode, hx, Option.map_some,
    hnumber x (List.mem_reverse.mp (List.mem_of_find?_eq_some hx)) haddress]

lemma getEntries (h : Routed G nodes) {i : ℕ} {a : Ipv4Address} (hi : nodes.nodeToIp i = some a) :
    ∃ entries tbl, nodes.getEntries i = some entries ∧ Table.Lists tbl entries ∧
      tbl.Shortest G a := by
  obtain ⟨n, hn, rfl⟩ := Option.map_eq_some_iff.mp hi
  obtain ⟨entries, tbl, hentries, hlists⟩ := h.table n (List.mem_of_getElem? hn)
  exact ⟨entries, tbl, by rw [NodeContainer.getEntries, hn, Option.bind_some, hentries], hlists⟩

lemma exists_number (h : Routed G nodes) {a b : Ipv4Address} (hab : G.Adj a b) :
    ∃ i, nodes.nodeToIp i = some a := by
  obtain ⟨n, hn, rfl⟩ := h.node a b hab
  obtain ⟨i, hi⟩ := List.mem_iff_getElem?.mp hn
  exact ⟨i, by rw [nodeToIp, hi]; rfl⟩

/-! ### The walk -/

/-- Each step of the walk comes a hop nearer, so that it does not come back. -/
lemma walkFrom (h : Routed G nodes) {d : Ipv4Address} {k steps : ℕ} {a : Ipv4Address} {i : ℕ}
    {visited : List Ipv4Address} (path : List ℕ) (hi : nodes.nodeToIp i = some a)
    (hreach : G.Reachable a d) (hk : G.dist a d = k) (hsteps : k < steps)
    (hvisited : ∀ b ∈ visited, k < G.dist b d) :
    ∃ (p : G.Walk a d) (q : List ℕ), p.length = k ∧
      nodes.walkFrom d steps a visited path = path ++ q ∧
      q.map nodes.nodeToIp = p.support.map some := by
  induction k generalizing steps a i visited path with
  | zero =>
    obtain ⟨steps, rfl⟩ : ∃ m, steps = m + 1 := ⟨steps - 1, by omega⟩
    obtain rfl : a = d := hreach.dist_eq_zero_iff.mp hk
    have hnew : a ∉ visited := by
      intro hmem
      have hlt := hvisited a hmem
      omega
    refine ⟨.nil, [i], rfl, ?_, by simp [hi]⟩
    rw [NodeContainer.walkFrom, if_neg hnew, h.ipToNode hi]
    simp
  | succ k ih =>
    obtain ⟨steps, rfl⟩ : ∃ m, steps = m + 1 := ⟨steps - 1, by omega⟩
    have hne : a ≠ d := by
      rintro rfl
      rw [SimpleGraph.dist_self] at hk
      omega
    have hnew : a ∉ visited := by
      intro hmem
      have hlt := hvisited a hmem
      omega
    obtain ⟨entries, tbl, hentries, hlists, hshortest⟩ := h.getEntries hi
    obtain ⟨e, he⟩ := Option.isSome_iff_exists.mp ((hshortest.isSome_iff d).mpr ⟨hne.symm, hreach⟩)
    obtain ⟨-, hadj, hnext, hdist⟩ := hshortest.entry d e he
    obtain ⟨j, hj⟩ := h.exists_number hadj.symm
    have hfar : ∀ b ∈ a :: visited, k < G.dist b d := by
      intro b hb
      rcases List.mem_cons.mp hb with rfl | hb
      · omega
      · exact (Nat.lt_succ_self k).trans (hvisited b hb)
    obtain ⟨p, q, hlength, hwalk, hsupport⟩ := ih (path ++ [i]) hj hnext (by omega)
      (Nat.lt_of_succ_lt_succ hsteps) hfar
    refine ⟨p.cons hadj, i :: q, by rw [SimpleGraph.Walk.length_cons, hlength], ?_, ?_⟩
    · rw [NodeContainer.walkFrom, if_neg hnew, h.ipToNode hi]
      simp only [if_neg hne, hentries, hlists d, he, hwalk, List.append_assoc,
        List.singleton_append]
    · rw [List.map_cons, hsupport, hi, SimpleGraph.Walk.support_cons, List.map_cons]

/-- A shortest path is no longer than there are nodes. -/
lemma dist_lt (h : Routed G nodes) {a d : Ipv4Address} {i : ℕ} (hi : nodes.nodeToIp i = some a)
    (hreach : G.Reachable a d) : G.dist a d < nodes.length := by
  obtain ⟨p, hpath, hp⟩ := hreach.exists_path_of_dist
  have hsub : p.support ⊆ nodes.map SimNode.address := by
    intro b hb
    have hab : G.Reachable a b := ⟨p.takeUntil b hb⟩
    rcases eq_or_ne b a with rfl | hne
    · obtain ⟨n, hn, rfl⟩ := Option.map_eq_some_iff.mp hi
      exact List.mem_map_of_mem (List.mem_of_getElem? hn)
    · obtain ⟨k, hk⟩ : ∃ k, G.dist a b = k + 1 := ⟨G.dist a b - 1, by
        have hpos := hab.pos_dist_of_ne hne.symm
        omega⟩
      obtain ⟨u, hub, -⟩ := Lib.exists_adj_of_dist_succ hk
      obtain ⟨n, hn, rfl⟩ := h.node _ _ hub.symm
      exact List.mem_map_of_mem hn
  have hle := (hpath.support_nodup.subperm hsub).length_le
  rw [SimpleGraph.Walk.length_support, List.length_map] at hle
  omega

lemma walkOlsrPath (h : Routed G nodes) {a d : Ipv4Address} {i : ℕ}
    (hi : nodes.nodeToIp i = some a) (hreach : G.Reachable a d) :
    ∃ p : G.Walk a d, p.length = G.dist a d ∧
      (nodes.walkOlsrPath a d).map nodes.nodeToIp = p.support.map some := by
  have hlt := h.dist_lt hi hreach
  have hsteps : G.dist a d < nodes.length + 2 := by omega
  have hvisited : ∀ b ∈ ([] : List Ipv4Address), G.dist a d < G.dist b d := by simp
  obtain ⟨p, q, hlength, hwalk, hsupport⟩ := h.walkFrom [] hi hreach rfl hsteps hvisited
  exact ⟨p, hlength, by rw [NodeContainer.walkOlsrPath, hwalk, List.nil_append, hsupport]⟩

lemma walkOlsrPath_eq_nil (h : Routed G nodes) {a d : Ipv4Address} {i : ℕ}
    (hi : nodes.nodeToIp i = some a) (hreach : ¬ G.Reachable a d) :
    nodes.walkOlsrPath a d = [] := by
  have hne : a ≠ d := by
    rintro rfl
    exact hreach .rfl
  obtain ⟨entries, tbl, hentries, hlists, hshortest⟩ := h.getEntries hi
  have hnone : tbl d = none := by
    by_contra hsome
    exact hreach ((hshortest.isSome_iff d).mp (Option.isSome_iff_ne_none.mpr hsome)).2
  rw [NodeContainer.walkOlsrPath, NodeContainer.walkFrom, h.ipToNode hi]
  simp [hne, hentries, hlists d, hnone]

/-! ### The gates -/

lemma connectivityFailure (h : Routed G nodes) {n : SimNode} (hn : n ∈ nodes) :
    nodes.connectivityFailure n = none ↔ ∀ n' ∈ nodes, G.Reachable n.address n'.address := by
  classical
  obtain ⟨entries, tbl, hentries, hlists, hshortest⟩ := h.table n hn
  have hmem : n.address ∈ (nodes.map SimNode.address).toFinset :=
    List.mem_toFinset.mpr (List.mem_map_of_mem hn)
  have hcard : ((nodes.map SimNode.address).toFinset.erase n.address).card =
      nodes.length - 1 := by
    rw [Finset.card_erase_of_mem hmem, List.toFinset_card_of_nodup h.nodup, List.length_map]
  -- The destinations are addresses of other nodes.
  have hsub : (entries.map RoutingTableEntry.destAddr).toFinset ⊆
      (nodes.map SimNode.address).toFinset.erase n.address := by
    intro d hd
    obtain ⟨hne, hreach⟩ := (hshortest.isSome_iff d).mp (hlists.mem_destinations.mp hd)
    rw [Finset.mem_erase]
    refine ⟨hne, ?_⟩
    obtain ⟨k, hk⟩ : ∃ k, G.dist n.address d = k + 1 := ⟨G.dist n.address d - 1, by
      have hpos := hreach.pos_dist_of_ne hne.symm
      omega⟩
    obtain ⟨u, hud, -⟩ := Lib.exists_adj_of_dist_succ hk
    obtain ⟨n', hn', rfl⟩ := h.node _ _ hud.symm
    exact List.mem_toFinset.mpr (List.mem_map_of_mem hn')
  simp only [NodeContainer.connectivityFailure, hentries, ← hcard, ite_eq_right_iff, reduceCtorEq,
    imp_false, not_lt]
  constructor
  · intro hle n' hn'
    by_cases hself : n'.address = n.address
    · rw [hself]
    · have hd : n'.address ∈ (entries.map RoutingTableEntry.destAddr).toFinset := by
        rw [Finset.eq_of_subset_of_card_le hsub hle, Finset.mem_erase]
        exact ⟨hself, List.mem_toFinset.mpr (List.mem_map_of_mem hn')⟩
      exact ((hshortest.isSome_iff _).mp (hlists.mem_destinations.mp hd)).2
  · intro hall
    refine Finset.card_le_card fun d hd => ?_
    obtain ⟨hne, hmem⟩ := Finset.mem_erase.mp hd
    obtain ⟨n', hn', rfl⟩ := List.mem_map.mp (List.mem_toFinset.mp hmem)
    exact hlists.mem_destinations.mpr ((hshortest.isSome_iff _).mpr ⟨hne, hall n' hn'⟩)

lemma routeFailure (h : Routed G nodes) {f : ℕ × ℕ} {a b : Ipv4Address}
    (ha : nodes.nodeToIp f.1 = some a) (hb : nodes.nodeToIp f.2 = some b) (hne : a ≠ b) :
    nodes.routeFailure f = none ↔ G.Reachable a b := by
  obtain ⟨entries, tbl, hentries, hlists, hshortest⟩ := h.getEntries ha
  simp only [NodeContainer.routeFailure, hentries, hb, Option.getD_some, hlists.any, ite_eq_left_iff,
    reduceCtorEq, imp_false, not_not, hshortest.isSome_iff]
  exact and_iff_right hne.symm

end Routed

end NodeContainer

/-! ### Converged networks -/

lemma RunStatus.rejectFirst_runRejected {s : RunStatus} (hs : s.runRejected = false)
    {α : Type} (l : List α) (failure : α → Option String) (now : Time) :
    (s.rejectFirst (l.map failure) now).runRejected = false ↔ ∀ x ∈ l, failure x = none := by
  rw [RunStatus.rejectFirst]
  cases hfind : (l.map failure).findSome? id with
  | none =>
    rw [List.findSome?_eq_none_iff] at hfind
    exact ⟨fun _ x hx => hfind _ (List.mem_map_of_mem hx), fun _ => hs⟩
  | some reason =>
    obtain ⟨o, ho, hreason⟩ := List.exists_of_findSome?_eq_some hfind
    obtain ⟨x, hx, rfl⟩ := List.mem_map.mp ho
    constructor
    · intro hrejected
      cases hrejected
    · intro hall
      rw [id_eq, hall x hx] at hreason
      cases hreason

namespace NetworkRun

variable {D : Type} [OlsrDefenseStrategy D] {N : ℕ}

/-- The nodes of a network as the harness sees them. -/
def container (r : NetworkRun (Fin N) D) : NodeContainer :=
  List.ofFn fun v => ⟨r.address v, some (r.final v).table.getRoutingTableEntries⟩

lemma container_nodeToIp (r : NetworkRun (Fin N) D) (v : Fin N) :
    r.container.nodeToIp v = some (r.address v) := by
  simp [container, NodeContainer.nodeToIp]

lemma container_routed {r : NetworkRun (Fin N) D} (h : r.Over G) (hconverged : Converged G r.final)
    (hinj : Function.Injective r.address) : NodeContainer.Routed G r.container where
  nodup := by
    rw [container, List.map_ofFn, List.nodup_ofFn]
    exact hinj
  table := by
    rintro n hn
    obtain ⟨v, rfl⟩ := List.mem_ofFn.mp hn
    have htable : (r.final v).table = (r.final v).coreTable ∅ :=
      congrArg Prod.fst (hconverged.upToDate v)
    refine ⟨_, (r.final v).table, rfl, Table.lists_getRoutingTableEntries fun d e he => ?_, ?_⟩
    · rw [htable] at he
      exact (Node.coreTable_next d e he).1
    · have hshortest := shortest_table h hconverged v
      rwa [final_mainAddress] at hshortest
  node := by
    intro a b hab
    obtain ⟨v, hv⟩ := hconverged.node a b hab
    exact ⟨_, List.mem_ofFn.mpr ⟨v, rfl⟩, (final_mainAddress r v).symm.trans hv⟩

end NetworkRun

section Line

end Line

end ManetOlsr
