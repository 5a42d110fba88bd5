/-
Every stored path leads to an entry.

The rounds of step 3.1 go through the destinations by increasing distance.  `Layered` is what holds
between two rounds: no entry is farther than the next round looks, and the topology tuples that
start nearer have been followed.  The loop ends after a round that adds nothing, when there is no
entry at the distance of the next round, so that all topology tuples have been followed then.
-/
import ManetOlsr.Model.Scenario
import ManetOlsr.Model.TablePasses

namespace ManetOlsr

open Lib (Holds Keeps write)

namespace Node

variable {D : Type} (n : Node D)

/-- A path of `k` hops that the repositories know: a link to a symmetric neighbor, a 2-hop tuple of
that neighbor, and topology tuples, none of which leads to the node itself or to a symmetric
neighbor. -/
inductive StoredPath : (k : ℕ) → Ipv4Address → Prop where
  | neighbor {nb : NeighborTuple} {l : LinkTuple} (hnb : nb ∈ n.state.neighborSet)
      (hsym : nb.status = Status.sym) (hl : l ∈ n.state.linkSet)
      (hmain : n.getMainAddress l.neighborIfaceAddr = nb.neighborMainAddr)
      (hlive : l.time ≥ n.now) : StoredPath 1 nb.neighborMainAddr
  | twoHop {nb : NeighborTuple} {t : TwoHopNeighborTuple} (hnb : nb ∈ n.state.neighborSet)
      (hwilling : nb.willingness ≠ Willingness.never) (ht : t ∈ n.state.twoHopNeighborSet)
      (hannouncer : t.neighborMainAddr = nb.neighborMainAddr)
      (hself : t.twoHopNeighborAddr ≠ n.mainAddress)
      (hsym : n.state.findSymNeighborTuple t.twoHopNeighborAddr = none)
      (path : StoredPath 1 t.neighborMainAddr) : StoredPath 2 t.twoHopNeighborAddr
  | topology {k : ℕ} {t : TopologyTuple} (ht : t ∈ n.state.topologySet) (hk : 2 ≤ k)
      (hself : t.destAddr ≠ n.mainAddress)
      (hsym : n.state.findSymNeighborTuple t.destAddr = none)
      (path : StoredPath k t.lastAddr) : StoredPath (k + 1) t.destAddr

variable {n} {excluded : Finset Ipv4Address}

/-! ### The rounds of step 3.1 -/

variable (n excluded) in
/-- Between two rounds of step 3.1. -/
structure Layered (h : ℕ) (tbl : Table) : Prop where
  bound : ∀ a e, tbl a = some e → e.distance ≤ h
  closed : ∀ t ∈ n.state.topologySet, t.lastAddr ∉ excluded → ∀ e, tbl t.lastAddr = some e →
    2 ≤ e.distance → e.distance < h →
    ∃ e', tbl t.destAddr = some e' ∧ e'.distance ≤ e.distance + 1

/-- A round keeps what there is, and adds entries of the next distance. -/
lemma topologyRound_new (l : TopologyLoop) {a : Ipv4Address} {e : RoutingTableEntry}
    (he : (n.topologyRound excluded l).tbl a = some e) :
    l.tbl a = some e ∨ l.tbl a = none ∧ e.distance = l.h + 1 := by
  have hnew : Holds (fun a e => l.tbl a = some e ∨ e.distance = l.h + 1)
      (n.topologyRound excluded l).tbl := by
    rw [topologyRound_tbl]
    refine Holds.foldl_write _ (fun a e he => Or.inl he) fun tbl _ t _ k v hw => ?_
    obtain ⟨-, -, -, e, -, hdist, rfl⟩ := Table.topologyWrite_eq_some hw
    exact Or.inr (congrArg (· + 1) hdist)
  rcases hnew a e he with hold | hdist
  · exact Or.inl hold
  · cases ha : l.tbl a with
    | none => exact Or.inr ⟨rfl, hdist⟩
    | some e' =>
      have hkept : (n.topologyRound excluded l).tbl a = some e' := topologyRound_keeps l a e' ha
      exact Or.inl (hkept.symm.trans he)

/-- A round follows the topology tuples that start at its distance. -/
lemma topologyRound_follows (l : TopologyLoop) {t : TopologyTuple} (ht : t ∈ n.state.topologySet)
    (hlast : t.lastAddr ∉ excluded) {e : RoutingTableEntry} (he : l.tbl t.lastAddr = some e)
    (hdist : e.distance = l.h) : ((n.topologyRound excluded l).tbl t.destAddr).isSome := by
  rw [topologyRound_tbl]
  obtain ⟨pre, post, hts⟩ := List.append_of_mem ht
  set tbl' := pre.foldl (write (Table.topologyWrite excluded l.h)) l.tbl with htbl'
  have hnew : ∀ (m : Table) t k v, Table.topologyWrite excluded l.h m t = some (k, v) →
      m k = none := by
    intro m t k v hw
    obtain ⟨-, hnone, rfl, -⟩ := Table.topologyWrite_eq_some hw
    exact hnone
  have hkept : tbl' t.lastAddr = some e := Keeps.foldl_write hnew pre l.tbl _ _ he
  rw [Lib.isSome_foldl_write_iff]
  cases hdest : tbl' t.destAddr with
  | none =>
    -- The tuple finds its destination unset and writes it.
    refine Or.inr ⟨pre, t, post, ⟨t.destAddr, e.nextAddr, e.interface, l.h + 1,
      Origin.topology t⟩, hts, ?_⟩
    rw [← htbl', Table.topologyWrite, if_neg hlast, hdest, hkept]
    exact if_pos hdist
  | some e' =>
    have hset : (tbl' t.destAddr).isSome := by rw [hdest]; rfl
    rw [htbl', Lib.isSome_foldl_write_iff] at hset
    refine hset.imp_right ?_
    rintro ⟨p, t', q, v, hpre, hw⟩
    exact ⟨p, t', q ++ t :: post, v, by rw [hts, hpre]; simp, hw⟩

lemma foldl_topologyStep_idle {h : ℕ} (ts : List TopologyTuple) (p : Table × Bool)
    (hidle : (ts.foldl (Table.topologyStep excluded h) p).2 = false) :
    (ts.foldl (Table.topologyStep excluded h) p).1 = p.1 ∧ p.2 = false := by
  induction ts generalizing p with
  | nil => exact ⟨rfl, hidle⟩
  | cons t ts ih =>
    obtain ⟨hrest, hflag⟩ := ih _ hidle
    rw [Table.topologyStep_eq, Bool.or_eq_false_iff, Option.isSome_eq_false_iff,
      Option.isNone_iff_eq_none] at hflag
    rw [List.foldl_cons, hrest, Table.topologyStep_eq, Lib.write_of_none hflag.2]
    exact ⟨rfl, hflag.1⟩

/-- **Step lemma.**  A round goes on to the next distance. -/
lemma Layered.round {l : TopologyLoop} (h : n.Layered excluded l.h l.tbl) :
    n.Layered excluded (l.h + 1) (n.topologyRound excluded l).tbl where
  bound a e he := by
    rcases topologyRound_new l he with hold | ⟨-, hdist⟩
    · exact Nat.le_succ_of_le (h.bound a e hold)
    · exact hdist.le
  closed t ht hlast e he hfar hnear := by
    have hold : l.tbl t.lastAddr = some e := by
      rcases topologyRound_new l he with hold | ⟨-, hdist⟩
      · exact hold
      · omega
    rcases Nat.lt_or_eq_of_le (h.bound _ e hold) with hlt | heq
    · obtain ⟨e', he', hdist⟩ := h.closed t ht hlast e hold hfar hlt
      exact ⟨e', topologyRound_keeps l _ _ he', hdist⟩
    · obtain ⟨e', he'⟩ := Option.isSome_iff_exists.mp (topologyRound_follows l ht hlast hold heq)
      refine ⟨e', he', ?_⟩
      rcases topologyRound_new l he' with hdest | ⟨-, hdist⟩
      · have hbound := h.bound _ e' hdest
        omega
      · omega

/-- **Run lemma.**  When the loop has ended, all topology tuples that start at distance two or more
have been followed. -/
lemma topologyTable_closed (hbound : ∀ a e, n.twoHopTable excluded a = some e → e.distance ≤ 2)
    {t : TopologyTuple} (ht : t ∈ n.state.topologySet) (hlast : t.lastAddr ∉ excluded)
    {e : RoutingTableEntry} (he : n.topologyTable excluded t.lastAddr = some e)
    (hfar : 2 ≤ e.distance) :
    ∃ e', n.topologyTable excluded t.destAddr = some e' ∧ e'.distance ≤ e.distance + 1 := by
  have hinv : ∀ l : TopologyLoop, l = n.topologyLoop excluded (n.twoHopTable excluded) →
      n.Layered excluded l.h l.tbl ∧
        (l.added = true ∨ ∀ a e, l.tbl a = some e → e.distance < l.h) := by
    rintro l rfl
    refine Lib.whileLoop_inv (fun l : TopologyLoop => n.Layered excluded l.h l.tbl ∧
      (l.added = true ∨ ∀ a e, l.tbl a = some e → e.distance < l.h)) ?_ _ ⟨?_, Or.inl rfl⟩
    · rintro l ⟨hlayered, -⟩ -
      refine ⟨hlayered.round, ?_⟩
      cases hadded : (n.topologyRound excluded l).added with
      | true => exact Or.inl rfl
      | false =>
        right
        intro a e he
        have hidle : (n.topologyRound excluded l).tbl = l.tbl :=
          (foldl_topologyStep_idle n.state.topologySet (l.tbl, false) hadded).1
        rw [hidle] at he
        exact Nat.lt_succ_of_le (hlayered.bound a e he)
    · exact ⟨hbound, fun t _ _ e _ hfar hnear => absurd hfar (Nat.not_le_of_lt hnear)⟩
  obtain ⟨hlayered, hadded | hall⟩ := hinv _ rfl
  · rw [topologyLoop_ended] at hadded
    cases hadded
  · exact hlayered.closed t ht hlast e he hfar (hall _ e he)

/-! ### The distances of steps 2 and 3 -/

variable (n) in
/-- What steps 2 and 3 leave: symmetric neighbors are at distance 1, all others at distance 2. -/
def NearDistance (a : Ipv4Address) (e : RoutingTableEntry) : Prop :=
  e.distance = if (n.state.findSymNeighborTuple a).isSome then 1 else 2

/-- Without interface associations, the interfaces of neighbors are their main addresses. -/
lemma neighborTable_nearDistance (hassoc : n.state.ifaceAssocSet = []) :
    Holds n.NearDistance (n.neighborTable excluded) := by
  refine neighborTable_holds fun nb l dest hreach hdest => ?_
  obtain ⟨-, hmain, -⟩ := mem_neighborLinks.mp hreach.link
  have hself : n.getMainAddress l.neighborIfaceAddr = l.neighborIfaceAddr := by
    simp [OlsrState.getMainAddress, OlsrState.findIfaceAssocTuple, hassoc]
  have hdest' : dest = nb.neighborMainAddr := by
    rcases hdest with rfl | rfl
    · rw [← hself, hmain]
    · rfl
  rw [NearDistance, hdest', if_pos (findSymNeighborTuple_isSome hreach.mem hreach.sym)]
  rfl

lemma twoHopTable_nearDistance (hassoc : n.state.ifaceAssocSet = []) :
    Holds n.NearDistance (n.twoHopTable excluded) := by
  refine twoHopTable_holds (neighborTable_nearDistance hassoc) fun t _ husable e _ => ?_
  have hnot : ¬ (n.state.findSymNeighborTuple t.twoHopNeighborAddr).isSome = true := by
    intro hsym
    simp [usableTwoHop, hsym] at husable
  rw [NearDistance, if_neg hnot]

lemma neighborTable_isSome {nb : NeighborTuple} {l : LinkTuple} (hnb : nb ∈ n.state.neighborSet)
    (hsym : nb.status = Status.sym) (hl : l ∈ n.state.linkSet)
    (hmain : n.getMainAddress l.neighborIfaceAddr = nb.neighborMainAddr)
    (hlive : l.time ≥ n.now) : (n.neighborTable ∅ nb.neighborMainAddr).isSome :=
  isSome_neighborTable_iff.mpr ⟨nb, l, ⟨hnb, Finset.notMem_empty _, hsym,
    mem_neighborLinks.mpr ⟨hl, hmain, hlive⟩⟩, Or.inr rfl⟩

/-- Step 3 keeps destinations, and adds the 2-hop neighbors of those it finds. -/
lemma twoHopTable_isSome {a : Ipv4Address} (ha : (n.neighborTable excluded a).isSome) :
    (n.twoHopTable excluded a).isSome := by
  rw [twoHopTable, twoHopStep_eq]
  exact (Lib.isSome_foldl_write_iff _ _ _).mpr (Or.inl ha)

lemma twoHopTable_isSome_twoHop {t : TwoHopNeighborTuple} (ht : t ∈ n.state.twoHopNeighborSet)
    (husable : n.usableTwoHop t = true) (ha : (n.neighborTable excluded t.neighborMainAddr).isSome) :
    (n.twoHopTable excluded t.twoHopNeighborAddr).isSome := by
  obtain ⟨pre, post, hts⟩ := List.append_of_mem ht
  have hfound : (pre.foldl (write n.twoHopWrite) (n.neighborTable excluded)
      t.neighborMainAddr).isSome :=
    (Lib.isSome_foldl_write_iff _ _ _).mpr (Or.inl ha)
  obtain ⟨e, he⟩ := Option.isSome_iff_exists.mp hfound
  rw [twoHopTable, twoHopStep_eq]
  exact (Lib.isSome_foldl_write_iff _ _ _).mpr
    (Or.inr ⟨pre, t, post, _, hts, twoHopWrite_eq_some.mpr ⟨husable, rfl, e, he, rfl⟩⟩)

/-! ### Paths -/

lemma StoredPath.pos {k : ℕ} {a : Ipv4Address} (hp : n.StoredPath k a) : 1 ≤ k := by
  cases hp <;> omega

/-- A path of one hop leads to an entry of step 2. -/
lemma StoredPath.first {a : Ipv4Address} (hp : n.StoredPath 1 a) : (n.neighborTable ∅ a).isSome := by
  cases hp with
  | neighbor hnb hsym hl hmain hlive => exact neighborTable_isSome hnb hsym hl hmain hlive
  | topology _ hk _ _ path => exact absurd path.pos (by omega)

/-- A longer path does not end in a symmetric neighbor. -/
lemma StoredPath.notNeighbor {k : ℕ} {a : Ipv4Address} (hp : n.StoredPath k a) (hk : 2 ≤ k) :
    n.state.findSymNeighborTuple a = none := by
  cases hp with
  | neighbor => omega
  | twoHop _ _ _ _ _ hsym _ => exact hsym
  | topology _ _ _ hsym _ => exact hsym

/-- Every entry after step 3.1 is at distance two or more, unless it is that of a symmetric
neighbor. -/
lemma topologyTable_far (hassoc : n.state.ifaceAssocSet = []) : Holds
    (fun a e => n.state.findSymNeighborTuple a = none → 2 ≤ e.distance)
    (n.topologyTable excluded) := by
  refine topologyTable_holds (fun a e he hnone => ?_) fun t _ _ e hfar _ _ => ?_
  · have hdist := twoHopTable_nearDistance hassoc a e he
    rw [NearDistance, hnone] at hdist
    exact hdist.ge
  · exact Nat.le_succ_of_le hfar

/-- A stored path of `k` hops leads to an entry at distance at most `k`. -/
lemma StoredPath.entry (hassoc : n.state.ifaceAssocSet = []) {k : ℕ} {a : Ipv4Address}
    (hp : n.StoredPath k a) : ∃ e, n.topologyTable ∅ a = some e ∧ e.distance ≤ k := by
  have hnear : ∀ a e, n.twoHopTable ∅ a = some e → e.distance ≤ 2 := by
    intro a e he
    have hdist := twoHopTable_nearDistance hassoc a e he
    rw [NearDistance] at hdist
    split at hdist <;> omega
  induction hp with
  | neighbor hnb hsym hl hmain hlive =>
    obtain ⟨e, he⟩ := Option.isSome_iff_exists.mp
      (twoHopTable_isSome (neighborTable_isSome hnb hsym hl hmain hlive))
    refine ⟨e, topologyTable_keeps _ _ he, ?_⟩
    have hdist := twoHopTable_nearDistance hassoc _ e he
    rw [NearDistance, if_pos (findSymNeighborTuple_isSome hnb hsym)] at hdist
    exact hdist.le
  | @twoHop nb t hnb hwilling ht hannouncer hself hsym path _ =>
    have husable : n.usableTwoHop t = true := by
      have hany : n.state.neighborSet.any (fun nb => nb.neighborMainAddr == t.neighborMainAddr &&
          !(nb.willingness == Willingness.never)) = true :=
        List.any_eq_true.mpr ⟨nb, hnb, by simp [hannouncer, hwilling]⟩
      simp [usableTwoHop, hsym, hself, hany]
    obtain ⟨e, he⟩ := Option.isSome_iff_exists.mp (twoHopTable_isSome_twoHop ht husable path.first)
    exact ⟨e, topologyTable_keeps _ _ he, hnear _ e he⟩
  | @topology k t ht hk _ _ path ih =>
    obtain ⟨e, he, hdist⟩ := ih
    have hfar : 2 ≤ e.distance := topologyTable_far hassoc _ e he (path.notNeighbor hk)
    obtain ⟨e', he', hdist'⟩ := topologyTable_closed hnear ht (Finset.notMem_empty _) he hfar
    exact ⟨e', he', by omega⟩

end Node

/-- **The routing table is complete.**  Without interface associations, the loop over the distance
ends, and the core leaves an entry for the end of every stored path, at a distance that is at most
the length of the path. -/
theorem routingTable_complete {D : Type} (n : Node D) (hassoc : n.state.ifaceAssocSet = []) :
    Lib.Terminates Node.TopologyLoop.added (n.topologyRound ∅) ⟨2, n.twoHopTable ∅, true⟩ ∧
    ∀ k a, n.StoredPath k a →
      ∃ e, (n.computeRoutingTableCore ∅).table a = some e ∧ e.distance ≤ k := by
  refine ⟨⟨_, Node.topologyLoop_ended (n.twoHopTable ∅)⟩, fun k a hp => ?_⟩
  obtain ⟨e, he, hdist⟩ := hp.entry hassoc
  exact ⟨e, Node.coreTable_keeps _ _ he, hdist⟩

section Examples

open Scenario

/-- A chain of nodes: 2 is a neighbor, 4 is behind it, and TC messages tell of 5 and 6. -/
def chain : Run OlsrDefenseNull where
  config := quiet
  jitter := 0
  labels := [recv 0 2 (hello 2 [symLinks [1, 4]]), recv 0 2 (flooded 4 1 (.tc ⟨[5], 1⟩)),
    recv 0 2 (flooded 5 1 (.tc ⟨[6], 1⟩))]
  isJitter := quiet_isJitter
  isRun := by decide +kernel

lemma chain_path : chain.final.StoredPath 4 6 := by
  have hneighbor : (⟨2, Status.sym, Willingness.default⟩ : NeighborTuple) ∈
      chain.final.state.neighborSet := by
    decide +kernel
  have hlink : (⟨1, 2, Seconds 2, Seconds 2, Seconds 302⟩ : LinkTuple) ∈
      chain.final.state.linkSet := by
    decide +kernel
  have htwoHop : (⟨2, 4, Seconds 2⟩ : TwoHopNeighborTuple) ∈
      chain.final.state.twoHopNeighborSet := by
    decide +kernel
  have htopology : (⟨5, 4, 1, Seconds 2⟩ : TopologyTuple) ∈ chain.final.state.topologySet ∧
      (⟨6, 5, 1, Seconds 2⟩ : TopologyTuple) ∈ chain.final.state.topologySet := by
    decide +kernel
  have hfirst : chain.final.StoredPath 1 2 :=
    .neighbor hneighbor rfl hlink (by decide +kernel) (by decide +kernel)
  have hsecond : chain.final.StoredPath 2 4 :=
    .twoHop hneighbor (by decide) htwoHop rfl (by decide +kernel) (by decide +kernel) hfirst
  have hthird : chain.final.StoredPath 3 5 :=
    .topology htopology.1 (le_refl 2) (by decide +kernel) (by decide +kernel) hsecond
  exact .topology htopology.2 (by decide) (by decide +kernel) (by decide +kernel) hthird

theorem routingTable_complete_chain :
    ∃ e, (chain.final.computeRoutingTableCore ∅).table 6 = some e ∧ e.distance ≤ 4 :=
  (routingTable_complete chain.final (by decide +kernel)).2 4 6 chain_path

end Examples

end ManetOlsr
