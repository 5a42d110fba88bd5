/-
The passes of `ComputeRoutingTableCore` as sequences of writes to the table.

For each pass there is the entry that an element writes (`neighborWrites`, `twoHopWrite`,
`topologyWrite`, `ifaceAssocWrite`), the pass as a fold of these writes, and the rule for a
property of all entries that the pass preserves.  From step 3.1 on only unset destinations are
written, so that the entries of step 3 are still there at the end.
-/
import ManetOlsr.Lib.Writes
import ManetOlsr.Model.RoutingTable
import Mathlib.Data.Finset.Card
import Mathlib.Data.List.Flatten

namespace ManetOlsr

open Lib (Holds Keeps write)

/-! ### Steps 3.1 and 4 -/

namespace Table

/-- What a topology tuple writes in the round for distance `h`. -/
def topologyWrite (excluded : Finset Ipv4Address) (h : ℕ) (tbl : Table) (t : TopologyTuple) :
    Option (Ipv4Address × RoutingTableEntry) :=
  if t.lastAddr ∈ excluded then none
  else
    match tbl t.destAddr, tbl t.lastAddr with
    | none, some e =>
      if e.distance = h then
        some (t.destAddr, ⟨t.destAddr, e.nextAddr, e.interface, h + 1, Origin.topology t⟩)
      else none
    | _, _ => none

/-- What an interface association tuple writes. -/
def ifaceAssocWrite (tbl : Table) (t : IfaceAssocTuple) :
    Option (Ipv4Address × RoutingTableEntry) :=
  match tbl t.mainAddr, tbl t.ifaceAddr with
  | some e, none => some (t.ifaceAddr, { e with destAddr := t.ifaceAddr })
  | _, _ => none

variable {excluded : Finset Ipv4Address} {h : ℕ} {tbl : Table} {k : Ipv4Address}
  {v : RoutingTableEntry}

lemma topologyWrite_eq_some {t : TopologyTuple}
    (hw : topologyWrite excluded h tbl t = some (k, v)) :
    t.lastAddr ∉ excluded ∧ tbl t.destAddr = none ∧ k = t.destAddr ∧
      ∃ e, tbl t.lastAddr = some e ∧ e.distance = h ∧
        v = ⟨t.destAddr, e.nextAddr, e.interface, e.distance + 1, Origin.topology t⟩ := by
  rw [topologyWrite] at hw
  split at hw
  · cases hw
  · next hlast =>
    split at hw
    · next e hdest he =>
      split at hw
      · next hdist =>
        cases hw
        exact ⟨hlast, hdest, rfl, e, he, hdist, by rw [hdist]⟩
      · cases hw
    · cases hw

lemma ifaceAssocWrite_eq_some {t : IfaceAssocTuple} (hw : ifaceAssocWrite tbl t = some (k, v)) :
    tbl t.ifaceAddr = none ∧ k = t.ifaceAddr ∧
      ∃ e, tbl t.mainAddr = some e ∧ v = { e with destAddr := t.ifaceAddr } := by
  rw [ifaceAssocWrite] at hw
  split at hw
  · next e he hnone =>
    cases hw
    exact ⟨hnone, rfl, e, he, rfl⟩
  · cases hw

lemma topologyStep_eq (p : Table × Bool) (t : TopologyTuple) :
    topologyStep excluded h p t =
      (write (topologyWrite excluded h) p.1 t, p.2 || (topologyWrite excluded h p.1 t).isSome) := by
  obtain ⟨tbl, added⟩ := p
  rw [topologyStep, write, topologyWrite]
  dsimp only
  split
  · simp
  · cases tbl t.destAddr with
    | some e => simp
    | none =>
      cases tbl t.lastAddr with
      | none => simp
      | some e => by_cases hdist : e.distance = h <;> simp [hdist, addEntry]

lemma ifaceAssocStep_eq : ifaceAssocStep = write ifaceAssocWrite := by
  funext tbl t
  rw [ifaceAssocStep, write, ifaceAssocWrite]
  cases tbl t.mainAddr with
  | none => rfl
  | some e => cases tbl t.ifaceAddr <;> rfl

lemma foldl_topologyStep_fst (ts : List TopologyTuple) (p : Table × Bool) :
    (ts.foldl (topologyStep excluded h) p).1 =
      ts.foldl (write (topologyWrite excluded h)) p.1 := by
  induction ts generalizing p with
  | nil => rfl
  | cons t ts ih => rw [List.foldl_cons, ih, topologyStep_eq, List.foldl_cons]

/-- A round that sets the flag has written a destination that was unset. -/
lemma foldl_topologyStep_added (ts : List TopologyTuple) (p : Table × Bool)
    (hadded : (ts.foldl (topologyStep excluded h) p).2 = true) :
    p.2 = true ∨ ∃ t ∈ ts, p.1 t.destAddr = none ∧
      ((ts.foldl (topologyStep excluded h) p).1 t.destAddr).isSome := by
  induction ts generalizing p with
  | nil => exact Or.inl hadded
  | cons t ts ih =>
    rw [List.foldl_cons] at hadded
    have hkeeps := Keeps.foldl_write (f := topologyWrite excluded h)
      (fun _ _ _ _ hw => by
        obtain ⟨-, hnone, rfl, -⟩ := topologyWrite_eq_some hw
        exact hnone) ts (topologyStep excluded h p t).1
    rcases ih _ hadded with hflag | ⟨t', ht', hnone, hsome⟩
    · rw [topologyStep_eq, Bool.or_eq_true] at hflag
      refine hflag.imp_right fun hw => ?_
      obtain ⟨⟨k, v⟩, hw⟩ := Option.isSome_iff_exists.mp hw
      obtain ⟨-, hnone, rfl, -⟩ := topologyWrite_eq_some hw
      refine ⟨t, List.mem_cons_self, hnone, ?_⟩
      rw [List.foldl_cons, foldl_topologyStep_fst, hkeeps _ v ?_, Option.isSome_some]
      rw [topologyStep_eq, Lib.write_of_some hw]
      exact Function.update_self _ _ _
    · refine Or.inr ⟨t', List.mem_cons_of_mem _ ht', ?_, hsome⟩
      cases hw : topologyWrite excluded h p.1 t with
      | none => rwa [topologyStep_eq, Lib.write_of_none hw] at hnone
      | some kv =>
        obtain ⟨k, v⟩ := kv
        rw [topologyStep_eq, Lib.write_of_some hw] at hnone
        obtain ⟨-, hunset, rfl, -⟩ := topologyWrite_eq_some hw
        exact (Keeps.update hunset v).eq_none hnone

end Table

namespace Node

variable {D : Type} (n : Node D) (excluded : Finset Ipv4Address)

/-! ### Step 2 -/

/-- The entry for an address of a neighbor, over a link. -/
def linkEntry (dest : Ipv4Address) (l : LinkTuple) : Ipv4Address × RoutingTableEntry :=
  (dest, ⟨dest, l.neighborIfaceAddr, n.interfaceIndex l.localIfaceAddr, 1, Origin.link l⟩)

/-- What a neighbor tuple writes. -/
def neighborWrites (nb : NeighborTuple) : List (Ipv4Address × RoutingTableEntry) :=
  if nb.neighborMainAddr ∈ excluded then []
  else if nb.status = Status.sym then
    (n.neighborLinks nb).map (fun l => n.linkEntry l.neighborIfaceAddr l) ++
      if (n.neighborLinks nb).any fun l => l.neighborIfaceAddr == nb.neighborMainAddr then []
      else (n.neighborLinks nb).getLast?.toList.map (n.linkEntry nb.neighborMainAddr)
  else []

/-- A neighbor tuple that step 2 uses, with one of its links. -/
structure ReachesNeighbor (nb : NeighborTuple) (l : LinkTuple) : Prop where
  mem : nb ∈ n.state.neighborSet
  notExcluded : nb.neighborMainAddr ∉ excluded
  sym : nb.status = Status.sym
  link : l ∈ n.neighborLinks nb

variable {n excluded}

lemma mem_neighborLinks {nb : NeighborTuple} {l : LinkTuple} :
    l ∈ n.neighborLinks nb ↔ l ∈ n.state.linkSet ∧
      n.getMainAddress l.neighborIfaceAddr = nb.neighborMainAddr ∧ l.time ≥ n.now := by
  simp [neighborLinks]

variable (n excluded)

/-- Step 2 as a sequence of writes. -/
lemma neighborTable_eq : n.neighborTable excluded =
    (n.state.neighborSet.flatMap (n.neighborWrites excluded)).foldl
      (write fun _ kv => some kv) fun _ => none := by
  rw [neighborTable, List.foldl_flatMap]
  congr 1
  funext tbl nb
  rw [neighborStep, neighborWrites]
  split
  · rfl
  · split
    · rw [List.foldl_append, List.foldl_map, addMainAddressEntry]
      cases (n.neighborLinks nb).getLast? with
      | none =>
        dsimp only
        split <;> rfl
      | some lt =>
        dsimp only
        split <;> rfl
    · rfl

variable {n excluded}

lemma mem_neighborWrites {k : Ipv4Address} {v : RoutingTableEntry}
    (h : (k, v) ∈ n.state.neighborSet.flatMap (n.neighborWrites excluded)) :
    ∃ nb l, n.ReachesNeighbor excluded nb l ∧
      (k = l.neighborIfaceAddr ∨ k = nb.neighborMainAddr) ∧ (k, v) = n.linkEntry k l := by
  obtain ⟨nb, hnb, h⟩ := List.mem_flatMap.mp h
  rw [neighborWrites] at h
  split at h
  · simp at h
  · next hex =>
    split at h
    · next hsym =>
      rcases List.mem_append.mp h with h | h
      · obtain ⟨l, hl, hkv⟩ := List.mem_map.mp h
        cases hkv
        exact ⟨nb, l, ⟨hnb, hex, hsym, hl⟩, Or.inl rfl, rfl⟩
      · split at h
        · simp at h
        · obtain ⟨l, hl, hkv⟩ := List.mem_map.mp h
          cases hkv
          exact ⟨nb, l, ⟨hnb, hex, hsym, List.mem_of_getLast? (Option.mem_toList.mp hl)⟩,
            Or.inr rfl, rfl⟩
    · simp at h

/-- Step 2 reaches the interface at the other end of a link, and the main address. -/
lemma exists_mem_neighborWrites {nb : NeighborTuple} {l : LinkTuple}
    (h : n.ReachesNeighbor excluded nb l) {k : Ipv4Address}
    (hk : k = l.neighborIfaceAddr ∨ k = nb.neighborMainAddr) :
    ∃ v, (k, v) ∈ n.state.neighborSet.flatMap (n.neighborWrites excluded) := by
  suffices hsuff : ∃ v, (k, v) ∈ n.neighborWrites excluded nb from
    hsuff.imp fun v hv => List.mem_flatMap.mpr ⟨nb, h.mem, hv⟩
  rw [neighborWrites, if_neg h.notExcluded, if_pos h.sym]
  have hiface : ∀ l ∈ n.neighborLinks nb, ∃ v, (l.neighborIfaceAddr, v) ∈
      (n.neighborLinks nb).map fun l => n.linkEntry l.neighborIfaceAddr l :=
    fun l hl => ⟨_, List.mem_map.mpr ⟨l, hl, rfl⟩⟩
  rcases hk with rfl | rfl
  · exact (hiface l h.link).imp fun v hv => List.mem_append_left _ hv
  · split
    · next hany =>
      obtain ⟨l', hl', haddr⟩ := List.any_eq_true.mp hany
      rw [← beq_iff_eq.mp haddr]
      exact (hiface l' hl').imp fun v hv => List.mem_append_left _ hv
    · obtain ⟨lt, hlt⟩ := Option.isSome_iff_exists.mp
        (List.getLast?_isSome.mpr (List.ne_nil_of_mem h.link))
      refine ⟨_, List.mem_append_right _ (List.mem_map.mpr ⟨lt, ?_, rfl⟩)⟩
      rw [hlt]
      exact Option.mem_toList.mpr rfl

/-- The destinations of step 2. -/
lemma isSome_neighborTable_iff {k : Ipv4Address} :
    (n.neighborTable excluded k).isSome ↔ ∃ nb l, n.ReachesNeighbor excluded nb l ∧
      (k = l.neighborIfaceAddr ∨ k = nb.neighborMainAddr) := by
  rw [neighborTable_eq, Lib.isSome_foldl_write_iff]
  constructor
  · rintro (hnone | ⟨pre, kv, post, v, hts, hkv⟩)
    · simp at hnone
    · have hmem : (k, v) ∈ n.state.neighborSet.flatMap (n.neighborWrites excluded) := by
        rw [hts, ← Option.some.inj hkv]
        exact List.mem_append_right _ List.mem_cons_self
      obtain ⟨nb, l, hreach, hk, -⟩ := mem_neighborWrites hmem
      exact ⟨nb, l, hreach, hk⟩
  · rintro ⟨nb, l, hreach, hk⟩
    obtain ⟨v, hv⟩ := exists_mem_neighborWrites hreach hk
    obtain ⟨pre, post, hts⟩ := List.append_of_mem hv
    exact Or.inr ⟨pre, (k, v), post, v, hts, rfl⟩

lemma neighborTable_holds {Q : Ipv4Address → RoutingTableEntry → Prop}
    (hlink : ∀ nb l dest, n.ReachesNeighbor excluded nb l →
      (dest = l.neighborIfaceAddr ∨ dest = nb.neighborMainAddr) →
      Q dest (n.linkEntry dest l).2) :
    Holds Q (n.neighborTable excluded) := by
  rw [neighborTable_eq]
  refine Holds.foldl_write _ (Holds.empty Q) fun _ _ kv hkv k v hw => ?_
  obtain rfl := Option.some.inj hw
  obtain ⟨nb, l, hreach, hk, hv⟩ := mem_neighborWrites hkv
  have := hlink nb l k hreach hk
  rwa [← hv] at this

/-! ### Step 3 -/

lemma findSymNeighborTuple_isSome {nb : NeighborTuple} (hnb : nb ∈ n.state.neighborSet)
    (hsym : nb.status = Status.sym) :
    (n.state.findSymNeighborTuple nb.neighborMainAddr).isSome = true :=
  List.find?_isSome.mpr ⟨nb, hnb, by simp [hsym]⟩

variable (n) in
/-- What a 2-hop tuple writes. -/
def twoHopWrite (tbl : Table) (t : TwoHopNeighborTuple) :
    Option (Ipv4Address × RoutingTableEntry) :=
  if n.usableTwoHop t then
    (tbl t.neighborMainAddr).map fun e =>
      (t.twoHopNeighborAddr,
        ⟨t.twoHopNeighborAddr, e.nextAddr, e.interface, 2, Origin.twoHop t⟩)
  else none

lemma twoHopWrite_eq_some {tbl : Table} {t : TwoHopNeighborTuple} {k : Ipv4Address}
    {v : RoutingTableEntry} : n.twoHopWrite tbl t = some (k, v) ↔
      n.usableTwoHop t = true ∧ k = t.twoHopNeighborAddr ∧
        ∃ e, tbl t.neighborMainAddr = some e ∧
          v = ⟨t.twoHopNeighborAddr, e.nextAddr, e.interface, 2, Origin.twoHop t⟩ := by
  rw [twoHopWrite]
  split
  · next husable =>
    rw [Option.map_eq_some_iff]
    constructor
    · rintro ⟨e, he, hkv⟩
      cases hkv
      exact ⟨husable, rfl, e, he, rfl⟩
    · rintro ⟨-, rfl, e, he, rfl⟩
      exact ⟨e, he, rfl⟩
  · next husable => simp [husable]

lemma twoHopStep_eq : n.twoHopStep = write n.twoHopWrite := by
  funext tbl t
  rw [twoHopStep, write, twoHopWrite]
  split
  · cases tbl t.neighborMainAddr <;> rfl
  · rfl

lemma twoHopTable_holds {Q : Ipv4Address → RoutingTableEntry → Prop}
    (hneighbors : Holds Q (n.neighborTable excluded))
    (hstep : ∀ t ∈ n.state.twoHopNeighborSet, n.usableTwoHop t = true →
      ∀ e, Q t.neighborMainAddr e →
        Q t.twoHopNeighborAddr
          ⟨t.twoHopNeighborAddr, e.nextAddr, e.interface, 2, Origin.twoHop t⟩) :
    Holds Q (n.twoHopTable excluded) := by
  rw [twoHopTable, twoHopStep_eq]
  refine Holds.foldl_write _ hneighbors fun tbl htbl t ht k v hw => ?_
  obtain ⟨husable, rfl, e, he, rfl⟩ := twoHopWrite_eq_some.mp hw
  exact hstep t ht husable e (htbl _ e he)

/-! ### Step 3.1 -/

lemma topologyRound_tbl (l : TopologyLoop) : (n.topologyRound excluded l).tbl =
    n.state.topologySet.foldl (write (Table.topologyWrite excluded l.h)) l.tbl :=
  Table.foldl_topologyStep_fst _ _

lemma topologyRound_keeps (l : TopologyLoop) : Keeps l.tbl (n.topologyRound excluded l).tbl := by
  rw [topologyRound_tbl]
  refine Keeps.foldl_write (fun _ _ _ _ hw => ?_) _ _
  obtain ⟨-, hnone, rfl, -⟩ := Table.topologyWrite_eq_some hw
  exact hnone

lemma topologyTable_keeps : Keeps (n.twoHopTable excluded) (n.topologyTable excluded) :=
  Lib.whileLoop_inv (fun l => Keeps (n.twoHopTable excluded) l.tbl)
    (fun l hl _ => hl.trans (topologyRound_keeps l)) _ (Keeps.refl _)

lemma topologyTable_inv {I : Table → Prop} (htwoHop : I (n.twoHopTable excluded))
    (hstep : ∀ tbl, I tbl → ∀ t ∈ n.state.topologySet, t.lastAddr ∉ excluded →
      tbl t.destAddr = none → ∀ e, tbl t.lastAddr = some e → 2 ≤ e.distance →
        I (Function.update tbl t.destAddr (some
          ⟨t.destAddr, e.nextAddr, e.interface, e.distance + 1, Origin.topology t⟩))) :
    I (n.topologyTable excluded) := by
  refine (Lib.whileLoop_inv (fun l : TopologyLoop => 2 ≤ l.h ∧ I l.tbl) ?_ _
    ⟨le_refl 2, htwoHop⟩).2
  rintro l ⟨hh, htbl⟩ -
  refine ⟨Nat.le_succ_of_le hh, ?_⟩
  rw [topologyRound_tbl]
  refine Lib.foldl_write_inv _ htbl fun tbl htbl t ht k v hw => ?_
  obtain ⟨hlast, hdest, rfl, e, he, hdist, rfl⟩ := Table.topologyWrite_eq_some hw
  have hfar : 2 ≤ e.distance := hdist ▸ hh
  exact hstep tbl htbl t ht hlast hdest e he hfar

lemma topologyTable_holds {Q : Ipv4Address → RoutingTableEntry → Prop}
    (htwoHop : Holds Q (n.twoHopTable excluded))
    (hstep : ∀ t ∈ n.state.topologySet, t.lastAddr ∉ excluded → ∀ e, 2 ≤ e.distance →
      Q t.lastAddr e →
        Q t.destAddr
          ⟨t.destAddr, e.nextAddr, e.interface, e.distance + 1, Origin.topology t⟩) :
    Holds Q (n.topologyTable excluded) :=
  topologyTable_inv htwoHop fun _ htbl t ht hlast _ e he hfar =>
    htbl.update (hstep t ht hlast e hfar (htbl _ e he))

variable (n) in
/-- The destinations of the topology set that have no entry yet. -/
def unreachedDests (tbl : Table) : Finset Ipv4Address :=
  (n.state.topologySet.map TopologyTuple.destAddr).toFinset.filter fun a => tbl a = none

/-- The loop over the distance has ended: it stops by itself within the rounds it is given. -/
lemma topologyLoop_ended (tbl : Table) : (n.topologyLoop excluded tbl).added = false := by
  refine Lib.whileLoop_exit (fun _ => True)
    (fun l => if l.added then (n.unreachedDests l.tbl).card + 1 else 0) (fun l _ hl => ?_) trivial
    ?_
  · refine ⟨trivial, ?_⟩
    rw [if_pos hl]
    split
    · next hadded =>
      -- The round has reached a destination, and the others keep their entries.
      obtain hfalse | ⟨t, ht, hnone, hsome⟩ := Table.foldl_topologyStep_added _ _ hadded
      · cases hfalse
      · refine Nat.succ_lt_succ (Finset.card_lt_card (Finset.ssubset_iff_of_subset ?_ |>.mpr ?_))
        · intro a ha
          rw [unreachedDests, Finset.mem_filter] at ha ⊢
          exact ⟨ha.1, (topologyRound_keeps l).eq_none ha.2⟩
        · refine ⟨t.destAddr, ?_, fun hmem => ?_⟩
          · exact Finset.mem_filter.mpr ⟨List.mem_toFinset.mpr (List.mem_map_of_mem ht), hnone⟩
          · have hnone' := (Finset.mem_filter.mp hmem).2
            rw [topologyRound_tbl, ← Table.foldl_topologyStep_fst _ (l.tbl, false)] at hnone'
            rw [hnone'] at hsome
            exact absurd hsome (by simp)
    · exact Nat.succ_pos _
  · refine (if_pos rfl).le.trans (Nat.succ_le_succ ?_)
    refine (Finset.card_filter_le _ _).trans ((List.toFinset_card_le _).trans ?_)
    rw [List.length_map]

/-! ### Step 4 -/

lemma coreTable_keeps : Keeps (n.topologyTable excluded) (n.coreTable excluded) := by
  rw [coreTable, Table.ifaceAssocStep_eq]
  refine Keeps.foldl_write (fun _ _ _ _ hw => ?_) _ _
  obtain ⟨hnone, rfl, -⟩ := Table.ifaceAssocWrite_eq_some hw
  exact hnone

lemma coreTable_inv {I : Table → Prop} (htopology : I (n.topologyTable excluded))
    (hstep : ∀ tbl, I tbl → ∀ t ∈ n.state.ifaceAssocSet, tbl t.ifaceAddr = none →
      ∀ e, tbl t.mainAddr = some e →
        I (Function.update tbl t.ifaceAddr (some { e with destAddr := t.ifaceAddr }))) :
    I (n.coreTable excluded) := by
  rw [coreTable, Table.ifaceAssocStep_eq]
  refine Lib.foldl_write_inv _ htopology fun tbl htbl t ht k v hw => ?_
  obtain ⟨hnone, rfl, e, he, rfl⟩ := Table.ifaceAssocWrite_eq_some hw
  exact hstep tbl htbl t ht hnone e he

lemma coreTable_holds {Q : Ipv4Address → RoutingTableEntry → Prop}
    (htopology : Holds Q (n.topologyTable excluded))
    (hstep : ∀ t ∈ n.state.ifaceAssocSet, ∀ e, Q t.mainAddr e →
      Q t.ifaceAddr { e with destAddr := t.ifaceAddr }) :
    Holds Q (n.coreTable excluded) :=
  coreTable_inv htopology fun _ htbl t ht _ e he => htbl.update (hstep t ht e (htbl _ e he))

end Node

end ManetOlsr
