/-
The search for the entry over which a packet is sent.

`FindSendEntry` follows the next addresses of the entries until an entry leads to its own
destination.  The next addresses are interfaces at the other end of a link, for which step 2 has
such a chain of entries.  They keep it as long as step 3 does not overwrite the entry of an
interface, which it does for a 2-hop neighbor that is stored under the address of an interface.
-/
import ManetOlsr.Model.Forwarding
import ManetOlsr.Model.Settled
import ManetOlsr.Properties.SuspectAvoidance

namespace ManetOlsr

open Lib (Holds Keeps)

/-! ### Chains of entries -/

namespace Table

/-- The chain of next addresses from an address ends in an entry that leads to itself. -/
inductive Ends (tbl : Table) : Ipv4Address → Prop where
  | self {a : Ipv4Address} {e : RoutingTableEntry} (he : tbl a = some e)
      (hself : e.destAddr = e.nextAddr) : Ends tbl a
  | next {a : Ipv4Address} {e : RoutingTableEntry} (he : tbl a = some e)
      (hnext : Ends tbl e.nextAddr) : Ends tbl a

variable {tbl : Table} {a : Ipv4Address} {e : RoutingTableEntry}

lemma Ends.isSome (h : tbl.Ends a) : (tbl a).isSome := by
  cases h with
  | self he _ | next he _ => exact Option.isSome_of_mem he

/-- The search from an entry whose chain ends does end, and finds its last entry. -/
lemma Ends.terminates (h : tbl.Ends a) (he : tbl a = some e) :
    Lib.Terminates SendSearch.goesOn (SendSearch.round tbl) ⟨e, false⟩ := by
  induction h generalizing e with
  | self he' hself =>
    obtain rfl := Option.some.inj (he'.symm.trans he)
    exact ⟨0, by simp [SendSearch.goesOn, hself]⟩
  | @next a e' he' hnext ih =>
    obtain rfl := Option.some.inj (he'.symm.trans he)
    obtain ⟨e₂, he₂⟩ := Option.isSome_iff_exists.mp hnext.isSome
    obtain ⟨fuel, hfuel⟩ := ih he₂
    by_cases hself : e'.destAddr = e'.nextAddr
    · exact ⟨0, by simp [SendSearch.goesOn, hself]⟩
    · refine ⟨fuel + 1, ?_⟩
      have hround : SendSearch.round tbl ⟨e', false⟩ = ⟨e₂, false⟩ := by
        rw [SendSearch.round, he₂]
      rw [Lib.whileLoop_of_true (by simp [SendSearch.goesOn, hself]), hround]
      exact hfuel

/-- What the rounds of a search that will end have found. -/
def OnChain (tbl : Table) (x : SendSearch) : Prop :=
  x.failed = false ∧ tbl x.outEntry.destAddr = some x.outEntry ∧ tbl.Ends x.outEntry.destAddr

/-- **The search succeeds** in a table whose entries are stored under their destinations. -/
theorem findSendEntryIn_found (hdest : ∀ a e, tbl a = some e → e.destAddr = a)
    (h : tbl.Ends a) (he : tbl a = some e) :
    ∃ e', findSendEntryIn tbl e = SendEntry.found e' ∧ tbl e'.destAddr = some e' ∧
      e'.destAddr = e'.nextAddr := by
  have hstart : tbl.OnChain ⟨e, false⟩ := by
    refine ⟨rfl, ?_, ?_⟩
    · show tbl e.destAddr = some e
      rw [hdest a e he, he]
    · show tbl.Ends e.destAddr
      rwa [hdest a e he]
  have hround : ∀ x, tbl.OnChain x → x.goesOn = true → tbl.OnChain (x.round tbl) := by
    rintro ⟨e, failed⟩ ⟨hfailed, he, hends⟩ hgoes
    have hfailed' : failed = false := hfailed
    subst hfailed'
    cases hends with
    | self he' hself =>
      obtain rfl := Option.some.inj (he'.symm.trans he)
      simp [SendSearch.goesOn, hself] at hgoes
    | @next _ e' he' hnext =>
      obtain rfl := Option.some.inj (he'.symm.trans he)
      obtain ⟨e₂, he₂⟩ := Option.isSome_iff_exists.mp hnext.isSome
      have hfound : SendSearch.round tbl ⟨e', false⟩ = ⟨e₂, false⟩ := by
        rw [SendSearch.round, he₂]
      rw [hfound]
      refine ⟨rfl, ?_, ?_⟩
      · show tbl e₂.destAddr = some e₂
        rw [hdest _ e₂ he₂, he₂]
      · show tbl.Ends e₂.destAddr
        rwa [hdest _ e₂ he₂]
  -- There are as many rounds as addresses, and no address is visited twice.
  have hended := (h.terminates he).within_card (κ := Fin (2 ^ 32))
    (fun x => x.outEntry.destAddr.toFin) tbl.OnChain hround
    (by
      rintro ⟨e₁, f₁⟩ ⟨e₂, f₂⟩ ⟨hf₁, he₁, -⟩ ⟨hf₂, he₂, -⟩ hsame
      have haddr : e₁.destAddr = e₂.destAddr := UInt32.toFin_inj.mp hsame
      have hentry : e₁ = e₂ := by
        have he₁' : tbl e₂.destAddr = some e₁ := haddr ▸ he₁
        exact Option.some.inj (he₁'.symm.trans he₂)
      have hflag : f₁ = f₂ := (show f₁ = false from hf₁).trans (show f₂ = false from hf₂).symm
      rw [hentry, hflag]) hstart
  rw [Fintype.card_fin] at hended
  obtain ⟨hfailed, hmem, -⟩ := Lib.whileLoop_inv tbl.OnChain hround (2 ^ 32) hstart
  rw [findSendEntryIn]
  generalize Lib.whileLoop SendSearch.goesOn (SendSearch.round tbl) (2 ^ 32) ⟨e, false⟩ = x
    at hended hfailed hmem
  simp only [hended, hfailed]
  refine ⟨x.outEntry, rfl, hmem, ?_⟩
  simpa [SendSearch.goesOn, hfailed] using hended

/-- A new entry leaves the chains ending if its own chain ends. -/
lemma Ends.update {b : Ipv4Address} {v : RoutingTableEntry}
    (hnew : Ends (Function.update tbl b (some v)) b) (h : tbl.Ends a) :
    Ends (Function.update tbl b (some v)) a := by
  induction h with
  | @self a e he hself =>
    by_cases hab : a = b
    · rwa [hab]
    · exact .self (by rwa [Function.update_of_ne hab]) hself
  | @next a e he _ ih =>
    by_cases hab : a = b
    · rwa [hab]
    · exact .next (by rwa [Function.update_of_ne hab]) ih

/-- All the chains of a table end. -/
def AllEnd (tbl : Table) : Prop := ∀ a, (tbl a).isSome → tbl.Ends a

lemma AllEnd.update {b : Ipv4Address} {v : RoutingTableEntry} (h : tbl.AllEnd)
    (hnew : Ends (Function.update tbl b (some v)) b) :
    AllEnd (Function.update tbl b (some v)) := by
  intro a ha
  by_cases hab : a = b
  · rwa [hab]
  · rw [Function.update_of_ne hab] at ha
    exact Ends.update hnew (h a ha)

/-- An address has an entry that leads to itself. -/
def LeadsToItself (tbl : Table) (a : Ipv4Address) : Prop :=
  ∃ e, tbl a = some e ∧ e.destAddr = e.nextAddr

lemma LeadsToItself.update {b : Ipv4Address} {v : RoutingTableEntry}
    (h : tbl.LeadsToItself a ∨ a = b) (hself : v.destAddr = v.nextAddr) :
    LeadsToItself (Function.update tbl b (some v)) a := by
  by_cases hab : a = b
  · subst hab
    exact ⟨v, Function.update_self _ _ _, hself⟩
  · obtain ⟨e, he, heself⟩ := h.resolve_right hab
    exact ⟨e, by rwa [Function.update_of_ne hab], heself⟩

end Table

namespace Node

variable {D : Type} {n : Node D} {excluded : Finset Ipv4Address}

/-! ### Step 2 -/

lemma foldl_addLinkEntry_leadsToItself {a : Ipv4Address} (links : List LinkTuple) {tbl : Table}
    (h : tbl.LeadsToItself a ∨ ∃ l ∈ links, a = l.neighborIfaceAddr) :
    Table.LeadsToItself (links.foldl n.addLinkEntry tbl) a := by
  induction links generalizing tbl with
  | nil => simpa using h
  | cons l links ih =>
    rw [List.foldl_cons]
    refine ih ?_
    rcases h with hself | ⟨l', hl', ha⟩
    · exact Or.inl (Table.LeadsToItself.update (Or.inl hself) rfl)
    · rcases List.mem_cons.mp hl' with rfl | hl'
      · exact Or.inl (Table.LeadsToItself.update (Or.inr ha) rfl)
      · exact Or.inr ⟨l', hl', ha⟩

lemma foldl_addLinkEntry_allEnd (links : List LinkTuple) {tbl : Table} (h : tbl.AllEnd) :
    Table.AllEnd (links.foldl n.addLinkEntry tbl) := by
  refine List.foldlRecOn links n.addLinkEntry h fun tbl htbl l _ => ?_
  exact htbl.update (.self (Function.update_self _ _ _) rfl)

/-- The main address of a neighbor gets an entry to one of its interfaces. -/
lemma neighborStep_allEnd {tbl : Table} (h : tbl.AllEnd) (nb : NeighborTuple) :
    Table.AllEnd (n.neighborStep excluded tbl nb) := by
  rw [neighborStep]
  split
  · exact h
  · split
    · have hlinks := foldl_addLinkEntry_allEnd (n := n) (n.neighborLinks nb) h
      rw [addMainAddressEntry]
      split
      · next lt hlast =>
        split
        · exact hlinks
        · next hnot =>
          have hlt : lt ∈ n.neighborLinks nb := List.mem_of_getLast? hlast
          have hne : lt.neighborIfaceAddr ≠ nb.neighborMainAddr := by
            intro heq
            exact hnot (List.any_eq_true.mpr ⟨lt, hlt, by simp [heq]⟩)
          obtain ⟨e, he, hself⟩ : Table.LeadsToItself
              ((n.neighborLinks nb).foldl n.addLinkEntry tbl) lt.neighborIfaceAddr :=
            foldl_addLinkEntry_leadsToItself _ (Or.inr ⟨lt, hlt, rfl⟩)
          refine hlinks.update (.next (Function.update_self _ _ _) (.self ?_ hself))
          rw [Function.update_of_ne hne]
          exact he
      · exact hlinks
    · exact h

lemma neighborTable_allEnd : Table.AllEnd (n.neighborTable excluded) :=
  List.foldlRecOn n.state.neighborSet (n.neighborStep excluded) (fun a ha => by simp at ha)
    fun _ htbl nb _ => neighborStep_allEnd htbl nb

/-! ### Next addresses -/

variable (n excluded) in
/-- An interface at the other end of a link that step 2 uses. -/
def LinkIface (a : Ipv4Address) : Prop :=
  ∃ nb l, n.ReachesNeighbor excluded nb l ∧ a = l.neighborIfaceAddr

lemma neighborTable_next :
    Holds (fun a e => e.destAddr = a ∧ n.LinkIface excluded e.nextAddr)
      (n.neighborTable excluded) :=
  neighborTable_holds fun nb l _ hreach _ => ⟨rfl, nb, l, hreach, rfl⟩

/-- Entries are stored under their destinations, and the next addresses are interfaces. -/
lemma coreTable_next :
    Holds (fun a e => e.destAddr = a ∧ n.LinkIface excluded e.nextAddr)
      (n.coreTable excluded) := by
  refine coreTable_holds (topologyTable_holds (twoHopTable_holds neighborTable_next ?_) ?_) ?_
  · exact fun t _ _ e he => ⟨rfl, he.2⟩
  · exact fun t _ _ e _ he => ⟨rfl, he.2⟩
  · exact fun t _ e he => ⟨rfl, he.2⟩

lemma LinkIface.isSome {a : Ipv4Address} (h : n.LinkIface excluded a) :
    (n.neighborTable excluded a).isSome := by
  obtain ⟨nb, l, hreach, rfl⟩ := h
  exact isSome_neighborTable_iff.mpr ⟨nb, l, hreach, Or.inl rfl⟩

lemma ReachesNeighbor.mono {nb : NeighborTuple} {l : LinkTuple}
    (h : n.ReachesNeighbor excluded nb l) : n.ReachesNeighbor ∅ nb l :=
  ⟨h.mem, Finset.notMem_empty _, h.sym, h.link⟩

lemma LinkIface.mono {a : Ipv4Address} (h : n.LinkIface excluded a) : n.LinkIface ∅ a := by
  obtain ⟨nb, l, hreach, ha⟩ := h
  exact ⟨nb, l, hreach.mono, ha⟩

lemma Known.mono {ts : List TwoHopNeighborTuple} {a : Ipv4Address} (h : n.Known excluded ts a) :
    n.Known ∅ ts a := by
  induction h with
  | neighbor hreach ha => exact .neighbor hreach.mono ha
  | twoHop husable _ ih => exact .twoHop husable ih

/-! ### Step 3 -/

variable (n) in
/-- No 2-hop tuple that step 3 uses has the interface of a link for its 2-hop neighbor. -/
def TwoHopsOffLinks : Prop :=
  ∀ pre t post, n.state.twoHopNeighborSet = pre ++ t :: post → n.usableTwoHop t = true →
    n.Known ∅ pre t.neighborMainAddr → ¬ n.LinkIface ∅ t.twoHopNeighborAddr

/-- The later steps keep the entries of the interfaces then. -/
lemma coreTable_linkIface (h : n.TwoHopsOffLinks) {a : Ipv4Address} {e : RoutingTableEntry}
    (ha : n.LinkIface excluded a) (he : n.neighborTable excluded a = some e) :
    n.coreTable excluded a = some e := by
  have htwoHop : n.twoHopTable excluded a = some e := by
    rw [twoHopTable, twoHopStep_eq]
    rcases Lib.foldl_write_cases n.twoHopWrite n.state.twoHopNeighborSet
      (n.neighborTable excluded) a with ⟨hsame, -⟩ | ⟨pre, t, post, v, hts, hw, -, -⟩
    · rw [hsame, he]
    · obtain ⟨husable, hknown, rfl⟩ := exists_twoHopWrite_iff.mp ⟨v, hw⟩
      exact absurd ha.mono (h pre t post hts husable hknown.mono)
  exact coreTable_keeps _ _ (topologyTable_keeps _ _ htwoHop)

lemma coreTable_allEnd (h : n.TwoHopsOffLinks) : Table.AllEnd (n.coreTable excluded) := by
  -- The chain of an interface goes through interfaces only, whose entries are kept.
  have hiface : ∀ a, Table.Ends (n.neighborTable excluded) a → n.LinkIface excluded a →
      Table.Ends (n.coreTable excluded) a := by
    intro a hends
    induction hends with
    | self he hself => exact fun ha => .self (coreTable_linkIface h ha he) hself
    | next he _ ih =>
      exact fun ha => .next (coreTable_linkIface h ha he) (ih (neighborTable_next _ _ he).2)
  intro a ha
  obtain ⟨e, he⟩ := Option.isSome_iff_exists.mp ha
  have hnext : n.LinkIface excluded e.nextAddr := (coreTable_next a e he).2
  exact .next he (hiface _ (neighborTable_allEnd _ hnext.isSome) hnext)

/-! ### Runs -/

/-- The search for the send entry succeeds for every entry of a table. -/
def Resolves (tbl : Table) : Prop :=
  ∀ a e, tbl a = some e →
    ∃ e', findSendEntryIn tbl e = SendEntry.found e' ∧ e'.destAddr = e'.nextAddr

lemma coreTable_resolves (h : n.TwoHopsOffLinks) : Resolves (n.coreTable excluded) := by
  intro a e he
  obtain ⟨e', hfound, -, hself⟩ := Table.findSendEntryIn_found
    (fun a e he => (coreTable_next a e he).1) (coreTable_allEnd h a (Option.isSome_of_mem he)) he
  exact ⟨e', hfound, hself⟩

variable [OlsrDefenseStrategy D]

/-- **Step lemma.**  The tables go on resolving if the computations find no 2-hop neighbor that is
the interface of a link. -/
lemma perform_resolves (h : Resolves n.table ∧ Resolves n.tableAvoidingSuspects) {a : Act D}
    (ha : ∀ c ∈ n.computing a, c.TwoHopsOffLinks) :
    Resolves (n.perform a).table ∧ Resolves (n.perform a).tableAvoidingSuspects := by
  have htables := n.perform_tables a
  suffices hsuff : Resolves (n.perform a).tables.1 ∧ Resolves (n.perform a).tables.2 from hsuff
  rw [htables]
  cases hc : n.computing a with
  | none => exact h
  | some c =>
    have hoff : c.TwoHopsOffLinks := ha c hc
    show Resolves c.routingTableComputation.tables.1 ∧ Resolves c.routingTableComputation.tables.2
    rw [c.routingTableComputation_tables]
    exact ⟨coreTable_resolves hoff, coreTable_resolves hoff⟩

/-- A node starts with empty tables. -/
lemma doInitialize_tables (c : Config D) (jitter : Time) :
    (c.node.doInitialize jitter).tables = (fun _ => none, fun _ => none) := by
  have hdefense : c.node.startDefense.tables = (fun _ => none, fun _ => none) := by
    simp only [startDefense]
    split <;> rfl
  simp only [doInitialize]
  split
  · have hsettled := settled_ignoresMessages (D := D)
    rw [tables_of_settled (hsettled.hnaTimerExpire _), tables_of_settled (hsettled.midTimerExpire _),
      tcTimerExpire_tables, tables_of_settled (hsettled.helloTimerExpire _), hdefense]
  · exact hdefense

end Node

/-- **The send entries are found.**  In every run whose computations of the routing tables find no
2-hop neighbor that is stored under the interface of a link, the search for the send entry ends
for every entry of both tables of every node of the run, with an entry that leads to its own
destination. -/
theorem sendEntries_found {D : Type} [OlsrDefenseStrategy D] (r : Run D)
    (h : ∀ x ∈ r.trace, ∀ c ∈ x.1.computing x.2, c.TwoHopsOffLinks) :
    ∀ n ∈ r.nodes, ∀ tbl, tbl = n.table ∨ tbl = n.tableAvoidingSuspects →
      ∀ a e, tbl a = some e →
        ∃ e', findSendEntryIn tbl e = SendEntry.found e' ∧ e'.destAddr = e'.nextAddr := by
  have hresolves := r.nodes_inv
    (I := fun n => Node.Resolves n.table ∧ Node.Resolves n.tableAvoidingSuspects) ?_
    (fun n a _ hn ha => Node.perform_resolves hn ha) h
  · rintro n hn tbl (rfl | rfl)
    · exact (hresolves n hn).1
    · exact (hresolves n hn).2
  · have htables := Node.doInitialize_tables r.config r.jitter
    have hempty : Node.Resolves fun _ => none := fun _ _ he => by cases he
    have htable : r.start.table = fun _ => none := congrArg Prod.fst htables
    have havoiding : r.start.tableAvoidingSuspects = fun _ => none := congrArg Prod.snd htables
    rw [htable, havoiding]
    exact ⟨hempty, hempty⟩

/-- It is enough that no 2-hop neighbor is the interface of a link. -/
lemma Node.TwoHopsOffLinks.of_ne {D : Type} {n : Node D}
    (h : ∀ t ∈ n.state.twoHopNeighborSet, ∀ l ∈ n.state.linkSet,
      t.twoHopNeighborAddr ≠ l.neighborIfaceAddr) : n.TwoHopsOffLinks := by
  rintro pre t post hts - - ⟨nb, l, hreach, heq⟩
  refine h t ?_ l (Node.mem_neighborLinks.mp hreach.link).1 heq
  rw [hts]
  exact List.mem_append_right _ List.mem_cons_self

section Examples

open Scenario

/-- A neighbor and a node behind it. -/
def oneBehind : Run OlsrDefenseNull where
  config := quiet
  jitter := 0
  labels := [recv 0 2 (hello 2 [symLinks [1, 4]])]
  isJitter := quiet_isJitter
  isRun := by decide +kernel

theorem sendEntries_found_oneBehind :
    ∃ e', findSendEntryIn oneBehind.final.table ⟨4, 2, 0, 2, .twoHop ⟨2, 4, Seconds 2⟩⟩ =
      SendEntry.found e' ∧ e'.destAddr = e'.nextAddr := by
  have hoff : ∀ x ∈ oneBehind.trace, ∀ c ∈ x.1.computing x.2,
      ∀ t ∈ c.state.twoHopNeighborSet, ∀ l ∈ c.state.linkSet,
        t.twoHopNeighborAddr ≠ l.neighborIfaceAddr := by
    decide +kernel
  exact sendEntries_found oneBehind (fun x hx c hc => .of_ne (hoff x hx c hc)) oneBehind.final
    (List.mem_append_right _ List.mem_cons_self) _ (Or.inl rfl) 4 _ (by decide +kernel)

/-- The neighbors 2 and 3 have the interfaces 12 and 13.  MID messages announce 22 and 23 for
interfaces of 12 and 13, so that the 2-hop neighbors that 3 and 2 announce are stored as 12 and
13. -/
def crossedInterfaces : Run OlsrDefenseNull where
  config := quiet
  jitter := 0
  labels := [recv 0 12 (hello 2 [symLinks [1]]), recv 0 13 (hello 3 [symLinks [1]]),
    recv 0 12 (flooded 2 1 (.mid ⟨[12]⟩)), recv 0 13 (flooded 3 1 (.mid ⟨[13]⟩)),
    recv 0 12 (flooded 12 1 (.mid ⟨[22]⟩)), recv 0 13 (flooded 13 1 (.mid ⟨[23]⟩)),
    recv 0 13 (hello 3 [symLinks [1, 22]]), recv 0 12 (hello 2 [symLinks [1, 23]])]
  isJitter := quiet_isJitter
  isRun := by decide +kernel

/-- The entries of the interfaces 12 and 13 point at each other, and the search for the send entry
of node 2 goes from one to the other for ever. -/
theorem crossedInterfaces_endless :
    Reachable crossedInterfaces.final ∧
    ∃ e, crossedInterfaces.final.table 2 = some e ∧
      ¬ Lib.Terminates SendSearch.goesOn (SendSearch.round crossedInterfaces.final.table)
        ⟨e, false⟩ ∧
      findSendEntryIn crossedInterfaces.final.table e = SendEntry.endless := by
  let e₂ : RoutingTableEntry :=
    ⟨2, 12, 0, 1, .link ⟨1, 12, Seconds 2, Seconds 2, Seconds 302⟩⟩
  let e₁₂ : RoutingTableEntry := ⟨12, 13, 0, 2, .twoHop ⟨3, 12, Seconds 2⟩⟩
  let e₁₃ : RoutingTableEntry := ⟨13, 12, 0, 2, .twoHop ⟨2, 13, Seconds 2⟩⟩
  have h₂ : crossedInterfaces.final.table 2 = some e₂ := by decide +kernel
  have h₁₂ : crossedInterfaces.final.table 12 = some e₁₂ := by decide +kernel
  have h₁₃ : crossedInterfaces.final.table 13 = some e₁₃ := by decide +kernel
  have hgoes : ∀ fuel, (Lib.whileLoop SendSearch.goesOn
      (SendSearch.round crossedInterfaces.final.table) fuel ⟨e₂, false⟩).goesOn = true := by
    intro fuel
    let onCycle : SendSearch → Prop :=
      fun x => x = ⟨e₂, false⟩ ∨ x = ⟨e₁₂, false⟩ ∨ x = ⟨e₁₃, false⟩
    have hinv : onCycle (Lib.whileLoop SendSearch.goesOn
        (SendSearch.round crossedInterfaces.final.table) fuel ⟨e₂, false⟩) := by
      refine Lib.whileLoop_inv onCycle ?_ fuel (Or.inl rfl)
      rintro x (rfl | rfl | rfl) -
      · exact Or.inr (Or.inl (by rw [SendSearch.round, show e₂.nextAddr = 12 from rfl, h₁₂]))
      · exact Or.inr (Or.inr (by rw [SendSearch.round, show e₁₂.nextAddr = 13 from rfl, h₁₃]))
      · exact Or.inr (Or.inl (by rw [SendSearch.round, show e₁₃.nextAddr = 12 from rfl, h₁₂]))
    rcases hinv with h | h | h <;> rw [h] <;> rfl
  refine ⟨⟨crossedInterfaces, rfl⟩, e₂, h₂, fun ⟨fuel, hfuel⟩ => ?_, ?_⟩
  · exact absurd (hfuel.symm.trans (hgoes fuel)) Bool.false_ne_true
  · simp only [findSendEntryIn, hgoes, if_true]

end Examples

end ManetOlsr
