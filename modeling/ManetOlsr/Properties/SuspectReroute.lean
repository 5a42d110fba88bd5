/-
Where packets go when the next hop is a suspect.

`RouteOutput` and `RouteInput` look into two tables that were computed before.  As long as nothing
has happened since that the computation would see, the second table is what the core finds without
the suspects now, and the code does what it says, provided that the blacklist tells the interfaces
of suspects by their main addresses: the core leaves neighbors out by main address, whereas next
hops are interfaces.
-/
import ManetOlsr.Model.Scenario
import ManetOlsr.Properties.SendEntries

namespace ManetOlsr

open Lib (Holds Keeps)

/-- The search for the send entry does not fail if the next addresses have entries, and what it
finds is an entry of the table. -/
lemma findSendEntryIn_entry {tbl : Table} (hnext : ∀ a e, tbl a = some e → (tbl e.nextAddr).isSome)
    {a : Ipv4Address} {e : RoutingTableEntry} (he : tbl a = some e) :
    findSendEntryIn tbl e ≠ SendEntry.failure ∧
      ∀ e', findSendEntryIn tbl e = SendEntry.found e' → ∃ b, tbl b = some e' := by
  have hround : ∀ x : SendSearch, (x.failed = false ∧ ∃ b, tbl b = some x.outEntry) →
      x.goesOn = true → (x.round tbl).failed = false ∧ ∃ b, tbl b = some (x.round tbl).outEntry := by
    rintro x ⟨hfailed, b, hb⟩ -
    obtain ⟨e₂, he₂⟩ := Option.isSome_iff_exists.mp (hnext b _ hb)
    rw [SendSearch.round, he₂]
    exact ⟨hfailed, _, he₂⟩
  obtain ⟨hfailed, hentry⟩ := Lib.whileLoop_inv
    (fun x : SendSearch => x.failed = false ∧ ∃ b, tbl b = some x.outEntry) hround (2 ^ 32)
    (s := ⟨e, false⟩) ⟨rfl, a, he⟩
  rw [findSendEntryIn]
  generalize Lib.whileLoop SendSearch.goesOn (SendSearch.round tbl) (2 ^ 32) ⟨e, false⟩ = x
    at hfailed hentry
  simp only [hfailed]
  cases x.goesOn with
  | true => simp
  | false =>
    refine ⟨by simp, fun e' he' => ?_⟩
    have hfound : x.outEntry = e' := by simpa using he'
    exact hfound ▸ hentry

/-- The packet of an input. -/
def Input.packet {D : Type} : Input D → Option DataPacket
  | routeOutput _ p _ | routeInput _ p _ _ => some p
  | _ => none

namespace Node

section Tables

variable {D : Type} {n : Node D} {suspects : Finset Ipv4Address}

/-! ### The destinations of the tables -/

/-- The later steps keep the destinations of step 3. -/
lemma coreTable_isSome {a : Ipv4Address} (h : n.Known suspects n.state.twoHopNeighborSet a) :
    (n.coreTable suspects a).isSome := by
  obtain ⟨e, he⟩ := Option.isSome_iff_exists.mp (known_iff.mp h)
  exact Option.isSome_of_mem (coreTable_keeps _ _ (topologyTable_keeps _ _ he))

lemma coreTable_nextSome (a : Ipv4Address) (e : RoutingTableEntry)
    (he : n.coreTable suspects a = some e) : (n.coreTable suspects e.nextAddr).isSome := by
  obtain ⟨-, nb, l, hreach, hnext⟩ := coreTable_next a e he
  exact coreTable_isSome (.neighbor hreach (Or.inl hnext))

/-- The gateways of the table without the suspects are interfaces of other neighbors. -/
lemma coreTable_gateway {a : Ipv4Address} {e : RoutingTableEntry}
    (he : n.coreTable suspects a = some e) :
    n.LinkIface ∅ e.nextAddr ∧ n.getMainAddress e.nextAddr ∉ suspects :=
  ⟨(coreTable_next a e he).2.mono, (coreTable_nextHop a e he).1⟩

/-- What is reached without the suspects is in the routing table, if the tuples that start in the
routing table have been followed. -/
lemma coreTable_subset
    (htopology : ∀ t ∈ n.state.topologySet, (n.coreTable ∅ t.lastAddr).isSome →
      (n.coreTable ∅ t.destAddr).isSome)
    (hassoc : ∀ t ∈ n.state.ifaceAssocSet, (n.coreTable ∅ t.mainAddr).isSome →
      (n.coreTable ∅ t.ifaceAddr).isSome) {a : Ipv4Address}
    (ha : n.coreTable ∅ a = none) : n.coreTable suspects a = none := by
  have hnear : Holds (fun b _ => (n.coreTable ∅ b).isSome) (n.twoHopTable suspects) := by
    intro b e he
    have hknown : n.Known suspects n.state.twoHopNeighborSet b :=
      known_iff.mpr (Option.isSome_of_mem he)
    exact coreTable_isSome hknown.mono
  have hall : Holds (fun b _ => (n.coreTable ∅ b).isSome) (n.coreTable suspects) :=
    coreTable_holds (topologyTable_holds hnear fun t ht _ _ _ hlast => htopology t ht hlast)
      fun t ht _ hmain => hassoc t ht hmain
  cases hsome : n.coreTable suspects a with
  | none => rfl
  | some e =>
    have hset : (n.coreTable ∅ a).isSome := hall a e hsome
    rw [ha] at hset
    cases hset

/-- The tables of a node that has no neighbors are empty. -/
lemma coreTable_of_noNeighbors (h : n.state.neighborSet = []) :
    n.coreTable suspects = fun _ => none := by
  have hempty : Holds (fun _ _ => False) (n.coreTable suspects) := by
    refine coreTable_holds (topologyTable_holds (twoHopTable_holds (neighborTable_holds ?_) ?_) ?_)
      ?_
    · intro nb l dest hreach _
      have hmem := hreach.mem
      rw [h] at hmem
      cases hmem
    · exact fun t _ _ e he => he
    · exact fun t _ _ e _ he => he
    · exact fun t _ e he => he
  funext a
  cases ha : n.coreTable suspects a with
  | none => rfl
  | some e => exact (hempty a e ha).elim

end Tables

section View

variable {D : Type} [OlsrDefenseStrategy D] (n : Node D)

/-! ### Tables that are up to date -/

/-- The tables are those that a computation would leave now. -/
def UpToDate : Prop := n.tables = (n.coreTable ∅, n.coreTable n.getBlacklist)

/-- A computation sees the same in two nodes. -/
structure SameView (n n' : Node D) : Prop where
  coreTable : ∀ suspects, n'.coreTable suspects = n.coreTable suspects
  blacklist : n'.getBlacklist = n.getBlacklist

variable {n}

lemma SameView.of_fixed {n' : Node D} (hfixed : n'.fixed = n.fixed) (hstate : n'.state = n.state)
    (hdefense : n'.defenseStrategy = n.defenseStrategy) : SameView n n' where
  coreTable := congrFun (coreTable_congr hfixed hstate)
  blacklist := getBlacklist_congr hfixed hdefense

lemma UpToDate.of_sameView {n' : Node D} (h : n.UpToDate) (hview : SameView n n')
    (htables : n'.tables = n.tables) : n'.UpToDate := by
  rw [UpToDate, htables, h, hview.coreTable, hview.coreTable, hview.blacklist]

lemma routingTableComputation_upToDate : n.routingTableComputation.UpToDate := by
  have hdefense : n.routingTableComputation.defenseStrategy = n.defenseStrategy := by
    simp only [routingTableComputation]
    split <;> rfl
  have hview : SameView n n.routingTableComputation :=
    .of_fixed n.routingTableComputation_fixed n.routingTableComputation_state hdefense
  rw [UpToDate, n.routingTableComputation_tables, hview.coreTable, hview.coreTable, hview.blacklist]

lemma doInitialize_upToDate (c : Config D) (jitter : Time) :
    (c.node.doInitialize jitter).UpToDate := by
  have hnone : (c.node.doInitialize jitter).state.neighborSet = [] := by
    rw [doInitialize_state]
    rfl
  rw [UpToDate, doInitialize_tables, coreTable_of_noNeighbors hnone, coreTable_of_noNeighbors hnone]

/-! ### Labels -/

variable (n) in
/-- A label after which the tables have been computed: the reception of a packet, or the timer of a
link that is lost. -/
def Recomputes : Label D → Prop
  | .recvOlsr _ recvInterface senderIface _ _ =>
    recvInterface < n.interfaces.length ∧ n.acceptsFrom recvInterface senderIface = true
  | .timer t (.linkTupleTimerExpire a) _ =>
    (((n.perform (.advance t)).dequeue t (.linkTupleTimerExpire a)).losing a).isSome = true
  | _ => False

/-- The tables are up to date when the timer of a lost link has fired. -/
lemma linkTupleTimerExpire_upToDate {a : Ipv4Address} (h : (n.losing a).isSome = true) :
    (n.linkTupleTimerExpire a).UpToDate := by
  cases hfind : n.state.findLinkTuple a with
  | none => simp [losing, hfind] at h
  | some tuple =>
    by_cases htime : tuple.time < n.now
    · simp [losing, hfind, htime] at h
    · by_cases hsym : tuple.symTime < n.now ∧ n.linkTupleTimerFirstTime = false
      · have hlost : n.linkTupleTimerExpire a = (n.neighborLoss tuple).schedule
            ((n.neighborLoss tuple).delay tuple.time) (Event.linkTupleTimerExpire a) := by
          simp only [linkTupleTimerExpire, hfind, if_neg htime, if_pos hsym.1, hsym.2]
          rfl
        have hcomputed : (n.neighborLoss tuple).UpToDate := routingTableComputation_upToDate
        rw [hlost]
        generalize n.neighborLoss tuple = lost at hcomputed
        exact hcomputed.of_sameView (.of_fixed rfl rfl rfl) rfl
      · simp [losing, hfind, htime, hsym] at h

/-- The last act of a reception computes the tables. -/
lemma recvOlsr_upToDate {t : Time} {recvInterface : ℕ} {senderIface : Ipv4Address}
    {messages : List MessageHeader} {jitter : Time}
    (h : n.Recomputes (.recvOlsr t recvInterface senderIface messages jitter)) :
    (n.step (.recvOlsr t recvInterface senderIface messages jitter)).fatalError = true ∨
      (n.step (.recvOlsr t recvInterface senderIface messages jitter)).UpToDate := by
  obtain ⟨hiface, haccepts⟩ := h
  obtain ⟨iface, hget⟩ : ∃ iface, n.interfaces[recvInterface]? = some iface :=
    ⟨_, List.getElem?_eq_getElem hiface⟩
  have hacts : n.acts (.recvOlsr t recvInterface senderIface messages jitter) =
      (Act.advance t :: messages.map fun msg =>
        Act.recvMessage msg iface.address senderIface jitter) ++ [Act.routingTableComputation] := by
    simp only [acts, recvOlsrActs, hget, haccepts, if_true, List.cons_append]
    rfl
  rw [step, hacts, Lib.run_append, Lib.run_cons, Lib.run_nil]
  generalize Lib.run exec n (Act.advance t :: messages.map fun msg =>
    Act.recvMessage msg iface.address senderIface jitter) = m
  cases hm : m.fatalError with
  | true =>
    left
    rw [exec, if_pos hm, hm]
  | false =>
    right
    rw [exec, if_neg (by simp [hm])]
    exact routingTableComputation_upToDate

/-- A label that computes the tables leaves them up to date. -/
lemma step_upToDate {l : Label D} (h : n.Recomputes l) :
    (n.step l).fatalError = true ∨ (n.step l).UpToDate := by
  cases l with
  | recvOlsr => exact recvOlsr_upToDate h
  | timer t e jitter =>
    cases e with
    | linkTupleTimerExpire a =>
      cases hn : n.fatalError with
      | true =>
        left
        rw [step, run_stopped hn, hn]
      | false =>
        right
        have hstep : n.step (.timer t (.linkTupleTimerExpire a) jitter) =
            (n.perform (.advance t)).perform (.fire t (.linkTupleTimerExpire a) jitter) := by
          show (n.exec (Act.advance t)).exec (Act.fire t (.linkTupleTimerExpire a) jitter) = _
          have hfirst : n.exec (Act.advance t) = n.perform (Act.advance t) := if_neg (by simp [hn])
          have hrunning : (n.perform (Act.advance t)).fatalError = false := hn
          rw [hfirst]
          exact if_neg (by simp [hrunning])
        rw [hstep]
        exact linkTupleTimerExpire_upToDate h
    | _ => exact absurd h id
  | _ => exact absurd h id

lemma exec_tables {a : Act D} (h : n.computing a = none) : (n.exec a).tables = n.tables := by
  rw [exec]
  split
  · rfl
  · rw [perform_tables, h]
    rfl

/-- A label that does not compute the tables leaves them alone. -/
lemma step_tables {l : Label D} (h : ¬ n.Recomputes l) : (n.step l).tables = n.tables := by
  have hadv : ∀ t, (n.exec (Act.advance t)).tables = n.tables := fun t => exec_tables rfl
  cases l with
  | recvOlsr t recvInterface senderIface messages jitter =>
    have hacts : n.recvOlsrActs recvInterface senderIface messages jitter = [] := by
      rw [recvOlsrActs]
      split
      · rfl
      · next iface hget =>
        refine if_neg fun haccepts => h ⟨?_, haccepts⟩
        exact (List.getElem?_eq_some_iff.mp hget).1
    show (Lib.run exec (n.exec (Act.advance t))
      (n.recvOlsrActs recvInterface senderIface messages jitter)).tables = n.tables
    rw [hacts]
    exact hadv t
  | timer t e jitter =>
    show ((n.exec (Act.advance t)).exec (Act.fire t e jitter)).tables = n.tables
    cases hn : n.fatalError with
    | true =>
      have hstopped : n.exec (Act.advance t) = n := if_pos hn
      rw [hstopped, exec, if_pos hn]
    | false =>
      have hrunning : n.exec (Act.advance t) = n.perform (Act.advance t) := if_neg (by simp [hn])
      rw [hrunning]
      refine exec_tables ?_
      cases e with
      | linkTupleTimerExpire a => exact Option.not_isSome_iff_eq_none.mp h
      | _ => rfl
  | _ => exact (exec_tables rfl).trans (hadv _)

end View

section Packets

variable {D : Type} [OlsrDefenseDataHooks D] (ipv4 : Ipv4L3Protocol) (n : Node D)

/-! ### Data packets -/

/-- The node as it looks for a route for a packet of another node, after the strategy has been told
of the packet. -/
def notified (p : DataPacket) (iif : ℕ) : Node D :=
  if n.isMyOwnAddress p.source || ipv4.isDestinationAddress p.destination iif || n.isMalicious then n
  else
    match n.table p.destination with
    | some entry1 =>
      match findSendEntryIn n.table entry1 with
      | .found entry2 =>
        n.mapDefense fun d =>
          OlsrDefenseDataHooks.onDataPacketReceived d n.now n.state p entry2.nextAddr
      | _ => n
    | none => n

/-- The node that chooses a gateway. -/
def choosing : Input D → Node D
  | .routeOutput t _ _ => n.perform (.advance t)
  | .routeInput t p iif _ => (n.perform (.advance t)).notified ipv4 p iif
  | _ => n

/-- An address belongs to a node that is on the blacklist under some address. -/
def Suspected (a : Ipv4Address) : Prop :=
  ∃ b ∈ n.getBlacklist, n.getMainAddress b = n.getMainAddress a

/-- What the reroute relies on: the strategy tells the interfaces of suspects, and has their main
addresses on its blacklist, and a destination that is not in the routing table does not come into
the other table by a tuple that the routing table has not followed. -/
structure Distinguishes (dest : Ipv4Address) : Prop where
  judged : ∀ a, n.LinkIface ∅ a → n.Suspected a →
    n.suspects a = true ∧ n.getMainAddress a ∈ n.getBlacklist
  topology : n.table dest = none → ∀ t ∈ n.state.topologySet, (n.table t.lastAddr).isSome →
    (n.table t.destAddr).isSome
  ifaceAssoc : n.table dest = none → ∀ t ∈ n.state.ifaceAssocSet, (n.table t.mainAddr).isSome →
    (n.table t.ifaceAddr).isSome

variable {n}

lemma notified_eq_mapDefense (p : DataPacket) (iif : ℕ) :
    ∃ f, n.notified ipv4 p iif = n.mapDefense f := by
  have hself : ∃ f, n = n.mapDefense f := ⟨id, by simp [mapDefense]⟩
  rw [notified]
  split
  · exact hself
  · split
    · split
      · exact ⟨_, rfl⟩
      · exact hself
    · exact hself

/-- A suspect that is the gateway of a route from one of the tables was the last resort. -/
lemma sendVia_gateway {p : DataPacket} {entry2 : RoutingTableEntry} {a : Ipv4Address}
    (hn : n.UpToDate) (hd : n.Distinguishes p.destination) (hentry : n.table a = some entry2)
    {r : Ipv4Route} (hr : (n.sendVia p entry2).2 = Choice.route r) (hsusp : n.Suspected r.gateway) :
    n.coreTable n.getBlacklist p.destination = none := by
  have htable : n.table = n.coreTable ∅ := congrArg Prod.fst hn
  have havoid : n.tableAvoidingSuspects = n.coreTable n.getBlacklist := congrArg Prod.snd hn
  rw [htable] at hentry
  obtain ⟨hiface, -⟩ := coreTable_gateway hentry
  rw [sendVia] at hr
  split at hr
  · cases hr
  · split at hr
    · -- The next hop is a suspect: what the second table says decides.
      rw [findSuspectAvoidingSendEntry, havoid] at hr
      cases hdest : n.coreTable n.getBlacklist p.destination with
      | none => rfl
      | some destEntry =>
        obtain ⟨hfails, hfound⟩ := findSendEntryIn_entry coreTable_nextSome hdest
        rw [hdest] at hr
        dsimp only at hr
        cases halt : findSendEntryIn (n.coreTable n.getBlacklist) destEntry with
        | failure => exact absurd halt hfails
        | endless =>
          rw [halt] at hr
          cases hr
        | found altEntry =>
          obtain ⟨b, hb⟩ := hfound altEntry halt
          obtain ⟨halternative, hclear⟩ := coreTable_gateway hb
          rw [halt] at hr
          dsimp only at hr
          split at hr
          · cases hr
            exact absurd (hd.judged _ halternative hsusp).2 hclear
          · cases hr
    · next hclear =>
      cases hr
      exact absurd (hd.judged _ hiface hsusp).1 hclear

/-- A destination that is not in the routing table is not in the other table. -/
lemma Distinguishes.unreached {dest : Ipv4Address} (hd : n.Distinguishes dest) (hn : n.UpToDate)
    (hdest : n.table dest = none) : n.coreTable n.getBlacklist dest = none := by
  have htable : n.table = n.coreTable ∅ := congrArg Prod.fst hn
  have htopology := hd.topology hdest
  have hassoc := hd.ifaceAssoc hdest
  rw [htable] at hdest htopology hassoc
  exact coreTable_subset htopology hassoc hdest

lemma routeOutput_gateway {p : DataPacket} {oif : Option ℕ} (hn : n.UpToDate)
    (hd : n.Distinguishes p.destination) {r : Ipv4Route}
    (hr : (n.routeOutput ipv4 p oif).2 = Choice.route r) (hsusp : n.Suspected r.gateway) :
    n.coreTable n.getBlacklist p.destination = none := by
  have htable : n.table = n.coreTable ∅ := congrArg Prod.fst hn
  cases hdest : n.table p.destination with
  | none => exact hd.unreached hn hdest
  | some entry1 =>
    rw [htable] at hdest
    obtain ⟨-, hfound⟩ := findSendEntryIn_entry coreTable_nextSome hdest
    rw [← htable] at hdest hfound
    simp only [routeOutput, hdest] at hr
    cases hsearch : findSendEntryIn n.table entry1 with
    | failure | endless =>
      rw [hsearch] at hr
      cases hr
    | found entry2 =>
      rw [hsearch] at hr
      dsimp only at hr
      split at hr
      · cases hr
      · obtain ⟨b, hb⟩ := hfound entry2 hsearch
        exact sendVia_gateway hn hd hb hr hsusp

/-- A route that `RouteInput` finds is that of the node after its strategy has been told, or comes
from the other routing tables. -/
lemma routeInput_route {p : DataPacket} {iif : ℕ} {lcb : Bool} {r : Ipv4Route}
    (hr : (n.routeInput ipv4 p iif lcb).2 = Choice.route r) :
    n.table p.destination = none ∨ ∃ entry1 entry2, n.table p.destination = some entry1 ∧
      findSendEntryIn n.table entry1 = SendEntry.found entry2 ∧
      ((n.notified ipv4 p iif).sendVia p entry2).2 = Choice.route r := by
  cases hdest : n.table p.destination with
  | none => exact Or.inl rfl
  | some entry1 =>
    refine Or.inr ⟨entry1, ?_⟩
    rw [routeInput] at hr
    split at hr
    · cases hr
    · next hown =>
      split at hr
      · split at hr <;> cases hr
      · next hlocal =>
        split at hr
        · cases hr
        · next hattack =>
          have hguard : (n.isMyOwnAddress p.source ||
              ipv4.isDestinationAddress p.destination iif || n.isMalicious) = false := by
            simp [hown, hlocal, hattack]
          rw [hdest] at hr
          dsimp only at hr
          cases hsearch : findSendEntryIn n.table entry1 with
          | failure | endless =>
            rw [hsearch] at hr
            cases hr
          | found entry2 =>
            rw [hsearch] at hr
            refine ⟨entry2, rfl, rfl, ?_⟩
            rw [notified, if_neg (by simp [hguard]), hdest]
            dsimp only
            rw [hsearch]
            exact hr

lemma routeInput_gateway {p : DataPacket} {iif : ℕ} {lcb : Bool}
    (hn : (n.notified ipv4 p iif).UpToDate)
    (hd : (n.notified ipv4 p iif).Distinguishes p.destination) {r : Ipv4Route}
    (hr : (n.routeInput ipv4 p iif lcb).2 = Choice.route r)
    (hsusp : (n.notified ipv4 p iif).Suspected r.gateway) :
    (n.notified ipv4 p iif).coreTable (n.notified ipv4 p iif).getBlacklist p.destination =
      none := by
  obtain ⟨f, hf⟩ := notified_eq_mapDefense (n := n) ipv4 p iif
  have hsame : (n.notified ipv4 p iif).table = n.table := by
    rw [hf]
    rfl
  have htable : (n.notified ipv4 p iif).table = (n.notified ipv4 p iif).coreTable ∅ :=
    congrArg Prod.fst hn
  rcases routeInput_route ipv4 hr with hdest | ⟨entry1, entry2, hdest, hsearch, hroute⟩
  · rw [← hsame] at hdest
    exact hd.unreached hn hdest
  · rw [← hsame, htable] at hdest hsearch
    obtain ⟨-, hfound⟩ := findSendEntryIn_entry coreTable_nextSome hdest
    obtain ⟨b, hb⟩ := hfound entry2 hsearch
    rw [← htable] at hb
    exact sendVia_gateway hn hd hb hroute hsusp

/-! ### What packets leave alone -/

variable (n) in
/-- All that the computations of the tables read and write, but for the strategy. -/
def kept : Fixed × OlsrState × Table × Table := (n.fixed, n.state, n.tables)

/-- A packet changes nothing but the strategy, unless it stops the simulation. -/
lemma handleAt_kept (x : Input D) : (n.handleAt ipv4 x).1.kept = n.kept :=
  IgnoresPackets.handleAt ipv4
    ⟨fun _ _ => rfl, fun _ _ _ => rfl, fun _ _ _ => rfl, fun _ _ _ => rfl, fun _ _ => rfl,
      fun _ _ _ => rfl, fun _ _ _ => rfl⟩ n x

lemma choosing_tables (x : Input D) : (n.choosing ipv4 x).tables = n.tables := by
  cases x with
  | routeInput t p iif lcb =>
    obtain ⟨f, hf⟩ := notified_eq_mapDefense (n := n.perform (Act.advance t)) ipv4 p iif
    rw [choosing, hf]
    rfl
  | _ => rfl

/-- The node itself chooses the gateway of a packet of its own, if the packet comes at once. -/
lemma choosing_routeOutput {t : Time} (ht : n.now = t) (p : DataPacket) (oif : Option ℕ) :
    n.choosing ipv4 (.routeOutput t p oif) = n := by
  rw [choosing, ← ht]
  rfl

/-- Such a packet leaves the view as it is, unless the strategy changes. -/
lemma routeOutput_sameView {t : Time} (ht : n.now = t) (hn : n.fatalError = false) (p : DataPacket)
    (oif : Option ℕ)
    (hdefense : (n.routeOutput ipv4 p oif).1.defenseStrategy = n.defenseStrategy) :
    SameView n (n.choosing ipv4 (.routeOutput t p oif)) ∧
      SameView (n.choosing ipv4 (.routeOutput t p oif)) (n.next ipv4 (.routeOutput t p oif)) := by
  have hnow : n.perform (.advance t) = n := choosing_routeOutput ipv4 ht p oif
  have hnext : n.next ipv4 (.routeOutput t p oif) = (n.routeOutput ipv4 p oif).1 := by
    simp only [Node.next, handle, hn, Input.time, hnow, handleAt]
    rfl
  have hkept : (n.routeOutput ipv4 p oif).1.kept = n.kept :=
    handleAt_kept ipv4 (.routeOutput t p oif)
  rw [choosing_routeOutput ipv4 ht, hnext]
  refine ⟨.of_fixed rfl rfl rfl, .of_fixed ?_ ?_ hdefense⟩
  · exact congrArg Prod.fst hkept
  · exact congrArg (fun k => k.2.1) hkept

/-! ### Runs -/

variable (n) in
/-- The tables stay up to date over an input, and are of use for its packet: the input computes
them, or changes nothing that a computation sees, and the packet is for a destination for which
the tables keep the suspects apart. -/
structure Undisturbed (x : Input D) : Prop where
  view : (∃ l, x = .control l ∧ n.Recomputes l) ∨
    SameView n (n.choosing ipv4 x) ∧ SameView (n.choosing ipv4 x) (n.next ipv4 x)
  packet : ∀ p ∈ x.packet, (n.choosing ipv4 x).Distinguishes p.destination

/-- An input that computes no tables leaves them alone. -/
lemma next_tables {x : Input D} (h : ¬ ∃ l, x = .control l ∧ n.Recomputes l) :
    (n.next ipv4 x).tables = n.tables := by
  cases x with
  | control l => exact step_tables fun hl => h ⟨l, rfl, hl⟩
  | _ =>
    simp only [Node.next, handle]
    split
    · rfl
    · exact congrArg (fun k => k.2.2) (handleAt_kept (n := n.perform _) ipv4 _)

/-- **Step lemma.**  The tables of a node that goes on stay up to date. -/
lemma Undisturbed.next {x : Input D} (h : n.Undisturbed ipv4 x)
    (hn : n.fatalError = true ∨ n.UpToDate) :
    (n.next ipv4 x).fatalError = true ∨ (n.next ipv4 x).UpToDate := by
  by_cases hcomputes : ∃ l, x = .control l ∧ n.Recomputes l
  · obtain ⟨l, rfl, hl⟩ := hcomputes
    exact step_upToDate hl
  · refine hn.imp (fun hfatal => ?_) fun hup => ?_
    · rw [Node.next, handle_stopped ipv4 hfatal, hfatal]
    · obtain ⟨hchoosing, hnext⟩ := h.view.resolve_left hcomputes
      have hchoice := hup.of_sameView hchoosing (choosing_tables ipv4 x)
      refine hchoice.of_sameView hnext ?_
      rw [choosing_tables, next_tables ipv4 hcomputes]

/-- The choice for a packet in a state whose tables are up to date. -/
lemma Undisturbed.gateway {x : Input D} (h : n.Undisturbed ipv4 x)
    (hn : n.fatalError = true ∨ n.UpToDate) {p : DataPacket} (hp : x.packet = some p)
    {r : Ipv4Route} (hr : (n.handle ipv4 x).2 = some (Choice.route r))
    (hsusp : (n.choosing ipv4 x).Suspected r.gateway) :
    (n.choosing ipv4 x).coreTable (n.choosing ipv4 x).getBlacklist p.destination = none := by
  cases hfatal : n.fatalError with
  | true =>
    rw [handle_stopped ipv4 hfatal] at hr
    cases hr
  | false =>
    have hup : n.UpToDate := hn.resolve_left (by simp [hfatal])
    have hchoosing : (n.choosing ipv4 x).UpToDate := by
      rcases h.view with ⟨l, rfl, -⟩ | ⟨hview, -⟩
      · exact hup
      · exact hup.of_sameView hview (choosing_tables ipv4 x)
    have hd := h.packet p hp
    cases x with
    | routeOutput t q oif =>
      obtain rfl := Option.some.inj hp
      simp only [handle, hfatal, handleAt] at hr
      exact routeOutput_gateway ipv4 hchoosing hd (Option.some.inj hr) hsusp
    | routeInput t q iif lcb =>
      obtain rfl := Option.some.inj hp
      simp only [handle, hfatal, handleAt] at hr
      exact routeInput_gateway ipv4 hchoosing hd (Option.some.inj hr) hsusp
    | _ => cases hp

end Packets

end Node

/-- **A suspect is the last resort.**  In every run whose inputs leave the tables up to date and
come with packets that the tables keep away from suspects, a packet is handed over to an address of
a suspect only if the core finds no route to its destination without the suspects of that moment. -/
theorem suspectGateway_lastResort {D : Type} [OlsrDefenseDataHooks D] (ipv4 : Ipv4L3Protocol)
    (c : Config D) (jitter : Time) (xs : List (Input D))
    (h : ∀ x ∈ Lib.trace (Node.next ipv4) (c.node.doInitialize jitter) xs,
      x.1.Undisturbed ipv4 x.2) :
    ∀ x ∈ Lib.trace (Node.next ipv4) (c.node.doInitialize jitter) xs, ∀ p, x.2.packet = some p →
      ∀ r, (x.1.handle ipv4 x.2).2 = some (Choice.route r) →
        (x.1.choosing ipv4 x.2).Suspected r.gateway →
        (x.1.choosing ipv4 x.2).coreTable (x.1.choosing ipv4 x.2).getBlacklist p.destination =
          none := by
  intro x hx p hp r hr hsusp
  refine (h x hx).gateway ipv4 ?_ hp hr hsusp
  exact Lib.inv_trace (I := fun n : Node D => n.fatalError = true ∨ n.UpToDate)
    (fun n x hn hx => hx.next ipv4 hn) (Or.inr (Node.doInitialize_upToDate c jitter)) h x hx

section Examples

open Scenario

/-- A node with address 1, whose strategy is enabled. -/
def guarded : Node OlsrDefenseGcop :=
  ({ (quiet : Config OlsrDefenseGcop) with
    defenseStrategy := some { enabled := true } } : Config OlsrDefenseGcop).node.doInitialize 0

/-- The IP layer of a node with address 1. -/
def ipv4OfGuarded : Ipv4L3Protocol where
  isDestinationAddress a _ := a == 1
  sourceAddressSelection _ _ := 1
  isForwarding _ := true

/-- Node 2 announces 4, and is flagged for it.  There is a packet to 4. -/
def onlyRelay : List (Input OlsrDefenseGcop) :=
  [.control (recv 0 2 (hello 2 [symLinks [1, 4]])), .routeOutput 0 ⟨0, 1, 4⟩ none]

/-- The node before the packet. -/
def onlyRelay.node : Node OlsrDefenseGcop :=
  guarded.next ipv4OfGuarded (.control (recv 0 2 (hello 2 [symLinks [1, 4]])))

lemma onlyRelay_undisturbed :
    ∀ x ∈ Lib.trace (Node.next ipv4OfGuarded) guarded onlyRelay,
      x.1.Undisturbed ipv4OfGuarded x.2 := by
  have hnow : onlyRelay.node.now = 0 := by decide +kernel
  have hlinks : ∀ l ∈ onlyRelay.node.state.linkSet, l.neighborIfaceAddr = 2 := by decide +kernel
  have hjudged : onlyRelay.node.suspects 2 = true ∧
      onlyRelay.node.getMainAddress 2 ∈ onlyRelay.node.getBlacklist := by
    decide +kernel
  have hreached : onlyRelay.node.table 4 ≠ none := by decide +kernel
  intro x hx
  rcases List.mem_cons.mp hx with rfl | hx
  · exact ⟨Or.inl ⟨_, rfl, ⟨by decide +kernel, by decide +kernel⟩⟩, by simp [Input.packet]⟩
  · obtain rfl := List.mem_singleton.mp hx
    refine ⟨Or.inr (Node.routeOutput_sameView ipv4OfGuarded hnow (by decide +kernel) _ _
      (by decide +kernel)), fun p hp => ?_⟩
    obtain rfl := Option.some.inj hp
    show (onlyRelay.node.choosing ipv4OfGuarded (.routeOutput 0 ⟨0, 1, 4⟩ none)).Distinguishes 4
    rw [Node.choosing_routeOutput ipv4OfGuarded hnow]
    refine ⟨fun a ha _ => ?_, fun h => absurd h hreached, fun h => absurd h hreached⟩
    obtain ⟨nb, l, hreach, rfl⟩ := ha
    rw [hlinks l (Node.mem_neighborLinks.mp hreach.link).1]
    exact hjudged

/-- The packet is handed over to the suspect, which is the only relay. -/
theorem suspectGateway_lastResort_onlyRelay :
    (onlyRelay.node.handle ipv4OfGuarded (.routeOutput 0 ⟨0, 1, 4⟩ none)).2 =
        some (Choice.route ⟨4, 1, 2, 0⟩) ∧
      onlyRelay.node.coreTable onlyRelay.node.getBlacklist 4 = none := by
  have hchoice : (onlyRelay.node.handle ipv4OfGuarded (.routeOutput 0 ⟨0, 1, 4⟩ none)).2 =
      some (Choice.route ⟨4, 1, 2, 0⟩) := by
    decide +kernel
  have hsuspected : onlyRelay.node.Suspected 2 := ⟨2, by decide +kernel, rfl⟩
  have hchoosing := Node.choosing_routeOutput (n := onlyRelay.node) ipv4OfGuarded
    (show onlyRelay.node.now = 0 by decide +kernel) ⟨0, 1, 4⟩ none
  refine ⟨hchoice, ?_⟩
  have h := suspectGateway_lastResort ipv4OfGuarded _ 0 onlyRelay onlyRelay_undisturbed
    (onlyRelay.node, .routeOutput 0 ⟨0, 1, 4⟩ none) (by simp [onlyRelay]; rfl) ⟨0, 1, 4⟩ rfl
    ⟨4, 1, 2, 0⟩ hchoice
  simp only [hchoosing] at h
  exact h hsuspected

/-- Node 2 has an interface 12, under which it is flagged.  Node 3 is cleared, and is another way to
node 4. -/
def flaggedInterface : List (Input OlsrDefenseGcop) :=
  [.control (recv 0 3 (hello 3 [symLinks [1, 4]])), .control (recv 0 12 (hello 2 [symLinks [1]])),
    .control (recv 0 12 (flooded 2 1 (.mid ⟨[12]⟩))),
    .control (recv 0 12 (hello 2 [symLinks [1, 4]])),
    .control (recv 0 3 (flooded 7 1 (.tc ⟨[8, 9], 1⟩))),
    .control (recv 0 3 (hello 3 [symLinks [1, 4]]))]

/-- The node before a packet to 4. -/
def flaggedInterface.node : Node OlsrDefenseGcop :=
  Lib.run (Node.next ipv4OfGuarded) guarded flaggedInterface

/-- The packet is handed over to the interface 12, whereas the core finds a route over node 3
without the suspect, and finds one with the blacklist of the moment as well. -/
theorem flaggedInterface_gateway :
    guarded.IsInputRun ipv4OfGuarded (flaggedInterface ++ [.routeOutput 0 ⟨0, 1, 4⟩ none]) ∧
    (flaggedInterface.node.handle ipv4OfGuarded (.routeOutput 0 ⟨0, 1, 4⟩ none)).2 =
      some (Choice.route ⟨4, 1, 12, 0⟩) ∧
    flaggedInterface.node.Suspected 12 ∧
    flaggedInterface.node.coreTable flaggedInterface.node.getBlacklist 4 ≠ none ∧
    flaggedInterface.node.coreTable {2, 12} 4 = some ⟨4, 3, 0, 2, .twoHop ⟨3, 4, Seconds 2⟩⟩ :=
  ⟨by decide +kernel, by decide +kernel, ⟨12, by decide +kernel, rfl⟩, by decide +kernel,
    by decide +kernel⟩

end Examples

end ManetOlsr
