/-
The loss of a link.

A link timer that fires after the link has ceased to be symmetric, and before it expires, is
meant to call `NeighborLoss`.  One flag of the node, shared by the timers of all its links, keeps
the first such firing in the life of the node from doing so.
-/
import ManetOlsr.Model.Frames
import ManetOlsr.Model.Scenario

namespace ManetOlsr

namespace Node

variable {D : Type} [OlsrDefenseStrategy D]

/-- What the loss of a link leads to: `n` is the node before it, `n'` the node after it.  The
status is that of the tuple that `FindNeighborTuple` returns.  The tables are functions of the
repositories that are left, and of the routes that the HNA routing table had before. -/
structure LossHandled (n : Node D) (tuple : LinkTuple) (n' : Node D) : Prop where
  twoHops : ∀ t ∈ n'.state.twoHopNeighborSet,
    t.neighborMainAddr ≠ n.getMainAddress tuple.neighborIfaceAddr
  selectors : ∀ t ∈ n'.state.mprSelectorSet,
    t.mainAddr ≠ n.getMainAddress tuple.neighborIfaceAddr
  status : ∃ nb, n'.state.findNeighborTuple (n.getMainAddress tuple.neighborIfaceAddr) = some nb ∧
    (nb.status = Status.sym → ∃ l ∈ n'.state.linkSet, l ≠ tuple ∧
      n'.getMainAddress l.neighborIfaceAddr = n.getMainAddress tuple.neighborIfaceAddr ∧
      l.symTime ≥ n'.now)
  mprSet : n'.state.mprSet = n'.computedMprSet
  table : n'.table = n'.coreTable ∅
  tableAvoidingSuspects : n'.tableAvoidingSuspects = n'.coreTable n'.getBlacklist
  hnaRoutingTable : n'.hnaRoutingTable =
    n'.coreHnaRoutes ∅ (n'.staleHnaRoutes n.hnaRoutingTable)

/-- The repositories and the tables are as they were. -/
structure LossSkipped (n n' : Node D) : Prop where
  state : n'.state = n.state
  table : n'.table = n.table
  tableAvoidingSuspects : n'.tableAvoidingSuspects = n.tableAvoidingSuspects
  hnaRoutingTable : n'.hnaRoutingTable = n.hnaRoutingTable

lemma LossHandled.of_dequeue {n n' : Node D} {tuple : LinkTuple} {t : Time} {e : Event}
    (h : LossHandled (n.dequeue t e) tuple n') : LossHandled n tuple n' :=
  ⟨h.twoHops, h.selectors, h.status, h.mprSet, h.table, h.tableAvoidingSuspects, h.hnaRoutingTable⟩

omit [OlsrDefenseStrategy D] in
lemma LossSkipped.of_dequeue {n n' : Node D} {t : Time} {e : Event}
    (h : LossSkipped (n.dequeue t e) n') : LossSkipped n n' :=
  ⟨h.state, h.table, h.tableAvoidingSuspects, h.hnaRoutingTable⟩

/-- Whether an act is the firing of a link timer at the loss of its link. -/
def firesLoss (n : Node D) : Act D → Bool
  | .fire _ (.linkTupleTimerExpire a) _ => n.losesLink a
  | _ => false

variable {n : Node D}

/-! ### One firing -/

omit [OlsrDefenseStrategy D] in
/-- The status of a neighbor after `NeighborLoss` follows from the links that are left. -/
lemma dropNeighbor_status {tuple : LinkTuple} (hsym : tuple.symTime < n.now) :
    ∃ nb, (n.dropNeighbor tuple).state.findNeighborTuple
        (n.getMainAddress tuple.neighborIfaceAddr) = some nb ∧
      (nb.status = Status.sym → ∃ l ∈ n.state.linkSet, l ≠ tuple ∧
        n.getMainAddress l.neighborIfaceAddr = n.getMainAddress tuple.neighborIfaceAddr ∧
        l.symTime ≥ n.now) := by
  obtain ⟨nb, hfind, hstatus⟩ := n.linkTupleUpdated_find tuple Willingness.default
  refine ⟨nb, hfind, fun hnb => ?_⟩
  have hlink : n.hasSymmetricLink (n.getMainAddress tuple.neighborIfaceAddr) = true := by
    by_contra hno
    rw [if_neg hno, hnb] at hstatus
    cases hstatus
  obtain ⟨l, hl, hmain⟩ := List.any_eq_true.mp hlink
  rw [Bool.and_eq_true, beq_iff_eq, decide_eq_true_eq] at hmain
  refine ⟨l, hl, ?_, hmain.1, hmain.2⟩
  rintro rfl
  exact absurd hsym (not_lt.mpr hmain.2)

/-- Tables that have been computed are those of the node they have been stored in. -/
lemma tables_of_computed {m k : Node D} (hfixed : k.fixed = m.fixed) (hstate : k.state = m.state)
    (hdefense : k.defenseStrategy = m.defenseStrategy)
    (htable : k.table = m.routingTableComputation.table)
    (havoiding : k.tableAvoidingSuspects = m.routingTableComputation.tableAvoidingSuspects)
    (hroutes : k.hnaRoutingTable = m.routingTableComputation.hnaRoutingTable) :
    k.table = k.coreTable ∅ ∧ k.tableAvoidingSuspects = k.coreTable k.getBlacklist ∧
      k.hnaRoutingTable = k.coreHnaRoutes ∅ (k.staleHnaRoutes m.hnaRoutingTable) := by
  have hblacklist := getBlacklist_congr hfixed hdefense
  rw [coreTable_congr hfixed hstate, coreHnaRoutes_congr hfixed hstate, hblacklist,
    staleHnaRoutes_congr hfixed hstate hblacklist]
  exact ⟨htable.trans m.routingTableComputation_table,
    havoiding.trans m.routingTableComputation_tableAvoidingSuspects,
    hroutes.trans m.routingTableComputation_hnaRoutingTable⟩

/-- **`NeighborLoss`** does what the loss of a link calls for. -/
lemma neighborLoss_handled {tuple : LinkTuple} (hsym : tuple.symTime < n.now) (t : Time)
    (e : Event) : LossHandled n tuple ((n.neighborLoss tuple).schedule t e) := by
  obtain ⟨ns, hns⟩ := n.dropNeighbor_state tuple
  have hstate := n.neighborLoss_state tuple
  have hlinks : (n.neighborLoss tuple).state.linkSet = n.state.linkSet := by rw [hstate, hns]; rfl
  have hmain : (n.neighborLoss tuple).getMainAddress = n.getMainAddress :=
    OlsrState.getMainAddress_congr (by rw [hstate, hns]; rfl)
  have hnow : (n.neighborLoss tuple).now = n.now := now_of_fixed (n.neighborLoss_fixed tuple)
  have htables := tables_of_computed (m := (n.dropNeighbor tuple).mprComputation)
    (k := (n.neighborLoss tuple).schedule t e) (by simp [neighborLoss]) (by simp [neighborLoss])
    (by simp [neighborLoss]) (by simp [neighborLoss]) (by simp [neighborLoss])
    (by simp [neighborLoss])
  rw [mprComputation_hnaRoutingTable, dropNeighbor_hnaRoutingTable] at htables
  obtain ⟨htable, havoiding, hhna⟩ := htables
  refine ⟨?twoHops, ?selectors, ?status, ?mprSet, htable, havoiding, hhna⟩
  case twoHops =>
    intro t ht
    rw [schedule_state, hstate, hns] at ht
    simpa using (List.mem_filter.mp ht).2
  case selectors =>
    intro t ht
    rw [schedule_state, hstate, hns] at ht
    simpa using (List.mem_filter.mp ht).2
  case status =>
    obtain ⟨nb, hfind, hsymmetric⟩ := dropNeighbor_status hsym
    refine ⟨nb, ?_, fun hnb => ?_⟩
    · rw [schedule_state, hstate]
      exact hfind
    · obtain ⟨l, hl, hne, hl'⟩ := hsymmetric hnb
      refine ⟨l, by rwa [schedule_state, hlinks], hne, ?_⟩
      show (n.neighborLoss tuple).getMainAddress _ = _ ∧ _ ≥ (n.neighborLoss tuple).now
      rwa [hmain, hnow]
  case mprSet =>
    have hcongr : ((n.neighborLoss tuple).schedule t e).computedMprSet =
        (n.dropNeighbor tuple).mprComputation.computedMprSet :=
      computedMprSet_congr (by simp [neighborLoss]) (by simp [neighborLoss])
        (by simp [neighborLoss])
    rw [hcongr, mprComputation_computedMprSet, schedule_state, hstate]

/-- A link timer at the loss of its link: everything depends on the flag. -/
lemma linkTupleTimerExpire_loss {a : Ipv4Address} {tuple : LinkTuple}
    (htuple : n.state.findLinkTuple a = some tuple) (htime : n.now ≤ tuple.time)
    (hsym : tuple.symTime < n.now) :
    (n.linkTupleTimerFirstTime = false → LossHandled n tuple (n.linkTupleTimerExpire a)) ∧
    (n.linkTupleTimerFirstTime = true → LossSkipped n (n.linkTupleTimerExpire a)) := by
  simp only [linkTupleTimerExpire, htuple, if_neg (not_lt.mpr htime), if_pos hsym]
  constructor
  · intro hflag
    simp only [hflag]
    exact neighborLoss_handled hsym _ _
  · intro hflag
    simp only [hflag]
    exact ⟨rfl, rfl, rfl, rfl⟩

/-! ### The flag along a run -/

lemma exec_firstTime {a : Act D} (ha : n.Timed a) :
    (n.exec a).linkTupleTimerFirstTime = (n.linkTupleTimerFirstTime && !n.firesLoss a) := by
  rw [exec]
  split
  · next hstopped =>
    cases a with
    | fire t e jitter => exact absurd hstopped (by simp [ha.1])
    | _ => simp [firesLoss]
  · rw [perform_firstTime]
    cases a with
    | fire t e jitter => cases e <;> simp [firstTimeAfterAct, firstTimeAfter, firesLoss]
    | _ => simp [firstTimeAfterAct, firesLoss]

/-- The flag is still set exactly when no link timer has fired at the loss of its link. -/
lemma run_firstTime {as : List (Act D)} (h : ∀ x ∈ Lib.trace exec n as, x.1.Timed x.2) :
    (Lib.run exec n as).linkTupleTimerFirstTime =
      (n.linkTupleTimerFirstTime && !(Lib.trace exec n as).any fun x => x.1.firesLoss x.2) := by
  induction as generalizing n with
  | nil => simp
  | cons a as ih =>
    have ha : n.Timed a := h (n, a) (by simp)
    rw [Lib.run_cons, ih fun x hx => h x (List.mem_cons_of_mem _ hx), exec_firstTime ha]
    simp [Bool.and_assoc]

lemma doInitialize_firstTime (c : Config D) (jitter : Time) :
    (c.node.doInitialize jitter).linkTupleTimerFirstTime = true :=
  congrArg Fixed.linkTupleTimerFirstTime (c.node.doInitialize_fixed jitter)

end Node

/-- **Link loss.**  Whenever in a run a link timer fires at the loss of its link, the loss is
handled if an earlier link timer, of any link, has fired at the loss of its own; the first of
these firings in the life of the node does nothing. -/
theorem linkLoss_handled {D : Type} [OlsrDefenseStrategy D] (r : Run D)
    {pre post : List (Node D × Act D)} {n : Node D} {t jitter : Time} {a : Ipv4Address}
    {tuple : LinkTuple}
    (hfire : r.trace = pre ++ (n, Act.fire t (Event.linkTupleTimerExpire a) jitter) :: post)
    (htuple : n.state.findLinkTuple a = some tuple) (htime : n.now ≤ tuple.time)
    (hsym : tuple.symTime < n.now) :
    let n' := n.exec (Act.fire t (Event.linkTupleTimerExpire a) jitter)
    ((∃ x ∈ pre, x.1.firesLoss x.2 = true) → Node.LossHandled n tuple n') ∧
    ((∀ x ∈ pre, x.1.firesLoss x.2 = false) → Node.LossSkipped n n') := by
  have htimed := r.timed_trace
  obtain ⟨before, after, -, hn, hpre, -⟩ := Lib.trace_split (by exact hfire)
  have hflag : n.linkTupleTimerFirstTime = !pre.any fun x => x.1.firesLoss x.2 := by
    subst hpre
    have hbefore : ∀ x ∈ Lib.trace Node.exec r.start before, x.1.Timed x.2 := fun x hx =>
      htimed x (by rw [hfire]; exact List.mem_append_left _ hx)
    have hrun := Node.run_firstTime hbefore
    rw [← hn, Run.start, Node.doInitialize_firstTime, Bool.true_and] at hrun
    exact hrun
  have hrunning : n.fatalError = false :=
    (htimed (n, Act.fire t (Event.linkTupleTimerExpire a) jitter) (by rw [hfire]; simp)).1
  intro n'
  have hn' : n' = (n.dequeue t (Event.linkTupleTimerExpire a)).linkTupleTimerExpire a :=
    if_neg (by simp [hrunning])
  obtain ⟨hhandled, hskipped⟩ := Node.linkTupleTimerExpire_loss
    (n := n.dequeue t (Event.linkTupleTimerExpire a)) htuple htime hsym
  rw [hn']
  constructor
  · intro hearlier
    exact (hhandled (hflag.trans (by simpa using hearlier))).of_dequeue
  · intro hfirst
    exact (hskipped (hflag.trans (by simpa using hfirst))).of_dequeue

section Examples

open Scenario

/-- A link timer of the examples, at the time at which it is first due. -/
def lossTimer (a : Ipv4Address) : Label OlsrDefenseNull :=
  Label.timer 2000001000 (Event.linkTupleTimerExpire a) 0

/-- The acts of the timer. -/
def lossAct (a : Ipv4Address) : Act OlsrDefenseNull :=
  Act.fire 2000001000 (Event.linkTupleTimerExpire a) 0

/-- Two neighbors, 2 and 3, are heard once.  Their links are lost in turn. -/
def twoLosses : Run OlsrDefenseNull where
  config := quiet
  jitter := 0
  labels := [recv 0 2 (hello 2 [symLinks [1, 7]]), recv 0 3 (hello 3 [symLinks [1, 8]]),
    Label.timer 0 Event.sendQueuedMessages 0, lossTimer 2, lossTimer 3]
  isJitter := quiet_isJitter
  isRun := by decide +kernel

/-- The link to 2 or to 3 when its timer fires. -/
def twoLosses.link (a : Ipv4Address) : LinkTuple where
  localIfaceAddr := 1
  neighborIfaceAddr := a
  symTime := Seconds 2
  asymTime := Seconds 2
  time := Seconds 302

/-- The node when the first of the two timers fires, and when the second does. -/
def twoLosses.firstNode : Node OlsrDefenseNull := (twoLosses.trace.get ⟨9, by decide +kernel⟩).1

def twoLosses.secondNode : Node OlsrDefenseNull := (twoLosses.trace.get ⟨11, by decide +kernel⟩).1

theorem linkLoss_handled_secondLoss :
    Node.LossHandled twoLosses.secondNode (twoLosses.link 3)
      (twoLosses.secondNode.exec (lossAct 3)) := by
  refine (linkLoss_handled twoLosses
    (Lib.split_at twoLosses.trace (by decide +kernel) (by decide +kernel)) ?_ ?_ ?_).1 ?_
  · show twoLosses.secondNode.state.findLinkTuple 3 = some (twoLosses.link 3)
    decide +kernel
  all_goals decide +kernel

/-- The first loss leaves the 2-hop tuple of neighbor 2. -/
theorem firstLoss_skipped :
    (∃ pre post, twoLosses.trace = pre ++ (twoLosses.firstNode, lossAct 2) :: post) ∧
    twoLosses.firstNode.state.findLinkTuple 2 = some (twoLosses.link 2) ∧
    twoLosses.firstNode.now ≤ (twoLosses.link 2).time ∧
    (twoLosses.link 2).symTime < twoLosses.firstNode.now ∧
    ¬ Node.LossHandled twoLosses.firstNode (twoLosses.link 2)
      (twoLosses.firstNode.exec (lossAct 2)) := by
  refine ⟨⟨_, _, Lib.split_at twoLosses.trace (by decide +kernel) (by decide +kernel)⟩,
    by decide +kernel, by decide +kernel, by decide +kernel, fun h => ?_⟩
  exact absurd h.twoHops (by decide +kernel)

end Examples

end ManetOlsr
