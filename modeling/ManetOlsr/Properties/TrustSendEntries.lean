/-
The search for the send entry in the table of the trust computation.

`RunTrustDijkstra` enters for every destination the interface at which the first hop is reached, and
`FindSendEntry` looks for an entry of that interface.  There is one if the first hop is reached at
its main address, under which it is itself a destination.  The standard computation enters the
interfaces of the neighbors besides; the trust computation does not, so that a neighbor which is
reached at another of its interfaces leads to no entry.

While the defense is enabled, every computation of a run is a trust computation.
-/
import ManetOlsr.Model.FpntFrames
import ManetOlsr.Model.Scenario
import ManetOlsr.Properties.SendEntries
import ManetOlsr.Properties.TrustPaths

namespace ManetOlsr

/-! ### First hops -/

namespace TrustSearch

/-- A parent is at the other end of an edge. -/
def AlongEdges (g : TrustGraph) (x : TrustSearch) : Prop :=
  ∀ u v, x.parent v = some u → v ∈ g.graph u

variable {g : TrustGraph} {x : TrustSearch}

lemma AlongEdges.relax (hx : x.AlongEdges g) {u v : Ipv4Address} (huv : v ∈ g.graph u)
    (pathTrust : ℚ) (pathHops : ℕ) : (x.relax u pathTrust pathHops v).AlongEdges g := by
  intro a b hab
  rw [TrustSearch.relax] at hab
  split at hab
  · by_cases hb : b = v
    · have hparent : some u = some a := by simpa only [if_pos hb] using hab
      obtain rfl := Option.some.inj hparent
      rw [hb]
      exact huv
    · exact hx a b (by simpa only [if_neg hb] using hab)
  · exact hx a b hab

lemma AlongEdges.round (hx : x.AlongEdges g) (mainAddress : Ipv4Address)
    (getNodeTrust : Option (Ipv4Address → ℚ)) :
    (x.round g mainAddress getNodeTrust).AlongEdges g := by
  rw [TrustSearch.round]
  split
  · exact hx
  · next top q _ =>
    have hstart : AlongEdges g { x with q := q } := hx
    exact List.foldlRecOn (g.graph top.addr) _ hstart fun y hy v hv => hy.relax hv _ _

variable {mainAddress : Ipv4Address}

/-- The first hop is a child of the source. -/
lemma firstHop_parent {sanity : ℕ} {curr h : Ipv4Address}
    (hfirst : x.firstHop mainAddress sanity curr = some h) : x.parent h = some mainAddress := by
  induction sanity generalizing curr with
  | zero => cases hfirst
  | succ sanity ih =>
    rw [firstHop] at hfirst
    cases hp : x.parent curr with
    | none =>
      rw [hp] at hfirst
      cases hfirst
    | some p =>
      simp only [hp] at hfirst
      split at hfirst
      · next hmain =>
        obtain rfl := Option.some.inj hfirst
        rw [hp, hmain]
      · exact ih hfirst

/-- A child of the source is its own first hop. -/
lemma firstHop_self {h : Ipv4Address} (hp : x.parent h = some mainAddress) (sanity : ℕ) :
    x.firstHop mainAddress (sanity + 1) h = some h := by
  rw [firstHop, hp]
  exact if_pos rfl

end TrustSearch

lemma OlsrState.trustSearch_alongEdges (s : OlsrState) (mainAddress : Ipv4Address)
    (getNodeTrust : Option (Ipv4Address → ℚ)) :
    (s.trustSearch mainAddress getNodeTrust).AlongEdges (s.trustGraph mainAddress) := by
  refine Lib.whileLoop_inv _ (fun x hx _ => hx.round mainAddress getNodeTrust) _ ?_
  intro u v huv
  cases huv

/-! ### The entries -/

namespace Node

section Table

variable {D : Type} {n : Node D} {getNodeTrust : Option (Ipv4Address → ℚ)} {dest : Ipv4Address}
  {e : RoutingTableEntry}

/-- An address is the interface at the other end of a link that is symmetric. -/
def SymIface (n : Node D) (a : Ipv4Address) : Prop :=
  ∃ link ∈ n.state.linkSet, link.neighborIfaceAddr = a ∧ n.now ≤ link.symTime

instance (n : Node D) (a : Ipv4Address) : Decidable (n.SymIface a) :=
  inferInstanceAs (Decidable (∃ link ∈ _, _ ∧ _))

/-- The neighbors of the node in the graph are reached at their main addresses. -/
def MainAddressLinks (n : Node D) : Prop :=
  ∀ h ∈ (n.state.trustGraph n.mainAddress).graph n.mainAddress,
    ∀ x ∈ n.linkTo h, x.1.neighborIfaceAddr = h

instance (n : Node D) : Decidable n.MainAddressLinks :=
  @List.decidableBAll _ _ (fun _ => inferInstanceAs (Decidable (∀ x ∈ _, _))) _

lemma linkTo_symIface {h : Ipv4Address} {x : LinkTuple × ℕ} (hx : n.linkTo h = some x) :
    n.SymIface x.1.neighborIfaceAddr := by
  obtain ⟨link, hmem, hlink⟩ := List.exists_of_findSome?_eq_some hx
  split at hlink
  · next hsym =>
    obtain ⟨i, -, rfl⟩ := Option.map_eq_some_iff.mp hlink
    exact ⟨link, hmem, rfl, hsym.2⟩
  · cases hlink

/-- Where an entry comes from. -/
lemma trustTable_eq_some (he : n.trustTable getNodeTrust dest = some e) :
    e.destAddr = dest ∧ ∃ h x,
      (n.state.trustSearch n.mainAddress getNodeTrust).parent h = some n.mainAddress ∧
      n.linkTo h = some x ∧ e.nextAddr = x.1.neighborIfaceAddr := by
  rw [trustTable, trustEntry] at he
  split at he
  · cases he
  · split at he
    · cases he
    · next h hfirst =>
      obtain ⟨x, hx, rfl⟩ := Option.map_eq_some_iff.mp he
      exact ⟨rfl, h, x, TrustSearch.firstHop_parent hfirst, hx, rfl⟩

lemma trustTable_symIface (he : n.trustTable getNodeTrust dest = some e) :
    n.SymIface e.nextAddr := by
  obtain ⟨-, h, x, -, hx, hnext⟩ := trustTable_eq_some he
  rw [hnext]
  exact linkTo_symIface hx

/-- A first hop that is reached at its main address has an entry that leads to itself. -/
lemma trustTable_leadsToItself (hmain : n.MainAddressLinks) {h : Ipv4Address} {x : LinkTuple × ℕ}
    (hp : (n.state.trustSearch n.mainAddress getNodeTrust).parent h = some n.mainAddress)
    (hx : n.linkTo h = some x) :
    x.1.neighborIfaceAddr = h ∧ Table.LeadsToItself (n.trustTable getNodeTrust) h := by
  have hedge : h ∈ (n.state.trustGraph n.mainAddress).graph n.mainAddress :=
    n.state.trustSearch_alongEdges n.mainAddress getNodeTrust _ _ hp
  -- The graph has no loops, so that the first hop is not the node itself.
  have hne : h ≠ n.mainAddress :=
    (((n.state.trustGraph_represents n.mainAddress).mem_graph _ _).mp hedge).ne'
  have hiface : x.1.neighborIfaceAddr = h := hmain h hedge x hx
  refine ⟨hiface, ⟨h, x.1.neighborIfaceAddr, x.2,
    (n.state.trustSearch n.mainAddress getNodeTrust).hops h, Origin.link x.1⟩, ?_, hiface.symm⟩
  rw [trustTable, trustEntry, if_neg hne, TrustSearch.firstHop_self hp 254]
  simp only [hx, Option.map_some]

/-- **The send entry.**  Where the neighbors are reached at their main addresses, the search
succeeds for every entry, with an entry that leads to itself over a symmetric link. -/
lemma trustTable_resolves (hmain : n.MainAddressLinks)
    (he : n.trustTable getNodeTrust dest = some e) :
    ∃ e', findSendEntryIn (n.trustTable getNodeTrust) e = SendEntry.found e' ∧
      e'.destAddr = e'.nextAddr ∧ n.SymIface e'.nextAddr := by
  have hends : Table.Ends (n.trustTable getNodeTrust) dest := by
    obtain ⟨-, h, x, hp, hx, hnext⟩ := trustTable_eq_some he
    obtain ⟨hiface, e₁, he₁, hself⟩ := trustTable_leadsToItself hmain hp hx
    refine .next he (.self ?_ hself)
    rw [hnext, hiface]
    exact he₁
  obtain ⟨e', hfound, hentry, hself⟩ := Table.findSendEntryIn_found
    (fun _ _ he => (trustTable_eq_some he).1) hends he
  exact ⟨e', hfound, hself, trustTable_symIface hentry⟩

end Table

/-! ### Where the routes come from -/

variable {n : Node OlsrDefenseFpnt}

lemma fpntProcessTc_routes (vectors : List EvaluationVector) (msg : MessageHeader) (tc : Tc)
    (senderIface : Ipv4Address) :
    (n.fpntProcessTc vectors msg tc senderIface).routes = n.routes := by
  have hg := Edition.routes_ignoresMessages (D := OlsrDefenseFpnt)
  rw [fpntProcessTc]
  split
  · rfl
  · split
    · rfl
    · split
      · exact hg.processTc msg senderIface tc
      · exact hg.processTc msg senderIface tc

lemma fpntHandleDefenseTimer_routes :
    n.fpntHandleDefenseTimer.routes =
      ((n.rerouting.map FpntComputation.trust).map FpntComputation.routes).getD n.routes := by
  rw [fpntHandleDefenseTimer, rerouting]
  split
  · dsimp only
    split <;> rfl
  · rfl

section Acts

variable {redundant : Bool} {vectors : MessageHeader → List EvaluationVector}

lemma fpntComputing_of_ne (v : Edition OlsrDefenseFpnt) {a : Act OlsrDefenseFpnt}
    (hfire : ∀ t jitter, a ≠ .fire t .handleDefenseTimer jitter) :
    fpntComputing v n a = (v.computing n a).map fpntComputation := by
  unfold fpntComputing
  split
  · next hstopped =>
    have hnone : v.computing n a = none := by
      unfold Edition.computing
      exact if_pos hstopped
    rw [hnone]
    rfl
  · split
    · next t jitter => exact absurd rfl (hfire t jitter)
    · rfl

/-- An act leaves the routes that it computes. -/
lemma fpntExec_routes (a : Act OlsrDefenseFpnt) :
    ((fpntEdition redundant vectors).exec n a).routes =
      (((fpntComputing (fpntEdition redundant vectors) n a)).map FpntComputation.routes).getD
        n.routes := by
  by_cases hfire : ∃ t jitter, a = .fire t .handleDefenseTimer jitter
  · obtain ⟨t, jitter, rfl⟩ := hfire
    unfold Edition.exec fpntComputing
    split
    · rfl
    · exact fpntHandleDefenseTimer_routes (n := n.dequeue t .handleDefenseTimer)
  · have hne : ∀ t jitter, a ≠ .fire t .handleDefenseTimer jitter :=
      fun t jitter ha => hfire ⟨t, jitter, ha⟩
    have hdrop : ∀ (n : Node OlsrDefenseFpnt) x,
        ((fpntEdition redundant vectors).macTxDrop n x).routes = n.routes := by
      intro n x
      show (if x = 0 then n else n.macTxDrop x).routes = n.routes
      split <;> rfl
    have htc : ∀ (n : Node OlsrDefenseFpnt) msg tc senderIface,
        ((fpntEdition redundant vectors).processTc n msg tc senderIface).routes = n.routes :=
      fun _ msg tc senderIface => fpntProcessTc_routes (vectors msg) msg tc senderIface
    rw [fpntComputing_of_ne _ hne, Option.map_map,
      Edition.exec_routes _ n hdrop htc a fun t jitter ha => absurd ha (hne t jitter)]
    congr 2
    funext z
    show (if z.isTrustRoutingEnabled then z.trustRoutes else z.standardRoutes) = _
    rw [Function.comp, fpntComputation]
    split <;> rfl

end Acts

/-- An input leaves the routes that it has computed last. -/
lemma fpntNext_routes (env : FpntEnvironment) (x : FpntInput) :
    (n.fpntNext env x).routes =
      ((n.fpntComputingIn env x).map FpntComputation.routes).getD n.routes := by
  have hsettle : ∀ (n : Node OlsrDefenseFpnt) (c : Choice), (n.settle c).routes = n.routes := by
    intro n c
    cases c <;> rfl
  cases x with
  | control l vectors =>
    exact Lib.run_eq_lastWrite (fun n a => fpntExec_routes (n := n) a) n (n.acts l)
  | routeOutput t p oif =>
    simp only [fpntNext, fpntNextAt, fpntRouteOutput, fpntComputingIn]
    split
    · rfl
    · split
      · rfl
      · exact hsettle _ _
  | routeInput t p iif lcb =>
    simp only [fpntNext, fpntNextAt, fpntRouteInput, fpntComputingIn]
    split
    · rfl
    · split
      · split <;> rfl
      · exact hsettle _ _
  | frame t transmitter receiver p macToIpv4 =>
    simp only [fpntNext, fpntNextAt, fpntMonitorSnifferRx, fpntComputingIn]
    split
    · rfl
    · split <;> rfl
  | setEnabled t enabled =>
    simp only [fpntNext, fpntNextAt, fpntComputingIn]
    split
    · rfl
    · have htime : (FpntInput.setEnabled t enabled).time = t := rfl
      simp only [setDefenseEnabled, htime]
      cases (n.perform (Act.advance t)).toggling enabled <;> rfl

/-! ### The computations while the defense is enabled -/

/-- The defense has its protocol, and while it is enabled, the last computation is not one of the
standard passes. -/
structure TrustRouted (n : Node OlsrDefenseFpnt) (c : Option FpntComputation) : Prop where
  hasProtocol : ∃ d, n.defenseStrategy = some d ∧ d.hasProtocol = true
  trust : n.isTrustRoutingEnabled = true → ∀ z, c ≠ some (FpntComputation.standard z)

lemma isTrustRoutingEnabled_congr {m : Node OlsrDefenseFpnt}
    (h : m.defenseStrategy.map OlsrDefenseFpnt.settings =
      n.defenseStrategy.map OlsrDefenseFpnt.settings) :
    m.isTrustRoutingEnabled = n.isTrustRoutingEnabled := by
  unfold isTrustRoutingEnabled
  cases hm : m.defenseStrategy <;> cases hn : n.defenseStrategy
  · rfl
  · simp [hm, hn] at h
  · simp [hm, hn] at h
  · rw [hm, hn, Option.map_some, Option.map_some] at h
    have hsame := congrArg OlsrDefenseFpnt.enabled (Option.some.inj h)
    exact hsame

/-- What leaves the settings keeps the invariant, if it computes no standard routes while the
defense is enabled. -/
lemma TrustRouted.of_settings {m : Node OlsrDefenseFpnt} {c w : Option FpntComputation}
    (h : n.TrustRouted c)
    (hsw : Edition.reading OlsrDefenseFpnt.settings m = Edition.reading OlsrDefenseFpnt.settings n)
    (hw : n.isTrustRoutingEnabled = true → ∀ z, w ≠ some (FpntComputation.standard z)) :
    m.TrustRouted (w.or c) := by
  have hmap := congrArg Prod.snd hsw
  refine ⟨?_, fun henabled z => ?_⟩
  · obtain ⟨d, hd, hprotocol⟩ := h.hasProtocol
    have hsome : m.defenseStrategy.map OlsrDefenseFpnt.settings = some d.settings := by
      show (Edition.reading OlsrDefenseFpnt.settings m).2 = _
      rw [hmap, Edition.reading, hd]
      rfl
    obtain ⟨d', hd', hsame⟩ := Option.map_eq_some_iff.mp hsome
    have hkept := congrArg OlsrDefenseFpnt.hasProtocol hsame
    exact ⟨d', hd', hkept.trans hprotocol⟩
  · have hn : n.isTrustRoutingEnabled = true := by
      rw [← isTrustRoutingEnabled_congr hmap]
      exact henabled
    cases hwc : w with
    | none => exact h.trust hn z
    | some y =>
      rw [← hwc]
      simpa [hwc] using hw hn z

/-- The node whose routes an act computes has the strategy of the node before. -/
lemma computing_settings (v : Edition OlsrDefenseFpnt) {a : Act OlsrDefenseFpnt}
    {z : Node OlsrDefenseFpnt} (hz : v.computing n a = some z) :
    Edition.reading OlsrDefenseFpnt.settings z = Edition.reading OlsrDefenseFpnt.settings n := by
  have hg := Edition.reading_ignoresMessages OlsrDefenseFpnt.settings
  unfold Edition.computing at hz
  split at hz
  · cases hz
  · split at hz
    · rw [Option.some.inj hz]
    · next t b jitter =>
      unfold Edition.losing at hz
      split at hz
      · next tuple _ =>
        split at hz
        · cases hz
        · split at hz
          · obtain rfl := Option.some.inj hz
            exact Edition.mprComputation_dropNeighbor_frame (v := v) hg tuple
          · cases hz
      · cases hz
    · cases hz

lemma TrustRouted.exec {redundant : Bool} {vectors : MessageHeader → List EvaluationVector}
    {a : Act OlsrDefenseFpnt} {c : Option FpntComputation} (h : n.TrustRouted c)
    (ha : LeavesStrategy a) :
    ((fpntEdition redundant vectors).exec n a).TrustRouted
      ((fpntComputing (fpntEdition redundant vectors) n a).or c) := by
  refine h.of_settings (fpntExec_settings ha) fun henabled z hz => ?_
  by_cases hfire : ∃ t jitter, a = .fire t .handleDefenseTimer jitter
  · -- The periodic check computes trust routes only.
    obtain ⟨t, jitter, rfl⟩ := hfire
    unfold fpntComputing at hz
    split at hz
    · cases hz
    · obtain ⟨y, -, hy⟩ := Option.map_eq_some_iff.mp hz
      cases hy
  · rw [fpntComputing_of_ne _ fun t jitter ha => hfire ⟨t, jitter, ha⟩] at hz
    obtain ⟨y, hy, hcomputation⟩ := Option.map_eq_some_iff.mp hz
    have hy' : y.isTrustRoutingEnabled = true := by
      rw [isTrustRoutingEnabled_congr (congrArg Prod.snd (computing_settings _ hy))]
      exact henabled
    rw [fpntComputation, if_pos hy'] at hcomputation
    cases hcomputation

/-- The inputs besides the control traffic tell the defense of packets, or set its switch. -/
lemma fpntNextAt_settings (env : FpntEnvironment) {x : FpntInput}
    (hx : ∀ t enabled, x ≠ .setEnabled t enabled) :
    Edition.reading OlsrDefenseFpnt.settings (n.fpntNextAt env x) =
      Edition.reading OlsrDefenseFpnt.settings n := by
  have hsettle : ∀ c : Choice, Edition.reading OlsrDefenseFpnt.settings (n.settle c) =
      Edition.reading OlsrDefenseFpnt.settings n := by
    intro c
    cases c <;> rfl
  have htell : ∀ header p gateway,
      Edition.reading OlsrDefenseFpnt.settings (n.fpntTellForwarded header p gateway) =
        Edition.reading OlsrDefenseFpnt.settings n := fun header p gateway =>
    Edition.reading_mapDefense n fun d =>
      OlsrDefenseFpnt.settings_ignoresCounters.onDataPacketForwarded d n.now n.state header p.size
        gateway _
  cases x with
  | control l vectors => rfl
  | routeOutput t p oif =>
    simp only [fpntNextAt, fpntRouteOutput]
    split
    · exact htell _ _ _
    · exact hsettle _
  | routeInput t p iif lcb =>
    simp only [fpntNextAt, fpntRouteInput]
    split
    · split
      · exact htell _ _ _
      · rfl
    · exact hsettle _
  | frame t transmitter receiver p macToIpv4 =>
    simp only [fpntNextAt, fpntMonitorSnifferRx]
    split
    · rfl
    · exact Edition.reading_mapDefense n fun d =>
        OlsrDefenseFpnt.settings_ignoresCounters.onNeighborForwardedPacket d n.now n.state
          macToIpv4 _ _ _ _
  | setEnabled t enabled => exact absurd rfl (hx t enabled)

section Toggling

variable {d : OlsrDefenseFpnt} (hd : n.defenseStrategy = some d) {enabled : Bool}

include hd

lemma toggling_of_eq (hsame : d.enabled = enabled) : n.toggling enabled = none := by
  rw [toggling, hd]
  exact if_neg fun h => h.1 hsame

lemma toggling_of_ne (hprotocol : d.hasProtocol = true) (hne : d.enabled ≠ enabled) :
    n.toggling enabled = some { n with defenseStrategy := some (d.setEnabled enabled) } := by
  rw [toggling, hd]
  exact if_pos ⟨hne, hprotocol⟩

end Toggling

lemma TrustRouted.setDefenseEnabled {c : Option FpntComputation} (h : n.TrustRouted c)
    (enabled : Bool) :
    (n.setDefenseEnabled enabled).TrustRouted
      (((n.toggling enabled).map FpntComputation.trust).or c) := by
  obtain ⟨d, hd, hprotocol⟩ := h.hasProtocol
  rw [Node.setDefenseEnabled]
  by_cases hsame : d.enabled = enabled
  · have hset : d.setEnabled enabled = d := by rw [OlsrDefenseFpnt.setEnabled, if_pos hsame]
    rw [toggling_of_eq hd hsame]
    refine h.of_settings (w := none) ?_ (by simp)
    simp only [Edition.reading, mapDefense, hd, Option.map_some, hset]
  · rw [toggling_of_ne hd hprotocol hsame]
    refine ⟨⟨d.setEnabled enabled, rfl, ?_⟩, fun _ z hz => ?_⟩
    · rw [OlsrDefenseFpnt.setEnabled, if_neg hsame]
      exact hprotocol
    · cases hz

/-- **Step lemma.**  An input leaves no routes of the standard passes to an enabled defense. -/
lemma TrustRouted.fpntNext (env : FpntEnvironment) {x : FpntInput} {c : Option FpntComputation}
    (h : n.TrustRouted c) (hx : n.EnabledFpnt x) :
    (n.fpntNext env x).TrustRouted ((n.fpntComputingIn env x).or c) := by
  have hrunning : ¬ n.fatalError = true := by simp [hx.1]
  have hother : ∀ t, (∀ t enabled, x ≠ .setEnabled t enabled) →
      ((n.perform (Act.advance t)).fpntNextAt env x).TrustRouted c := fun t hset =>
    h.of_settings (w := none) ((fpntNextAt_settings env hset).trans rfl) (by simp)
  cases x with
  | control l vectors =>
    refine Lib.inv_lastWrite (P := fun _ a => a ∈ n.acts l) (fun m a c hm ha => ?_) h
      fun y hy => Lib.snd_mem_of_mem_trace hy
    exact hm.exec (hx.2.2.2.2.leavesStrategy ha)
  | setEnabled t enabled =>
    have hadvanced : (n.perform (Act.advance t)).TrustRouted c :=
      h.of_settings (w := none) rfl (by simp)
    simp only [Node.fpntNext, fpntNextAt, fpntComputingIn, if_neg hrunning]
    exact hadvanced.setDefenseEnabled enabled
  | _ =>
    simp only [Node.fpntNext, fpntComputingIn, if_neg hrunning]
    exact hother _ (by simp)

end Node

/-! ### Runs -/

namespace FpntRun

variable (r : FpntRun)

lemma start_trustRouted : r.start.TrustRouted none := by
  have hstart : Edition.reading OlsrDefenseFpnt.settings r.start =
      Edition.reading OlsrDefenseFpnt.settings r.config.node.fpntStartDefense :=
    Edition.doInitialize_reading _ _ OlsrDefenseFpnt.settings_ignoresControl.ignoresOlsr r.jitter
  have hinstalled : r.config.node.fpntStartDefense.TrustRouted none := by
    refine ⟨⟨{ r.strategy.setup r.config.node.chosenMainAddress with
      tcInterval := r.config.node.tcInterval }, ?_, rfl⟩, by simp⟩
    have hd : r.config.node.defenseStrategy = some r.strategy := r.installed
    rw [Node.fpntStartDefense]
    simp only [hd]
    rfl
  exact hinstalled.of_settings (w := none) hstart (by simp)

lemma start_routes : r.start.routes = (fun _ => none, []) := by
  rw [start, Edition.doInitialize_routes]
  show r.config.node.fpntStartDefense.routes = _
  rw [Node.fpntStartDefense]
  dsimp only
  split <;> rfl

/-- The routes are those of the last computation; at the beginning there are none. -/
lemma nodeAt_routes (i : ℕ) :
    (r.nodeAt i).routes =
      ((r.computedAt i).map FpntComputation.routes).getD (fun _ => none, []) := by
  rw [← r.start_routes]
  exact Lib.run_eq_lastWrite (fun n x => Node.fpntNext_routes (n := n) r.env x) r.start
    (r.inputs.take i)

lemma nodeAt_trustRouted (i : ℕ) : (r.nodeAt i).TrustRouted (r.computedAt i) := by
  have hrun := Lib.inv_lastWrite (J := Node.TrustRouted)
    (fun n x c (hn : n.TrustRouted c) hx => hn.fpntNext r.env hx) r.start_trustRouted
    fun y hy => r.enabled y (Lib.mem_trace_of_take (i := i) hy)
  rwa [Option.or_none] at hrun

/-- **Usable routes.**  While the defense is enabled, every entry of the table leads `FindSendEntry`
to an entry for the interface of a neighbor over a link that was symmetric when the table was
computed, as long as that computation found every neighbor reached at its main address. -/
theorem table_resolves (i : ℕ) (henabled : (r.nodeAt i).isTrustRoutingEnabled = true)
    (hmain : ∀ z, r.computedAt i = some (.trust z) → z.MainAddressLinks)
    {dest : Ipv4Address} {e : RoutingTableEntry} (he : (r.nodeAt i).table dest = some e) :
    ∃ z e', r.computedAt i = some (.trust z) ∧
      findSendEntryIn (r.nodeAt i).table e = SendEntry.found e' ∧ e'.destAddr = e'.nextAddr ∧
      z.SymIface e'.nextAddr := by
  have htable : (r.nodeAt i).table = _ := congrArg Prod.fst (r.nodeAt_routes i)
  cases hc : r.computedAt i with
  | none =>
    rw [htable, hc] at he
    cases he
  | some c =>
    cases c with
    | standard z => exact absurd hc ((r.nodeAt_trustRouted i).trust henabled z)
    | trust z =>
      rw [hc] at htable
      rw [htable] at he ⊢
      obtain ⟨e', hfound, hself, hsym⟩ := Node.trustTable_resolves (hmain z hc) he
      exact ⟨z, e', rfl, hfound, hself, hsym⟩

end FpntRun

section Interfaces

open Scenario

/-- A neighbor that is reached at its main address, and a node behind it. -/
def trustedBehind : FpntRun where
  config := quietFpnt
  strategy := {}
  installed := quietFpnt_installed
  fresh := OlsrDefenseFpnt.resetAccumulatedState_default
  checked := OlsrDefenseFpnt.attributesChecked_default
  jitter := 0
  isJitter := quietFpnt_isJitter
  env := { ipv4 := forwardingIpv4 }
  inputs := [.control (.timer 0 .sendQueuedMessages 0) fun _ => [],
    .control (recv 0 2 (hello 2 [symLinks [1, 4]])) fun _ => []]
  isRun := by decide +kernel

theorem trustedBehind_table_resolves :
    ∃ z e', trustedBehind.computedAt 2 = some (.trust z) ∧
      findSendEntryIn (trustedBehind.nodeAt 2).table
        ⟨4, 2, 0, 2, .link ⟨1, 2, Seconds 2, Seconds 2, Seconds 302⟩⟩ = SendEntry.found e' ∧
      e'.destAddr = e'.nextAddr ∧ z.SymIface e'.nextAddr := by
  have hmain : ((trustedBehind.computedAt 2).all fun c =>
      match c with
      | .trust z => decide z.MainAddressLinks
      | .standard _ => true) = true := by
    decide +kernel
  refine trustedBehind.table_resolves 2 (by decide +kernel) (fun z hz => ?_)
    (show (trustedBehind.nodeAt 2).table 4 = _ by decide +kernel)
  rw [hz] at hmain
  exact of_decide_eq_true hmain

/-- Neighbor 2 is reached at interface 22, which its MID message tells is one of its own. -/
def secondIface : FpntRun where
  config := quietFpnt
  strategy := {}
  installed := quietFpnt_installed
  fresh := OlsrDefenseFpnt.resetAccumulatedState_default
  checked := OlsrDefenseFpnt.attributesChecked_default
  jitter := 0
  isJitter := quietFpnt_isJitter
  env := { ipv4 := forwardingIpv4 }
  inputs := [.control (.timer 0 .sendQueuedMessages 0) fun _ => [],
    .control (recv 0 22 (hello 2 [symLinks [1]])) fun _ => [],
    .control (recv 0 22 (flooded 2 1 (.mid ⟨[22]⟩))) fun _ => []]
  isRun := by decide +kernel

/-- **No send entry.**  The defense is enabled, the entry for neighbor 2 leads to an address without
an entry, and a packet for it stops the simulation. -/
theorem secondIface_failure :
    ∃ e, (secondIface.nodeAt 3).isTrustRoutingEnabled = true ∧
      (secondIface.nodeAt 3).table 2 = some e ∧
      findSendEntryIn (secondIface.nodeAt 3).table e = SendEntry.failure ∧
      (secondIface.nodeAt 3).chooseOutput secondIface.env.ipv4 ⟨0, 1, 2⟩ none =
        Choice.fatalError :=
  ⟨⟨2, 22, 0, 1, .link ⟨1, 22, Seconds 2, Seconds 2, Seconds 302⟩⟩, by decide +kernel,
    by decide +kernel, by decide +kernel, by decide +kernel⟩

end Interfaces

end ManetOlsr
