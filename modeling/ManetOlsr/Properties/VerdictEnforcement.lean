/-
Where packets go when the watchdog has a verdict against a neighbor.

The edition for the watchdog leaves malicious neighbors out when it computes the routes, and asks for
no verdicts when it routes a packet.  Packets therefore go to a malicious neighbor when the verdict
is younger than the routes, when it is about an interface of a neighbor whose main address is not
malicious, or when they take one of the network routes that the clearing loop has left.  In all
other cases they do not.
-/
import ManetOlsr.Model.Scenario
import ManetOlsr.Model.WatchdogEdition
import ManetOlsr.Properties.HnaRoutes
import ManetOlsr.Properties.SuspectReroute

namespace ManetOlsr

/-! ### The gateways of the routes -/

namespace Node

section Gateways

variable {D : Type} (n : Node D) (ipv4 : Ipv4L3Protocol)

/-- A next address of the routing table, or the gateway of a network route. -/
def IsGateway (a : Ipv4Address) : Prop :=
  (∃ dest e, n.table dest = some e ∧ a = e.nextAddr) ∨ ∃ q ∈ n.hnaRoutingTable, a = q.gateway

variable {n ipv4}

lemma lookupStep_route (dest : Ipv4Address) (oif : Option ℕ) (x : StaticLookup) (r : HnaRoute) :
    (lookupStep dest oif x r).route = x.route ∨ (lookupStep dest oif x r).route = some r := by
  simp only [lookupStep]
  split_ifs
  all_goals first | exact Or.inl rfl | exact Or.inr rfl

/-- The lookup finds a route that it has gone through. -/
lemma foldl_lookupStep_route {dest : Ipv4Address} {oif : Option ℕ} {x : StaticLookup}
    {routes : List HnaRoute} {q : HnaRoute}
    (hq : (routes.foldl (lookupStep dest oif) x).route = some q) :
    x.route = some q ∨ q ∈ routes := by
  induction routes generalizing x with
  | nil => exact Or.inl hq
  | cons r routes ih =>
    rcases ih hq with hstep | hlater
    · rcases lookupStep_route dest oif x r with hkept | htaken
      · exact Or.inl (hkept ▸ hstep)
      · obtain rfl := Option.some.inj (htaken.symm.trans hstep)
        exact Or.inr List.mem_cons_self
    · exact Or.inr (List.mem_cons_of_mem r hlater)

lemma lookupStatic_gateway {dest : Ipv4Address} {oif : Option ℕ} {q : Ipv4Route}
    (hq : n.lookupStatic ipv4 dest oif = some q) : n.IsGateway q.gateway := by
  obtain ⟨r, hr, rfl⟩ := Option.map_eq_some_iff.mp hq
  rcases foldl_lookupStep_route hr with hstart | hmem
  · cases hstart
  · exact Or.inr ⟨r, hmem, rfl⟩

/-- A packet for a local multicast address has no gateway. -/
lemma hnaRouteOutput_gateway {p : DataPacket} {oif : Option ℕ} {q : Ipv4Route}
    (hq : n.hnaRouteOutput ipv4 p oif = .route q) (hgateway : q.gateway ≠ 0) :
    n.IsGateway q.gateway := by
  rw [hnaRouteOutput] at hq
  split at hq
  · split at hq
    · cases hq
      exact absurd rfl hgateway
    · cases hq
  · split at hq
    · next hlookup =>
      cases hq
      exact lookupStatic_gateway hlookup
    · cases hq

lemma hnaRouteInput_gateway {p : DataPacket} {iif : ℕ} {lcb : Bool} {q : Ipv4Route}
    (hq : n.hnaRouteInput ipv4 p iif lcb = .route q) : n.IsGateway q.gateway := by
  rw [hnaRouteInput] at hq
  split at hq
  · cases hq
  · split at hq
    · split at hq <;> cases hq
    · split at hq
      · cases hq
      · split at hq
        · next hlookup =>
          cases hq
          exact lookupStatic_gateway hlookup
        · cases hq

variable (hnext : ∀ a e, n.table a = some e → (n.table e.nextAddr).isSome)

include hnext

lemma sendTo_gateway {p : DataPacket} {dest : Ipv4Address} {e e₂ : RoutingTableEntry}
    (he : n.table dest = some e) (he₂ : findSendEntryIn n.table e = .found e₂) {q : Ipv4Route}
    (hq : n.sendTo p e₂ = .route q) : n.IsGateway q.gateway := by
  obtain ⟨a, ha⟩ := (findSendEntryIn_entry hnext he).2 e₂ he₂
  rw [sendTo] at hq
  split at hq
  · cases hq
  · cases hq
    exact Or.inl ⟨a, e₂, ha, rfl⟩

/-- A packet that is routed to a gateway is routed to one of the routes. -/
lemma chooseOutput_gateway {p : DataPacket} {oif : Option ℕ} {q : Ipv4Route}
    (hq : n.chooseOutput ipv4 p oif = .route q) (hgateway : q.gateway ≠ 0) :
    n.IsGateway q.gateway := by
  rw [chooseOutput] at hq
  split at hq
  · next e he =>
    split at hq
    · next e₂ he₂ =>
      split at hq
      · cases hq
      · exact sendTo_gateway hnext he he₂ hq
    · cases hq
    · cases hq
  · exact hnaRouteOutput_gateway hq hgateway

lemma chooseInput_gateway {p : DataPacket} {iif : ℕ} {lcb : Bool} {q : Ipv4Route}
    (hq : n.chooseInput ipv4 p iif lcb = .route q) : n.IsGateway q.gateway := by
  rw [chooseInput] at hq
  split at hq
  · cases hq
  · split at hq
    · split at hq <;> cases hq
    · split at hq
      · cases hq
      · split at hq
        · next e he =>
          split at hq
          · next e₂ he₂ => exact sendTo_gateway hnext he he₂ hq
          · cases hq
          · cases hq
        · exact hnaRouteInput_gateway hq

end Gateways

variable (n : Node OlsrWatchdogDefense)

/-- The watchdog has a verdict against an address, or against the main address that belongs to
it. -/
def blames (a : Ipv4Address) : Bool := n.suspects a || n.suspects (n.getMainAddress a)

/-- What a node blames can be seen in the node whose routes it has: the blamed interfaces of the
symmetric neighbors were then interfaces of malicious neighbors, and the loop that clears the network
routes leaves none over a blamed gateway. -/
structure VerdictsKnown (z n : Node OlsrWatchdogDefense) : Prop where
  neighbors : ∀ nb ∈ z.state.neighborSet, nb.status = Status.sym → ∀ l ∈ z.neighborLinks nb,
    n.blames l.neighborIfaceAddr = true → z.suspects nb.neighborMainAddr = true
  left : ∀ q ∈ clearHnaRoutes z.hnaRoutingTable, n.blames q.gateway = false

instance (z n : Node OlsrWatchdogDefense) : Decidable (VerdictsKnown z n) :=
  decidable_of_iff
    ((∀ nb ∈ z.state.neighborSet, nb.status = Status.sym → ∀ l ∈ z.neighborLinks nb,
      n.blames l.neighborIfaceAddr = true → z.suspects nb.neighborMainAddr = true) ∧
    ∀ q ∈ clearHnaRoutes z.hnaRoutingTable, n.blames q.gateway = false)
    ⟨fun h => ⟨h.1, h.2⟩, fun h => ⟨h.neighbors, h.left⟩⟩

variable {n}

/-- The gateways of routes that were computed when the verdicts were known are not blamed. -/
lemma VerdictsKnown.gateway {z : Node OlsrWatchdogDefense} (h : VerdictsKnown z n)
    (hroutes : n.routes = watchdogEdition.routes z) {a : Ipv4Address} (ha : n.IsGateway a) :
    n.blames a = false := by
  have htable : n.table = z.coreTable z.getBlacklist := congrArg Prod.fst hroutes
  have hhna : n.hnaRoutingTable = z.coreHnaRoutes z.getBlacklist z.hnaRoutingTable :=
    congrArg Prod.snd hroutes
  have hentry : ∀ dest e, z.coreTable z.getBlacklist dest = some e →
      n.blames e.nextAddr = false := by
    intro dest e he
    obtain ⟨-, nb, l, hreach, hnext⟩ := coreTable_next dest e he
    rw [hnext]
    by_contra hblamed
    have hsuspect := h.neighbors nb hreach.mem hreach.sym l hreach.link (by simpa using hblamed)
    exact hreach.notExcluded ((z.mem_getBlacklist_iff _).mpr hsuspect)
  rcases ha with ⟨dest, e, he, rfl⟩ | ⟨q, hq, rfl⟩
  · exact hentry dest e (htable ▸ he)
  · rw [hhna] at hq
    rcases mem_coreHnaRoutes z hq with hleft | ⟨dest, e, he, hgateway⟩
    · exact h.left q hleft
    · rw [hgateway]
      exact hentry dest e he

/-! ### The routes of a run -/

lemma editionWatchAt_routes (ipv4 : Ipv4L3Protocol) (x : WatchdogInput) :
    (n.editionWatchAt ipv4 x).routes = n.routes := by
  have hsettle : ∀ c : Choice, (n.settle c).routes = n.routes := by
    intro c
    cases c <;> rfl
  cases x with
  | node y =>
    cases y with
    | routeOutput t p oif =>
      simp only [editionWatchAt, watchdogRouteOutput]
      split
      · rfl
      · exact hsettle _
    | routeInput t p iif lcb =>
      simp only [editionWatchAt, watchdogRouteInput]
      split
      · split <;> rfl
      · exact hsettle _
    | _ => rfl
  | _ => rfl

lemma watchdogMacTxDrop_routes (finalDest : Ipv4Address) :
    (n.watchdogMacTxDrop finalDest).routes = n.routes := by
  rw [watchdogMacTxDrop]
  split
  · dsimp only
    split <;> rfl
  · rfl
  · rfl

/-- An input leaves the routes that it has computed last. -/
lemma editionWatch_routes (ipv4 : Ipv4L3Protocol) (x : WatchdogInput) :
    (n.editionWatch ipv4 x).routes =
      ((n.editionComputing x).map watchdogEdition.routes).getD n.routes := by
  have hother : (if n.fatalError then n
      else (n.perform (.advance x.time)).editionWatchAt ipv4 x).routes = n.routes := by
    split
    · rfl
    · exact editionWatchAt_routes ipv4 x
  cases x with
  | node y =>
    cases y with
    | control l =>
      exact watchdogEdition.step_routes n (fun m a => watchdogMacTxDrop_routes (n := m) a)
        (fun _ msg tc senderIface => Edition.routes_ignoresMessages.processTc msg senderIface tc)
        (fun _ => rfl) l
    | _ => exact hother
  | _ => exact hother

end Node

namespace WatchdogEditionRun

variable (r : WatchdogEditionRun)

/-- The routes are those of the last computation; at the beginning there are none. -/
lemma nodeAt_routes (i : ℕ) :
    (r.nodeAt i).routes =
      ((r.computedAt i).map watchdogEdition.routes).getD (fun _ => none, []) := by
  have hstart : r.start.routes = (fun _ => none, []) := by
    rw [start, watchdogEdition.doInitialize_routes]
    show r.config.node.startDefense.routes = _
    rw [Node.startDefense]
    split <;> rfl
  rw [← hstart]
  exact Lib.run_eq_lastWrite (fun n x => Node.editionWatch_routes (n := n) r.ipv4 x) r.start
    (r.inputs.take i)

lemma nodeAt_next (i : ℕ) (a : Ipv4Address) (e : RoutingTableEntry)
    (he : (r.nodeAt i).table a = some e) : ((r.nodeAt i).table e.nextAddr).isSome := by
  have htable := congrArg Prod.fst (r.nodeAt_routes i)
  cases hz : r.computedAt i with
  | none =>
    rw [hz] at htable
    rw [show (r.nodeAt i).table = _ from htable] at he
    cases he
  | some z =>
    rw [hz] at htable
    rw [show (r.nodeAt i).table = _ from htable] at he ⊢
    exact Node.coreTable_nextSome a e he

/-- **No packet goes to a neighbor with a verdict that the routes know.**  Whenever the verdicts
against the gateways were known when the routes were computed last, no packet is handed to a
gateway that is blamed. -/
theorem route_notBlamed (i : ℕ)
    (hknown : ∀ z, r.computedAt i = some z → Node.VerdictsKnown z (r.nodeAt i))
    (x : WatchdogInput) (q : Ipv4Route)
    (hq : (r.nodeAt i).choiceFor r.ipv4 x = some (.route q)) (hgateway : q.gateway ≠ 0) :
    (r.nodeAt i).blames q.gateway = false := by
  have hisGateway : (r.nodeAt i).IsGateway q.gateway := by
    simp only [Node.choiceFor] at hq
    split at hq
    · exact Node.chooseOutput_gateway (r.nodeAt_next i) (Option.some.inj hq) hgateway
    · exact Node.chooseInput_gateway (r.nodeAt_next i) (Option.some.inj hq)
    · contradiction
  have hroutes := r.nodeAt_routes i
  cases hz : r.computedAt i with
  | none =>
    -- without a computation there is no route
    rw [hz] at hroutes
    rcases hisGateway with ⟨dest, e, he, -⟩ | ⟨q', hq', -⟩
    · rw [show (r.nodeAt i).table = _ from congrArg Prod.fst hroutes] at he
      cases he
    · rw [show (r.nodeAt i).hnaRoutingTable = _ from congrArg Prod.snd hroutes] at hq'
      cases hq'
  | some z =>
    rw [hz] at hroutes
    exact (hknown z hz).gateway hroutes hisGateway

end WatchdogEditionRun

section LateVerdict

open Scenario

/-- Neighbor 2 does not forward a packet for 3, and is blacklisted after the second check; a HELLO
of neighbor 4 comes later. -/
def lateVerdict : WatchdogEditionRun where
  config :=
    { quietWatchdog with
      defenseStrategy := some
        { ownWifi := some 10, warmupDuration := 0, probationDuration := 0, blacklistThreshold := 1 } }
  strategy :=
    { ownWifi := some 10, warmupDuration := 0, probationDuration := 0, blacklistThreshold := 1 }
  installed := rfl
  fresh := ⟨rfl, rfl⟩
  jitter := 0
  isJitter := quietWatchdog_isJitter
  ipv4 := forwardingIpv4
  inputs := [.node (.control (.timer 0 .sendQueuedMessages 0)),
    .node (.control (recv 0 2 (hello 2 [symLinks [1, 3]] 0x88))),
    .node (.control (recv 0 4 (hello 4 [symLinks [1]] 0x88))),
    .frame 0 (.data 20 Mac48Address.getBroadcast 1 ⟨100, 0x0800, 0x45, 2, 0xffffffff⟩),
    .frame 0 (.data 20 Mac48Address.getBroadcast 2 ⟨100, 0x0800, 0x45, 2, 0xffffffff⟩),
    .node (.routeOutput 0 ⟨3, 1, 3⟩ none), .periodicCheck (Seconds 1) 1,
    .node (.control (.timer (Seconds 1) .handleDefenseTimer 0)), .periodicCheck (Seconds 2) 2,
    .node (.routeOutput (Seconds 2) ⟨4, 1, 3⟩ none),
    .node (.control (recv (Seconds 2) 4 (hello 4 [symLinks [1]] 0x88))),
    .node (.routeOutput (Seconds 2) ⟨5, 1, 4⟩ none)]
  isRun := by decide +kernel

/-- After the HELLO of 4 the verdict is known, and the packet for 4 goes to a neighbor that is not
blamed. -/
theorem lateVerdict_route_notBlamed : (lateVerdict.nodeAt 11).blames 4 = false := by
  have hknown : ((lateVerdict.computedAt 11).all fun z =>
      decide (Node.VerdictsKnown z (lateVerdict.nodeAt 11))) = true := by
    decide +kernel
  refine lateVerdict.route_notBlamed 11 (fun z hz => ?_)
    (.node (.routeOutput (Seconds 2) ⟨5, 1, 4⟩ none)) ⟨4, 1, 4, 0⟩ (by decide +kernel) (by decide)
  rw [hz] at hknown
  exact of_decide_eq_true hknown

/-- **A packet goes to a malicious neighbor**: before the routes are computed again, the second
packet for 3 is handed to 2. -/
theorem lateVerdict_blamed :
    ((lateVerdict.nodeAt 9, .node (.routeOutput (Seconds 2) ⟨4, 1, 3⟩ none)) ∈ lateVerdict.trace) ∧
      (lateVerdict.nodeAt 9).choiceFor lateVerdict.ipv4
        (.node (.routeOutput (Seconds 2) ⟨4, 1, 3⟩ none)) = some (.route ⟨3, 1, 2, 0⟩) ∧
      (lateVerdict.nodeAt 9).suspects 2 = true :=
  ⟨Lib.mem_trace_of_getElem? (i := 9) rfl _, by decide +kernel, by decide +kernel⟩

end LateVerdict

end ManetOlsr
