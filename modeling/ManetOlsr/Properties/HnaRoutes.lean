/-
The HNA routing table.

The core offers the table one route for each association tuple with a gateway that it can reach,
and the table keeps a cheapest one for each network.  Before that, the loop that is meant to empty
the table deletes every other round only: of `k` routes, the last `k / 2` are left.
-/
import ManetOlsr.Lib.BestOffer
import ManetOlsr.Model.Fpnt
import ManetOlsr.Model.Frames
import ManetOlsr.Model.Scenario

namespace ManetOlsr

/-- The network a route leads to. -/
def HnaRoute.network (r : HnaRoute) : Ipv4Address × Ipv4Mask := (r.destNetwork, r.destNetworkMask)

/-! ### The loop that clears the table -/

namespace Node

variable {D : Type} (n : Node D)

lemma clearHnaRoutes_loop (routes : List HnaRoute) (i fuel : ℕ)
    (hfuel : routes.length ≤ fuel + i) :
    (Lib.whileLoop hnaRoutesLeft removeHnaRoute fuel (i, routes)).2 =
      routes.drop ((routes.length - i + 1) / 2) := by
  induction fuel generalizing routes i with
  | zero =>
    have hnone : (routes.length - i + 1) / 2 = 0 := by omega
    rw [Lib.whileLoop_zero, hnone, List.drop_zero]
  | succ fuel ih =>
    by_cases hi : i < routes.length
    · rw [Lib.whileLoop_of_true (by simpa [hnaRoutesLeft] using hi)]
      cases routes with
      | nil => simp at hi
      | cons r routes =>
        rw [List.length_cons] at hi hfuel ⊢
        have hcount : (routes.length + 1 - i + 1) / 2 = (routes.length - (i + 1) + 1) / 2 + 1 := by
          omega
        rw [hcount, List.drop_succ_cons]
        exact ih routes (i + 1) (by omega)
    · have hnone : (routes.length - i + 1) / 2 = 0 := by omega
      rw [Lib.whileLoop_of_false (by simpa [hnaRoutesLeft] using hi), hnone, List.drop_zero]

/-- **What the clearing loop leaves**: it deletes the first half of the routes only. -/
lemma clearHnaRoutes_eq_drop (routes : List HnaRoute) :
    clearHnaRoutes routes = routes.drop ((routes.length + 1) / 2) := by
  rw [clearHnaRoutes, clearHnaRoutes_loop routes 0 routes.length (by omega), Nat.sub_zero]

/-- The route that an association tuple offers, if its network is not one of the node's own and
its gateway has an entry in the table. -/
def hnaOffer (excluded : Finset Ipv4Address) (tbl : Table) (t : AssociationTuple) :
    Option HnaRoute :=
  if t.gatewayAddr ∈ excluded then none
  else if n.state.associations.any fun a =>
      a.networkAddr == t.networkAddr && a.netmask == t.netmask then none
  else
    (tbl t.gatewayAddr).map fun e =>
      ⟨t.networkAddr, t.netmask, e.nextAddr, e.interface, e.distance⟩

def hnaOffers (excluded : Finset Ipv4Address) (tbl : Table) : List HnaRoute :=
  n.state.associationSet.filterMap (n.hnaOffer excluded tbl)

/-- The routes are what the repositories and the table call for: for each network that is offered
one route over a nearest gateway, and no other route. -/
def HnaRoutesBest (tbl : Table) (routes : List HnaRoute) : Prop :=
  Lib.HoldsBest HnaRoute.network HnaRoute.metric (n.hnaOffers ∅ tbl) routes

/-- One step of the core is one offer. -/
lemma hnaStep_eq (excluded : Finset Ipv4Address) (tbl : Table) (routes : List HnaRoute)
    (t : AssociationTuple) :
    n.hnaStep excluded tbl routes t =
      match n.hnaOffer excluded tbl t with
      | some r => Lib.takeOffer HnaRoute.network HnaRoute.metric routes r
      | none => routes := by
  rw [hnaStep, hnaOffer]
  split
  · rfl
  · split
    · rfl
    · cases tbl t.gatewayAddr with
      | none => rfl
      | some e =>
        have hkey : ∀ r : HnaRoute, (r.network == HnaRoute.network
            ⟨t.networkAddr, t.netmask, e.nextAddr, e.interface, e.distance⟩) = r.leadsTo t := by
          intro r
          rw [Bool.eq_iff_iff]
          simp [HnaRoute.leadsTo, HnaRoute.network]
        simp only [Option.map_some, Lib.takeOffer, hkey]
        cases routes.find? fun r => r.leadsTo t with
        | none => rfl
        | some r => rfl

lemma coreHnaRoutes_eq_foldl (excluded : Finset Ipv4Address) (routes : List HnaRoute) :
    n.coreHnaRoutes excluded routes =
      (n.hnaOffers excluded (n.coreTable excluded)).foldl
        (Lib.takeOffer HnaRoute.network HnaRoute.metric) (clearHnaRoutes routes) := by
  rw [coreHnaRoutes, hnaOffers]
  generalize clearHnaRoutes routes = rest
  generalize n.coreTable excluded = tbl
  induction n.state.associationSet generalizing rest with
  | nil => rfl
  | cons t ts ih =>
    rw [List.foldl_cons, ih, hnaStep_eq]
    cases hoffer : n.hnaOffer excluded tbl t with
    | none => rw [List.filterMap_cons_none hoffer]
    | some r => rw [List.filterMap_cons_some hoffer, List.foldl_cons]

/-- The routes that the core leaves are routes that it has not cleared, and routes over gateways of
the table. -/
lemma mem_coreHnaRoutes {excluded : Finset Ipv4Address} {routes : List HnaRoute} {q : HnaRoute}
    (hq : q ∈ n.coreHnaRoutes excluded routes) :
    q ∈ clearHnaRoutes routes ∨ ∃ a e, n.coreTable excluded a = some e ∧ q.gateway = e.nextAddr := by
  rw [coreHnaRoutes_eq_foldl] at hq
  refine (Lib.mem_foldl_takeOffer hq).imp id fun hoffer => ?_
  obtain ⟨t, -, ht⟩ := List.mem_filterMap.mp hoffer
  rw [hnaOffer] at ht
  split_ifs at ht
  obtain ⟨e, he, rfl⟩ := Option.map_eq_some_iff.mp ht
  exact ⟨t.gatewayAddr, e, he, rfl⟩

lemma trustHnaRoutes_eq_append (tbl : Table) (routes : List HnaRoute) :
    n.trustHnaRoutes tbl routes = clearHnaRoutes routes ++ n.hnaOffers ∅ tbl := by
  rw [trustHnaRoutes, hnaOffers]
  generalize clearHnaRoutes routes = rest
  induction n.state.associationSet generalizing rest with
  | nil => simp
  | cons t ts ih =>
    rw [List.foldl_cons, ih, trustHnaStep]
    split
    · next hlocal =>
      rw [List.filterMap_cons_none (by simp only [hnaOffer, hlocal, if_true, ite_self])]
    · next hlocal =>
      cases hgateway : tbl t.gatewayAddr with
      | none => rw [List.filterMap_cons_none (by simp [hnaOffer, hgateway])]
      | some e =>
        rw [List.filterMap_cons_some (b := ⟨t.networkAddr, t.netmask, e.nextAddr, e.interface,
          e.distance⟩) (by simp [hnaOffer, hgateway, hlocal]), List.append_assoc]
        rfl

/-- The offers depend on the repositories only. -/
lemma hnaOffers_congr {n n' : Node D} (h : n'.state = n.state) : n'.hnaOffers = n.hnaOffers := by
  funext excluded tbl
  have hoffer : n'.hnaOffer excluded tbl = n.hnaOffer excluded tbl := by
    funext t
    rw [hnaOffer, hnaOffer, h]
  rw [hnaOffers, hnaOffers, hoffer, h]

/-- The core leaves the best routes if and only if the routes that it does not clear are distinct
and replaceable. -/
lemma coreHnaRoutes_best_iff (routes : List HnaRoute) :
    n.HnaRoutesBest (n.coreTable ∅) (n.coreHnaRoutes ∅ routes) ↔
      ((routes.drop ((routes.length + 1) / 2)).map HnaRoute.network).Nodup ∧
      ∀ r ∈ routes.drop ((routes.length + 1) / 2),
        Lib.Replaceable HnaRoute.network HnaRoute.metric (n.hnaOffers ∅ (n.coreTable ∅)) r := by
  rw [HnaRoutesBest, coreHnaRoutes_eq_foldl, Lib.holdsBest_foldl_iff, clearHnaRoutes_eq_drop]

/-- `RunTrustDijkstra` leaves the best routes if and only if it has cleared the table and no two
gateways offer one network. -/
lemma trustHnaRoutes_best_iff (tbl : Table) (routes : List HnaRoute) :
    n.HnaRoutesBest tbl (n.trustHnaRoutes tbl routes) ↔
      routes.length ≤ 1 ∧ ((n.hnaOffers ∅ tbl).map HnaRoute.network).Nodup := by
  have hdrop : routes.drop ((routes.length + 1) / 2) = [] ↔ routes.length ≤ 1 := by
    rw [List.drop_eq_nil_iff]
    omega
  rw [HnaRoutesBest, trustHnaRoutes_eq_append, clearHnaRoutes_eq_drop, ← hdrop]
  set offers := n.hnaOffers ∅ tbl
  set left := routes.drop ((routes.length + 1) / 2)
  constructor
  · intro h
    have hnodup := h.nodup
    rw [List.map_append, List.nodup_append] at hnodup
    refine ⟨List.eq_nil_iff_forall_not_mem.mpr fun r hr => ?_, hnodup.2.1⟩
    -- A route that is left is an offer, too, so that it is there twice.
    have hoffer : r ∈ offers := (h.cheapest r (List.mem_append_left _ hr)).1
    exact hnodup.2.2 _ (List.mem_map_of_mem hr) _ (List.mem_map_of_mem hoffer) rfl
  · rintro ⟨hleft, hnodup⟩
    rw [hleft, List.nil_append]
    refine ⟨hnodup, fun r hr => ⟨hr, fun r' hr' hkey => ?_⟩, fun r hr => ⟨r, hr, rfl⟩⟩
    rw [List.inj_on_of_nodup_map hnodup hr' hr hkey]

end Node

/-- **The HNA routes follow the state if and only if nothing stale stands in the way.**  After
`RoutingTableComputation`, the HNA routing table holds one route over a nearest reachable gateway
for each announced network that is not local, and no other route, exactly when the last half of
the routes that the core has found holds no network twice and each route in it is replaceable: it
is longer than the best one for its network, or one of the best itself.  After
`RunTrustDijkstra` it does exactly when there was at most one route before, and no two reachable
gateways announce the same network. -/
theorem hnaRoutes_best_iff {D : Type} [OlsrDefenseStrategy D] (n : Node D) :
    (let n' := n.routingTableComputation
      let found := n.staleHnaRoutes n.hnaRoutingTable
      n'.HnaRoutesBest n'.table n'.hnaRoutingTable ↔
        ((found.drop ((found.length + 1) / 2)).map HnaRoute.network).Nodup ∧
        ∀ r ∈ found.drop ((found.length + 1) / 2),
          Lib.Replaceable HnaRoute.network HnaRoute.metric (n.hnaOffers ∅ (n.coreTable ∅)) r) ∧
    ∀ tbl : Table, n.HnaRoutesBest tbl (n.trustHnaRoutes tbl n.hnaRoutingTable) ↔
      n.hnaRoutingTable.length ≤ 1 ∧ ((n.hnaOffers ∅ tbl).map HnaRoute.network).Nodup := by
  refine ⟨?_, fun tbl => n.trustHnaRoutes_best_iff tbl n.hnaRoutingTable⟩
  intro n' found
  rw [← n.coreHnaRoutes_best_iff found, Node.HnaRoutesBest, Node.HnaRoutesBest,
    Node.hnaOffers_congr n.routingTableComputation_state, n.routingTableComputation_table,
    n.routingTableComputation_hnaRoutingTable]

section Examples

open Scenario

/-- Gateway 2 announces two networks, and its link is lost. -/
def lostGateway : Run OlsrDefenseNull where
  config := single
  jitter := 0
  labels := [recv 0 2 (hello 2 [symLinks [1]]),
    recv 0 2 (flooded 2 1 (.hna ⟨[⟨0x0a000000, 0xff000000⟩, ⟨0x0b000000, 0xff000000⟩]⟩)),
    recv 0 2 (hello 2 [lostLinks [1]])]
  isJitter := single_isJitter
  isRun := by decide +kernel

/-- The node before and after the last computation of its tables. -/
def lostGateway.node : Node OlsrDefenseNull := (lostGateway.trace.get ⟨8, by decide +kernel⟩).1

def lostGateway.computed : Node OlsrDefenseNull := lostGateway.node.routingTableComputation

/-- A route to the second network is left, although there is no gateway any more. -/
theorem lostGateway_stale :
    (∃ pre post, lostGateway.trace =
      pre ++ (lostGateway.node, Act.routingTableComputation) :: post) ∧
    ¬ lostGateway.computed.HnaRoutesBest lostGateway.computed.table
      lostGateway.computed.hnaRoutingTable := by
  refine ⟨⟨_, _, Lib.split_at lostGateway.trace (by decide +kernel) (by decide +kernel)⟩,
    fun h => ?_⟩
  have hstale : ∃ r ∈ lostGateway.computed.hnaRoutingTable,
      r ∉ lostGateway.computed.hnaOffers ∅ lostGateway.computed.table := by decide +kernel
  obtain ⟨r, hr, hno⟩ := hstale
  exact hno (h.cheapest r hr).1

end Examples

end ManetOlsr
