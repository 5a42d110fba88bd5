/-
What `SetEnabled` leaves in the routing tables when it switches the FPNT defense off.

It wipes the trust values and calls `RunTrustDijkstra` itself, instead of `RoutingTableComputation`,
which would choose the standard passes now.  A disabled defense answers every question about trust
with `m_uncertaintyBeta`.  A search in which all nodes but the source are trusted to this degree
takes the same course as one in which trust plays no part: the neighbors of the source come first,
and behind them, all paths are as good as their length.  So the tables are those that
`RunTrustDijkstra` makes without any defense; the standard passes come to other ones in general, and
they are not run before the next event of the protocol.
-/
import ManetOlsr.Model.Scenario
import ManetOlsr.Properties.TrustPaths
import ManetOlsr.Properties.TrustSendEntries

namespace ManetOlsr

/-! ### A search that ranks by length only -/

/-- The trust in a path of a length, where `beta` is the trust in every node on it but its ends. -/
def flatTrust (beta : ℚ) (hops : ℕ) : ℚ := if hops ≤ 1 then 1 else beta

section FlatTrust

variable {beta : ℚ}

lemma flatTrust_nonneg (hbeta : 0 ≤ beta) (hops : ℕ) : 0 ≤ flatTrust beta hops := by
  rw [flatTrust]
  split
  · exact zero_le_one
  · exact hbeta

/-- Longer paths are trusted less. -/
lemma flatTrust_antitone (hbeta : beta ≤ 1) : Antitone (flatTrust beta) := by
  intro h h' hle
  by_cases hone : h' ≤ 1
  · rw [flatTrust, flatTrust, if_pos hone, if_pos (hle.trans hone)]
  · rw [flatTrust, if_neg hone, flatTrust]
    split
    · exact hbeta
    · exact le_refl beta

/-- One node more on the path. -/
lemma min_flatTrust {hops : ℕ} (hbeta : beta ≤ 1) (hpos : hops ≠ 0) :
    min (flatTrust beta hops) beta = flatTrust beta (hops + 1) := by
  have hlong : ¬ hops + 1 ≤ 1 := by omega
  rw [flatTrust, flatTrust, if_neg hlong]
  split
  · exact min_eq_right hbeta
  · exact min_self beta

end FlatTrust

/-- A path of the search without trust, with its trust in the other search. -/
def PathState.flatten (beta : ℚ) (e : PathState) : PathState :=
  ⟨e.trust + (flatTrust beta e.hops - 1), e.hops, e.addr⟩

lemma PathState.flatten_injective (beta : ℚ) : Function.Injective (PathState.flatten beta) := by
  rintro ⟨trust, hops, addr⟩ ⟨trust', hops', addr'⟩ h
  rw [flatten, flatten, PathState.mk.injEq] at h
  obtain ⟨htrust, rfl, rfl⟩ := h
  obtain rfl : trust = trust' := add_right_cancel htrust
  rfl

/-- The order of two paths does not depend on the trust. -/
lemma PathState.flatten_lt {beta : ℚ} (hbeta : beta ≤ 1) {a b : PathState} (ha : a.trust = 1)
    (hb : b.trust = 1) : (a.flatten beta).lt (b.flatten beta) = a.lt b := by
  have hflat : ∀ e : PathState, e.trust = 1 →
      (e.flatten beta).trust = flatTrust beta e.hops := by
    intro e he
    rw [flatten, he, add_sub_cancel]
  have hequal : ¬ a.trust ≠ b.trust := by rw [ha, hb]; exact fun h => h rfl
  rw [lt, lt, if_neg hequal, hflat a ha, hflat b hb]
  by_cases htrust : flatTrust beta a.hops = flatTrust beta b.hops
  · rw [if_neg fun h => h htrust]
    rfl
  · rw [if_pos htrust]
    have hhops : a.hops ≠ b.hops := fun h => htrust (by rw [h])
    rw [if_pos hhops, decide_eq_decide]
    constructor
    · intro hmore
      by_contra hlong
      exact absurd (flatTrust_antitone hbeta (not_lt.mp hlong)) (not_le.mpr hmore)
    · intro hshort
      exact lt_of_le_of_ne (flatTrust_antitone hbeta hshort.le) (Ne.symm htrust)

namespace TrustSearch

/-- A search without trust, with the labels of the other search. -/
def flatten (beta : ℚ) (x : TrustSearch) : TrustSearch where
  maxTrust a := if x.maxTrust a = -1 then -1 else x.maxTrust a + (flatTrust beta (x.hops a) - 1)
  hops := x.hops
  parent := x.parent
  q := x.q.map (PathState.flatten beta)

/-- What a search without trust keeps: all paths are trusted, and only the source is its own. -/
structure Untrusting (mainAddress : Ipv4Address) (x : TrustSearch) : Prop where
  maxTrust : ∀ a, x.maxTrust a = 1 ∨ x.maxTrust a = -1
  trust : ∀ e ∈ x.q, e.trust = 1
  source : ∀ e ∈ x.q, e.hops = 0 ↔ e.addr = mainAddress
  main : x.maxTrust mainAddress = 1 ∧ x.hops mainAddress = 0

section Flatten

variable {beta : ℚ} {mainAddress : Ipv4Address} {x : TrustSearch}

lemma flatten_maxTrust_of_reached {v : Ipv4Address} (h : x.maxTrust v = 1) :
    (x.flatten beta).maxTrust v = flatTrust beta (x.hops v) := by
  have hreached : ¬ x.maxTrust v = -1 := by
    rw [h]
    norm_num
  rw [flatten]
  simp only [if_neg hreached]
  rw [h, add_sub_cancel]

lemma flatten_maxTrust_of_unreached {v : Ipv4Address} (h : x.maxTrust v = -1) :
    (x.flatten beta).maxTrust v = -1 := if_pos h

lemma mem_of_mem_dequeued {v : Ipv4Address} {e : PathState} (he : e ∈ x.dequeued v) : e ∈ x.q := by
  rw [dequeued] at he
  split at he
  · exact List.mem_of_mem_erase he
  · exact he

/-- A relaxation leaves the source alone. -/
lemma Untrusting.after_relax (hx : x.Untrusting mainAddress) (u : Ipv4Address) (hops : ℕ)
    (v : Ipv4Address) : (relax u 1 (hops + 1) x v).Untrusting mainAddress := by
  rw [relax]
  split
  swap
  · exact hx
  next hupdate =>
  have hother : v ≠ mainAddress := by
    rintro rfl
    rw [update, hx.main.1, hx.main.2] at hupdate
    simp at hupdate
  refine ⟨fun a => ?_, fun e he => ?_, fun e he => ?_, ?_⟩
  · by_cases ha : a = v
    · exact Or.inl (if_pos ha)
    · simp only [if_neg ha]
      exact hx.maxTrust a
  · rcases PathState.comparesKeys.mem_setInsert.mp he with rfl | he
    · rfl
    · exact hx.trust e (mem_of_mem_dequeued he)
  · rcases PathState.comparesKeys.mem_setInsert.mp he with rfl | he
    · exact ⟨fun h => absurd h (Nat.succ_ne_zero hops), fun h => absurd h hother⟩
    · exact hx.source e (mem_of_mem_dequeued he)
  · simp only [if_neg hother.symm]
    exact hx.main

variable (hbeta : 0 ≤ beta ∧ beta ≤ 1)
include hbeta

/-- The relaxation step finds the same paths better. -/
lemma Untrusting.update_flatten (hx : x.Untrusting mainAddress) (hops : ℕ) (v : Ipv4Address) :
    (x.flatten beta).update (flatTrust beta hops) hops v = x.update 1 hops v := by
  have hhops : (x.flatten beta).hops v = x.hops v := rfl
  rw [update, update, hhops, Bool.eq_iff_iff]
  simp only [Bool.or_eq_true, Bool.and_eq_true, decide_eq_true_eq, gt_iff_lt]
  rcases hx.maxTrust v with h | h
  · rw [flatten_maxTrust_of_reached h, h]
    constructor
    · rintro (hmore | ⟨-, hshort⟩)
      · refine Or.inr ⟨rfl, ?_⟩
        by_contra hlong
        exact absurd (flatTrust_antitone hbeta.2 (not_lt.mp hlong)) (not_le.mpr hmore)
      · exact Or.inr ⟨rfl, hshort⟩
    · rintro (hmore | ⟨-, hshort⟩)
      · exact absurd hmore (lt_irrefl 1)
      · rcases (flatTrust_antitone hbeta.2 hshort.le).lt_or_eq with hlt | heq
        · exact Or.inl hlt
        · exact Or.inr ⟨heq.symm, hshort⟩
  · -- A node without a path is reached by both.
    rw [flatten_maxTrust_of_unreached h, h]
    have hnonneg := flatTrust_nonneg hbeta.1 hops
    have hflat : -1 < flatTrust beta hops := by linarith
    have hplain : (-1 : ℚ) < 1 := by norm_num
    exact ⟨fun _ => Or.inl hplain, fun _ => Or.inl hflat⟩

lemma Untrusting.dequeued_flatten (hx : x.Untrusting mainAddress) (v : Ipv4Address) :
    (x.flatten beta).dequeued v = (x.dequeued v).map (PathState.flatten beta) := by
  rw [dequeued, dequeued]
  rcases hx.maxTrust v with h | h
  · have hreached : x.maxTrust v ≠ -1 := by
      rw [h]
      norm_num
    have hreached' : (x.flatten beta).maxTrust v ≠ -1 := by
      rw [flatten_maxTrust_of_reached h]
      have hnonneg := flatTrust_nonneg hbeta.1 (x.hops v)
      intro hminus
      rw [hminus] at hnonneg
      norm_num at hnonneg
    rw [if_pos hreached, if_pos hreached', List.map_erase (PathState.flatten_injective beta)]
    have hlabel : (x.flatten beta).maxTrust v = x.maxTrust v + (flatTrust beta (x.hops v) - 1) :=
      if_neg hreached
    rw [hlabel]
    rfl
  · rw [if_neg fun hne => hne (flatten_maxTrust_of_unreached h), if_neg fun hne => hne h]
    rfl

/-- **One edge.**  The relaxation of an edge commutes with the change of labels. -/
lemma Untrusting.relax_flatten (hx : x.Untrusting mainAddress) (u : Ipv4Address) (hops : ℕ)
    (v : Ipv4Address) :
    relax u (flatTrust beta hops) hops (x.flatten beta) v = (relax u 1 hops x v).flatten beta := by
  rw [relax, relax, hx.update_flatten hbeta]
  by_cases hupdate : x.update 1 hops v = true
  swap
  · rw [if_neg hupdate, if_neg hupdate]
  rw [if_pos hupdate, if_pos hupdate]
  have hnew : (⟨flatTrust beta hops, hops, v⟩ : PathState) = PathState.flatten beta ⟨1, hops, v⟩ := by
    rw [PathState.flatten, add_sub_cancel]
  have hqueue : Lib.setInsert PathState.lt ⟨flatTrust beta hops, hops, v⟩
      ((x.flatten beta).dequeued v) =
        (Lib.setInsert PathState.lt ⟨1, hops, v⟩ (x.dequeued v)).map (PathState.flatten beta) := by
    rw [hx.dequeued_flatten hbeta, hnew]
    refine Lib.setInsert_map _ _ fun e he => ?_
    have htrust : e.trust = 1 := hx.trust e (mem_of_mem_dequeued he)
    exact ⟨PathState.flatten_lt hbeta.2 rfl htrust, PathState.flatten_lt hbeta.2 htrust rfl⟩
  rw [hqueue, flatten]
  congr 1
  ext a
  by_cases ha : a = v
  · have hreached : ¬ (1 : ℚ) = -1 := by norm_num
    simp only [if_pos ha, if_neg hreached, add_sub_cancel]
  · simp only [if_neg ha]

/-- **One node.**  The loop over its neighbors, by induction on them. -/
lemma Untrusting.foldl_relax (hx : x.Untrusting mainAddress) (u : Ipv4Address) (hops : ℕ)
    (l : List Ipv4Address) :
    l.foldl (relax u (flatTrust beta (hops + 1)) (hops + 1)) (x.flatten beta) =
        (l.foldl (relax u 1 (hops + 1)) x).flatten beta ∧
      (l.foldl (relax u 1 (hops + 1)) x).Untrusting mainAddress := by
  induction l generalizing x with
  | nil => exact ⟨rfl, hx⟩
  | cons v l ih =>
    rw [List.foldl_cons, List.foldl_cons, hx.relax_flatten hbeta]
    exact ih (hx.after_relax u hops v)

/-- **Step lemma.**  One round of the search. -/
lemma Untrusting.round_flatten (hx : x.Untrusting mainAddress) (g : TrustGraph) :
    round g mainAddress (some fun _ => beta) (x.flatten beta) =
        (round g mainAddress none x).flatten beta ∧
      (round g mainAddress none x).Untrusting mainAddress := by
  cases hq : x.q with
  | nil =>
    have hflat : (x.flatten beta).q = [] := by
      rw [flatten, hq]
      rfl
    simp only [round, hq, hflat]
    exact ⟨trivial, hx⟩
  | cons top q =>
    have hflat : (x.flatten beta).q = top.flatten beta :: q.map (PathState.flatten beta) := by
      rw [flatten, hq]
      rfl
    have htop : top ∈ x.q := by
      rw [hq]
      exact List.mem_cons_self
    have htail : ({ x with q := q } : TrustSearch).Untrusting mainAddress := by
      have hsub : ∀ e ∈ q, e ∈ x.q := by
        intro e he
        rw [hq]
        exact List.mem_cons_of_mem top he
      exact ⟨hx.maxTrust, fun e he => hx.trust e (hsub e he), fun e he => hx.source e (hsub e he),
        hx.main⟩
    have hplain : min top.trust (nodeTrust mainAddress none top.addr) = 1 := by
      rw [hx.trust top htop]
      exact min_self 1
    have hranked : min (top.flatten beta).trust
        (nodeTrust mainAddress (some fun _ => beta) (top.flatten beta).addr) =
          flatTrust beta (top.hops + 1) := by
      have htrust : (top.flatten beta).trust = flatTrust beta top.hops := by
        rw [PathState.flatten, hx.trust top htop, add_sub_cancel]
      have haddr : (top.flatten beta).addr = top.addr := rfl
      rw [htrust, haddr, nodeTrust]
      by_cases hmain : top.addr = mainAddress
      · rw [if_pos hmain, (hx.source top htop).mpr hmain]
        exact min_self 1
      · rw [if_neg hmain]
        exact min_flatTrust hbeta.2 fun hzero => hmain ((hx.source top htop).mp hzero)
    simp only [round, hq, hflat, hplain, hranked]
    exact htail.foldl_relax hbeta top.addr top.hops (g.graph top.addr)

end Flatten

lemma untrusting_init (mainAddress : Ipv4Address) : (init mainAddress).Untrusting mainAddress := by
  refine ⟨fun a => ?_, fun e he => ?_, fun e he => ?_, if_pos rfl, if_pos rfl⟩
  · by_cases ha : a = mainAddress
    · exact Or.inl (if_pos ha)
    · exact Or.inr (if_neg ha)
  · obtain rfl := List.mem_singleton.mp he
    rfl
  · obtain rfl := List.mem_singleton.mp he
    exact ⟨fun _ => rfl, fun _ => rfl⟩

lemma init_flatten (beta : ℚ) (mainAddress : Ipv4Address) :
    (init mainAddress).flatten beta = init mainAddress := by
  rw [flatten, init]
  congr 1
  · ext a
    by_cases ha : a = mainAddress
    · have hreached : ¬ (1 : ℚ) = -1 := by norm_num
      simp only [if_pos ha, if_neg hreached]
      exact add_sub_cancel 1 1
    · simp only [if_neg ha, if_true]
  · have htop : PathState.flatten beta ⟨1, 0, mainAddress⟩ = ⟨1, 0, mainAddress⟩ := by
      rw [PathState.flatten, PathState.mk.injEq]
      exact ⟨add_sub_cancel 1 1, rfl, rfl⟩
    exact congrArg (fun e => [e]) htop

end TrustSearch

/-- **Run lemma.**  A search with the same trust in all nodes takes the course of one without. -/
lemma OlsrState.trustSearch_flatten (s : OlsrState) (mainAddress : Ipv4Address) {beta : ℚ}
    (hbeta : 0 ≤ beta ∧ beta ≤ 1) :
    s.trustSearch mainAddress (some fun _ => beta) =
      (s.trustSearch mainAddress none).flatten beta := by
  rw [trustSearch, trustSearch, trustRounds, trustRounds]
  conv_lhs => rw [← TrustSearch.init_flatten beta]
  refine Lib.whileLoop_map (TrustSearch.flatten beta) (TrustSearch.Untrusting mainAddress) ?_ ?_ ?_
    _ (TrustSearch.untrusting_init mainAddress)
  · intro x _
    rw [TrustSearch.goesOn, TrustSearch.goesOn, TrustSearch.flatten, List.isEmpty_map]
  · intro x hx _
    exact (hx.round_flatten hbeta (s.trustGraph mainAddress)).2
  · intro x hx _
    exact (hx.round_flatten hbeta (s.trustGraph mainAddress)).1

namespace Node

variable {D : Type} (n : Node D)

lemma firstHop_flatten (x : TrustSearch) (beta : ℚ) (sanity : ℕ) (curr : Ipv4Address) :
    (x.flatten beta).firstHop n.mainAddress sanity curr = x.firstHop n.mainAddress sanity curr := by
  induction sanity generalizing curr with
  | zero => rfl
  | succ sanity ih =>
    rw [TrustSearch.firstHop, TrustSearch.firstHop]
    have hparent : (x.flatten beta).parent = x.parent := rfl
    rw [hparent]
    cases x.parent curr with
    | none => rfl
    | some p =>
      show (if p = n.mainAddress then _ else _) = if p = n.mainAddress then _ else _
      rw [ih]

/-- **Trust that tells nobody apart.**  The table is the one that is made without a defense. -/
lemma trustTable_of_same {beta : ℚ} (hbeta : 0 ≤ beta ∧ beta ≤ 1) :
    n.trustTable (some fun _ => beta) = n.trustTable none := by
  funext dest
  rw [trustTable, trustTable, OlsrState.trustSearch_flatten _ _ hbeta, trustEntry, trustEntry,
    firstHop_flatten]
  rfl

/-! ### The switch -/

/-- The node with the same state and no defense strategy. -/
def withoutDefense : Node D := { n with defenseStrategy := none }

end Node

namespace Node

variable {n m : Node OlsrDefenseFpnt}

/-- The attribute `UncertaintyBeta` of the installed strategy has passed its checker. -/
def BetaChecked (n : Node OlsrDefenseFpnt) : Prop :=
  ∃ d, n.defenseStrategy = some d ∧ d.hasProtocol = true ∧
    0 ≤ d.uncertaintyBeta ∧ d.uncertaintyBeta ≤ 1

lemma BetaChecked.of_settings (h : n.BetaChecked)
    (hsame : Edition.reading OlsrDefenseFpnt.settings m =
      Edition.reading OlsrDefenseFpnt.settings n) : m.BetaChecked := by
  obtain ⟨d, hd, hprotocol, hbeta⟩ := h
  have hsome : m.defenseStrategy.map OlsrDefenseFpnt.settings = some d.settings := by
    show (Edition.reading OlsrDefenseFpnt.settings m).2 = _
    rw [hsame, Edition.reading, hd]
    rfl
  obtain ⟨d', hd', hsettings⟩ := Option.map_eq_some_iff.mp hsome
  have hkept : d'.settings.uncertaintyBeta = d.settings.uncertaintyBeta :=
    congrArg OlsrDefenseFpnt.uncertaintyBeta hsettings
  have hprotocol' := congrArg OlsrDefenseFpnt.hasProtocol hsettings
  refine ⟨d', hd', hprotocol'.trans hprotocol, ?_⟩
  show 0 ≤ d'.settings.uncertaintyBeta ∧ d'.settings.uncertaintyBeta ≤ 1
  rw [hkept]
  exact hbeta

lemma BetaChecked.setDefenseEnabled (h : n.BetaChecked) (enabled : Bool) :
    (n.setDefenseEnabled enabled).BetaChecked := by
  obtain ⟨d, hd, hprotocol, hbeta⟩ := h
  rw [Node.setDefenseEnabled]
  by_cases hsame : d.enabled = enabled
  · have hset : d.setEnabled enabled = d := by rw [OlsrDefenseFpnt.setEnabled, if_pos hsame]
    rw [toggling_of_eq hd hsame]
    refine ⟨d, ?_, hprotocol, hbeta⟩
    show n.defenseStrategy.map _ = some d
    rw [hd, Option.map_some, hset]
  · rw [toggling_of_ne hd hprotocol hsame]
    refine ⟨d.setEnabled enabled, rfl, ?_⟩
    rw [OlsrDefenseFpnt.setEnabled, if_neg hsame]
    exact ⟨hprotocol, hbeta⟩

/-- **Step lemma.**  No input touches the attributes. -/
lemma BetaChecked.fpntNext (env : FpntEnvironment) {x : FpntInput} (h : n.BetaChecked)
    (hx : n.EnabledFpnt x) : (n.fpntNext env x).BetaChecked := by
  have hrunning : ¬ n.fatalError = true := by simp [hx.1]
  have hother : ∀ t, (∀ t enabled, x ≠ .setEnabled t enabled) →
      ((n.perform (Act.advance t)).fpntNextAt env x).BetaChecked := fun t hset =>
    h.of_settings ((fpntNextAt_settings env hset).trans rfl)
  cases x with
  | control l vectors =>
    refine Lib.inv_run (P := fun _ a => a ∈ n.acts l) (fun m a hm ha => ?_) h
      fun y hy => Lib.snd_mem_of_mem_trace hy
    exact hm.of_settings (fpntExec_settings (hx.2.2.2.2.leavesStrategy ha))
  | setEnabled t enabled =>
    have hadvanced : (n.perform (Act.advance t)).BetaChecked := h.of_settings rfl
    simp only [Node.fpntNext, fpntNextAt, if_neg hrunning]
    exact hadvanced.setDefenseEnabled enabled
  | _ =>
    simp only [Node.fpntNext, if_neg hrunning]
    exact hother _ (by simp)

/-- A disabled defense trusts all nodes alike. -/
lemma getNodeTrust_disabled {d : OlsrDefenseFpnt} (h : d.enabled = false) (s : OlsrState) :
    d.getNodeTrust s = fun _ => d.uncertaintyBeta := by
  funext a
  rw [OlsrDefenseFpnt.getNodeTrust, h]
  rfl

/-- What `SetEnabled (false)` leaves of a node whose defense is enabled. -/
lemma BetaChecked.setDefenseEnabled_false (h : n.BetaChecked)
    (henabled : n.isTrustRoutingEnabled = true) :
    (n.setDefenseEnabled false).withoutDefense =
        n.withoutDefense.withRoutes n.withoutDefense.trustRoutes ∧
      (n.setDefenseEnabled false).isTrustRoutingEnabled = false ∧
      (n.setDefenseEnabled false).getBlacklist = ∅ := by
  obtain ⟨d, hd, hprotocol, hbeta⟩ := h
  have hon : d.enabled = true := by
    rw [isTrustRoutingEnabled, hd] at henabled
    exact henabled
  have hne : d.enabled ≠ false := by
    rw [hon]
    exact Bool.true_eq_false_eq_False
  have hoff : (d.setEnabled false).enabled = false := by
    rw [OlsrDefenseFpnt.setEnabled, if_neg hne]
    rfl
  have hkept : (d.setEnabled false).uncertaintyBeta = d.uncertaintyBeta := by
    rw [OlsrDefenseFpnt.setEnabled, if_neg hne]
    rfl
  rw [Node.setDefenseEnabled, toggling_of_ne hd hprotocol hne]
  set n₁ : Node OlsrDefenseFpnt := { n with defenseStrategy := some (d.setEnabled false) }
  have htrust : n₁.getNodeTrust = some fun _ => d.uncertaintyBeta := by
    show some ((d.setEnabled false).getNodeTrust n.state) = _
    rw [getNodeTrust_disabled hoff, hkept]
  have hroutes : n₁.trustRoutes = n.withoutDefense.trustRoutes := by
    rw [trustRoutes, runTrustDijkstra, htrust, n₁.trustTable_of_same hbeta]
    rfl
  refine ⟨?_, hoff, ?_⟩
  · show (n₁.withRoutes n₁.trustRoutes).withoutDefense = _
    rw [hroutes]
    rfl
  · show (d.setEnabled false).getBlacklist = ∅
    rw [OlsrDefenseFpnt.getBlacklist, hoff]
    rfl

end Node

namespace FpntRun

variable (r : FpntRun)

lemma start_betaChecked : r.start.BetaChecked := by
  have hstart : Edition.reading OlsrDefenseFpnt.settings r.start =
      Edition.reading OlsrDefenseFpnt.settings r.config.node.fpntStartDefense :=
    Edition.doInitialize_reading _ _ OlsrDefenseFpnt.settings_ignoresControl.ignoresOlsr r.jitter
  have hinstalled : r.config.node.fpntStartDefense.BetaChecked := by
    refine ⟨{ r.strategy.setup r.config.node.chosenMainAddress with
      tcInterval := r.config.node.tcInterval }, ?_, rfl, r.checked.uncertaintyBeta⟩
    have hd : r.config.node.defenseStrategy = some r.strategy := r.installed
    rw [Node.fpntStartDefense]
    simp only [hd]
    rfl
  exact hinstalled.of_settings hstart

lemma nodeAt_betaChecked (i : ℕ) : (r.nodeAt i).BetaChecked :=
  Lib.inv_run (fun _ _ hn hx => hn.fpntNext r.env hx) r.start_betaChecked
    fun y hy => r.enabled y (Lib.mem_trace_of_take (i := i) hy)

/-- The node after an input of the run. -/
lemma nodeAt_succ {i : ℕ} {x : FpntInput} (hx : r.inputs[i]? = some x) :
    r.nodeAt (i + 1) = (r.nodeAt i).fpntNext r.env x := by
  rw [nodeAt, List.take_add_one, hx, Option.toList_some, Lib.run_append]
  rfl

/-- An input of the run comes with the node it happens to. -/
lemma nodeAt_enabled {i : ℕ} {x : FpntInput} (hx : r.inputs[i]? = some x) :
    (r.nodeAt i).EnabledFpnt x := by
  refine r.enabled (r.nodeAt i, x) (Lib.mem_trace_of_take (i := i + 1) ?_)
  rw [List.take_add_one, hx, Option.toList_some, Lib.trace_append]
  exact List.mem_append_right _ (List.mem_singleton_self _)

/-- **Switched off.**  `SetEnabled` leaves the node as if it had no defense and `RunTrustDijkstra`
had been run on it; from there on, `RoutingTableComputation` makes the standard passes over it, as
for a node without a defense. -/
theorem setEnabled_false_routes {i : ℕ} {t : Time}
    (hi : r.inputs[i]? = some (FpntInput.setEnabled t false))
    (henabled : (r.nodeAt i).isTrustRoutingEnabled = true) :
    (r.nodeAt (i + 1)).withoutDefense =
        { (r.nodeAt i).withoutDefense with now := t }.withRoutes
          { (r.nodeAt i).withoutDefense with now := t }.trustRoutes ∧
      ∀ vectors, (fpntEdition r.env.redundantMprCoverage vectors).routes (r.nodeAt (i + 1)) =
        (r.nodeAt (i + 1)).withoutDefense.standardRoutes := by
  have hrunning : ¬ (r.nodeAt i).fatalError = true := by simp [(r.nodeAt_enabled hi).1]
  have hadvanced : ((r.nodeAt i).perform (Act.advance t)).BetaChecked :=
    (r.nodeAt_betaChecked i).of_settings rfl
  have hnext : r.nodeAt (i + 1) =
      ((r.nodeAt i).perform (Act.advance t)).setDefenseEnabled false := by
    rw [r.nodeAt_succ hi]
    exact if_neg hrunning
  obtain ⟨hnode, hoff, hblacklist⟩ := hadvanced.setDefenseEnabled_false henabled
  rw [← hnext] at hnode hoff hblacklist
  refine ⟨hnode, fun vectors => ?_⟩
  have hstandard : (fpntEdition r.env.redundantMprCoverage vectors).routes (r.nodeAt (i + 1)) =
      (r.nodeAt (i + 1)).standardRoutes := by
    show (if (r.nodeAt (i + 1)).isTrustRoutingEnabled = true then _ else _) = _
    rw [hoff]
    rfl
  rw [hstandard, Node.standardRoutes, hblacklist]
  rfl

end FpntRun

section SwitchedOff

open Scenario

/-- Neighbor 2 is reached at interface 22, which its MID message tells is one of its own; then the
defense is switched off. -/
def switchedOff : FpntRun where
  config := quietFpnt
  strategy := {}
  installed := quietFpnt_installed
  fresh := OlsrDefenseFpnt.resetAccumulatedState_default
  checked := OlsrDefenseFpnt.attributesChecked_default
  jitter := 0
  isJitter := quietFpnt_isJitter
  env := { ipv4 := forwardingIpv4 }
  inputs := [.control (.timer 0 .sendQueuedMessages 0) fun _ => [],
    .control (recv 0 22 (hello 2 [symLinks [1]])) fun _ => [],
    .control (recv 0 22 (flooded 2 1 (.mid ⟨[22]⟩))) fun _ => [], .setEnabled 0 false]
  isRun := by decide +kernel

theorem switchedOff_setEnabled_false_routes :
    (switchedOff.nodeAt 4).withoutDefense =
        { (switchedOff.nodeAt 3).withoutDefense with now := 0 }.withRoutes
          { (switchedOff.nodeAt 3).withoutDefense with now := 0 }.trustRoutes ∧
      ∀ vectors, (fpntEdition false vectors).routes (switchedOff.nodeAt 4) =
        (switchedOff.nodeAt 4).withoutDefense.standardRoutes :=
  switchedOff.setEnabled_false_routes rfl (by decide +kernel)

/-- **Not the tables of plain OLSR.**  The standard passes enter the interface 22. -/
theorem switchedOff_differs :
    ∃ e, switchedOff.inputs[3]? = some (FpntInput.setEnabled 0 false) ∧
      (switchedOff.nodeAt 3).isTrustRoutingEnabled = true ∧
      (switchedOff.nodeAt 4).table 22 = none ∧
      (switchedOff.nodeAt 4).withoutDefense.standardRoutes.1 22 = some e :=
  ⟨⟨22, 22, 0, 1, .link ⟨1, 22, Seconds 2, Seconds 2, Seconds 302⟩⟩, rfl, by decide +kernel,
    by decide +kernel, by decide +kernel⟩

end SwitchedOff

end ManetOlsr
