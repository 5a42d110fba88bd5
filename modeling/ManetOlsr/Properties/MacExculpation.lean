/-
MAC failures.

A packet that the MAC layer gives up is charged to the neighbor that `MacTxDrop` finds for its
destination in the routing table of that moment, and the oldest packet that is pending for this
neighbor is withdrawn.  The watchdog keeps the packet under the neighbor it was handed to.  The two
are the same neighbor unless the route has changed since, or was a network route, which the routing
table does not have; and the packet that is withdrawn is the one that was dropped if no older one is
pending.
-/
import ManetOlsr.Model.Scenario
import ManetOlsr.Model.WatchdogEdition

namespace ManetOlsr

namespace OlsrWatchdogDefense

variable {d : OlsrWatchdogDefense} (now : Time) (s : OlsrState)

/-! ### The pending packets -/

/-- A condition on the packets that are pending for a neighbor, which holds still when some of them
are taken off. -/
structure Shrinkable (Q : Ipv4Address → List PendingPacket → Prop) : Prop where
  nil a : Q a []
  sublist {a l l'} : l'.Sublist l → Q a l → Q a l'

/-- The watchdog knows the address of its node.  The packets that are pending meet a condition; there
are none if the watchdog is switched off. -/
structure Books (main : Ipv4Address) (Q : Ipv4Address → List PendingPacket → Prop)
    (d : OlsrWatchdogDefense) : Prop where
  mainAddress : d.mainAddress = main
  enabled : d.enabled = true ∨ d.pendingByNeighbor = []
  ordered : Lib.Ordered Ipv4Address.lt (d.pendingByNeighbor.map Prod.fst)
  pending : ∀ kv ∈ d.pendingByNeighbor, Q kv.1 kv.2

/-- What this depends on. -/
def ledger (d : OlsrWatchdogDefense) :
    Bool × Ipv4Address × List (Ipv4Address × List PendingPacket) :=
  (d.enabled, d.mainAddress, d.pendingByNeighbor)

lemma ledger_ignoresStats : IgnoresStats ledger := ⟨fun _ _ => rfl⟩

lemma ledger_ignoresAddresses : IgnoresAddresses ledger := ⟨fun _ _ => rfl, fun _ _ => rfl⟩

variable {main : Ipv4Address} {Q : Ipv4Address → List PendingPacket → Prop}

namespace Books

lemma congr {d' : OlsrWatchdogDefense} (h : d.Books main Q) (hd : d'.ledger = d.ledger) :
    d'.Books main Q := by
  simp only [ledger, Prod.mk.injEq] at hd
  obtain ⟨henabled, hmain, hpending⟩ := hd
  exact ⟨hmain.trans h.mainAddress, by rw [henabled, hpending]; exact h.enabled,
    hpending ▸ h.ordered, hpending ▸ h.pending⟩

lemma pendingOf (h : d.Books main Q) (hQ : Shrinkable Q) (a : Ipv4Address) : Q a (d.pendingOf a) := by
  rw [OlsrWatchdogDefense.pendingOf]
  cases hfind : Lib.mapFind d.pendingByNeighbor a with
  | none => exact hQ.nil a
  | some vec => exact h.pending _ (Lib.mem_of_mapFind hfind)

lemma setPending (h : d.Books main Q) (henabled : d.enabled = true) {a : Ipv4Address}
    {vec : List PendingPacket} (hvec : Q a vec) : (d.setPending a vec).Books main Q := by
  refine ⟨h.mainAddress, Or.inl henabled, Ipv4Address.comparesKeys.ordered_mapSet h.ordered, ?_⟩
  intro kv hkv
  rcases Lib.mem_mapSet hkv with rfl | hkv
  · exact hvec
  · exact h.pending kv hkv

lemma onDataPacketForwarded (h : d.Books main Q) (hQ : Shrinkable Q) (uid : ℕ)
    (nextHop finalDest : Ipv4Address)
    (hnew : ∀ vec, nextHop ≠ main → ¬ (nextHop = 0xffffffff ∨ nextHop = 0 ∨ isMulticast nextHop) →
      Q nextHop vec → Q nextHop (vec ++ [⟨uid, finalDest, now⟩])) :
    (d.onDataPacketForwarded now uid nextHop finalDest).Books main Q := by
  simp only [OlsrWatchdogDefense.onDataPacketForwarded]
  split_ifs with henabled hmain hfinal hunicast hmalicious
  · exact h
  · exact h
  · exact h
  · exact h
  · exact h
  · refine Books.congr ?_ (ledger_ignoresStats.setStats _ _ _)
    exact h.setPending (by simpa using henabled)
      (hnew _ (fun heq => hmain (heq.trans h.mainAddress.symm)) hunicast (h.pendingOf hQ nextHop))

lemma onMacTxFailure (h : d.Books main Q) (hQ : Shrinkable Q) (neighbor : Ipv4Address) (count : ℕ) :
    (d.onMacTxFailure neighbor count).Books main Q := by
  simp only [OlsrWatchdogDefense.onMacTxFailure]
  split_ifs with henabled hunicast
  · exact h
  · exact h
  · have hstats := h.congr (ledger_ignoresStats.setStats d neighbor
      { d.statsOf neighbor with
        macTxFailures := (d.statsOf neighbor).macTxFailures + UInt32.ofNat count })
    split
    · next pp vec hfind =>
      have hon : d.enabled = true := by simpa using henabled
      exact hstats.setPending hon
        (hQ.sublist (List.sublist_cons_self pp vec) (h.pending _ (Lib.mem_of_mapFind hfind)))
    · exact hstats

lemma onNeighborForwardedPacket (h : d.Books main Q) (hQ : Shrinkable Q) (tx rx : Mac48Address)
    (uid : ℕ) : (d.onNeighborForwardedPacket now s tx rx uid).Books main Q := by
  simp only [OlsrWatchdogDefense.onNeighborForwardedPacket]
  split_ifs with henabled hunset
  · exact h
  · exact h
  · have hstats := h.congr (ledger_ignoresStats.setStats d (d.lookupIpFromMac tx)
      { d.statsOf (d.lookupIpFromMac tx) with
        dataFromThisNode := (d.statsOf (d.lookupIpFromMac tx)).dataFromThisNode + 1
        lastActivityTime := now })
    simp only [creditForward]
    split_ifs
    · exact hstats
    · exact hstats
    · refine Books.congr ?_ (ledger_ignoresStats.setStats _ _ _)
      have hon : d.enabled = true := by simpa using henabled
      exact hstats.setPending hon
        (hQ.sublist List.eraseP_sublist (hstats.pendingOf hQ _))

lemma snifferRxCallback (h : d.Books main Q) (hQ : Shrinkable Q) (f : WifiFrame) :
    (d.snifferRxCallback now s f).Books main Q := by
  cases f with
  | rts tx rx =>
    simp only [OlsrWatchdogDefense.snifferRxCallback]
    split_ifs
    · exact h
    · exact h
    · exact h.congr (ledger_ignoresStats.onRtsReceived d tx)
  | cts rx =>
    simp only [OlsrWatchdogDefense.snifferRxCallback]
    split_ifs
    · exact h
    · exact h.congr (ledger_ignoresStats.onCtsReceived d rx)
  | data tx rx uid body =>
    simp only [OlsrWatchdogDefense.snifferRxCallback]
    split_ifs
    · exact h
    · exact h
    · exact (h.congr (ledger_ignoresAddresses.learn d tx rx body)).onNeighborForwardedPacket now s
        hQ tx rx uid
  | other => exact h

/-- The packets that are left after the check were pending before it. -/
lemma ageOut (h : d.Books main Q) (hQ : Shrinkable Q) : (d.ageOut now).Books main Q := by
  have hsame : (d.pendingByNeighbor.foldl (d.evaluateTimedOut now) d).ledger = d.ledger :=
    ledger_ignoresStats.evaluateTimedOut d now d.pendingByNeighbor d
  simp only [ledger, Prod.mk.injEq] at hsame
  refine ⟨hsame.2.1.trans h.mainAddress, h.enabled.imp hsame.1.trans fun hnone => ?_, ?_, ?_⟩
  · show d.pendingByNeighbor.filterMap _ = []
    rw [hnone]
    rfl
  · refine h.ordered.sublist (Lib.map_fst_filterMap_sublist ?_ _)
    intro kv p hp
    dsimp only at hp
    split at hp
    · cases hp
    · rw [← Option.some.inj hp]
  · intro kv hkv
    obtain ⟨kv', hkv', hsome⟩ := List.mem_filterMap.mp hkv
    simp only [Option.ite_none_left_eq_some, Option.some.injEq] at hsome
    obtain ⟨-, rfl⟩ := hsome
    exact hQ.sublist List.filter_sublist (h.pending kv' hkv')

lemma periodicCheck (h : d.Books main Q) (hQ : Shrinkable Q) : (d.periodicCheck now).Books main Q := by
  rw [OlsrWatchdogDefense.periodicCheck]
  split
  · exact h.congr rfl
  · have hchecked := (h.ageOut now hQ).congr ((ledger_ignoresAddresses.releaseExpiredBlacklist _ now
      ledger_ignoresStats).trans (ledger_ignoresAddresses.maybeBlacklistAll _ now
        ledger_ignoresStats))
    exact hchecked.congr rfl

lemma setEnabled (h : d.Books main Q) (enabled : Bool) : (d.setEnabled now enabled).Books main Q := by
  rw [OlsrWatchdogDefense.setEnabled]
  split
  · exact h
  · exact ⟨h.mainAddress, Or.inr rfl, List.Pairwise.nil, fun kv hkv => by cases hkv⟩

end Books

lemma setup_ledger (nodeAddress : Ipv4Address) :
    (d.setup now nodeAddress).ledger = (d.enabled, nodeAddress, d.pendingByNeighbor) := by
  simp only [setup, attachWifiTraces]
  cases d.ownWifi <;> rfl

end OlsrWatchdogDefense

namespace Node

open OlsrWatchdogDefense

variable {n : Node OlsrWatchdogDefense} {main : Ipv4Address}
  {Q : Ipv4Address → List PendingPacket → Prop}

/-- The watchdog keeps its books, under the address of the node. -/
def KeepsBooks (main : Ipv4Address) (Q : Ipv4Address → List PendingPacket → Prop)
    (n : Node OlsrWatchdogDefense) : Prop :=
  n.mainAddress = main ∧ ∃ d, n.defenseStrategy = some d ∧ d.Books main Q

namespace KeepsBooks

lemma of_reading_eq (h : n.KeepsBooks main Q) {m : Node OlsrWatchdogDefense}
    (hm : Edition.reading id m = Edition.reading id n) : m.KeepsBooks main Q := by
  obtain ⟨hmain, d, hd, hbooks⟩ := h
  simp only [Edition.reading, Option.map_id, id_eq, Prod.mk.injEq] at hm
  exact ⟨hm.1.trans hmain, d, hm.2.trans hd, hbooks⟩

lemma mapDefense (h : n.KeepsBooks main Q) {f : OlsrWatchdogDefense → OlsrWatchdogDefense}
    (hf : ∀ d, d.Books main Q → (f d).Books main Q) : (n.mapDefense f).KeepsBooks main Q := by
  obtain ⟨hmain, d, hd, hbooks⟩ := h
  exact ⟨hmain, f d, congrArg (Option.map f) hd, hf d hbooks⟩

lemma watchdogMacTxDrop (h : n.KeepsBooks main Q) (hQ : Shrinkable Q) (finalDest : Ipv4Address) :
    (n.watchdogMacTxDrop finalDest).KeepsBooks main Q := by
  simp only [Node.watchdogMacTxDrop]
  split
  · split
    · exact h
    · exact h.mapDefense fun d hd => hd.onMacTxFailure hQ _ 1
  · exact h
  · exact h

lemma reactivate (h : n.KeepsBooks main Q) :
    (n.perform .reactivateDefenseStrategy).KeepsBooks main Q := by
  obtain ⟨hmain, d, hd, hbooks⟩ := h
  have haddress : (n.perform .reactivateDefenseStrategy).mainAddress = n.mainAddress := by
    simp only [perform, reactivateDefenseStrategy, hd]
    split <;> rfl
  refine ⟨haddress.trans hmain, _, reactivateDefenseStrategy_watchdog hd, hbooks.congr ?_⟩
  rw [setup_ledger, ledger, hbooks.mainAddress, hmain]

/-- An act keeps the books in order, unless it installs another strategy. -/
lemma exec (h : n.KeepsBooks main Q) (hQ : Shrinkable Q) {a : Act OlsrWatchdogDefense}
    (hset : ∀ d, a ≠ .setDefenseStrategy d) : (watchdogEdition.exec n a).KeepsBooks main Q := by
  by_cases hdrop : ∃ x, a = .macTxDrop x
  · obtain ⟨x, rfl⟩ := hdrop
    rw [Edition.exec]
    split
    · exact h
    · exact h.watchdogMacTxDrop hQ x
  by_cases hreact : a = .reactivateDefenseStrategy
  · subst hreact
    rw [Edition.exec]
    split
    · exact h
    · exact h.reactivate
  by_cases hfire : ∃ t jitter, a = .fire t .handleDefenseTimer jitter
  · obtain ⟨t, jitter, rfl⟩ := hfire
    rw [Edition.exec]
    split
    · exact h
    · exact h.of_reading_eq rfl
  exact h.of_reading_eq (watchdogEdition.exec_reading n (Edition.ignoresOlsr_of_deaf watchdog_deaf id)
    (fun _ msg tc senderIface =>
      (Edition.reading_ignoresMessages id).processTc msg senderIface tc)
    (fun t jitter heq => hfire ⟨t, jitter, heq⟩) (fun x heq => hdrop ⟨x, heq⟩) hset hreact)

end KeepsBooks

/-! ### Packets that are handed over -/

variable (ipv4 : Ipv4L3Protocol)

/-- The input hands the packet `uid` to the next hop `a`. -/
def HandsTo (uid : ℕ) (a : Ipv4Address) (n : Node OlsrWatchdogDefense) : WatchdogInput → Prop
  | .node (.routeOutput t p oif) => p.uid = uid ∧
      ∃ r, (n.perform (Act.advance t)).chooseOutput ipv4 p oif = .route r ∧ r.gateway = a
  | .node (.routeInput t p iif lcb) => p.uid = uid ∧
      ∃ r, (n.perform (Act.advance t)).chooseInput ipv4 p iif lcb = .route r ∧ r.gateway = a
  | _ => False

/-- **Step lemma.**  Every input keeps the books in order, if the packets that it hands over meet the
condition. -/
lemma KeepsBooks.editionWatch (h : n.KeepsBooks main Q) (hQ : Shrinkable Q) {x : WatchdogInput}
    (hx : n.EnabledWatchdog x)
    (hnew : ∀ uid a finalDest now vec, n.HandsTo ipv4 uid a x → a ≠ main →
      ¬ (a = 0xffffffff ∨ a = 0 ∨ isMulticast a) → Q a vec →
        Q a (vec ++ [⟨uid, finalDest, now⟩])) :
    (n.editionWatch ipv4 x).KeepsBooks main Q := by
  obtain ⟨hrunning, -, -, -, hkind⟩ := hx
  have hadvanced : ∀ t, (n.perform (.advance t)).KeepsBooks main Q := fun t => h.of_reading_eq rfl
  have hforwarded : ∀ t (p : DataPacket) gateway, n.HandsTo ipv4 p.uid gateway x →
      ((n.perform (.advance t)).tellForwarded p gateway).KeepsBooks main Q :=
    fun t p gateway hhands => (hadvanced t).mapDefense fun d hd =>
      hd.onDataPacketForwarded _ hQ p.uid gateway p.destination
        fun vec => hnew p.uid gateway p.destination _ vec hhands
  have hsettle : ∀ t c, ((n.perform (.advance t)).settle c).KeepsBooks main Q := by
    intro t c
    cases c <;> exact h.of_reading_eq rfl
  -- Only the hooks of the watchdog touch what the books are about; the rest moves the clock.
  cases x with
  | node y =>
    cases y with
    | control l =>
      exact Lib.inv_run (I := KeepsBooks main Q) (P := fun _ a => a ∈ n.acts l)
        (fun m a hm ha => hm.exec hQ (acts_ne_setDefenseStrategy hkind.2 ha)) h
        fun y hy => Lib.snd_mem_of_mem_trace hy
    | routeOutput t p oif =>
      simp only [Node.editionWatch, hrunning, Bool.false_eq_true, if_false, editionWatchAt,
        watchdogRouteOutput]
      split
      · next r hr => exact hforwarded t p _ ⟨rfl, r, hr, rfl⟩
      · exact hsettle t _
    | routeInput t p iif lcb =>
      simp only [Node.editionWatch, hrunning, Bool.false_eq_true, if_false, editionWatchAt,
        watchdogRouteInput]
      split
      · next r hr =>
        split
        · exact hforwarded t p _ ⟨rfl, r, hr, rfl⟩
        · exact hadvanced t
      · exact hsettle t _
    | _ =>
      simp only [Node.editionWatch, hrunning, Bool.false_eq_true, if_false, editionWatchAt]
      exact hadvanced _
  | periodicCheck t id =>
    simp only [Node.editionWatch, hrunning, Bool.false_eq_true, if_false, editionWatchAt, watchAt]
    exact (hadvanced t).mapDefense fun d hd => Books.periodicCheck _ (hd.congr rfl) hQ
  | setup t =>
    simp only [Node.editionWatch, hrunning, Bool.false_eq_true, if_false, editionWatchAt, watchAt]
    refine (hadvanced t).mapDefense fun d hd => hd.congr ?_
    rw [setup_ledger, ledger, hd.mainAddress]
    exact congrArg (fun a => (d.enabled, a, d.pendingByNeighbor)) h.1
  | setEnabled t enabled =>
    simp only [Node.editionWatch, hrunning, Bool.false_eq_true, if_false, editionWatchAt, watchAt]
    exact (hadvanced t).mapDefense fun d hd => hd.setEnabled _ enabled
  | frame t f =>
    simp only [Node.editionWatch, hrunning, Bool.false_eq_true, if_false, editionWatchAt]
    refine (hadvanced t).mapDefense fun d hd => ?_
    split
    · exact hd.snifferRxCallback _ _ hQ f
    · exact hd
  | phyRxDrop t =>
    simp only [Node.editionWatch, hrunning, Bool.false_eq_true, if_false, editionWatchAt]
    refine (hadvanced t).mapDefense fun d hd => ?_
    split
    · rw [phyRxDropCallback]
      split
      · exact hd
      · exact hd.congr rfl
    · exact hd

/-- The watchdog is set up when the node starts. -/
lemma keepsBooks_doInitialize {d : OlsrWatchdogDefense} (hd : n.defenseStrategy = some d)
    (hpending : d.pendingByNeighbor = []) (jitter : Time) :
    (watchdogEdition.doInitialize n jitter).KeepsBooks n.chosenMainAddress Q := by
  have hstart : n.startDefense.KeepsBooks n.chosenMainAddress Q := by
    have hledger := setup_ledger (d := d) n.now n.chosenMainAddress
    simp only [ledger, hpending, Prod.mk.injEq] at hledger
    refine ⟨?_, d.setup n.now n.chosenMainAddress, ?_, hledger.2.1, Or.inr hledger.2.2, ?_, ?_⟩
    · simp only [startDefense, hd]
      rfl
    · simp only [startDefense, hd]
      rfl
    · rw [hledger.2.2]
      exact List.Pairwise.nil
    · rw [hledger.2.2]
      exact fun kv hkv => by cases hkv
  exact hstart.of_reading_eq (watchdogEdition.doInitialize_reading n
    (Edition.ignoresOlsr_of_deaf watchdog_deaf id) jitter)

/-! ### One failure -/

/-- The MAC layer gives up the packet `uid`, which was handed to the neighbor `a`: the failure is
charged to `a`, the packet is withdrawn from those that are pending for `a`, and none that is pending
for another neighbor. -/
def Exculpates (n m : Node OlsrWatchdogDefense) (a : Ipv4Address) (uid : ℕ) : Prop :=
  ∃ d d', n.defenseStrategy = some d ∧ m.defenseStrategy = some d' ∧
    (d'.statsOf a).macTxFailures = (d.statsOf a).macTxFailures + 1 ∧
    d'.pendingOf a = (d.pendingOf a).eraseP (fun q => q.packetUid == uid) ∧
    ∀ b, b ≠ a → d'.pendingOf b = d.pendingOf b

lemma exculpates_iff_of_defense {m : Node OlsrWatchdogDefense} {d d' : OlsrWatchdogDefense}
    (hd : n.defenseStrategy = some d) (hd' : m.defenseStrategy = some d') (a : Ipv4Address)
    (uid : ℕ) :
    Exculpates n m a uid ↔
      (d'.statsOf a).macTxFailures = (d.statsOf a).macTxFailures + 1 ∧
        d'.pendingOf a = (d.pendingOf a).eraseP (fun q => q.packetUid == uid) ∧
        ∀ b, b ≠ a → d'.pendingOf b = d.pendingOf b := by
  constructor
  · rintro ⟨d₁, d₂, hd₁, hd₂, h⟩
    obtain rfl := Option.some.inj (hd₁.symm.trans hd)
    obtain rfl := Option.some.inj (hd₂.symm.trans hd')
    exact h
  · exact fun h => ⟨d, d', hd, hd', h⟩

lemma Exculpates.pendingOf {m : Node OlsrWatchdogDefense} {a : Ipv4Address} {uid : ℕ}
    (h : Exculpates n m a uid) :
    m.defenseStrategy.map (fun d => d.pendingOf a) =
      n.defenseStrategy.map fun d => (d.pendingOf a).eraseP fun q => q.packetUid == uid := by
  obtain ⟨d, d', hd, hd', -, hwithdrawn, -⟩ := h
  rw [hd, hd', Option.map_some, Option.map_some, hwithdrawn]

/-- Nothing happens to the neighbor if it is not the one that is charged. -/
lemma not_exculpates {m : Node OlsrWatchdogDefense} {d d' : OlsrWatchdogDefense}
    (hd : n.defenseStrategy = some d) (hd' : m.defenseStrategy = some d') {a : Ipv4Address}
    {uid : ℕ} (hstats : d'.statsOf a = d.statsOf a) : ¬ Exculpates n m a uid := by
  rw [exculpates_iff_of_defense hd hd', hstats]
  rintro ⟨hcount, -⟩
  have hzero : (0 : UInt32) = 1 := by
    simpa using congrArg (fun x => x - (d.statsOf a).macTxFailures) hcount
  exact absurd hzero (by decide)

end Node

namespace OlsrWatchdogDefense

variable {d : OlsrWatchdogDefense}

/-- The charge of a neighbor leaves the others alone. -/
lemma onMacTxFailure_statsOf_of_ne {a b : Ipv4Address} (h : b ≠ a) (count : ℕ) :
    (d.onMacTxFailure a count).statsOf b = d.statsOf b := by
  simp only [onMacTxFailure]
  split_ifs
  · rfl
  · rfl
  · split
    · rw [setPending_statsOf, statsOf_setStats, if_neg h]
    · rw [statsOf_setStats, if_neg h]

/-- **What the charge does**, when packets are pending for the neighbor: the oldest of them goes. -/
lemma onMacTxFailure_pending {a : Ipv4Address} (henabled : d.enabled = true)
    (ha : ¬ (a = unsetAddress ∨ a = 0xffffffff ∨ isMulticast a)) (hpending : d.pendingOf a ≠ []) :
    ((d.onMacTxFailure a 1).statsOf a).macTxFailures = (d.statsOf a).macTxFailures + 1 ∧
      (d.onMacTxFailure a 1).pendingOf a = (d.pendingOf a).tail ∧
      ∀ b, b ≠ a → (d.onMacTxFailure a 1).pendingOf b = d.pendingOf b := by
  obtain ⟨pp, vec, hvec⟩ : ∃ pp vec, d.pendingOf a = pp :: vec := List.exists_cons_of_ne_nil hpending
  have hfind : Lib.mapFind d.pendingByNeighbor a = some (pp :: vec) := by
    rw [pendingOf] at hvec
    cases hnone : Lib.mapFind d.pendingByNeighbor a with
    | none =>
      rw [hnone] at hvec
      cases hvec
    | some vec' =>
      rw [hnone] at hvec
      exact congrArg some hvec
  obtain ⟨d₁, hd₁⟩ : ∃ d₁, d.setStats a
      { d.statsOf a with macTxFailures := (d.statsOf a).macTxFailures + UInt32.ofNat 1 } = d₁ :=
    ⟨_, rfl⟩
  have hfind₁ : Lib.mapFind d₁.pendingByNeighbor a = some (pp :: vec) := by
    rw [← hd₁]
    exact hfind
  have hfailure : d.onMacTxFailure a 1 = d₁.setPending a vec := by
    simp only [onMacTxFailure, henabled, Bool.not_true, Bool.false_eq_true, if_false, if_neg ha]
    rw [hd₁, hfind₁]
  rw [hfailure]
  refine ⟨?_, ?_, fun b hb => ?_⟩
  · show (d₁.statsOf a).macTxFailures = _
    rw [← hd₁, statsOf_setStats, if_pos rfl]
    rfl
  · rw [pendingOf_setPending, if_pos rfl, hvec, List.tail_cons]
  · rw [pendingOf_setPending, if_neg hb, ← hd₁]
    rfl

/-- A packet that is found is one less of its kind. -/
lemma countP_eraseP {vec : List PendingPacket} {uid : ℕ} (h : ∃ q ∈ vec, q.packetUid = uid) :
    (vec.eraseP fun q => q.packetUid == uid).countP (fun q => q.packetUid == uid) + 1 =
      vec.countP fun q => q.packetUid == uid := by
  obtain ⟨q, hq, huid⟩ := h
  obtain ⟨q', l₁, l₂, -, hq', hvec, herase⟩ :=
    List.exists_of_eraseP (p := fun q : PendingPacket => q.packetUid == uid) hq (by simpa using huid)
  rw [herase, hvec, List.countP_append, List.countP_append,
    List.countP_cons_of_pos (p := fun q : PendingPacket => q.packetUid == uid) hq']
  omega

/-- The oldest of some packets is taken where one of them is looked for: it is this one. -/
lemma tail_eq_eraseP_iff {vec : List PendingPacket} {uid : ℕ} (h : ∃ q ∈ vec, q.packetUid = uid) :
    vec.tail = vec.eraseP (fun q => q.packetUid == uid) ↔
      vec.head?.map PendingPacket.packetUid = some uid := by
  cases vec with
  | nil =>
    obtain ⟨q, hq, -⟩ := h
    cases hq
  | cons q vec =>
    rw [List.tail_cons, List.head?_cons, Option.map_some, Option.some_inj]
    constructor
    · intro heq
      by_contra hne
      have hpred : ¬ (q.packetUid == uid) = true := by simpa using hne
      -- Another packet has gone, but none that is looked for.
      have hcount := countP_eraseP h
      rw [← heq, List.countP_cons_of_neg (p := fun q : PendingPacket => q.packetUid == uid) hpred]
        at hcount
      exact absurd hcount (Nat.succ_ne_self _)
    · intro huid
      rw [List.eraseP_cons_of_pos (by simpa using huid)]

/-- The neighbors that packets are pending for have been accepted by `OnDataPacketForwarded`. -/
def Accepts (main : Ipv4Address) (a : Ipv4Address) (vec : List PendingPacket) : Prop :=
  vec ≠ [] → a ≠ main ∧ ¬ (a = 0xffffffff ∨ a = 0 ∨ isMulticast a)

lemma accepts_shrinkable (main : Ipv4Address) : Shrinkable (Accepts main) where
  nil _ h := absurd rfl h
  sublist hsub h hne := h fun hnil => hne (List.sublist_nil.mp (hnil ▸ hsub))

/-- What is accepted for data packets is accepted for failures. -/
lemma Accepts.unicast {main a : Ipv4Address} {vec : List PendingPacket} (h : Accepts main a vec)
    (hvec : vec ≠ []) : ¬ (a = unsetAddress ∨ a = 0xffffffff ∨ isMulticast a) := by
  obtain ⟨-, haccepted⟩ := h hvec
  rintro (heq | heq | heq)
  · exact haccepted (.inr (.inl heq))
  · exact haccepted (.inl heq)
  · exact haccepted (.inr (.inr heq))

lemma Books.enabled_of_pending {main : Ipv4Address} {Q : Ipv4Address → List PendingPacket → Prop}
    (h : d.Books main Q) {a : Ipv4Address} (hvec : d.pendingOf a ≠ []) : d.enabled = true := by
  refine h.enabled.resolve_right fun hnone => hvec ?_
  rw [OlsrWatchdogDefense.pendingOf, hnone]
  rfl

end OlsrWatchdogDefense

namespace Node

open OlsrWatchdogDefense

variable {n : Node OlsrWatchdogDefense}

/-- **When a failure is charged to the neighbor that a packet was handed to, and the packet is
withdrawn.** -/
lemma KeepsBooks.watchdogMacTxDrop_exculpates_iff {main : Ipv4Address}
    (h : n.KeepsBooks main (Accepts main))
    {d : OlsrWatchdogDefense} (hd : n.defenseStrategy = some d) {a : Ipv4Address} {uid : ℕ}
    (hpending : ∃ q ∈ d.pendingOf a, q.packetUid = uid) (finalDest : Ipv4Address) :
    Exculpates n (n.watchdogMacTxDrop finalDest) a uid ↔
      (∃ e, n.sendEntryOf finalDest = .found e ∧ e.nextAddr = a) ∧
        (d.pendingOf a).head?.map PendingPacket.packetUid = some uid := by
  obtain ⟨hmain, d₀, hd₀, hbooks⟩ := h
  obtain rfl := Option.some.inj (hd₀.symm.trans hd)
  have hsome : d₀.pendingOf a ≠ [] := by
    obtain ⟨q, hq, -⟩ := hpending
    exact List.ne_nil_of_mem hq
  have haccepts := hbooks.pendingOf (accepts_shrinkable _) a
  have hfailure : ∀ b, (n.macTxDrop b).defenseStrategy = some (d₀.onMacTxFailure b 1) := fun b =>
    congrArg (Option.map _) hd
  rw [Node.watchdogMacTxDrop]
  split
  · next e he =>
    by_cases hnext : e.nextAddr = a
    · -- A neighbor with packets pending has passed these checks when they were handed over.
      have hsane : ¬ (e.nextAddr = n.mainAddress ∨ e.nextAddr = 0xffffffff ∨ e.nextAddr = 0 ∨
          isMulticast e.nextAddr) := by
        rw [hnext, hmain]
        exact fun hor => hor.elim (haccepts hsome).1 (haccepts hsome).2
      obtain ⟨hcount, htail, hothers⟩ := onMacTxFailure_pending
        (hbooks.enabled_of_pending hsome) (haccepts.unicast hsome) hsome
      rw [if_neg hsane, hnext, exculpates_iff_of_defense hd (hfailure a), htail,
        tail_eq_eraseP_iff hpending]
      exact ⟨fun hex => ⟨⟨e, he, hnext⟩, hex.2.1⟩, fun hcond => ⟨hcount, hcond.2, hothers⟩⟩
    · -- Whatever is charged, it is another neighbor.
      refine iff_of_false ?_ ?_
      · by_cases hsane : e.nextAddr = n.mainAddress ∨ e.nextAddr = 0xffffffff ∨ e.nextAddr = 0 ∨
            isMulticast e.nextAddr
        · rw [if_pos hsane]
          exact not_exculpates hd hd rfl
        · rw [if_neg hsane]
          exact not_exculpates hd (hfailure _) (onMacTxFailure_statsOf_of_ne (Ne.symm hnext) 1)
      · rintro ⟨⟨e', he', heq⟩, -⟩
        obtain rfl := SendEntry.found.inj (he.symm.trans he')
        exact hnext heq
  · next he =>
    refine iff_of_false (not_exculpates hd hd rfl) ?_
    rintro ⟨⟨e', he', -⟩, -⟩
    rw [he] at he'
    cases he'
  · next he =>
    refine iff_of_false (not_exculpates hd hd rfl) ?_
    rintro ⟨⟨e', he', -⟩, -⟩
    rw [he] at he'
    cases he'

/-! ### What becomes of the packet -/

/-- The packets of this uid that an input takes as evidence of missing forwarding against `a`, or
would but for the guards of `EvaluateMissingForward`. -/
def missed (a : Ipv4Address) (uid : ℕ) (n : Node OlsrWatchdogDefense) : WatchdogInput → ℕ
  | .periodicCheck t _ =>
    match n.defenseStrategy with
    | some d => ((d.pendingOf a).filter (d.timedOut t)).countP fun q => q.packetUid == uid
    | none => 0
  | _ => 0

/-- Less than `k` packets of this uid are taken as evidence against `a` at a time, until one of them
is handed to `a` again. -/
def NeverMissed (ipv4 : Ipv4L3Protocol) (a : Ipv4Address) (uid k : ℕ) (n : Node OlsrWatchdogDefense) :
    List WatchdogInput → Prop
  | [] => True
  | x :: xs => n.missed a uid x < k ∧
      (¬ n.HandsTo ipv4 uid a x → (n.editionWatch ipv4 x).NeverMissed ipv4 a uid k xs)

/-- Less than `k` packets of this uid are pending for `a`. -/
def FewerThan (a : Ipv4Address) (uid k : ℕ) (b : Ipv4Address) (vec : List PendingPacket) : Prop :=
  b = a → vec.countP (fun q => q.packetUid == uid) < k

lemma fewerThan_shrinkable {a : Ipv4Address} {uid k : ℕ} (hk : 0 < k) :
    Shrinkable (FewerThan a uid k) where
  nil _ _ := hk
  sublist hsub h heq := (hsub.countP_le).trans_lt (h heq)

/-- **Run lemma.**  What is not pending is not missed. -/
lemma KeepsBooks.neverMissed (ipv4 : Ipv4L3Protocol) {a : Ipv4Address} {uid k : ℕ}
    {main : Ipv4Address} (hk : 0 < k) (h : n.KeepsBooks main (FewerThan a uid k))
    {xs : List WatchdogInput} (hxs : n.IsEditionRun ipv4 xs) : n.NeverMissed ipv4 a uid k xs := by
  have hQ : Shrinkable (FewerThan a uid k) := fewerThan_shrinkable hk
  induction xs generalizing n with
  | nil => trivial
  | cons x xs ih =>
    refine ⟨?_, fun hhands => ih (h.editionWatch ipv4 hQ hxs.1 ?_) hxs.2⟩
    · obtain ⟨-, d, hd, hbooks⟩ := h
      cases x with
      | periodicCheck t id =>
        simp only [missed, hd]
        exact (List.filter_sublist.countP_le).trans_lt (hbooks.pendingOf hQ a rfl)
      | _ => exact hk
    · intro uid' b finalDest now vec hhands' _ _ hvec heq
      subst heq
      have hother : ¬ (uid' == uid) = true := by
        rw [beq_iff_eq]
        rintro rfl
        exact hhands hhands'
      rw [List.countP_append, List.countP_singleton, if_neg hother]
      exact hvec rfl

end Node

namespace WatchdogEditionRun

open OlsrWatchdogDefense

variable (r : WatchdogEditionRun)

lemma enabled : ∀ y ∈ r.trace, y.1.EnabledWatchdog y.2 :=
  Lib.forall_trace_of_cons (Q := Node.IsEditionRun r.ipv4) (fun _ _ _ h => h) r.isRun

/-- The books are in order throughout. -/
lemma keepsBooks : ∀ y ∈ r.trace,
    y.1.KeepsBooks r.config.node.chosenMainAddress (Accepts r.config.node.chosenMainAddress) :=
  Lib.inv_trace
    (P := fun (n : Node OlsrWatchdogDefense) (x : WatchdogInput) => n.EnabledWatchdog x)
    (fun _ _ hn hx => hn.editionWatch r.ipv4 (accepts_shrinkable _) hx
      fun _ _ _ _ _ _ hmain hunicast _ _ => ⟨hmain, hunicast⟩)
    (Node.keepsBooks_doInitialize r.installed r.fresh.2 r.jitter) r.enabled

lemma nodeAt_succ {i : ℕ} {x : WatchdogInput} (hx : r.inputs[i]? = some x) :
    r.nodeAt (i + 1) = (r.nodeAt i).editionWatch r.ipv4 x := by
  rw [nodeAt, List.take_add_one, hx, Lib.run_append]
  rfl

/-- The run goes on from the node at a position. -/
lemma isEditionRun_drop (i : ℕ) : (r.nodeAt i).IsEditionRun r.ipv4 (r.inputs.drop i) := by
  induction i with
  | zero => exact r.isRun
  | succ i ih =>
    cases hx : r.inputs[i]? with
    | none =>
      rw [List.drop_eq_nil_of_le (Nat.le_succ_of_le (List.getElem?_eq_none_iff.mp hx))]
      trivial
    | some x =>
      obtain ⟨hi, rfl⟩ := List.getElem?_eq_some_iff.mp hx
      rw [List.drop_eq_getElem_cons hi] at ih
      rw [r.nodeAt_succ hx]
      exact ih.2

/-- **MAC failures are charged to the neighbor that the packet was handed to**, and the packet never
becomes evidence against it, exactly if the routing table has a route to the destination of the packet
over this neighbor at the moment of the failure, and no older packet is pending for the neighbor. -/
theorem macTxDrop_exculpates_iff {i : ℕ} {t : Time} {p : PendingPacket}
    (hx : r.inputs[i]? = some (.node (.control (.macTxDrop t p.packetUid p.finalDest))))
    {d : OlsrWatchdogDefense} (hd : (r.nodeAt i).defenseStrategy = some d) {a : Ipv4Address}
    (hp : p ∈ d.pendingOf a) :
    (r.nodeAt i).Exculpates (r.nodeAt (i + 1)) a p.packetUid ∧
        (r.nodeAt (i + 1)).NeverMissed r.ipv4 a p.packetUid
          ((d.pendingOf a).countP fun q => q.packetUid == p.packetUid) (r.inputs.drop (i + 1)) ↔
      (∃ e, (r.nodeAt i).sendEntryOf p.finalDest = .found e ∧ e.nextAddr = a) ∧
        (d.pendingOf a).head?.map PendingPacket.packetUid = some p.packetUid := by
  have hy : (r.nodeAt i, _) ∈ r.trace := Lib.mem_trace_of_getElem? hx r.start
  have hrunning : (r.nodeAt i).fatalError = false := (r.enabled _ hy).1
  have hpending : ∃ q ∈ d.pendingOf a, q.packetUid = p.packetUid := ⟨p, hp, rfl⟩
  have hstep : r.nodeAt (i + 1) =
      ((r.nodeAt i).perform (.advance t)).watchdogMacTxDrop p.finalDest := by
    rw [r.nodeAt_succ hx]
    exact watchdogEdition.step_of_acts_eq (l := .macTxDrop t p.packetUid p.finalDest)
      (a := .macTxDrop p.finalDest) hrunning rfl
  have hbooks : ((r.nodeAt i).perform (.advance t)).KeepsBooks r.config.node.chosenMainAddress
      (Accepts r.config.node.chosenMainAddress) := (r.keepsBooks _ hy).of_reading_eq rfl
  have hiff : (r.nodeAt i).Exculpates (r.nodeAt (i + 1)) a p.packetUid ↔ _ :=
    hstep ▸ hbooks.watchdogMacTxDrop_exculpates_iff hd hpending p.finalDest
  refine ⟨fun h => hiff.mp h.1, fun hcond => ⟨hiff.mpr hcond, ?_⟩⟩
  -- One packet less is pending, and stays so.
  obtain ⟨d₀, d', hd₀, hd', -, hwithdrawn, -⟩ := hiff.mpr hcond
  obtain rfl := Option.some.inj (hd₀.symm.trans hd)
  have hless := countP_eraseP hpending
  have hbooks' := hbooks.watchdogMacTxDrop (accepts_shrinkable _) p.finalDest
  rw [← hstep] at hbooks'
  obtain ⟨hmain, d'', hd'', hkept⟩ := hbooks'
  obtain rfl := Option.some.inj (hd''.symm.trans hd')
  refine Node.KeepsBooks.neverMissed r.ipv4 (by omega) ⟨hmain, d'', hd'', hkept.mainAddress,
    hkept.enabled, hkept.ordered, fun kv hkv heq => ?_⟩ (r.isEditionRun_drop (i + 1))
  have hfind := Lib.mapFind_of_mem (Ipv4Address.comparesKeys.nodup hkept.ordered) (k := kv.1)
    (v := kv.2) hkv
  have hvec : d''.pendingOf a = kv.2 := by
    rw [OlsrWatchdogDefense.pendingOf, ← heq, hfind]
    rfl
  rw [← hvec, hwithdrawn]
  omega

end WatchdogEditionRun

section Handing

open Scenario

/-- A node hands three packets to its neighbor 2: to the two-hop neighbor 3, into a network that 2
announces, and to the two-hop neighbor 4.  All three frames fail at the retry limit. -/
def handing : WatchdogEditionRun where
  config := quietWatchdog
  strategy := {}
  installed := quietWatchdog_installed
  fresh := ⟨rfl, rfl⟩
  jitter := 0
  isJitter := quietWatchdog_isJitter
  ipv4 := forwardingIpv4
  inputs := [.node (.control (.timer 0 .sendQueuedMessages 0)),
    .node (.control (recv 0 2 (hello 2 [symLinks [1, 3, 4]]))),
    .node (.control (recv 0 2 (flooded 2 1 (.hna ⟨[⟨0x0a000000, 0xff000000⟩]⟩)))),
    .node (.routeOutput 0 ⟨1, 1, 3⟩ none), .node (.routeOutput 0 ⟨2, 1, 0x0a000001⟩ none),
    .node (.routeOutput 0 ⟨3, 1, 4⟩ none),
    .node (.control (.macTxDrop 0 1 3)), .node (.control (.macTxDrop 0 2 0x0a000001)),
    .node (.control (.macTxDrop 0 3 4))]
  isRun := by decide +kernel

theorem handing_macTxDrop_exculpates_iff :
    (handing.nodeAt 6).Exculpates (handing.nodeAt 7) 2 1 ∧
        (handing.nodeAt 7).NeverMissed forwardingIpv4 2 1
          ((((handing.nodeAt 6).defenseStrategy.get (by decide +kernel)).pendingOf 2).countP
            fun q => q.packetUid == 1) (handing.inputs.drop 7) ↔
      (∃ e, (handing.nodeAt 6).sendEntryOf 3 = .found e ∧ e.nextAddr = 2) ∧
        (((handing.nodeAt 6).defenseStrategy.get (by decide +kernel)).pendingOf 2).head?.map
          OlsrWatchdogDefense.PendingPacket.packetUid = some 1 :=
  handing.macTxDrop_exculpates_iff (i := 6) (t := 0) (p := ⟨1, 3, 0⟩) rfl
    (d := (handing.nodeAt 6).defenseStrategy.get (by decide +kernel)) (Option.some_get _).symm
    (by decide +kernel)

/-- **The failure of the packet into the network is charged to nobody**, and the packet stays pending
for the neighbor 2.  When the last frame fails it is this packet that is withdrawn, and the last one
stays pending in its place. -/
theorem handing_not_exculpates :
    handing.inputs[7]? = some (.node (.control (.macTxDrop 0 2 0x0a000001))) ∧
      (handing.nodeAt 7).defenseStrategy.map (fun d => d.pendingOf 2) =
        some [⟨2, 0x0a000001, 0⟩, ⟨3, 4, 0⟩] ∧
      ¬ (handing.nodeAt 7).Exculpates (handing.nodeAt 8) 2 2 ∧
      handing.inputs[8]? = some (.node (.control (.macTxDrop 0 3 4))) ∧
      (handing.nodeAt 9).defenseStrategy.map (fun d => d.pendingOf 2) = some [⟨3, 4, 0⟩] ∧
      ¬ (handing.nodeAt 8).Exculpates (handing.nodeAt 9) 2 3 := by
  have hbefore : (handing.nodeAt 7).defenseStrategy.map (fun d => d.pendingOf 2) =
      some [⟨2, 0x0a000001, 0⟩, ⟨3, 4, 0⟩] := by
    decide +kernel
  have hafter : (handing.nodeAt 9).defenseStrategy.map (fun d => d.pendingOf 2) =
      some [⟨3, 4, 0⟩] := by
    decide +kernel
  refine ⟨rfl, hbefore, fun h => ?_, rfl, hafter, fun h => ?_⟩
  · exact absurd h.pendingOf (by decide +kernel)
  · exact absurd h.pendingOf (by decide +kernel)

end Handing

end ManetOlsr
