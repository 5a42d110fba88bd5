/-
What the hooks of the watchdog leave as it is.

The hooks for packets and frames write the statistics and the pending packets, the frames of the
neighbors moreover what is known of their addresses, and the periodic check the blacklist.  Whatever
is read off the rest of the watchdog is the same before and after, and the inputs of the node come to
the watchdog through these hooks, through `Setup` and `SetEnabled`, and through the defense timer.
-/
import ManetOlsr.Model.WatchdogRuns

namespace ManetOlsr

namespace OlsrWatchdogDefense

/-- A function of the watchdog that does not read the statistics. -/
structure IgnoresStats {α : Type} (g : OlsrWatchdogDefense → α) : Prop where
  neighborStats d st : g { d with neighborStats := st } = g d

/-- A function that does not read the pending packets. -/
structure IgnoresPending {α : Type} (g : OlsrWatchdogDefense → α) : Prop where
  pendingByNeighbor d vec : g { d with pendingByNeighbor := vec } = g d

/-- A function that reads neither the known addresses nor the blacklist. -/
structure IgnoresAddresses {α : Type} (g : OlsrWatchdogDefense → α) : Prop where
  macToIp d m : g { d with macToIp := m } = g d
  blacklist d b : g { d with blacklist := b } = g d

/-- A function that reads none of the tables. -/
structure IgnoresTables {α : Type} (g : OlsrWatchdogDefense → α) : Prop extends
  IgnoresStats g, IgnoresPending g, IgnoresAddresses g

variable {α : Type} {g : OlsrWatchdogDefense → α} (d : OlsrWatchdogDefense) (now : Time)
  (s : OlsrState)

/-! ### Reading what was written -/

lemma statsOf_setStats (a b : Ipv4Address) (st : NeighborStats) :
    (d.setStats a st).statsOf b = if b = a then st else d.statsOf b := by
  rw [statsOf, setStats, Ipv4Address.comparesKeys.mapFind_mapSet]
  split <;> rfl

@[simp] lemma setPending_statsOf (a b : Ipv4Address) (vec : List PendingPacket) :
    (d.setPending a vec).statsOf b = d.statsOf b := rfl

lemma pendingOf_setPending (a b : Ipv4Address) (vec : List PendingPacket) :
    (d.setPending a vec).pendingOf b = if b = a then vec else d.pendingOf b := by
  rw [pendingOf, setPending, Ipv4Address.comparesKeys.mapFind_mapSet]
  split <;> rfl

/-! ### What the hooks leave -/

lemma IgnoresPending.setPending (hp : IgnoresPending g) (a : Ipv4Address)
    (vec : List PendingPacket) : g (d.setPending a vec) = g d :=
  hp.pendingByNeighbor d _

namespace IgnoresStats

variable (hg : IgnoresStats g)

include hg

lemma setStats (a : Ipv4Address) (st : NeighborStats) : g (d.setStats a st) = g d :=
  hg.neighborStats d _

lemma onRtsReceived (tx : Mac48Address) : g (d.onRtsReceived tx) = g d := by
  simp only [OlsrWatchdogDefense.onRtsReceived]
  split_ifs
  · rfl
  · rfl
  · rfl
  · rw [hg.setStats]

lemma onCtsReceived (rx : Mac48Address) : g (d.onCtsReceived rx) = g d := by
  simp only [OlsrWatchdogDefense.onCtsReceived]
  split_ifs
  · rfl
  · rfl
  · rfl
  · rw [hg.setStats]

lemma evaluateMissingForward (a : Ipv4Address) : g (d.evaluateMissingForward now a) = g d := by
  simp only [OlsrWatchdogDefense.evaluateMissingForward]
  split_ifs
  · rfl
  · rfl
  all_goals rw [hg.setStats]

/-- The evaluation of the packets that have waited for too long. -/
lemma evaluateTimedOut (kvs : List (Ipv4Address × List PendingPacket)) (d' : OlsrWatchdogDefense) :
    g (kvs.foldl (d.evaluateTimedOut now) d') = g d' := by
  have hone : ∀ d' kv, g (d.evaluateTimedOut now d' kv) = g d' := fun d' kv =>
    Lib.foldl_eq g (fun d' _ => hg.evaluateMissingForward d' now kv.1) _ d'
  exact Lib.foldl_eq g hone kvs d'

variable (hp : IgnoresPending g)

include hp

lemma onDataPacketForwarded (uid : ℕ) (nextHop finalDest : Ipv4Address) :
    g (d.onDataPacketForwarded now uid nextHop finalDest) = g d := by
  simp only [OlsrWatchdogDefense.onDataPacketForwarded]
  split_ifs
  · rfl
  · rfl
  · rfl
  · rfl
  · rfl
  · rw [hg.setStats, hp.setPending]

lemma onMacTxFailure (neighbor : Ipv4Address) (count : ℕ) :
    g (d.onMacTxFailure neighbor count) = g d := by
  simp only [OlsrWatchdogDefense.onMacTxFailure]
  split_ifs
  · rfl
  · rfl
  · split
    · rw [hp.setPending, hg.setStats]
    · rw [hg.setStats]

lemma creditForward (txIp : Ipv4Address) (receiver : Mac48Address) (uid : ℕ) :
    g (d.creditForward s txIp receiver uid) = g d := by
  simp only [OlsrWatchdogDefense.creditForward]
  split_ifs
  · rfl
  · rfl
  · rw [hg.setStats, hp.setPending]

lemma onNeighborForwardedPacket (tx rx : Mac48Address) (uid : ℕ) :
    g (d.onNeighborForwardedPacket now s tx rx uid) = g d := by
  simp only [OlsrWatchdogDefense.onNeighborForwardedPacket]
  split_ifs
  · rfl
  · rfl
  · rw [hg.creditForward _ _ hp, hg.setStats]

lemma onSniffed (f : SniffedFrame) : g (OlsrDefenseDataHooks.onSniffed d now s f) = g d := by
  cases f with
  | data tx rx p => exact hg.onNeighborForwardedPacket d now s hp tx rx p.uid
  | rts tx rx => exact hg.onRtsReceived d tx
  | cts rx => exact hg.onCtsReceived d rx

lemma ageOut : g (d.ageOut now) = g d := by
  rw [OlsrWatchdogDefense.ageOut, hp.pendingByNeighbor]
  exact hg.evaluateTimedOut d now d.pendingByNeighbor d

end IgnoresStats

namespace IgnoresAddresses

variable (hg : IgnoresAddresses g)

include hg

lemma learn (tx rx : Mac48Address) (body : FrameBody) : g (d.learn tx rx body) = g d := by
  rw [OlsrWatchdogDefense.learn]
  split
  · split
    · split
      · rfl
      · exact hg.macToIp d _
    · rfl
  · rfl

variable (hs : IgnoresStats g)

include hs

lemma maybeBlacklist (a : Ipv4Address) : g (d.maybeBlacklist now a) = g d := by
  rw [OlsrWatchdogDefense.maybeBlacklist]
  split
  · rfl
  · split
    · rfl
    · split_ifs
      · rfl
      · rfl
      · rfl
      · rw [hs.setStats]
      · rfl
      · rw [hs.setStats]
      · rw [hs.setStats]
        exact hg.blacklist d _

lemma releaseExpired (a : Ipv4Address) :
    g (OlsrWatchdogDefense.releaseExpired now d a) = g d := by
  rw [OlsrWatchdogDefense.releaseExpired]
  split
  · rfl
  · split_ifs
    · rfl
    · rfl
    · rw [hs.setStats]
      exact hg.blacklist d _

lemma maybeBlacklistAll : g (d.maybeBlacklistAll now) = g d :=
  Lib.foldl_eq g (fun d' a => hg.maybeBlacklist d' now hs a) _ d

lemma releaseExpiredBlacklist : g (d.releaseExpiredBlacklist now) = g d := by
  rw [OlsrWatchdogDefense.releaseExpiredBlacklist]
  split
  · rfl
  · exact Lib.foldl_eq g (fun d' a => hg.releaseExpired d' now hs a) _ d

end IgnoresAddresses

namespace IgnoresTables

variable (hg : IgnoresTables g)

include hg

lemma snifferRxCallback (f : WifiFrame) : g (d.snifferRxCallback now s f) = g d := by
  have hs := hg.toIgnoresStats
  cases f with
  | rts tx rx =>
    simp only [OlsrWatchdogDefense.snifferRxCallback]
    split_ifs
    · rfl
    · rfl
    · exact hs.onRtsReceived d tx
  | cts rx =>
    simp only [OlsrWatchdogDefense.snifferRxCallback]
    split_ifs
    · rfl
    · exact hs.onCtsReceived d rx
  | data tx rx uid body =>
    simp only [OlsrWatchdogDefense.snifferRxCallback]
    split_ifs
    · rfl
    · rfl
    · rw [hs.onNeighborForwardedPacket _ _ _ hg.toIgnoresPending, hg.toIgnoresAddresses.learn]
  | other => rfl

/-- The steps of `PeriodicCheck` before the windows are rotated. -/
lemma evaluated :
    g (((d.ageOut now).maybeBlacklistAll now).releaseExpiredBlacklist now) = g d := by
  have hs := hg.toIgnoresStats
  have ha := hg.toIgnoresAddresses
  rw [ha.releaseExpiredBlacklist _ _ hs, ha.maybeBlacklistAll _ _ hs,
    hs.ageOut _ _ hg.toIgnoresPending]

end IgnoresTables

end OlsrWatchdogDefense

lemma watchdog_deaf : Deaf OlsrWatchdogDefense :=
  ⟨fun _ _ _ _ _ _ => rfl, fun _ _ _ _ _ _ => rfl, fun _ _ _ _ => rfl⟩

namespace Node

open OlsrWatchdogDefense

variable {n : Node OlsrWatchdogDefense} {α : Type} {g : OlsrWatchdogDefense → α}

/-- What is read off the watchdog, with the time. -/
def watched (g : OlsrWatchdogDefense → α) (n : Node OlsrWatchdogDefense) : Option α × Time :=
  (n.defenseStrategy.map g, n.now)

lemma mapDefense_watched {f : OlsrWatchdogDefense → OlsrWatchdogDefense}
    (hf : ∀ d, g (f d) = g d) : (n.mapDefense f).watched g = n.watched g := by
  rw [watched, watched, mapDefense, Option.map_map]
  exact Prod.ext (congrArg (fun h => n.defenseStrategy.map h) (funext hf)) rfl

lemma watched_ignoresPackets (hg : IgnoresTables g) : IgnoresPackets (watched g) where
  stop _ _ := rfl
  received _ _ _ := mapDefense_watched fun _ => rfl
  forwarded n p nextHop := mapDefense_watched fun d =>
    hg.toIgnoresStats.onDataPacketForwarded d n.now hg.toIgnoresPending p.uid nextHop p.destination
  dropped _ _ _ := mapDefense_watched fun _ => rfl
  sniffed n frame := mapDefense_watched fun d =>
    hg.toIgnoresStats.onSniffed d n.now n.state hg.toIgnoresPending frame
  queueStatus _ _ _ := mapDefense_watched fun _ => rfl
  energyState _ _ _ := mapDefense_watched fun _ => rfl

/-- An act that neither runs the defense timer nor sets the strategy up. -/
lemma perform_watched (hg : IgnoresTables g) {a : Act OlsrWatchdogDefense}
    (hfire : ∀ t jitter, a ≠ .fire t .handleDefenseTimer jitter)
    (hset : ∀ d, a ≠ .setDefenseStrategy d) (hreact : a ≠ .reactivateDefenseStrategy) :
    (n.perform a).defenseStrategy.map g = n.defenseStrategy.map g := by
  by_cases hdrop : ∃ x, a = .macTxDrop x
  · obtain ⟨x, rfl⟩ := hdrop
    exact congrArg Prod.fst (mapDefense_watched (n := n) fun d =>
      hg.toIgnoresStats.onMacTxFailure d hg.toIgnoresPending x 1)
  · rw [watchdog_deaf.perform_defenseStrategy n hfire (fun x hx => hdrop ⟨x, hx⟩) hset hreact]

lemma exec_watched (hg : IgnoresTables g) {a : Act OlsrWatchdogDefense}
    (hfire : ∀ t jitter, a ≠ .fire t .handleDefenseTimer jitter)
    (hset : ∀ d, a ≠ .setDefenseStrategy d) (hreact : a ≠ .reactivateDefenseStrategy) :
    (n.exec a).defenseStrategy.map g = n.defenseStrategy.map g := by
  rw [exec]
  split
  · rfl
  · exact perform_watched hg hfire hset hreact

/-- A label that comes to the watchdog through the hooks for packets, if at all. -/
def OnlyPackets : Label OlsrWatchdogDefense → Prop
  | .timer _ .handleDefenseTimer _ => False
  | .reactivateDefenseStrategy _ => False
  | .setDefenseStrategy .. => False
  | _ => True

lemma OnlyPackets.acts {l : Label OlsrWatchdogDefense} (hl : OnlyPackets l)
    {a : Act OlsrWatchdogDefense} (ha : a ∈ n.acts l) :
    (∀ t jitter, a ≠ .fire t .handleDefenseTimer jitter) ∧ (∀ d, a ≠ .setDefenseStrategy d) ∧
      a ≠ .reactivateDefenseStrategy ∧ ∀ t, a = .advance t → t = l.time := by
  rcases List.mem_cons.mp ha with rfl | ha
  · simp
  · cases l with
    | recvOlsr t recvInterface senderIface messages jitter =>
      simp only [recvOlsrActs] at ha
      split at ha
      · simp at ha
      · split at ha
        · rcases List.mem_append.mp ha with ha | ha
          · obtain ⟨msg, -, rfl⟩ := List.mem_map.mp ha
            simp
          · obtain rfl := List.mem_singleton.mp ha
            simp
        · simp at ha
    | timer t e jitter =>
      obtain rfl := List.mem_singleton.mp ha
      refine ⟨fun t' jitter' heq => ?_, by simp, by simp, by simp⟩
      obtain ⟨-, rfl, -⟩ := Act.fire.inj heq
      exact hl
    | setDefenseStrategy t d => exact absurd hl not_false
    | reactivateDefenseStrategy t => exact absurd hl not_false
    | _ =>
      obtain rfl := List.mem_singleton.mp ha
      simp

/-- The acts of a label install no strategy, if the label does not. -/
lemma acts_ne_setDefenseStrategy {D : Type} {n : Node D} {l : Label D}
    (hl : (Input.control l).OfNode) {a : Act D} (ha : a ∈ n.acts l) (d : Option D) :
    a ≠ .setDefenseStrategy d := by
  rintro rfl
  rcases List.mem_cons.mp ha with heq | ha
  · cases heq
  · cases l with
    | recvOlsr t recvInterface senderIface messages jitter =>
      rcases mem_recvOlsrActs ha with ⟨msg, -, receiverIface, heq⟩ | heq <;> cases heq
    | setDefenseStrategy t d => exact hl
    | _ => cases List.mem_singleton.mp ha

lemma OnlyPackets.step (hg : IgnoresTables g) {l : Label OlsrWatchdogDefense} (hl : OnlyPackets l)
    (htime : n.now ≤ l.time) :
    (n.step l).defenseStrategy.map g = n.defenseStrategy.map g ∧ n.now ≤ (n.step l).now := by
  refine Lib.inv_run (I := fun m : Node OlsrWatchdogDefense =>
      m.defenseStrategy.map g = n.defenseStrategy.map g ∧ n.now ≤ m.now)
    (P := fun _ a => a ∈ n.acts l) (fun m a hm ha => ?_) ⟨rfl, le_rfl⟩
    fun x hx => Lib.snd_mem_of_mem_trace hx
  obtain ⟨hfire, hset, hreact, hadv⟩ := hl.acts ha
  refine ⟨(exec_watched hg hfire hset hreact).trans hm.1, ?_⟩
  rw [exec]
  split
  · exact hm.2
  · by_cases hadvance : ∃ t, a = .advance t
    · obtain ⟨t, rfl⟩ := hadvance
      rw [show t = l.time from hadv t rfl]
      exact htime
    · rw [perform_now m a fun t ht => hadvance ⟨t, ht⟩]
      exact hm.2

lemma monitorSnifferRx_watched (hg : IgnoresTables g) (f : WifiFrame) :
    (n.monitorSnifferRx f).watched g = n.watched g := by
  have hsniffed := fun (d : OlsrWatchdogDefense) frame =>
    hg.toIgnoresStats.onSniffed d n.now n.state hg.toIgnoresPending frame
  cases f with
  | data tx rx uid body =>
    rw [monitorSnifferRx]
    split
    · exact mapDefense_watched fun d => hsniffed d _
    · rfl
  | rts tx rx => exact mapDefense_watched fun d => hsniffed d _
  | cts rx => exact mapDefense_watched fun d => hsniffed d _
  | other => rfl

lemma hear_watched (hg : IgnoresTables g) (f : WifiFrame) :
    (n.hear f).watched g = n.watched g := by
  refine (mapDefense_watched fun d => ?_).trans (monitorSnifferRx_watched hg f)
  split
  · exact hg.snifferRxCallback d _ _ f
  · rfl

/-- A label of one act besides the passing of time. -/
lemma step_of_acts_eq (hn : n.fatalError = false) {l : Label OlsrWatchdogDefense}
    {a : Act OlsrWatchdogDefense} (hl : n.acts l = [.advance l.time, a]) :
    n.step l = (n.perform (.advance l.time)).perform a := by
  have hadv : n.exec (.advance l.time) = n.perform (.advance l.time) := by
    rw [exec, if_neg (by simp [hn])]
  rw [step, hl, Lib.run_cons, Lib.run_cons, Lib.run_nil, hadv, exec,
    if_neg (by simpa [perform] using hn)]

/-- The defense timer runs `PeriodicCheck`, and reports the frames that the PHY has dropped. -/
lemma handleDefenseTimer_watchdog {d : OlsrWatchdogDefense} (hd : n.defenseStrategy = some d)
    (t : Time) (e : Event) (jitter : Time) (he : e = .handleDefenseTimer) :
    (n.perform (.fire t e jitter)).defenseStrategy =
      some ((d.periodicCheck n.now).onSelfReliabilityReport n.localRxDrops) := by
  subst he
  have hd' : (n.dequeue t .handleDefenseTimer).defenseStrategy = some d := hd
  simp only [perform, call, handleDefenseTimer, hd']
  rfl

lemma reactivateDefenseStrategy_watchdog {d : OlsrWatchdogDefense}
    (hd : n.defenseStrategy = some d) :
    (n.perform .reactivateDefenseStrategy).defenseStrategy =
      some (d.setup n.now n.mainAddress) := by
  simp only [perform, reactivateDefenseStrategy, hd]
  split <;> rfl

/-- The inputs of a run come when they are enabled. -/
lemma IsWatchdogRun.enabled {ipv4 : Ipv4L3Protocol} {xs : List WatchdogInput}
    (h : n.IsWatchdogRun ipv4 xs) :
    ∀ y ∈ Lib.trace (Node.watch ipv4) n xs, y.1.EnabledWatchdog y.2 :=
  Lib.forall_trace_of_cons (Q := IsWatchdogRun ipv4) (fun _ _ _ h => h) h

end Node

namespace WatchdogRun

variable (r : WatchdogRun)

lemma fst_mem_nodes {y : Node OlsrWatchdogDefense × WatchdogInput} (hy : y ∈ r.trace) :
    y.1 ∈ r.nodes :=
  List.mem_append_left _ (List.mem_map_of_mem hy)

lemma watch_mem_nodes {y : Node OlsrWatchdogDefense × WatchdogInput} (hy : y ∈ r.trace) :
    y.1.watch r.ipv4 y.2 ∈ r.nodes := by
  rcases Lib.exec_mem_of_mem_trace hy with hlast | ⟨z, hz, hnext⟩
  · rw [hlast]
    exact List.mem_append_right _ (List.mem_singleton_self _)
  · rw [← hnext]
    exact List.mem_append_left _ (List.mem_map_of_mem hz)

end WatchdogRun

end ManetOlsr
