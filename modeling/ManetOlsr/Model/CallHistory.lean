/-
The calls that a node makes to its watchdog.

Whatever comes to a node in a run, its watchdog is what the calls so far have made of the watchdog
that was installed.  What holds after any calls to a new watchdog holds therefore in every run of a
node.
-/
import ManetOlsr.Model.WatchdogCalls

namespace ManetOlsr

open OlsrWatchdogDefense

namespace Node

variable {n m k : Node OlsrWatchdogDefense}

/-- The watchdog of the second node comes by calls from that of the first. -/
def CallsTo (n m : Node OlsrWatchdogDefense) : Prop :=
  ∀ d, n.defenseStrategy = some d → ∃ cs, m.defenseStrategy = some (d.runCalls cs)

lemma CallsTo.of_eq (h : m.defenseStrategy = n.defenseStrategy) : n.CallsTo m :=
  fun _ hd => ⟨[], h.trans hd⟩

lemma CallsTo.trans (h : n.CallsTo m) (h' : m.CallsTo k) : n.CallsTo k := by
  intro d hd
  obtain ⟨cs, hcs⟩ := h d hd
  obtain ⟨cs', hcs'⟩ := h' _ hcs
  exact ⟨cs ++ cs', by rw [runCalls, Lib.run_append, hcs']⟩

/-- Some calls to the watchdog. -/
lemma CallsTo.mapDefense (n : Node OlsrWatchdogDefense)
    {f : OlsrWatchdogDefense → OlsrWatchdogDefense} (hf : ∀ d, ∃ cs, f d = d.runCalls cs) :
    n.CallsTo (n.mapDefense f) := by
  intro d hd
  obtain ⟨cs, hcs⟩ := hf d
  refine ⟨cs, ?_⟩
  rw [Node.mapDefense, hd, ← hcs]
  rfl

lemma CallsTo.of_call (n : Node OlsrWatchdogDefense)
    {f : OlsrWatchdogDefense → OlsrWatchdogDefense} (c : Call) (hf : ∀ d, f d = d.call c) :
    n.CallsTo (n.mapDefense f) :=
  CallsTo.mapDefense n fun d => ⟨[c], hf d⟩

lemma exists_calls_onSniffed (d : OlsrWatchdogDefense) (now : Time) (s : OlsrState)
    (frame : SniffedFrame) : ∃ cs, OlsrDefenseDataHooks.onSniffed d now s frame = d.runCalls cs := by
  cases frame with
  | data tx rx p => exact ⟨[⟨now, s, .onNeighborForwardedPacket tx rx p.uid⟩], rfl⟩
  | rts tx rx => exact ⟨[⟨now, s, .onRtsReceived tx⟩], rfl⟩
  | cts rx => exact ⟨[⟨now, s, .onCtsReceived rx⟩], rfl⟩

lemma callsTo_relatesPackets : RelatesPackets CallsTo where
  refl _ := CallsTo.of_eq rfl
  trans _ _ _ := CallsTo.trans
  stop _ _ := CallsTo.of_eq rfl
  received n _ _ := CallsTo.mapDefense n fun _ => ⟨[], rfl⟩
  forwarded n p nextHop := CallsTo.of_call n
    ⟨n.now, n.state, .onDataPacketForwarded p.uid nextHop p.destination⟩ fun _ => rfl
  dropped n _ _ := CallsTo.mapDefense n fun _ => ⟨[], rfl⟩
  sniffed n frame := CallsTo.mapDefense n fun d => exists_calls_onSniffed d n.now n.state frame
  queueStatus n _ _ := CallsTo.mapDefense n fun _ => ⟨[], rfl⟩
  energyState n _ _ := CallsTo.mapDefense n fun _ => ⟨[], rfl⟩

/-- An act calls the watchdog, or leaves it alone, unless it installs another one. -/
lemma callsTo_exec (n : Node OlsrWatchdogDefense) {a : Act OlsrWatchdogDefense}
    (hset : ∀ d, a ≠ .setDefenseStrategy d) : n.CallsTo (n.exec a) := by
  rw [exec]
  split
  · exact CallsTo.of_eq rfl
  by_cases hdrop : ∃ x, a = .macTxDrop x
  · obtain ⟨x, rfl⟩ := hdrop
    exact CallsTo.of_call n ⟨n.now, n.state, .onMacTxFailure x 1⟩ fun _ => rfl
  by_cases hreact : a = .reactivateDefenseStrategy
  · subst hreact
    intro d hd
    exact ⟨[⟨n.now, n.state, .setup n.mainAddress⟩], reactivateDefenseStrategy_watchdog hd⟩
  by_cases hfire : ∃ t jitter, a = .fire t .handleDefenseTimer jitter
  · obtain ⟨t, jitter, rfl⟩ := hfire
    intro d hd
    exact ⟨[⟨n.now, n.state, .periodicCheck⟩, ⟨n.now, n.state, .onSelfReliabilityReport n.localRxDrops⟩],
      handleDefenseTimer_watchdog hd t _ jitter rfl⟩
  exact CallsTo.of_eq (watchdog_deaf.perform_defenseStrategy n
    (fun t jitter heq => hfire ⟨t, jitter, heq⟩) (fun x heq => hdrop ⟨x, heq⟩) hset hreact)

lemma callsTo_hear (n : Node OlsrWatchdogDefense) (f : WifiFrame) : n.CallsTo (n.hear f) := by
  have hmonitor : n.CallsTo (n.monitorSnifferRx f) := by
    cases f with
    | data tx rx uid body =>
      rw [monitorSnifferRx]
      split
      · exact CallsTo.mapDefense n fun d => exists_calls_onSniffed d n.now n.state _
      · exact CallsTo.of_eq rfl
    | rts tx rx => exact CallsTo.mapDefense n fun d => exists_calls_onSniffed d n.now n.state _
    | cts rx => exact CallsTo.mapDefense n fun d => exists_calls_onSniffed d n.now n.state _
    | other => exact CallsTo.of_eq rfl
  refine hmonitor.trans (CallsTo.mapDefense _ fun d => ?_)
  split
  · exact ⟨[⟨n.now, n.state, .snifferRxCallback f⟩], rfl⟩
  · exact ⟨[], rfl⟩

/-- **Step lemma.**  Every input comes to the watchdog by calls. -/
lemma callsTo_watch (ipv4 : Ipv4L3Protocol) {x : WatchdogInput} (hx : n.EnabledWatchdog x) :
    n.CallsTo (n.watch ipv4 x) := by
  obtain ⟨hrunning, -, -, -, hkind⟩ := hx
  have hadvanced : ∀ t, n.CallsTo (n.perform (.advance t)) := fun _ => CallsTo.of_eq rfl
  cases x with
  | node y =>
    cases y with
    | control l =>
      exact Lib.inv_run (I := n.CallsTo) (P := fun _ a => a ∈ n.acts l)
        (fun m a hm ha => hm.trans (callsTo_exec m (acts_ne_setDefenseStrategy hkind.2 ha)))
        (CallsTo.of_eq rfl) fun y hy => Lib.snd_mem_of_mem_trace hy
    | _ =>
      simp only [Node.watch, Node.next, Node.handle, hrunning, Bool.false_eq_true, if_false]
      exact (hadvanced _).trans (callsTo_relatesPackets.handleAt ipv4 _ _)
  | periodicCheck t id =>
    simp only [Node.watch, hrunning, Bool.false_eq_true, if_false, watchAt]
    exact (hadvanced t).trans (CallsTo.mapDefense _ fun d =>
      ⟨[⟨t, n.state, .take (id, t)⟩, ⟨t, n.state, .periodicCheck⟩], rfl⟩)
  | setup t =>
    simp only [Node.watch, hrunning, Bool.false_eq_true, if_false, watchAt]
    exact (hadvanced t).trans (CallsTo.of_call _ ⟨t, n.state, .setup n.mainAddress⟩ fun _ => rfl)
  | setEnabled t enabled =>
    simp only [Node.watch, hrunning, Bool.false_eq_true, if_false, watchAt]
    exact (hadvanced t).trans (CallsTo.of_call _ ⟨t, n.state, .setEnabled enabled⟩ fun _ => rfl)
  | frame t f =>
    simp only [Node.watch, hrunning, Bool.false_eq_true, if_false, watchAt]
    exact (hadvanced t).trans (callsTo_hear _ f)
  | phyRxDrop t =>
    simp only [Node.watch, hrunning, Bool.false_eq_true, if_false, watchAt]
    refine (hadvanced t).trans ((CallsTo.mapDefense _ fun d => ?_).trans (CallsTo.of_eq rfl))
    split
    · exact ⟨[⟨t, n.state, .phyRxDropCallback⟩], rfl⟩
    · exact ⟨[], rfl⟩

end Node

namespace WatchdogRun

variable (r : WatchdogRun)

lemma exists_calls_start : ∃ cs, r.start.defenseStrategy = some (r.strategy.runCalls cs) := by
  have hinstalled : r.config.node.defenseStrategy = some r.strategy := r.installed
  refine ⟨[⟨r.config.node.now, {}, .setup r.config.node.chosenMainAddress⟩], ?_⟩
  refine (watchdog_deaf.doInitialize_defenseStrategy r.config.node r.jitter).trans ?_
  simp only [Node.startDefense, hinstalled]
  rfl

/-- **Run lemma.**  In a run of a node the watchdog is what some calls have made of the one that was
installed. -/
theorem exists_calls {n : Node OlsrWatchdogDefense} (hn : n ∈ r.nodes) :
    ∃ cs, n.defenseStrategy = some (r.strategy.runCalls cs) := by
  obtain ⟨cs, hcs⟩ := r.exists_calls_start
  have hstep : ∀ (n : Node OlsrWatchdogDefense) x, r.start.CallsTo n → n.EnabledWatchdog x →
      r.start.CallsTo (n.watch r.ipv4 x) := fun n x hn hx => hn.trans (Node.callsTo_watch r.ipv4 hx)
  have hrefl : r.start.CallsTo r.start := Node.CallsTo.of_eq rfl
  have hcalls : r.start.CallsTo n := by
    rcases List.mem_append.mp hn with hn | hn
    · obtain ⟨y, hy, rfl⟩ := List.mem_map.mp hn
      exact Lib.inv_trace hstep hrefl r.isRun.enabled y hy
    · obtain rfl := List.mem_singleton.mp hn
      exact Lib.inv_run hstep hrefl r.isRun.enabled
  obtain ⟨cs', hcs'⟩ := hcalls _ hcs
  exact ⟨cs ++ cs', by rw [runCalls, Lib.run_append, hcs']⟩

end WatchdogRun

end ManetOlsr
