/-
The chain of periodic checks.

`PeriodicCheck` schedules the next call of itself, and the watchdog cancels the pending call when it
is set up again.  As long as no one else calls it, there is one pending call, and the MAC windows
are rotated once in an interval.  But the protocol calls it too, from `HandleDefenseTimer`: the call
schedules another one while the first is still pending, and from then on there are two chains.
-/
import ManetOlsr.Model.Scenario
import ManetOlsr.Model.WatchdogFrames

namespace ManetOlsr

namespace OlsrWatchdogDefense

/-! ### What the watchdog has scheduled -/

/-- The pending calls of `PeriodicCheck`, and what has become of the earlier ones. -/
structure Agenda where
  checks : List (ℕ × Time)
  periodicEvent : ℕ
  scheduled : ℕ
  periodicInterval : Time
  rotations : List Time

variable (d : OlsrWatchdogDefense) (now : Time) (s : OlsrState)

def agenda : Agenda where
  checks := d.checks
  periodicEvent := d.periodicEvent
  scheduled := d.scheduled
  periodicInterval := d.periodicInterval
  rotations := d.rotations

lemma agenda_ignoresTables : IgnoresTables agenda where
  pendingByNeighbor _ _ := rfl
  neighborStats _ _ := rfl
  macToIp _ _ := rfl
  blacklist _ _ := rfl

lemma setEnabled_agenda (enabled : Bool) : (d.setEnabled now enabled).agenda = d.agenda := by
  rw [setEnabled]
  split <;> rfl

lemma onSelfReliabilityReport_agenda (drops : UInt32) :
    (d.onSelfReliabilityReport drops).agenda = d.agenda := by
  rw [onSelfReliabilityReport]
  split <;> rfl

lemma phyRxDropCallback_agenda : d.phyRxDropCallback.agenda = d.agenda := by
  rw [phyRxDropCallback]
  split <;> rfl

/-- **What `PeriodicCheck` does to the agenda**: it schedules the next call, and rotates the windows
unless the watchdog is disabled. -/
lemma periodicCheck_agenda :
    (d.periodicCheck now).agenda =
      { checks := d.checks ++ [(d.scheduled + 1, now + d.periodicInterval)]
        periodicEvent := d.scheduled + 1
        scheduled := d.scheduled + 1
        periodicInterval := d.periodicInterval
        rotations := if d.enabled then d.rotations ++ [now] else d.rotations } := by
  rw [periodicCheck]
  cases d.enabled with
  | false => rfl
  | true =>
    have h := agenda_ignoresTables.evaluated d now
    generalize ((d.ageOut now).maybeBlacklistAll now).releaseExpiredBlacklist now = d' at h ⊢
    simp only [agenda, Agenda.mk.injEq] at h
    obtain ⟨hchecks, -, hscheduled, hinterval, hrotations⟩ := h
    simp [agenda, schedulePeriodicCheck, rotateMacWindows, hchecks, hscheduled, hinterval,
      hrotations]

/-- **What `Setup` does to it**: it cancels the call that it knows of, and schedules another. -/
lemma setup_agenda (nodeAddress : Ipv4Address) :
    (d.setup now nodeAddress).agenda =
      { d.agenda with
        checks := (d.checks.filter fun c => !(c.1 == d.periodicEvent)) ++
          [(d.scheduled + 1, now + d.periodicInterval)]
        periodicEvent := d.scheduled + 1
        scheduled := d.scheduled + 1 } := by
  simp only [setup, attachWifiTraces]
  cases d.ownWifi <;> rfl

/-! ### One chain -/

/-- The rotations lie apart by at least the interval. -/
def Apart (interval : Time) (rotations : List Time) : Prop :=
  rotations.IsChain fun t t' => t + interval ≤ t'

/-- There is one chain of calls: the only one that is pending is the one `Setup` would cancel, and it
comes an interval after the last rotation at least. -/
structure OneChain (a : Agenda) (now : Time) : Prop where
  single : ∃ t, a.checks = [(a.periodicEvent, t)] ∧ ∀ r ∈ a.rotations, r + a.periodicInterval ≤ t
  past : ∀ r ∈ a.rotations, r ≤ now
  apart : Apart a.periodicInterval a.rotations

variable {d now}

lemma OneChain.mono {a : Agenda} (h : OneChain a now) {t : Time} (ht : now ≤ t) : OneChain a t :=
  ⟨h.single, fun r hr => (h.past r hr).trans ht, h.apart⟩

/-- `Setup` leaves one chain if it cancels all that is pending. -/
lemma oneChain_setup (hcancelled : (d.checks.filter fun c => !(c.1 == d.periodicEvent)) = [])
    (hpast : ∀ r ∈ d.rotations, r ≤ now) (hapart : Apart d.periodicInterval d.rotations)
    (nodeAddress : Ipv4Address) : OneChain (d.setup now nodeAddress).agenda now := by
  rw [setup_agenda, hcancelled, List.nil_append]
  exact ⟨⟨now + d.periodicInterval, rfl, fun r hr => add_le_add (hpast r hr) le_rfl⟩, hpast, hapart⟩

lemma OneChain.setup (h : OneChain d.agenda now) (nodeAddress : Ipv4Address) :
    OneChain (d.setup now nodeAddress).agenda now := by
  obtain ⟨t, hone, -⟩ := h.single
  have hchecks : d.checks = [(d.periodicEvent, t)] := hone
  exact oneChain_setup (by simp [hchecks]) h.past h.apart nodeAddress

/-- A rotation now keeps the distance from the earlier ones. -/
lemma Apart.concat {interval : Time} {rotations : List Time} (h : Apart interval rotations)
    (hlast : ∀ r ∈ rotations, r + interval ≤ now) : Apart interval (rotations ++ [now]) := by
  refine List.IsChain.append h (List.isChain_singleton _) ?_
  intro r hr t ht
  obtain rfl : t = now := by simpa using ht.symm
  exact hlast r (List.mem_of_mem_getLast? hr)

/-- A call at a time when no other is pending. -/
lemma oneChain_periodicCheck (hnone : d.checks = []) (hpast : ∀ r ∈ d.rotations, r ≤ now)
    (hapart : Apart d.periodicInterval d.rotations)
    (hlast : ∀ r ∈ d.rotations, r + d.periodicInterval ≤ now) :
    OneChain (d.periodicCheck now).agenda now := by
  rw [periodicCheck_agenda, hnone, List.nil_append]
  cases d.enabled with
  | false =>
    exact ⟨⟨_, rfl, fun r hr => add_le_add (hpast r hr) le_rfl⟩, hpast, hapart⟩
  | true =>
    have hpast' : ∀ r ∈ d.rotations ++ [now], r ≤ now := by
      intro r hr
      rcases List.mem_append.mp hr with hr | hr
      · exact hpast r hr
      · exact (List.mem_singleton.mp hr).le
    exact ⟨⟨_, rfl, fun r hr => add_le_add (hpast' r hr) le_rfl⟩, hpast',
      Apart.concat hapart hlast⟩

end OlsrWatchdogDefense

/-! ### The node -/

/-- The input by which the protocol calls `PeriodicCheck`. -/
def WatchdogInput.RunsDefenseTimer (x : WatchdogInput) : Prop :=
  ∃ t jitter, x = .node (.control (.timer t .handleDefenseTimer jitter))

namespace Node

variable {n : Node OlsrWatchdogDefense}

lemma checks_eq {d : OlsrWatchdogDefense} (h : n.defenseStrategy = some d) :
    n.checks = d.checks := by
  rw [checks, h]

/-- There is one chain of calls. -/
def OneChain (n : Node OlsrWatchdogDefense) : Prop :=
  ∃ d, n.defenseStrategy = some d ∧ OlsrWatchdogDefense.OneChain d.agenda n.now

lemma OneChain.of_agenda_eq (h : n.OneChain) {m : Node OlsrWatchdogDefense}
    (hm : m.defenseStrategy.map OlsrWatchdogDefense.agenda =
      n.defenseStrategy.map OlsrWatchdogDefense.agenda) (hnow : n.now ≤ m.now) : m.OneChain := by
  obtain ⟨d, hd, hchain⟩ := h
  rw [hd, Option.map_some] at hm
  obtain ⟨d', hd', heq⟩ := Option.map_eq_some_iff.mp hm
  exact ⟨d', hd', heq ▸ hchain.mono hnow⟩

lemma OneChain.of_watched_eq (h : n.OneChain) {m : Node OlsrWatchdogDefense}
    (hm : m.watched OlsrWatchdogDefense.agenda = n.watched OlsrWatchdogDefense.agenda) :
    m.OneChain :=
  h.of_agenda_eq (congrArg Prod.fst hm) (congrArg Prod.snd hm).ge

lemma OneChain.advance (h : n.OneChain) {t : Time} (ht : n.now ≤ t) :
    (n.perform (Act.advance t)).OneChain :=
  h.of_agenda_eq rfl ht

lemma OneChain.mapDefense (h : n.OneChain) {f : OlsrWatchdogDefense → OlsrWatchdogDefense}
    (hf : ∀ d, n.defenseStrategy = some d → OlsrWatchdogDefense.OneChain d.agenda n.now →
      OlsrWatchdogDefense.OneChain (f d).agenda n.now) : (n.mapDefense f).OneChain := by
  obtain ⟨d, hd, hchain⟩ := h
  refine ⟨f d, ?_, hf d hd hchain⟩
  rw [Node.mapDefense, hd]
  rfl

lemma OneChain.reactivate (h : n.OneChain) : (n.perform .reactivateDefenseStrategy).OneChain := by
  obtain ⟨d, hd, hchain⟩ := h
  refine ⟨d.setup n.now n.mainAddress, reactivateDefenseStrategy_watchdog hd, ?_⟩
  rw [perform_now n _ (by simp)]
  exact hchain.setup n.mainAddress

/-- The pending call fires. -/
lemma OneChain.firePeriodicCheck (h : n.OneChain) {id : ℕ} (hid : (id, n.now) ∈ n.checks) :
    (n.mapDefense fun d =>
      { d with checks := d.checks.erase (id, n.now) }.periodicCheck n.now).OneChain := by
  refine h.mapDefense fun d hd hchain => ?_
  rw [checks_eq hd] at hid
  obtain ⟨t, hone, hlast⟩ := hchain.single
  have hchecks : d.checks = [(d.periodicEvent, t)] := hone
  rw [hchecks, List.mem_singleton, Prod.mk.injEq] at hid
  obtain ⟨rfl, rfl⟩ := hid
  refine OlsrWatchdogDefense.oneChain_periodicCheck ?_ hchain.past hchain.apart hlast
  simp [hchecks]

/-- **Step lemma.**  An input keeps the one chain, unless it runs the defense timer. -/
lemma OneChain.watch (ipv4 : Ipv4L3Protocol) (h : n.OneChain) {x : WatchdogInput}
    (hx : n.EnabledWatchdog x) (htimer : ¬ x.RunsDefenseTimer) :
    (n.watch ipv4 x).OneChain := by
  have htables := OlsrWatchdogDefense.agenda_ignoresTables
  obtain ⟨hrunning, htime, -, -, hkind⟩ := hx
  cases x with
  | node y =>
    cases y with
    | control l =>
      change (n.step l).OneChain
      by_cases hl : OnlyPackets l
      · exact h.of_agenda_eq (hl.step htables htime).1 (hl.step htables htime).2
      · have hadvanced := h.advance htime
        cases l with
        | timer t e jitter =>
          cases e with
          | handleDefenseTimer => exact absurd ⟨t, jitter, rfl⟩ htimer
          | _ => exact absurd trivial hl
        -- The pending call is cancelled before the next one is scheduled.
        | reactivateDefenseStrategy t =>
          rw [step_of_acts_eq hrunning rfl]
          exact hadvanced.reactivate
        | setDefenseStrategy t d => exact absurd hkind.2 not_false
        | _ => exact absurd trivial hl
    | _ =>
      simp only [Node.watch, Node.next, Node.handle, hrunning, Bool.false_eq_true, if_false]
      exact (h.advance htime).of_watched_eq ((watched_ignoresPackets htables).handleAt ipv4 _ _)
  | periodicCheck t id =>
    have hid : (id, t) ∈ (n.perform (.advance t)).checks := hkind
    simp only [Node.watch, hrunning, Bool.false_eq_true, if_false, watchAt]
    exact (h.advance htime).firePeriodicCheck hid
  | setup t =>
    simp only [Node.watch, hrunning, Bool.false_eq_true, if_false, watchAt]
    exact (h.advance htime).mapDefense fun d _ hchain => hchain.setup _
  | setEnabled t enabled =>
    simp only [Node.watch, hrunning, Bool.false_eq_true, if_false, watchAt]
    refine (h.advance htime).of_watched_eq (mapDefense_watched fun d => ?_)
    exact d.setEnabled_agenda _ enabled
  | frame t f =>
    simp only [Node.watch, hrunning, Bool.false_eq_true, if_false, watchAt]
    exact (h.advance htime).of_watched_eq (hear_watched htables f)
  | phyRxDrop t =>
    simp only [Node.watch, hrunning, Bool.false_eq_true, if_false, watchAt]
    refine (h.advance htime).of_watched_eq (mapDefense_watched fun d => ?_)
    split
    · exact d.phyRxDropCallback_agenda
    · rfl

/-- Setting the watchdog up for the first time starts the chain. -/
lemma oneChain_doInitialize {d : OlsrWatchdogDefense} (hd : n.defenseStrategy = some d)
    (hchecks : d.checks = []) (hrotations : d.rotations = []) (jitter : Time) :
    (n.doInitialize jitter).OneChain := by
  have hstart : n.startDefense.defenseStrategy = some (d.setup n.now n.chosenMainAddress) := by
    simp only [startDefense, hd]
    rfl
  refine ⟨_, (watchdog_deaf.doInitialize_defenseStrategy n jitter).trans hstart, ?_⟩
  rw [show (n.doInitialize jitter).now = n.now from
    congrArg Fixed.now (n.doInitialize_fixed jitter)]
  refine OlsrWatchdogDefense.oneChain_setup ?_ ?_ ?_ _
  · rw [hchecks, List.filter_nil]
  · simp [hrotations]
  · simp [hrotations, OlsrWatchdogDefense.Apart]

end Node

namespace WatchdogRun

variable (r : WatchdogRun)

/-- At most one call of `PeriodicCheck` is pending, and the rotations of the windows lie apart. -/
def SingleChain (n : Node OlsrWatchdogDefense) : Prop :=
  ∀ d, n.defenseStrategy = some d →
    d.checks.length ≤ 1 ∧ OlsrWatchdogDefense.Apart d.periodicInterval d.rotations

lemma SingleChain.of_oneChain {n : Node OlsrWatchdogDefense} (h : n.OneChain) : SingleChain n := by
  obtain ⟨d, hd, hchain⟩ := h
  intro d' hd'
  obtain rfl := Option.some.inj (hd.symm.trans hd')
  obtain ⟨t, hone, -⟩ := hchain.single
  refine ⟨?_, hchain.apart⟩
  rw [show d.checks = [(d.periodicEvent, t)] from hone]
  exact le_rfl

/-- When the defense timer runs, the call that is pending is joined by another. -/
lemma not_singleChain {n : Node OlsrWatchdogDefense} (h : n.OneChain) {x : WatchdogInput}
    (hx : n.EnabledWatchdog x) (htimer : x.RunsDefenseTimer) :
    ¬ SingleChain (n.watch r.ipv4 x) := by
  obtain ⟨t, jitter, rfl⟩ := htimer
  obtain ⟨d, hd, hchain⟩ := h
  obtain ⟨t', hone, -⟩ := hchain.single
  have hadvanced : (n.perform (.advance t)).defenseStrategy = some d := hd
  have hfired := Node.handleDefenseTimer_watchdog hadvanced t _ jitter rfl
  obtain ⟨d', hd'⟩ : ∃ d', (d.periodicCheck t).onSelfReliabilityReport n.localRxDrops = d' :=
    ⟨_, rfl⟩
  have hlength : d'.checks.length = 2 := by
    have hagenda : d'.agenda = (d.periodicCheck t).agenda := by
      rw [← hd', OlsrWatchdogDefense.onSelfReliabilityReport_agenda]
    rw [OlsrWatchdogDefense.periodicCheck_agenda,
      show d.checks = [(d.periodicEvent, t')] from hone] at hagenda
    exact congrArg (fun a => a.checks.length) hagenda
  have hstep : n.watch r.ipv4 (.node (.control (.timer t .handleDefenseTimer jitter))) = _ :=
    Node.step_of_acts_eq hx.1 rfl
  rw [hstep]
  intro hsingle
  have hle := (hsingle d' (hfired.trans (congrArg some hd'))).1
  omega

lemma oneChain_start : r.start.OneChain :=
  Node.oneChain_doInitialize r.installed r.fresh.1 r.fresh.2 r.jitter

/-- **The single chain.**  At most one call of `PeriodicCheck` is pending, and the rotations lie
apart, in the runs in which the defense timer does not fire, and in no other. -/
theorem singleChain_iff :
    (∀ n ∈ r.nodes, SingleChain n) ↔ ∀ y ∈ r.trace, ¬ y.2.RunsDefenseTimer := by
  constructor
  · intro hsingle
    have hchain : ∀ y ∈ r.trace, y.1.OneChain := by
      refine Lib.inv_trace (P := fun n x => n.EnabledWatchdog x ∧ SingleChain (n.watch r.ipv4 x))
        (fun n x hn hx => ?_) r.oneChain_start fun y hy => ?_
      · exact hn.watch r.ipv4 hx.1 fun htimer => r.not_singleChain hn hx.1 htimer hx.2
      · exact ⟨r.isRun.enabled y hy, hsingle _ (r.watch_mem_nodes hy)⟩
    intro y hy htimer
    exact r.not_singleChain (hchain y hy) (r.isRun.enabled y hy) htimer
      (hsingle _ (r.watch_mem_nodes hy))
  · intro htimer n hn
    have hstep : ∀ (n : Node OlsrWatchdogDefense) x, n.OneChain →
        (n.EnabledWatchdog x ∧ ¬ x.RunsDefenseTimer) → (n.watch r.ipv4 x).OneChain :=
      fun n x hn hx => hn.watch r.ipv4 hx.1 hx.2
    have hP : ∀ y ∈ r.trace, y.1.EnabledWatchdog y.2 ∧ ¬ y.2.RunsDefenseTimer :=
      fun y hy => ⟨r.isRun.enabled y hy, htimer y hy⟩
    refine SingleChain.of_oneChain ?_
    rcases List.mem_append.mp hn with hn | hn
    · obtain ⟨y, hy, rfl⟩ := List.mem_map.mp hn
      exact Lib.inv_trace hstep r.oneChain_start hP y hy
    · obtain rfl := List.mem_singleton.mp hn
      exact Lib.inv_run hstep r.oneChain_start hP

end WatchdogRun

open Scenario in
lemma firstSecond_isRun : (quietWatchdog.node.doInitialize 0).IsWatchdogRun forwardingIpv4
    [.node (.control (.timer 0 .sendQueuedMessages 0)), .periodicCheck (Seconds 1) 1,
      .node (.control (.timer (Seconds 1) .handleDefenseTimer 0))] := by
  decide +kernel

open Scenario in
/-- The first second: the call that `Setup` has scheduled, and that of the defense timer. -/
def firstSecond : WatchdogRun where
  config := quietWatchdog
  strategy := {}
  installed := quietWatchdog_installed
  fresh := quietWatchdog_fresh
  jitter := 0
  isJitter := quietWatchdog_isJitter
  ipv4 := forwardingIpv4
  inputs := [.node (.control (.timer 0 .sendQueuedMessages 0)), .periodicCheck (Seconds 1) 1,
    .node (.control (.timer (Seconds 1) .handleDefenseTimer 0))]
  isRun := firstSecond_isRun

/-- **Two chains after one second.**  Two calls are pending, and the windows have been rotated twice
at the same time. -/
theorem firstSecond_twoChains :
    ∃ d, firstSecond.final.defenseStrategy = some d ∧ d.checks.length = 2 ∧
      d.periodicInterval = Seconds 1 ∧ d.rotations = [Seconds 1, Seconds 1] := by
  have hend : (firstSecond.final.defenseStrategy.map fun d =>
      (d.checks.length, d.periodicInterval, d.rotations)) =
      some (2, Seconds 1, [Seconds 1, Seconds 1]) := by
    decide +kernel
  obtain ⟨d, hd, hfields⟩ := Option.map_eq_some_iff.mp hend
  simp only [Prod.mk.injEq] at hfields
  exact ⟨d, hd, hfields⟩

end ManetOlsr
