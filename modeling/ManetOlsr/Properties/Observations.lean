/-
What the watchdog counts.

Both callbacks of a frame end in the same hooks of the watchdog, so that it counts twice what both
of them tell it: the RTS and CTS frames of the neighbors whose address it knows, and their data
frames that carry an IP header.  The frames that the PHY drops are counted when they are dropped,
and once more when the protocol reports their number.
-/
import ManetOlsr.Properties.PeriodicChain

namespace ManetOlsr

/-- The station that is counted for a frame. -/
def WifiFrame.station : WifiFrame → Option Mac48Address
  | rts tx _ => some tx
  | cts rx => some rx
  | data tx _ _ _ => some tx
  | other => none

/-- `MonitorSnifferRx` tells the watchdog of a frame. -/
def WifiFrame.IsTold : WifiFrame → Prop
  | data _ _ _ body => body.hasIpHeader = true
  | _ => True

namespace OlsrWatchdogDefense

variable (d : OlsrWatchdogDefense) (now : Time) (s : OlsrState)

lemma macLt_comparesKeys : Lib.ComparesKeys macLt BitVec.toNat where
  lt_iff a b := by rw [macLt, decide_eq_true_eq]
  injective _ _ h := BitVec.eq_of_toNat_eq h

/-! ### What the hooks count -/

/-- The counter that a frame of a neighbor should raise. -/
def counter : WifiFrame → NeighborStats → UInt32
  | .rts .., st => st.rtsInWindow
  | .cts .., st => st.ctsInWindow
  | .data .., st => st.dataFromThisNode
  | .other, _ => 0

/-- The counter of a frame for the neighbor at an address. -/
def count (f : WifiFrame) (ip : Ipv4Address) : UInt32 := counter f (d.statsOf ip)

/-- A station whose address is known, and that is not this one. -/
structure Mapped (mac : Mac48Address) : Prop where
  other : mac ≠ d.myMacAddress
  known : d.lookupIpFromMac mac ≠ unsetAddress

/-- A broadcast frame that changes what is known of the address of its transmitter. -/
def Remaps (tx rx : Mac48Address) (body : FrameBody) : Prop :=
  rx = Mac48Address.getBroadcast ∧
    ∃ srcIp, tryExtractIpSource body = some srcIp ∧ srcIp ≠ unsetAddress ∧
      srcIp ≠ d.lookupIpFromMac tx

/-- What the hooks for frames read of the watchdog and leave as it is. -/
structure Ears where
  enabled : Bool
  attached : Bool
  myMacAddress : Mac48Address
  macToIp : List (Mac48Address × Ipv4Address)

def ears : Ears where
  enabled := d.enabled
  attached := d.attached
  myMacAddress := d.myMacAddress
  macToIp := d.macToIp

lemma ears_ignoresStats : IgnoresStats ears := ⟨fun _ _ => rfl⟩

lemma ears_ignoresPending : IgnoresPending ears := ⟨fun _ _ => rfl⟩

lemma creditForward_counts (txIp : Ipv4Address) (receiver : Mac48Address) (uid : ℕ)
    (ip : Ipv4Address) :
    ((d.creditForward s txIp receiver uid).statsOf ip).dataFromThisNode =
      (d.statsOf ip).dataFromThisNode := by
  simp only [creditForward]
  split
  · rfl
  · split
    · rfl
    · rw [statsOf_setStats, setPending_statsOf]
      split
      · next h => rw [h]
      · rfl

/-- A data frame is counted for the transmitter, and for no one else. -/
lemma onNeighborForwardedPacket_counts {tx : Mac48Address} (rx : Mac48Address) (uid : ℕ)
    (henabled : d.enabled = true) (htx : d.lookupIpFromMac tx ≠ unsetAddress)
    (ip : Ipv4Address) :
    ((d.onNeighborForwardedPacket now s tx rx uid).statsOf ip).dataFromThisNode =
      (d.statsOf ip).dataFromThisNode + if d.lookupIpFromMac tx = ip then 1 else 0 := by
  simp only [onNeighborForwardedPacket, henabled, Bool.not_true, Bool.false_eq_true, if_false,
    if_neg htx]
  rw [creditForward_counts, statsOf_setStats]
  by_cases h : ip = d.lookupIpFromMac tx
  · rw [if_pos h, if_pos h.symm, h]
  · rw [if_neg h, if_neg fun heq => h heq.symm, UInt32.add_zero]

lemma onRtsReceived_counts {tx : Mac48Address} (henabled : d.enabled = true) (htx : d.Mapped tx) :
    ((d.onRtsReceived tx).statsOf (d.lookupIpFromMac tx)).rtsInWindow =
      (d.statsOf (d.lookupIpFromMac tx)).rtsInWindow + 1 := by
  simp only [onRtsReceived, henabled, Bool.not_true, Bool.false_eq_true, if_false,
    if_neg htx.other, if_neg htx.known]
  rw [statsOf_setStats, if_pos rfl]

lemma onCtsReceived_counts {rx : Mac48Address} (henabled : d.enabled = true) (hrx : d.Mapped rx) :
    ((d.onCtsReceived rx).statsOf (d.lookupIpFromMac rx)).ctsInWindow =
      (d.statsOf (d.lookupIpFromMac rx)).ctsInWindow + 1 := by
  simp only [onCtsReceived, henabled, Bool.not_true, Bool.false_eq_true, if_false,
    if_neg hrx.other, if_neg hrx.known]
  rw [statsOf_setStats, if_pos rfl]

/-! ### The callback of the watchdog -/

lemma learn_eq (tx rx : Mac48Address) (body : FrameBody) :
    ∃ m, d.learn tx rx body = { d with macToIp := m } := by
  rw [learn]
  split
  · split
    · split
      · exact ⟨d.macToIp, rfl⟩
      · exact ⟨_, rfl⟩
    · exact ⟨d.macToIp, rfl⟩
  · exact ⟨d.macToIp, rfl⟩

/-- What is known of the transmitter after a broadcast frame. -/
lemma learn_lookup (tx rx : Mac48Address) (body : FrameBody) :
    d.Remaps tx rx body ∧ (d.learn tx rx body).lookupIpFromMac tx ≠ d.lookupIpFromMac tx ∧
        (d.learn tx rx body).lookupIpFromMac tx ≠ unsetAddress ∨
      ¬ d.Remaps tx rx body ∧
        (d.learn tx rx body).lookupIpFromMac tx = d.lookupIpFromMac tx := by
  by_cases hbroadcast : rx = Mac48Address.getBroadcast
  swap
  · exact .inr ⟨fun h => hbroadcast h.1, by rw [learn, if_neg hbroadcast]⟩
  cases hsource : tryExtractIpSource body with
  | none =>
    refine .inr ⟨?_, by rw [learn, if_pos hbroadcast, hsource]⟩
    rintro ⟨-, srcIp, hsome, -⟩
    rw [hsource] at hsome
    cases hsome
  | some srcIp =>
    by_cases hunset : srcIp = unsetAddress
    · refine .inr ⟨?_, ?_⟩
      · rintro ⟨-, srcIp', hsome, hset, -⟩
        rw [hsource] at hsome
        exact hset (Option.some.inj hsome ▸ hunset)
      · rw [learn, if_pos hbroadcast, hsource]
        exact congrArg (fun d' => lookupIpFromMac d' tx) (if_pos hunset)
    · have hlookup : (d.learn tx rx body).lookupIpFromMac tx = srcIp := by
        simp only [learn, if_pos hbroadcast, hsource, if_neg hunset]
        rw [lookupIpFromMac, macLt_comparesKeys.mapFind_mapSet_self, Option.getD_some]
      rw [hlookup]
      by_cases hsame : srcIp = d.lookupIpFromMac tx
      · refine .inr ⟨?_, hsame⟩
        rintro ⟨-, srcIp', hsome, -, hother⟩
        rw [hsource] at hsome
        exact hother (Option.some.inj hsome ▸ hsame)
      · exact .inl ⟨⟨hbroadcast, srcIp, hsource, hunset, hsame⟩, hsame, hunset⟩

/-- The callback of the watchdog counts a frame for the address that was known before it. -/
def Attends : WifiFrame → Prop
  | .data tx rx _ body => d.attached = true ∧ ¬ d.Remaps tx rx body
  | _ => d.attached = true

/-- What `MonitorSnifferRx` makes of the watchdog. -/
def told : WifiFrame → OlsrWatchdogDefense
  | .data tx rx uid body =>
    if body.hasIpHeader then d.onNeighborForwardedPacket now s tx rx uid else d
  | .rts tx _ => d.onRtsReceived tx
  | .cts rx => d.onCtsReceived rx
  | .other => d

/-- What `SnifferRxCallback` makes of it, if it is connected. -/
def listened (f : WifiFrame) : OlsrWatchdogDefense :=
  if d.attached then d.snifferRxCallback now s f else d

variable {d}

lemma told_ears (f : WifiFrame) : (d.told now s f).ears = d.ears := by
  cases f with
  | data tx rx uid body =>
    rw [told]
    split
    · exact ears_ignoresStats.onNeighborForwardedPacket d now s ears_ignoresPending tx rx uid
    · rfl
  | rts tx rx => exact ears_ignoresStats.onRtsReceived d tx
  | cts rx => exact ears_ignoresStats.onCtsReceived d rx
  | other => rfl

lemma told_count {f : WifiFrame} {mac : Mac48Address} (henabled : d.enabled = true)
    (hf : f.station = some mac) (hmac : d.Mapped mac) :
    f.IsTold ∧ (d.told now s f).count f (d.lookupIpFromMac mac) =
        d.count f (d.lookupIpFromMac mac) + 1 ∨
      ¬ f.IsTold ∧ (d.told now s f).count f (d.lookupIpFromMac mac) =
        d.count f (d.lookupIpFromMac mac) := by
  cases f with
  | data tx rx uid body =>
    obtain rfl := Option.some.inj hf
    by_cases hip : body.hasIpHeader = true
    · refine .inl ⟨hip, ?_⟩
      rw [told, if_pos hip]
      have hcount := d.onNeighborForwardedPacket_counts now s rx uid henabled hmac.known
        (d.lookupIpFromMac tx)
      rwa [if_pos rfl] at hcount
    · refine .inr ⟨hip, ?_⟩
      rw [told, if_neg hip]
  | rts tx rx =>
    obtain rfl := Option.some.inj hf
    exact .inl ⟨trivial, onRtsReceived_counts d henabled hmac⟩
  | cts rx =>
    obtain rfl := Option.some.inj hf
    exact .inl ⟨trivial, onCtsReceived_counts d henabled hmac⟩
  | other => cases hf

lemma listened_count {f : WifiFrame} {mac : Mac48Address} (henabled : d.enabled = true)
    (hf : f.station = some mac) (hmac : d.Mapped mac) :
    d.Attends f ∧ (d.listened now s f).count f (d.lookupIpFromMac mac) =
        d.count f (d.lookupIpFromMac mac) + 1 ∨
      ¬ d.Attends f ∧ (d.listened now s f).count f (d.lookupIpFromMac mac) =
        d.count f (d.lookupIpFromMac mac) := by
  by_cases hattached : d.attached = true
  swap
  · refine .inr ⟨fun h => hattached ?_, by rw [listened, if_neg hattached]⟩
    cases f with
    | data tx rx uid body => exact h.1
    | _ => exact h
  rw [listened, if_pos hattached]
  cases f with
  | data tx rx uid body =>
    obtain rfl := Option.some.inj hf
    obtain ⟨m, hm⟩ := d.learn_eq tx rx body
    have hlearn : (d.learn tx rx body).count (.data tx rx uid body) (d.lookupIpFromMac tx) =
        d.count (.data tx rx uid body) (d.lookupIpFromMac tx) := by
      rw [hm]
      rfl
    have henabled' : (d.learn tx rx body).enabled = true := by
      rw [hm]
      exact henabled
    simp only [snifferRxCallback, henabled, Bool.not_true, Bool.false_eq_true, if_false,
      if_neg hmac.other]
    -- The frame itself may map its sender to another neighbor; then it says nothing of this one.
    rcases d.learn_lookup tx rx body with ⟨hremaps, hother, hset⟩ | ⟨hsame, hlookup⟩
    · refine .inr ⟨fun h => h.2 hremaps, ?_⟩
      have hcount := (d.learn tx rx body).onNeighborForwardedPacket_counts now s rx uid henabled'
        hset (d.lookupIpFromMac tx)
      rw [if_neg hother, UInt32.add_zero] at hcount
      exact hcount.trans hlearn
    · refine .inl ⟨⟨hattached, hsame⟩, ?_⟩
      have hcount := (d.learn tx rx body).onNeighborForwardedPacket_counts now s rx uid henabled'
        (hlookup ▸ hmac.known) (d.lookupIpFromMac tx)
      rw [if_pos hlookup] at hcount
      exact hcount.trans (congrArg (· + 1) hlearn)
  | rts tx rx =>
    obtain rfl := Option.some.inj hf
    simp only [snifferRxCallback, henabled, Bool.not_true, Bool.false_eq_true, if_false,
      if_neg hmac.other]
    exact .inl ⟨hattached, onRtsReceived_counts d henabled hmac⟩
  | cts rx =>
    obtain rfl := Option.some.inj hf
    simp only [snifferRxCallback, henabled, Bool.not_true, Bool.false_eq_true, if_false]
    exact .inl ⟨hattached, onCtsReceived_counts d henabled hmac⟩
  | other => cases hf

/-- What is known of the stations is all that the conditions on a frame depend on. -/
lemma lookupIpFromMac_congr {d' : OlsrWatchdogDefense} (h : d'.ears = d.ears)
    (mac : Mac48Address) : d'.lookupIpFromMac mac = d.lookupIpFromMac mac :=
  congrArg (fun e : Ears => (Lib.mapFind e.macToIp mac).getD unsetAddress) h

lemma Mapped.congr {d' : OlsrWatchdogDefense} (h : d'.ears = d.ears) {mac : Mac48Address}
    (hmac : d.Mapped mac) : d'.Mapped mac where
  other := by
    rw [show d'.myMacAddress = d.myMacAddress from congrArg Ears.myMacAddress h]
    exact hmac.other
  known := by
    rw [lookupIpFromMac_congr h]
    exact hmac.known

lemma attends_congr {d' : OlsrWatchdogDefense} (h : d'.ears = d.ears) (f : WifiFrame) :
    d'.Attends f ↔ d.Attends f := by
  have hattached : d'.attached = d.attached := congrArg Ears.attached h
  cases f with
  | data tx rx uid body =>
    rw [Attends, Attends, Remaps, Remaps, hattached, lookupIpFromMac_congr h]
  | _ =>
    show d'.attached = true ↔ d.attached = true
    rw [hattached]

/-- **A frame is counted once** if one of the callbacks counts it, and the other one does not. -/
lemma heard_count_iff {f : WifiFrame} {mac : Mac48Address} (henabled : d.enabled = true)
    (hf : f.station = some mac) (hmac : d.Mapped mac) :
    ((d.told now s f).listened now s f).count f (d.lookupIpFromMac mac) =
        d.count f (d.lookupIpFromMac mac) + 1 ↔
      Xor f.IsTold (d.Attends f) := by
  have hears := d.told_ears now s f
  have htold := told_count now s henabled hf hmac
  have hlistened := listened_count now s (d := d.told now s f)
    ((congrArg Ears.enabled hears).trans henabled) hf (hmac.congr hears)
  rw [lookupIpFromMac_congr hears, attends_congr hears] at hlistened
  have hzero : ∀ x : UInt32, x ≠ x + 1 := fun x h => by
    simpa using congrArg (fun y => y - x) h
  have htwo : ∀ x : UInt32, x + 1 + 1 ≠ x + 1 := fun x h => by
    simpa using congrArg (fun y => y - (x + 1)) h
  rcases htold with ⟨htold, h⟩ | ⟨htold, h⟩ <;>
    rcases hlistened with ⟨hattends, h'⟩ | ⟨hattends, h'⟩ <;> rw [h', h]
  · exact iff_of_false (htwo _) fun hx => hx.elim (fun h => h.2 hattends) fun h => h.2 htold
  · exact iff_of_true rfl (.inl ⟨htold, hattends⟩)
  · exact iff_of_true rfl (.inr ⟨hattends, htold⟩)
  · exact iff_of_false (hzero _) fun hx => hx.elim (fun h => htold h.1) fun h => hattends h.1

/-! ### The drops -/

lemma selfDropsRaised_ignoresTables : IgnoresTables selfDropsRaised where
  pendingByNeighbor _ _ := rfl
  neighborStats _ _ := rfl
  macToIp _ _ := rfl
  blacklist _ _ := rfl

lemma enabled_ignoresTables : IgnoresTables enabled where
  pendingByNeighbor _ _ := rfl
  neighborStats _ _ := rfl
  macToIp _ _ := rfl
  blacklist _ _ := rfl

lemma periodicCheck_selfDropsRaised :
    (d.periodicCheck now).selfDropsRaised = d.selfDropsRaised := by
  rw [periodicCheck]
  split
  · rfl
  · exact selfDropsRaised_ignoresTables.evaluated d now

lemma periodicCheck_enabled : (d.periodicCheck now).enabled = d.enabled := by
  rw [periodicCheck]
  split
  · rfl
  · exact enabled_ignoresTables.evaluated d now

lemma setup_selfDropsRaised (nodeAddress : Ipv4Address) :
    (d.setup now nodeAddress).selfDropsRaised = d.selfDropsRaised := by
  simp only [setup, attachWifiTraces]
  cases d.ownWifi <;> rfl

lemma setEnabled_selfDropsRaised (enabled : Bool) :
    (d.setEnabled now enabled).selfDropsRaised = d.selfDropsRaised := by
  rw [setEnabled]
  split <;> rfl

end OlsrWatchdogDefense

namespace Node

open OlsrWatchdogDefense

variable {n : Node OlsrWatchdogDefense}

/-- By how much `m_selfDropsWindow` has been raised so far. -/
def selfDropsRaised (n : Node OlsrWatchdogDefense) : ℕ :=
  match n.defenseStrategy with
  | some d => d.selfDropsRaised
  | none => 0

/-- By how much an input raises it. -/
def raises (n : Node OlsrWatchdogDefense) : WatchdogInput → ℕ
  | .phyRxDrop _ =>
    match n.defenseStrategy with
    | some d => if d.attached then 1 else 0
    | none => 0
  | .node (.control (.timer _ .handleDefenseTimer _)) => n.localRxDrops.toNat
  | _ => 0

lemma selfDropsRaised_eq {d : OlsrWatchdogDefense} (h : n.defenseStrategy = some d) :
    n.selfDropsRaised = d.selfDropsRaised := by
  rw [selfDropsRaised, h]

lemma selfDropsRaised_of_map_eq {m : Node OlsrWatchdogDefense}
    (h : m.defenseStrategy.map OlsrWatchdogDefense.selfDropsRaised =
      n.defenseStrategy.map OlsrWatchdogDefense.selfDropsRaised) :
    m.selfDropsRaised = n.selfDropsRaised := by
  rw [selfDropsRaised, selfDropsRaised]
  cases hm : m.defenseStrategy <;> cases hn : n.defenseStrategy <;>
    simp only [hm, hn, Option.map_none, Option.map_some, Option.some.injEq, reduceCtorEq] at h
  · rfl
  · exact h

lemma selfDropsRaised_of_watched_eq {m : Node OlsrWatchdogDefense}
    (h : m.watched OlsrWatchdogDefense.selfDropsRaised =
      n.watched OlsrWatchdogDefense.selfDropsRaised) :
    m.selfDropsRaised = n.selfDropsRaised :=
  selfDropsRaised_of_map_eq (congrArg Prod.fst h)

/-- A control event raises the window if it is the defense timer. -/
lemma step_selfDropsRaised {d : OlsrWatchdogDefense} (hd : n.defenseStrategy = some d)
    (henabled : d.enabled = true) {l : Label OlsrWatchdogDefense} (hrunning : n.fatalError = false)
    (htime : n.now ≤ l.time) (hnode : (Input.control l).OfNode) :
    (n.step l).selfDropsRaised = n.selfDropsRaised + n.raises (.node (.control l)) := by
  by_cases hl : OnlyPackets l
  · have hraises : n.raises (.node (.control l)) = 0 := by
      cases l with
      | timer t e jitter =>
        cases e with
        | handleDefenseTimer => exact absurd hl not_false
        | _ => rfl
      | _ => rfl
    rw [hraises, selfDropsRaised_of_map_eq (hl.step selfDropsRaised_ignoresTables htime).1,
      Nat.add_zero]
  · -- Only the defense timer and a reactivation reach the strategy.
    cases l with
    | timer t e jitter =>
      cases e with
      | handleDefenseTimer =>
        have hadvanced : (n.perform (.advance t)).defenseStrategy = some d := hd
        have hfired := handleDefenseTimer_watchdog hadvanced t _ jitter rfl
        rw [step_of_acts_eq hrunning rfl]
        rw [selfDropsRaised_eq hd]
        refine (selfDropsRaised_eq hfired).trans ?_
        rw [onSelfReliabilityReport, periodicCheck_enabled, henabled]
        exact congrArg (· + n.localRxDrops.toNat) (periodicCheck_selfDropsRaised _)
      | _ => exact absurd trivial hl
    | reactivateDefenseStrategy t =>
      have hadvanced : (n.perform (.advance t)).defenseStrategy = some d := hd
      rw [step_of_acts_eq hrunning rfl, selfDropsRaised_eq hd]
      exact (selfDropsRaised_eq (reactivateDefenseStrategy_watchdog hadvanced)).trans
        (setup_selfDropsRaised _ _)
    | setDefenseStrategy t d => exact absurd hnode not_false
    | _ => exact absurd trivial hl

/-- A frame that the PHY drops raises the window by one, if the callback is attached. -/
lemma dropFrame_selfDropsRaised {d : OlsrWatchdogDefense} (hd : n.defenseStrategy = some d)
    (henabled : d.enabled = true) :
    n.dropFrame.selfDropsRaised = n.selfDropsRaised + if d.attached then 1 else 0 := by
  have hdropped : n.dropFrame.defenseStrategy =
      some (if d.attached then d.phyRxDropCallback else d) := by
    rw [dropFrame, mapDefense]
    exact congrArg (Option.map _) hd
  rw [selfDropsRaised_eq hdropped, selfDropsRaised_eq hd]
  split
  · rw [phyRxDropCallback, henabled]
    rfl
  · rfl

/-- **Step lemma.**  The window is raised when the PHY drops a frame, and by the number of the frames
dropped since then when the defense timer runs. -/
lemma watch_selfDropsRaised (ipv4 : Ipv4L3Protocol) {d : OlsrWatchdogDefense}
    (hd : n.defenseStrategy = some d) (henabled : d.enabled = true) {x : WatchdogInput}
    (hx : n.EnabledWatchdog x) :
    (n.watch ipv4 x).selfDropsRaised = n.selfDropsRaised + n.raises x := by
  have htables := selfDropsRaised_ignoresTables
  obtain ⟨hrunning, htime, -, -, hkind⟩ := hx
  cases x with
  | node y =>
    cases y with
    | control l => exact step_selfDropsRaised hd henabled hrunning htime hkind.2
    | _ =>
      simp only [Node.watch, Node.next, Node.handle, hrunning, Bool.false_eq_true, if_false]
      refine (selfDropsRaised_of_watched_eq ((watched_ignoresPackets htables).handleAt ipv4 _
        _)).trans ?_
      rfl
  | periodicCheck t id =>
    simp only [Node.watch, hrunning, Bool.false_eq_true, if_false, watchAt]
    exact selfDropsRaised_of_watched_eq (n := n.perform (.advance t)) (mapDefense_watched fun d =>
      periodicCheck_selfDropsRaised _)
  | setup t =>
    simp only [Node.watch, hrunning, Bool.false_eq_true, if_false, watchAt]
    exact selfDropsRaised_of_watched_eq (n := n.perform (.advance t)) (mapDefense_watched fun d =>
      setup_selfDropsRaised _ _)
  | setEnabled t enabled =>
    simp only [Node.watch, hrunning, Bool.false_eq_true, if_false, watchAt]
    exact selfDropsRaised_of_watched_eq (n := n.perform (.advance t)) (mapDefense_watched fun d =>
      setEnabled_selfDropsRaised _ _)
  | frame t f =>
    simp only [Node.watch, hrunning, Bool.false_eq_true, if_false, watchAt]
    exact selfDropsRaised_of_watched_eq (n := n.perform (.advance t)) (hear_watched htables f)
  | phyRxDrop t =>
    simp only [Node.watch, hrunning, Bool.false_eq_true, if_false, watchAt, raises, hd]
    exact dropFrame_selfDropsRaised (n := n.perform (.advance t)) hd henabled

/-- What both callbacks make of the watchdog. -/
lemma hear_defenseStrategy {d : OlsrWatchdogDefense} (hd : n.defenseStrategy = some d)
    (f : WifiFrame) :
    (n.hear f).defenseStrategy =
      some ((d.told n.now n.state f).listened n.now n.state f) := by
  have hmonitor : (n.monitorSnifferRx f).defenseStrategy = some (d.told n.now n.state f) := by
    cases f with
    | data tx rx uid body =>
      rw [monitorSnifferRx, told]
      split
      · exact congrArg (Option.map _) hd
      · exact hd
    | rts tx rx => exact congrArg (Option.map _) hd
    | cts rx => exact congrArg (Option.map _) hd
    | other => exact hd
  exact congrArg (Option.map _) hmonitor

/-- The watchdog is enabled. -/
def watchdogEnabled (n : Node OlsrWatchdogDefense) : Bool :=
  match n.defenseStrategy with
  | some d => d.enabled
  | none => false

lemma exists_of_watchdogEnabled (h : n.watchdogEnabled = true) :
    ∃ d, n.defenseStrategy = some d ∧ d.enabled = true := by
  rw [watchdogEnabled] at h
  split at h
  · next d hd => exact ⟨d, hd, h⟩
  · cases h

/-- What an input tells the watchdog comes from one side only: the frame of a neighbor from one of
the callbacks, and a drop of the PHY from the callback, with nothing left to report. -/
def HeardByOne (n : Node OlsrWatchdogDefense) : WatchdogInput → Prop
  | .frame _ f => ∀ d mac, n.defenseStrategy = some d → f.station = some mac → d.Mapped mac →
    Xor f.IsTold (d.Attends f)
  | .phyRxDrop _ => ∀ d, n.defenseStrategy = some d → d.attached = true
  | .node (.control (.timer _ .handleDefenseTimer _)) => n.localRxDrops = 0
  | _ => True

end Node

/-- The number of frames that the PHY drops in an input. -/
def WatchdogInput.phyRxDrops : WatchdogInput → ℕ
  | phyRxDrop _ => 1
  | _ => 0

namespace WatchdogRun

variable (r : WatchdogRun)

/-- Each frame of a neighbor raises its counter by one. -/
def CountsFramesOnce : Prop :=
  ∀ y ∈ r.trace, ∀ t f, y.2 = .frame t f → ∀ d d', y.1.defenseStrategy = some d →
    (y.1.watch r.ipv4 y.2).defenseStrategy = some d' →
    ∀ mac, f.station = some mac → d.Mapped mac →
      d'.count f (d.lookupIpFromMac mac) = d.count f (d.lookupIpFromMac mac) + 1

/-- Up to each input of the run, `m_selfDropsWindow` has been raised by the number of frames that the
PHY has dropped. -/
def CountsDropsOnce : Prop :=
  ∀ xs, xs <+: r.inputs → (Lib.run (Node.watch r.ipv4) r.start xs).selfDropsRaised =
    r.start.selfDropsRaised + (xs.map WatchdogInput.phyRxDrops).sum

lemma frame_counted_iff {n : Node OlsrWatchdogDefense} (hrunning : n.fatalError = false)
    (henabled : n.watchdogEnabled = true) (t : Time) (f : WifiFrame) :
    (∀ d d', n.defenseStrategy = some d → (n.watch r.ipv4 (.frame t f)).defenseStrategy = some d' →
      ∀ mac, f.station = some mac → d.Mapped mac →
        d'.count f (d.lookupIpFromMac mac) = d.count f (d.lookupIpFromMac mac) + 1) ↔
      n.HeardByOne (.frame t f) := by
  obtain ⟨d₀, hd₀, henabled⟩ := Node.exists_of_watchdogEnabled henabled
  have hadvanced : (n.perform (.advance t)).defenseStrategy = some d₀ := hd₀
  have hheard := Node.hear_defenseStrategy hadvanced f
  have hwatch : n.watch r.ipv4 (.frame t f) = (n.perform (.advance t)).hear f := by
    simp only [Node.watch, hrunning, Bool.false_eq_true, if_false, Node.watchAt]
    rfl
  rw [hwatch, hheard]
  constructor
  · intro h d mac hd hf hmac
    obtain rfl := Option.some.inj (hd₀.symm.trans hd)
    exact (OlsrWatchdogDefense.heard_count_iff _ _ henabled hf hmac).mp
      (h d₀ _ hd₀ rfl mac hf hmac)
  · intro h d d' hd hd' mac hf hmac
    obtain rfl := Option.some.inj (hd₀.symm.trans hd)
    obtain rfl := Option.some.inj hd'
    exact (OlsrWatchdogDefense.heard_count_iff _ _ henabled hf hmac).mpr (h d₀ mac hd₀ hf hmac)

/-- The inputs that are no frames raise the window by the frames dropped. -/
lemma raises_eq_iff {n : Node OlsrWatchdogDefense} (henabled : n.watchdogEnabled = true)
    {x : WatchdogInput} (hx : ∀ t f, x ≠ .frame t f) :
    n.raises x = x.phyRxDrops ↔ n.HeardByOne x := by
  obtain ⟨d, hd, -⟩ := Node.exists_of_watchdogEnabled henabled
  cases x with
  | frame t f => exact absurd rfl (hx t f)
  | phyRxDrop t =>
    simp only [Node.raises, hd, WatchdogInput.phyRxDrops, Node.HeardByOne, Option.some.injEq,
      forall_eq']
    cases d.attached <;> simp
  | node y =>
    cases y with
    | control l =>
      cases l with
      | timer t e jitter =>
        cases e with
        | handleDefenseTimer =>
          show n.localRxDrops.toNat = 0 ↔ n.localRxDrops = 0
          exact ⟨fun h => UInt32.toNat_inj.mp h, fun h => by rw [h]; rfl⟩
        | _ => exact iff_of_true rfl trivial
      | _ => exact iff_of_true rfl trivial
    | _ => exact iff_of_true rfl trivial
  | _ => exact iff_of_true rfl trivial

/-- **Observations are counted once** in the runs in which each of them comes to the watchdog from
one side only. -/
theorem countsOnce_iff (henabled : ∀ n ∈ r.nodes, n.watchdogEnabled = true) :
    r.CountsFramesOnce ∧ r.CountsDropsOnce ↔ ∀ y ∈ r.trace, y.1.HeardByOne y.2 := by
  have hraised : ∀ y ∈ r.trace, (y.1.watch r.ipv4 y.2).selfDropsRaised =
      y.1.selfDropsRaised + y.1.raises y.2 := by
    intro y hy
    obtain ⟨d, hd, hon⟩ := Node.exists_of_watchdogEnabled (henabled _ (r.fst_mem_nodes hy))
    exact Node.watch_selfDropsRaised r.ipv4 hd hon (r.isRun.enabled y hy)
  have hdrops : r.CountsDropsOnce ↔ ∀ y ∈ r.trace, y.1.raises y.2 = y.2.phyRxDrops := by
    rw [CountsDropsOnce, Lib.account_iff]
    refine forall₂_congr fun y hy => ?_
    rw [show Node.watch r.ipv4 y.1 y.2 = y.1.watch r.ipv4 y.2 from rfl, hraised y hy]
    exact Nat.add_left_cancel_iff
  rw [hdrops]
  constructor
  · rintro ⟨hframes, hraises⟩ ⟨n, x⟩ hy
    have hn := henabled _ (r.fst_mem_nodes hy)
    by_cases hx : ∃ t f, x = .frame t f
    · obtain ⟨t, f, rfl⟩ := hx
      exact (r.frame_counted_iff (r.isRun.enabled _ hy).1 hn t f).mp
        (hframes (n, .frame t f) hy t f rfl)
    · exact (raises_eq_iff hn fun t f heq => hx ⟨t, f, heq⟩).mp (hraises (n, x) hy)
  · intro hone
    refine ⟨?_, ?_⟩
    · rintro ⟨n, x⟩ hy t f heq
      obtain rfl : x = .frame t f := heq
      exact (r.frame_counted_iff (r.isRun.enabled _ hy).1 (henabled _ (r.fst_mem_nodes hy)) t f).mpr
        (hone _ hy)
    · rintro ⟨n, x⟩ hy
      have hn := henabled _ (r.fst_mem_nodes hy)
      by_cases hx : ∃ t f, x = .frame t f
      · obtain ⟨t, f, rfl⟩ := hx
        rfl
      · exact (raises_eq_iff hn fun t f heq => hx ⟨t, f, heq⟩).mpr (hone (n, x) hy)

end WatchdogRun

open Scenario in
/-- A node with a Wi-Fi device hears a HELLO and an RTS frame of a neighbor, drops a frame, and runs
both timers after a second. -/
def listening : WatchdogRun where
  config := { quietWatchdog with defenseStrategy := some { ownWifi := some 10 } }
  strategy := { ownWifi := some 10 }
  installed := rfl
  fresh := ⟨rfl, rfl⟩
  jitter := 0
  isJitter := quietWatchdog_isJitter
  ipv4 := forwardingIpv4
  inputs := [.node (.control (.timer 0 .sendQueuedMessages 0)),
    .frame 0 (.data 20 Mac48Address.getBroadcast 1 ⟨100, 0x0800, 0x45, 2, 0xffffffff⟩),
    .frame 0 (.rts 20 30), .phyRxDrop 0, .periodicCheck (Seconds 1) 1,
    .node (.control (.timer (Seconds 1) .handleDefenseTimer 0))]
  isRun := by decide +kernel

lemma listening_enabled : ∀ n ∈ listening.nodes, n.watchdogEnabled = true := by decide +kernel

theorem listening_countsOnce_iff :
    listening.CountsFramesOnce ∧ listening.CountsDropsOnce ↔
      ∀ y ∈ listening.trace, y.1.HeardByOne y.2 :=
  listening.countsOnce_iff listening_enabled

/-- **One RTS frame and one drop are counted twice.** -/
theorem listening_countsTwice :
    (∀ n ∈ listening.nodes, n.watchdogEnabled = true) ∧ ¬ listening.CountsFramesOnce ∧
      ¬ listening.CountsDropsOnce := by
  refine ⟨listening_enabled, fun hframes => ?_, fun hdrops => ?_⟩
  · -- the run up to the RTS frame, and the counters around it
    let n := Lib.run (Node.watch listening.ipv4) listening.start (listening.inputs.take 2)
    have hbefore : (n.defenseStrategy.map fun d =>
        (d.lookupIpFromMac 20, d.myMacAddress, (d.statsOf 2).rtsInWindow)) = some (2, 10, 0) := by
      decide +kernel
    have hafter : ((n.watch listening.ipv4 (.frame 0 (.rts 20 30))).defenseStrategy.map fun d =>
        (d.statsOf 2).rtsInWindow) = some 2 := by
      decide +kernel
    obtain ⟨d, hd, hfields⟩ := Option.map_eq_some_iff.mp hbefore
    obtain ⟨d', hd', htwo⟩ := Option.map_eq_some_iff.mp hafter
    simp only [Prod.mk.injEq] at hfields
    obtain ⟨hlookup, hown, hzero⟩ := hfields
    have hmapped : d.Mapped 20 :=
      ⟨by rw [hown]; decide, by rw [hlookup]; decide⟩
    have hone := hframes (n, .frame 0 (.rts 20 30)) (Lib.mem_trace_append _ _ _ _) 0 _ rfl d d' hd
      hd' 20 rfl hmapped
    simp only [OlsrWatchdogDefense.count, OlsrWatchdogDefense.counter, hlookup, hzero, htwo] at hone
    exact absurd hone (by decide)
  · have htotal := hdrops listening.inputs (List.prefix_refl _)
    exact absurd htotal (by decide +kernel)

end ManetOlsr
