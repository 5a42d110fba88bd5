/-
The calls that reach a watchdog, and what they do to one of its neighbors.

Whatever the node does and hears, the watchdog is a machine whose actions are the calls below.  It
keeps its neighbors apart: what a call does to what is stored for a neighbor depends on that and on
what the watchdog stores for none in particular, so that the watchdog is seen from a neighbor as a
machine with a single record.
-/
import ManetOlsr.Model.WatchdogFrames

namespace ManetOlsr

namespace OlsrWatchdogDefense

/-- The functions that change the watchdog.  By `take` the simulator takes a pending call of
`PeriodicCheck`. -/
inductive Hook where
  | setup (nodeAddress : Ipv4Address)
  | setEnabled (enabled : Bool)
  | onDataPacketForwarded (uid : ℕ) (nextHop finalDest : Ipv4Address)
  | onMacTxFailure (neighbor : Ipv4Address) (count : ℕ)
  | onSelfReliabilityReport (localDropsCount : UInt32)
  | onNeighborForwardedPacket (transmitter receiver : Mac48Address) (uid : ℕ)
  | onRtsReceived (sender : Mac48Address)
  | onCtsReceived (rtsSender : Mac48Address)
  | snifferRxCallback (frame : WifiFrame)
  | phyRxDropCallback
  | periodicCheck
  | take (check : ℕ × Time)
deriving DecidableEq

/-- A call, with the clock and the repositories of the node. -/
structure Call where
  now : Time
  state : OlsrState := {}
  hook : Hook

def call (d : OlsrWatchdogDefense) (c : Call) : OlsrWatchdogDefense :=
  match c.hook with
  | .setup nodeAddress => d.setup c.now nodeAddress
  | .setEnabled enabled => d.setEnabled c.now enabled
  | .onDataPacketForwarded uid nextHop finalDest =>
    d.onDataPacketForwarded c.now uid nextHop finalDest
  | .onMacTxFailure neighbor count => d.onMacTxFailure neighbor count
  | .onSelfReliabilityReport localDropsCount => d.onSelfReliabilityReport localDropsCount
  | .onNeighborForwardedPacket tx rx uid => d.onNeighborForwardedPacket c.now c.state tx rx uid
  | .onRtsReceived sender => d.onRtsReceived sender
  | .onCtsReceived rtsSender => d.onCtsReceived rtsSender
  | .snifferRxCallback frame => d.snifferRxCallback c.now c.state frame
  | .phyRxDropCallback => d.phyRxDropCallback
  | .periodicCheck => d.periodicCheck c.now
  | .take check => { d with checks := d.checks.erase check }

/-! ### The record of a neighbor -/

/-- What the watchdog stores for a neighbor. -/
structure NeighborRecord where
  pending : List PendingPacket := []
  stats : Option NeighborStats := none
  blacklisted : Bool := false
deriving DecidableEq

def recordOf (d : OlsrWatchdogDefense) (neighbor : Ipv4Address) : NeighborRecord :=
  ⟨d.pendingOf neighbor, Lib.mapFind d.neighborStats neighbor, d.blacklist.contains neighbor⟩

/-- What the watchdog stores for no neighbor in particular. -/
def settings (d : OlsrWatchdogDefense) : OlsrWatchdogDefense :=
  { d with blacklist := [], pendingByNeighbor := [], neighborStats := [], macToIp := [] }

/-- `EvaluateMissingForward` takes a silence for evidence. -/
def countsSilence (d : OlsrWatchdogDefense) (now : Time) (st : NeighborStats) : Bool :=
  !decide (now < d.warmupUntil) && d.localMacStatus &&
    !decide (st.macTxFailures > d.macFailureThreshold) && !d.collisionSuspectedFor st

namespace NeighborRecord

variable (d : OlsrWatchdogDefense) (now : Time) (r : NeighborRecord)

def statsD : NeighborStats := r.stats.getD {}

/-- `EvaluateMissingForward`. -/
def evaluateMissingForward : NeighborRecord :=
  if now < d.warmupUntil then r
  else if !d.localMacStatus then r
  else
    { r with
      stats := some
        (if d.countsSilence now r.statsD then
          { r.statsD with notForwardedEvidence := r.statsD.notForwardedEvidence + 1 }
        else r.statsD) }

/-- Step 1 of `PeriodicCheck`. -/
def ageOut : NeighborRecord :=
  { (r.pending.filter (d.timedOut now)).foldl (fun r _ => r.evaluateMissingForward d now) r with
    pending := r.pending.filter fun pp => !d.timedOut now pp }

/-- The evidence is enough for probation, and neither guard speaks against it. -/
def accusable (st : NeighborStats) : Bool :=
  decide (d.blacklistThreshold ≤ st.notForwardedEvidence) &&
    decide (d.minDataObservations ≤ st.dataFromThisNode) && !d.linkUnhealthy st

/-- `MaybeBlacklist`. -/
def maybeBlacklist : NeighborRecord :=
  match r.stats with
  | none => r
  | some st =>
    if r.blacklisted || !accusable d st then r
    else if !st.onProbation then
      { r with
        stats := some { st with
          onProbation := true
          probationUntil := now + d.probationDuration
          evidenceAtProbationStart := st.notForwardedEvidence } }
    else if now < st.probationUntil then r
    else if st.notForwardedEvidence - st.evidenceAtProbationStart < d.blacklistThreshold / 2 then
      { r with
        stats := some { st with
          onProbation := false
          probationUntil := 0
          notForwardedEvidence := st.notForwardedEvidence / 2
          evidenceAtProbationStart := 0 } }
    else { r with stats := some { st with blacklistedAt := now }, blacklisted := true }

/-- The term of a verdict is over. -/
def termServed (st : NeighborStats) : Bool :=
  !decide (d.blacklistDuration = 0) && !decide (st.blacklistedAt = 0) &&
    !decide (now - st.blacklistedAt < d.blacklistDuration)

/-- The loop of `ReleaseExpiredBlacklist` for one address. -/
def releaseExpired : NeighborRecord :=
  match r.stats with
  | none => r
  | some st =>
    if termServed d now st then
      { r with
        stats := some { st with
          notForwardedEvidence := 0
          onProbation := false
          probationUntil := 0
          evidenceAtProbationStart := 0
          blacklistedAt := 0 }
        blacklisted := false }
    else r

/-- `ReleaseExpiredBlacklist`. -/
def release : NeighborRecord := if r.blacklisted then r.releaseExpired d now else r

/-- `RotateMacWindows`. -/
def rotate : NeighborRecord :=
  { r with
    stats := r.stats.map fun st =>
      { st with
        rtsPrevWindow := st.rtsInWindow
        ctsPrevWindow := st.ctsInWindow
        rtsInWindow := 0
        ctsInWindow := 0 } }

/-- `PeriodicCheck`. -/
def check : NeighborRecord :=
  (((r.ageOut d now).maybeBlacklist d now).release d now).rotate

end NeighborRecord

/-- What a call does to the record of a neighbor. -/
inductive Deed where
  | nothing
  | reset
  | handOver (packet : PendingPacket)
  | fail (count : ℕ)
  | overhear (now : Time) (uid : ℕ) (onward : Bool)
  | ask
  | clear
  | check (now : Time)

namespace NeighborRecord

/-- The watchdog is asked for nothing but its settings. -/
def apply (d : OlsrWatchdogDefense) (r : NeighborRecord) : Deed → NeighborRecord
  | .nothing => r
  | .reset => {}
  | .handOver packet =>
    { r with
      pending := r.pending ++ [packet]
      stats := some { r.statsD with
        packetsSentTo := r.statsD.packetsSentTo + 1
        lastActivityTime := packet.sentTime } }
  | .fail count =>
    { r with
      pending := r.pending.tail
      stats := some { r.statsD with
        macTxFailures := r.statsD.macTxFailures + UInt32.ofNat count } }
  | .overhear now uid onward =>
    let st := { r.statsD with
      dataFromThisNode := r.statsD.dataFromThisNode + 1
      lastActivityTime := now }
    if onward && r.pending.any fun pp => pp.packetUid == uid then
      { r with
        pending := r.pending.eraseP fun pp => pp.packetUid == uid
        stats := some { st with packetsForwarded := st.packetsForwarded + 1 } }
    else { r with stats := some st }
  | .ask =>
    { r with
      stats := some { r.statsD with
        rtsFromThisNode := r.statsD.rtsFromThisNode + 1
        rtsInWindow := r.statsD.rtsInWindow + 1 } }
  | .clear =>
    { r with stats := some { r.statsD with ctsInWindow := r.statsD.ctsInWindow + 1 } }
  | .check now => r.check d now

end NeighborRecord

section Deeds

variable (d : OlsrWatchdogDefense) (n : Ipv4Address)

/-- An address of no neighbor. -/
def notUnicast (a : Ipv4Address) : Prop := a = 0xffffffff ∨ a = 0 ∨ isMulticast a

instance (a : Ipv4Address) : Decidable (notUnicast a) :=
  inferInstanceAs (Decidable (_ ∨ _ ∨ isMulticast a = true))

def forwardDeed (now : Time) (uid : ℕ) (nextHop finalDest : Ipv4Address) : Deed :=
  if d.enabled ∧ nextHop = n ∧ n ≠ d.mainAddress ∧ n ≠ finalDest ∧ ¬ notUnicast n ∧
      ¬ d.blacklist.contains n then .handOver ⟨uid, finalDest, now⟩
  else .nothing

def failDeed (neighbor : Ipv4Address) (count : ℕ) : Deed :=
  if d.enabled ∧ neighbor = n ∧ n ≠ unsetAddress ∧ n ≠ 0xffffffff ∧ ¬ isMulticast n then
    .fail count
  else .nothing

def overhearDeed (now : Time) (s : OlsrState) (tx rx : Mac48Address) (uid : ℕ) : Deed :=
  if d.enabled ∧ d.lookupIpFromMac tx = n ∧ n ≠ unsetAddress then
    .overhear now uid (d.isPlausibleOnwardHop s rx n)
  else .nothing

/-- A frame of a station other than this node. -/
def macDeed (deed : Deed) (mac : Mac48Address) : Deed :=
  if d.enabled ∧ mac ≠ d.myMacAddress ∧ d.lookupIpFromMac mac = n ∧ n ≠ unsetAddress then deed
  else .nothing

def deed (c : Call) : Deed :=
  match c.hook with
  | .setEnabled enabled => if d.enabled = enabled then .nothing else .reset
  | .onDataPacketForwarded uid nextHop finalDest => d.forwardDeed n c.now uid nextHop finalDest
  | .onMacTxFailure neighbor count => d.failDeed n neighbor count
  | .onNeighborForwardedPacket tx rx uid => d.overhearDeed n c.now c.state tx rx uid
  | .onRtsReceived sender => d.macDeed n .ask sender
  | .onCtsReceived rtsSender => d.macDeed n .clear rtsSender
  | .snifferRxCallback (.rts tx _) => d.macDeed n .ask tx
  | .snifferRxCallback (.cts rx) => d.macDeed n .clear rx
  | .snifferRxCallback (.data tx rx uid body) =>
    if tx = d.myMacAddress then .nothing
    else (d.learn tx rx body).overhearDeed n c.now c.state tx rx uid
  | .periodicCheck => if d.enabled then .check c.now else .nothing
  | .setup _ | .onSelfReliabilityReport _ | .snifferRxCallback .other | .phyRxDropCallback
  | .take _ => .nothing

end Deeds

/-! ### Tables in order -/

/-- The tables are kept as `std::set` and `std::map` keep them. -/
structure WellKept (d : OlsrWatchdogDefense) : Prop where
  blacklist : Lib.Ordered Ipv4Address.lt d.blacklist
  pendingByNeighbor : Lib.Ordered Ipv4Address.lt (d.pendingByNeighbor.map Prod.fst)
  neighborStats : Lib.Ordered Ipv4Address.lt (d.neighborStats.map Prod.fst)

section Tables

variable {d : OlsrWatchdogDefense} (now : Time) (n : Ipv4Address)

lemma settings_ignoresStats : IgnoresStats settings := ⟨fun _ _ => rfl⟩

lemma settings_ignoresPending : IgnoresPending settings := ⟨fun _ _ => rfl⟩

lemma settings_ignoresAddresses : IgnoresAddresses settings := ⟨fun _ _ => rfl, fun _ _ => rfl⟩

lemma recordOf_setStats (d : OlsrWatchdogDefense) (a : Ipv4Address) (st : NeighborStats) :
    (d.setStats a st).recordOf n =
      if n = a then { d.recordOf n with stats := some st } else d.recordOf n := by
  rw [recordOf, setStats, Ipv4Address.comparesKeys.mapFind_mapSet]
  split <;> rfl

lemma recordOf_setPending (d : OlsrWatchdogDefense) (a : Ipv4Address) (vec : List PendingPacket) :
    (d.setPending a vec).recordOf n =
      if n = a then { d.recordOf n with pending := vec } else d.recordOf n := by
  rw [recordOf, pendingOf_setPending]
  split <;> rfl

lemma WellKept.setStats (h : d.WellKept) (a : Ipv4Address) (st : NeighborStats) :
    (d.setStats a st).WellKept :=
  ⟨h.blacklist, h.pendingByNeighbor, Ipv4Address.comparesKeys.ordered_mapSet h.neighborStats⟩

lemma WellKept.setPending (h : d.WellKept) (a : Ipv4Address) (vec : List PendingPacket) :
    (d.setPending a vec).WellKept :=
  ⟨h.blacklist, Ipv4Address.comparesKeys.ordered_mapSet h.pendingByNeighbor, h.neighborStats⟩

lemma WellKept.congr (h : d.WellKept) {d' : OlsrWatchdogDefense}
    (hb : d'.blacklist = d.blacklist) (hp : d'.pendingByNeighbor = d.pendingByNeighbor)
    (hs : d'.neighborStats = d.neighborStats) : d'.WellKept :=
  ⟨hb ▸ h.blacklist, hp ▸ h.pendingByNeighbor, hs ▸ h.neighborStats⟩

/-- What is shown of the watchdog by its records is the same if its tables are. -/
lemma recordOf_congr {d' : OlsrWatchdogDefense} (hb : d'.blacklist = d.blacklist)
    (hp : d'.pendingByNeighbor = d.pendingByNeighbor) (hs : d'.neighborStats = d.neighborStats) :
    d'.recordOf n = d.recordOf n := by
  rw [recordOf, recordOf, pendingOf, pendingOf, hb, hp, hs]

/-! ### Step 1 of `PeriodicCheck` -/

lemma evaluateMissingForward_recordOf_self (d : OlsrWatchdogDefense) :
    (d.evaluateMissingForward now n).recordOf n =
      (d.recordOf n).evaluateMissingForward d now := by
  have hstats : (d.recordOf n).statsD = d.statsOf n := rfl
  rw [NeighborRecord.evaluateMissingForward, hstats, countsSilence]
  simp only [evaluateMissingForward]
  by_cases hwarmup : now < d.warmupUntil
  · rw [if_pos hwarmup, if_pos hwarmup]
  by_cases hlocal : d.localMacStatus = true
  · by_cases hmac : (d.statsOf n).macTxFailures > d.macFailureThreshold
    · simp [hwarmup, hlocal, hmac, recordOf_setStats]
    · by_cases hcollision : d.collisionSuspectedFor (d.statsOf n) = true
      · simp [hwarmup, hlocal, hmac, hcollision, recordOf_setStats]
      · simp [hwarmup, hlocal, hmac, hcollision, recordOf_setStats]
  · simp [hwarmup, hlocal]

lemma evaluateMissingForward_recordOf_of_ne (d : OlsrWatchdogDefense) {a : Ipv4Address}
    (ha : a ≠ n) : (d.evaluateMissingForward now a).recordOf n = d.recordOf n := by
  simp only [evaluateMissingForward]
  split_ifs
  · rfl
  · rfl
  all_goals rw [recordOf_setStats, if_neg (Ne.symm ha)]

/-- Only the settings of the watchdog count. -/
lemma NeighborRecord.evaluateMissingForward_congr {d' : OlsrWatchdogDefense}
    (h : d'.settings = d.settings) (r : NeighborRecord) :
    r.evaluateMissingForward d' now = r.evaluateMissingForward d now := by
  show r.evaluateMissingForward d'.settings now = r.evaluateMissingForward d.settings now
  rw [h]

lemma WellKept.evaluateMissingForward (h : d.WellKept) (a : Ipv4Address) :
    (d.evaluateMissingForward now a).WellKept := by
  simp only [OlsrWatchdogDefense.evaluateMissingForward]
  split_ifs
  · exact h
  · exact h
  all_goals exact h.setStats a _

lemma evaluateTimedOut_recordOf_self (d : OlsrWatchdogDefense) (vec : List PendingPacket)
    {d' : OlsrWatchdogDefense} (hd' : d'.settings = d.settings) :
    (d.evaluateTimedOut now d' (n, vec)).recordOf n =
      (vec.filter (d.timedOut now)).foldl (fun r _ => r.evaluateMissingForward d now)
        (d'.recordOf n) := by
  refine Lib.run_reading (r := fun d' : OlsrWatchdogDefense => d'.recordOf n)
    (I := fun d' => d'.settings = d.settings) (P := fun _ _ => True) ?_ ?_ hd' fun _ _ => trivial
  · intro d' _ hd' _
    exact (settings_ignoresStats.evaluateMissingForward d' now n).trans hd'
  · intro d' _ hd' _
    rw [evaluateMissingForward_recordOf_self, NeighborRecord.evaluateMissingForward_congr now hd']

lemma WellKept.nodup_pending (h : d.WellKept) : (d.pendingByNeighbor.map Prod.fst).Nodup :=
  Ipv4Address.comparesKeys.nodup h.pendingByNeighbor

/-- The packets of a neighbor after the loop of step 1. -/
lemma ageOut_pendingOf (h : d.WellKept) :
    (d.ageOut now).pendingOf n = (d.pendingOf n).filter fun pp => !d.timedOut now pp := by
  have hfind : Lib.mapFind (d.ageOut now).pendingByNeighbor n =
      (Lib.mapFind d.pendingByNeighbor n).bind fun vec =>
        let vec := vec.filter fun pp => !d.timedOut now pp
        if vec.isEmpty then none else some vec := by
    refine Lib.mapFind_filterMap (fun kv => ?_) h.nodup_pending n
    dsimp only
    split <;> rfl
  rw [pendingOf, hfind, pendingOf]
  cases Lib.mapFind d.pendingByNeighbor n with
  | none => rfl
  | some vec =>
    simp only [Option.bind_some]
    split
    · next hempty => exact (List.isEmpty_iff.mp hempty).symm
    · rfl

lemma ageOut_recordOf (h : d.WellKept) :
    (d.ageOut now).recordOf n = (d.recordOf n).ageOut d now := by
  have hloop : (d.pendingByNeighbor.foldl (d.evaluateTimedOut now) d).recordOf n =
      ((d.pendingOf n).filter (d.timedOut now)).foldl
        (fun r _ => r.evaluateMissingForward d now) (d.recordOf n) := by
    have hfind := Lib.foldl_mapFind (f := d.evaluateTimedOut now)
      (r := fun d' : OlsrWatchdogDefense => d'.recordOf n)
      (I := fun d' => d'.settings = d.settings) (k := n)
      (g := fun vec r => (vec.filter (d.timedOut now)).foldl
        (fun (r : NeighborRecord) _ => r.evaluateMissingForward d now) r)
      ?_ ?_ ?_ h.nodup_pending rfl
    · rw [hfind, pendingOf]
      cases Lib.mapFind d.pendingByNeighbor n <;> rfl
    · intro d' kv hd'
      exact (settings_ignoresStats.evaluateTimedOut d now [kv] d').trans hd'
    · intro d' kv _ hne
      exact Lib.foldl_eq (fun d' => d'.recordOf n)
        (fun d' _ => evaluateMissingForward_recordOf_of_ne now n d' hne) _ d'
    · intro d' vec hd'
      exact evaluateTimedOut_recordOf_self now n d vec hd'
  have hpending := ageOut_pendingOf now n h
  rw [NeighborRecord.ageOut]
  show (⟨(d.ageOut now).pendingOf n, _, _⟩ : NeighborRecord) = _
  rw [hpending]
  have hrest := congrArg (fun r : NeighborRecord => (r.stats, r.blacklisted)) hloop
  exact congrArg (fun p : Option NeighborStats × Bool =>
    (⟨(d.pendingOf n).filter fun pp => !d.timedOut now pp, p.1, p.2⟩ : NeighborRecord)) hrest

lemma WellKept.ageOut (h : d.WellKept) : (d.ageOut now).WellKept := by
  have hloop : (d.pendingByNeighbor.foldl (d.evaluateTimedOut now) d).WellKept := by
    refine Lib.inv_run (I := WellKept) (P := fun _ _ => True) ?_ h fun _ _ => trivial
    intro d' kv hd' _
    refine Lib.inv_run (I := WellKept) (P := fun _ _ => True) ?_ hd' fun _ _ => trivial
    intro d' _ hd' _
    exact hd'.evaluateMissingForward now kv.1
  refine ⟨hloop.blacklist, ?_, hloop.neighborStats⟩
  refine h.pendingByNeighbor.sublist (Lib.map_fst_filterMap_sublist ?_ _)
  intro kv p hp
  dsimp only at hp
  split at hp
  · cases hp
  · rw [← Option.some.inj hp]

/-! ### The verdicts -/

lemma WellKept.maybeBlacklist (h : d.WellKept) (a : Ipv4Address) :
    (d.maybeBlacklist now a).WellKept := by
  rw [OlsrWatchdogDefense.maybeBlacklist]
  split
  · exact h
  · split
    · exact h
    · split_ifs
      · exact h
      · exact h
      · exact h
      · exact h.setStats a _
      · exact h
      · exact h.setStats a _
      · refine WellKept.setStats ?_ a _
        exact ⟨Ipv4Address.comparesKeys.ordered_setInsert h.blacklist, h.pendingByNeighbor,
          h.neighborStats⟩

lemma contains_setInsert (a : Ipv4Address) (l : List Ipv4Address) :
    (Lib.setInsert Ipv4Address.lt a l).contains n = (decide (n = a) || l.contains n) := by
  rw [Bool.eq_iff_iff]
  simp [Ipv4Address.comparesKeys.mem_setInsert]

lemma maybeBlacklist_recordOf_of_ne (d : OlsrWatchdogDefense) {a : Ipv4Address} (ha : a ≠ n) :
    (d.maybeBlacklist now a).recordOf n = d.recordOf n := by
  have hna : n ≠ a := Ne.symm ha
  rw [OlsrWatchdogDefense.maybeBlacklist]
  split
  · rfl
  · split
    · rfl
    · split_ifs
      · rfl
      · rfl
      · rfl
      · rw [recordOf_setStats, if_neg hna]
      · rfl
      · rw [recordOf_setStats, if_neg hna]
      · rw [recordOf_setStats, if_neg hna, recordOf, recordOf, pendingOf, pendingOf,
          contains_setInsert, decide_eq_false hna, Bool.false_or]

lemma accusable_iff (st : NeighborStats) :
    NeighborRecord.accusable d st = true ↔
      ¬ st.notForwardedEvidence < d.blacklistThreshold ∧
      ¬ st.dataFromThisNode < d.minDataObservations ∧ ¬ d.linkUnhealthy st = true := by
  rw [NeighborRecord.accusable, Bool.and_eq_true, Bool.and_eq_true, decide_eq_true_eq,
    decide_eq_true_eq, UInt32.not_lt, UInt32.not_lt, Bool.not_eq_true', Bool.not_eq_true, and_assoc]

lemma maybeBlacklist_recordOf_self (d : OlsrWatchdogDefense) :
    (d.maybeBlacklist now n).recordOf n = (d.recordOf n).maybeBlacklist d now := by
  rw [OlsrWatchdogDefense.maybeBlacklist, NeighborRecord.maybeBlacklist]
  have hstats : (d.recordOf n).stats = Lib.mapFind d.neighborStats n := rfl
  rw [hstats]
  cases hfind : Lib.mapFind d.neighborStats n with
  | none =>
    dsimp only
    rw [ite_self]
  | some st =>
    dsimp only
    by_cases hlisted : d.blacklist.contains n = true
    · have hcond : ((d.recordOf n).blacklisted || !NeighborRecord.accusable d st) = true :=
        Bool.or_eq_true_iff.mpr (Or.inl hlisted)
      rw [if_pos hlisted, if_pos hcond]
    have hcond : ((d.recordOf n).blacklisted || !NeighborRecord.accusable d st) =
        !NeighborRecord.accusable d st := by
      have hnot : (d.recordOf n).blacklisted = false := Bool.eq_false_of_not_eq_true hlisted
      rw [hnot, Bool.false_or]
    rw [if_neg hlisted, hcond]
    by_cases haccusable : NeighborRecord.accusable d st = true
    · obtain ⟨hevidence, hdata, hlink⟩ := (accusable_iff st).mp haccusable
      rw [if_neg hevidence, if_neg hdata, if_neg hlink, haccusable, Bool.not_true,
        if_neg Bool.false_ne_true]
      split
      · rw [recordOf_setStats, if_pos rfl]
      split
      · rfl
      split
      · rw [recordOf_setStats, if_pos rfl]
      · rw [recordOf_setStats, if_pos rfl, recordOf, contains_setInsert, decide_eq_true rfl,
          Bool.true_or]
        rfl
    · have hnot : (!NeighborRecord.accusable d st) = true := by simpa using haccusable
      rw [if_pos hnot]
      rw [accusable_iff] at haccusable
      split_ifs with hevidence hdata hlink
      · rfl
      · rfl
      · rfl
      all_goals exact absurd ⟨hevidence, hdata, hlink⟩ haccusable

lemma maybeBlacklistAll_recordOf (h : d.WellKept) :
    (d.maybeBlacklistAll now).recordOf n = (d.recordOf n).maybeBlacklist d now := by
  have hloop := Lib.foldl_mapFind (f := fun d' (kv : Ipv4Address × NeighborStats) =>
      d'.maybeBlacklist now kv.1) (r := fun d' : OlsrWatchdogDefense => d'.recordOf n)
    (I := fun d' => d'.settings = d.settings) (k := n) (g := fun _ r => r.maybeBlacklist d now)
    ?_ ?_ ?_ (Ipv4Address.comparesKeys.nodup h.neighborStats) rfl
  · rw [maybeBlacklistAll, List.foldl_map, hloop]
    cases hfind : Lib.mapFind d.neighborStats n with
    | some st => rfl
    | none =>
      -- without a record there is nothing to decide
      have hstats : (d.recordOf n).stats = none := hfind
      rw [NeighborRecord.maybeBlacklist, hstats]
  · intro d' kv hd'
    exact (settings_ignoresAddresses.maybeBlacklist d' now settings_ignoresStats kv.1).trans hd'
  · intro d' kv _ hne
    exact maybeBlacklist_recordOf_of_ne now n d' hne
  · intro d' st hd'
    rw [maybeBlacklist_recordOf_self]
    show (d'.recordOf n).maybeBlacklist d'.settings now =
      (d'.recordOf n).maybeBlacklist d.settings now
    rw [hd']

lemma WellKept.maybeBlacklistAll (h : d.WellKept) : (d.maybeBlacklistAll now).WellKept :=
  Lib.inv_run (I := WellKept) (P := fun _ _ => True) (fun _ a hd' _ => hd'.maybeBlacklist now a) h
    fun _ _ => trivial

lemma WellKept.releaseExpired (h : d.WellKept) (a : Ipv4Address) :
    (OlsrWatchdogDefense.releaseExpired now d a).WellKept := by
  rw [OlsrWatchdogDefense.releaseExpired]
  split
  · exact h
  · split_ifs
    · exact h
    · exact h
    · refine WellKept.setStats ?_ a _
      exact ⟨h.blacklist.erase, h.pendingByNeighbor, h.neighborStats⟩

lemma releaseExpired_recordOf_of_ne (d : OlsrWatchdogDefense) {a : Ipv4Address} (ha : a ≠ n) :
    (releaseExpired now d a).recordOf n = d.recordOf n := by
  rw [releaseExpired]
  split
  · rfl
  · split_ifs
    · rfl
    · rfl
    · rw [recordOf_setStats, if_neg (Ne.symm ha), recordOf, recordOf, pendingOf, pendingOf]
      have hcontains : (d.blacklist.erase a).contains n = d.blacklist.contains n := by
        rw [Bool.eq_iff_iff, List.contains_iff_mem, List.contains_iff_mem]
        exact List.mem_erase_of_ne (Ne.symm ha)
      rw [hcontains]

lemma releaseExpired_recordOf_self (h : d.WellKept) (hduration : d.blacklistDuration ≠ 0) :
    (releaseExpired now d n).recordOf n = (d.recordOf n).releaseExpired d now := by
  rw [releaseExpired, NeighborRecord.releaseExpired]
  have hstats : (d.recordOf n).stats = Lib.mapFind d.neighborStats n := rfl
  rw [hstats]
  cases hfind : Lib.mapFind d.neighborStats n with
  | none => rfl
  | some st =>
    dsimp only
    rw [NeighborRecord.termServed, decide_eq_false hduration]
    by_cases hat : st.blacklistedAt = 0
    · rw [if_pos hat, decide_eq_true hat]
      rfl
    by_cases hterm : now - st.blacklistedAt < d.blacklistDuration
    · rw [if_neg hat, if_pos hterm, decide_eq_true hterm, Bool.not_true, Bool.and_false]
      rfl
    · rw [if_neg hat, if_neg hterm, decide_eq_false hat, decide_eq_false hterm, recordOf_setStats,
        if_pos rfl, recordOf]
      have hcontains : (d.blacklist.erase n).contains n = false := by
        rw [Bool.eq_false_iff, ne_eq, List.contains_iff_mem]
        exact (Ipv4Address.comparesKeys.nodup h.blacklist).not_mem_erase
      rw [hcontains]
      rfl

lemma WellKept.releaseExpiredBlacklist (h : d.WellKept) :
    (d.releaseExpiredBlacklist now).WellKept := by
  rw [OlsrWatchdogDefense.releaseExpiredBlacklist]
  split
  · exact h
  · exact Lib.inv_run (I := WellKept) (P := fun _ _ => True)
      (fun _ a hd' _ => hd'.releaseExpired now a) h fun _ _ => trivial

lemma releaseExpiredBlacklist_recordOf (h : d.WellKept) :
    (d.releaseExpiredBlacklist now).recordOf n = (d.recordOf n).release d now := by
  rw [releaseExpiredBlacklist]
  split
  · next hzero =>
    -- the term of a permanent verdict is never over
    have hserved : ∀ st, NeighborRecord.termServed d now st = false := by
      intro st
      rw [NeighborRecord.termServed, decide_eq_true hzero]
      rfl
    rw [NeighborRecord.release, NeighborRecord.releaseExpired]
    split
    · cases (d.recordOf n).stats with
      | none => rfl
      | some st =>
        dsimp only
        rw [hserved, if_neg Bool.false_ne_true]
    · rfl
  · next hduration =>
    have hkeys : (d.blacklist.map fun a => (a, ())).map Prod.fst = d.blacklist := by
      rw [List.map_map]
      exact List.map_id _
    have hloop := Lib.foldl_mapFind (m := d.blacklist.map fun a => (a, ()))
      (f := fun d' (kv : Ipv4Address × Unit) => OlsrWatchdogDefense.releaseExpired now d' kv.1)
      (r := fun d' : OlsrWatchdogDefense => d'.recordOf n)
      (I := fun d' => d'.WellKept ∧ d'.settings = d.settings) (k := n)
      (g := fun _ r => r.releaseExpired d now) ?_ ?_ ?_
      (by rw [hkeys]; exact Ipv4Address.comparesKeys.nodup h.blacklist) ⟨h, rfl⟩
    · rw [List.foldl_map] at hloop
      rw [hloop, NeighborRecord.release]
      have hfind : Lib.mapFind (d.blacklist.map fun a => (a, ())) n = none ↔
          ¬ (d.recordOf n).blacklisted = true := by
        rw [Lib.mapFind_eq_none_iff, hkeys]
        exact not_congr List.contains_iff_mem.symm
      by_cases hlisted : (d.recordOf n).blacklisted = true
      · obtain ⟨u, hu⟩ := Option.ne_none_iff_exists'.mp (mt hfind.mp (not_not.mpr hlisted))
        rw [hu, if_pos hlisted]
      · rw [hfind.mpr hlisted, if_neg hlisted]
    · intro d' kv hd'
      exact ⟨hd'.1.releaseExpired now kv.1,
        (settings_ignoresAddresses.releaseExpired d' now settings_ignoresStats kv.1).trans hd'.2⟩
    · intro d' kv _ hne
      exact releaseExpired_recordOf_of_ne now n d' hne
    · intro d' _ hd'
      have hsame : d'.settings.blacklistDuration = d.settings.blacklistDuration := by rw [hd'.2]
      have hduration' : d'.blacklistDuration ≠ 0 := fun hzero =>
        hduration (hsame.symm.trans hzero)
      rw [releaseExpired_recordOf_self now n hd'.1 hduration']
      show (d'.recordOf n).releaseExpired d'.settings now =
        (d'.recordOf n).releaseExpired d.settings now
      rw [hd'.2]

lemma rotateMacWindows_recordOf (d : OlsrWatchdogDefense) :
    (d.rotateMacWindows now).recordOf n = (d.recordOf n).rotate := by
  have hfind := Lib.mapFind_map (fun st : NeighborStats =>
    { st with
      rtsPrevWindow := st.rtsInWindow
      ctsPrevWindow := st.ctsInWindow
      rtsInWindow := 0
      ctsInWindow := 0 }) d.neighborStats n
  exact congrArg (fun st => (⟨d.pendingOf n, st, d.blacklist.contains n⟩ : NeighborRecord)) hfind

lemma WellKept.rotateMacWindows (h : d.WellKept) : (d.rotateMacWindows now).WellKept := by
  refine ⟨h.blacklist, h.pendingByNeighbor, ?_⟩
  have hkeys : (d.rotateMacWindows now).neighborStats.map Prod.fst = d.neighborStats.map Prod.fst := by
    rw [OlsrWatchdogDefense.rotateMacWindows, List.map_map]
    rfl
  rw [hkeys]
  exact h.neighborStats

lemma WellKept.periodicCheck (h : d.WellKept) : (d.periodicCheck now).WellKept := by
  rw [OlsrWatchdogDefense.periodicCheck]
  split
  · exact h.congr rfl rfl rfl
  · have hrotated := (((h.ageOut now).maybeBlacklistAll now).releaseExpiredBlacklist
      now).rotateMacWindows now
    exact hrotated.congr rfl rfl rfl

/-- The check treats every neighbor by itself. -/
lemma periodicCheck_recordOf (h : d.WellKept) (henabled : d.enabled = true) :
    (d.periodicCheck now).recordOf n = (d.recordOf n).check d now := by
  have haged := h.ageOut now
  have hdecided := haged.maybeBlacklistAll now
  have hsettings₁ : (d.ageOut now).settings = d.settings :=
    settings_ignoresStats.ageOut d now settings_ignoresPending
  have hsettings₂ : ((d.ageOut now).maybeBlacklistAll now).settings = d.settings :=
    (settings_ignoresAddresses.maybeBlacklistAll _ now settings_ignoresStats).trans hsettings₁
  have hstep₁ : ∀ r : NeighborRecord,
      r.maybeBlacklist (d.ageOut now) now = r.maybeBlacklist d now := by
    intro r
    show r.maybeBlacklist (d.ageOut now).settings now = r.maybeBlacklist d.settings now
    rw [hsettings₁]
  have hstep₂ : ∀ r : NeighborRecord,
      r.release ((d.ageOut now).maybeBlacklistAll now) now = r.release d now := by
    intro r
    show r.release ((d.ageOut now).maybeBlacklistAll now).settings now = r.release d.settings now
    rw [hsettings₂]
  rw [periodicCheck, henabled, Bool.not_true, if_neg Bool.false_ne_true]
  refine (recordOf_congr (d := (((d.ageOut now).maybeBlacklistAll now).releaseExpiredBlacklist
    now).rotateMacWindows now) n rfl rfl rfl).trans ?_
  rw [rotateMacWindows_recordOf, releaseExpiredBlacklist_recordOf now n hdecided,
    maybeBlacklistAll_recordOf now n haged, ageOut_recordOf now n h, hstep₂, hstep₁,
    NeighborRecord.check]

/-! ### The other hooks -/

lemma setEnabled_recordOf (d : OlsrWatchdogDefense) (enabled : Bool) :
    (d.setEnabled now enabled).recordOf n =
      (d.recordOf n).apply d (if d.enabled = enabled then .nothing else .reset) := by
  rw [setEnabled]
  split
  · rfl
  · rfl

lemma onDataPacketForwarded_recordOf (d : OlsrWatchdogDefense) (uid : ℕ)
    (nextHop finalDest : Ipv4Address) :
    (d.onDataPacketForwarded now uid nextHop finalDest).recordOf n =
      (d.recordOf n).apply d (d.forwardDeed n now uid nextHop finalDest) := by
  rw [forwardDeed]
  simp only [onDataPacketForwarded]
  by_cases hdeed : d.enabled ∧ nextHop = n ∧ n ≠ d.mainAddress ∧ n ≠ finalDest ∧ ¬ notUnicast n ∧
      ¬ d.blacklist.contains n
  · obtain ⟨henabled, rfl, hmain, hfinal, hunicast, hlisted⟩ := id hdeed
    rw [notUnicast] at hunicast
    have hmalicious : ¬ d.isMalicious nextHop = true := by rwa [isMalicious, henabled, Bool.true_and]
    rw [if_pos hdeed, henabled, Bool.not_true, if_neg Bool.false_ne_true, if_neg hmain,
      if_neg hfinal, if_neg hunicast, if_neg hmalicious, recordOf_setStats, if_pos rfl,
      recordOf_setPending, if_pos rfl]
    rfl
  · rw [if_neg hdeed]
    split_ifs with henabled hmain hfinal hunicast hmalicious
    · rfl
    · rfl
    · rfl
    · rfl
    · rfl
    · have hne : n ≠ nextHop := by
        rintro rfl
        rw [Bool.not_eq_true', Bool.not_eq_false] at henabled
        rw [isMalicious, henabled, Bool.true_and] at hmalicious
        exact hdeed ⟨henabled, rfl, hmain, hfinal, hunicast, hmalicious⟩
      rw [recordOf_setStats, if_neg hne, recordOf_setPending, if_neg hne]
      rfl

lemma onMacTxFailure_recordOf (d : OlsrWatchdogDefense) (neighbor : Ipv4Address) (count : ℕ) :
    (d.onMacTxFailure neighbor count).recordOf n =
      (d.recordOf n).apply d (d.failDeed n neighbor count) := by
  rw [failDeed]
  simp only [onMacTxFailure]
  by_cases hdeed : d.enabled ∧ neighbor = n ∧ n ≠ unsetAddress ∧ n ≠ 0xffffffff ∧
      ¬ isMulticast n
  · obtain ⟨henabled, rfl, hunset, hbroadcast, hmulticast⟩ := id hdeed
    rw [if_pos hdeed, henabled, Bool.not_true, if_neg Bool.false_ne_true,
      if_neg (not_or.mpr ⟨hunset, not_or.mpr ⟨hbroadcast, hmulticast⟩⟩)]
    have hpending : (d.recordOf neighbor).pending =
        (Lib.mapFind d.pendingByNeighbor neighbor).getD [] := rfl
    split
    · next pp vec hfind =>
      have hvec : (d.recordOf neighbor).pending.tail = vec := by
        rw [hpending, show Lib.mapFind d.pendingByNeighbor neighbor = some (pp :: vec) from hfind]
        rfl
      rw [recordOf_setPending, if_pos rfl, recordOf_setStats, if_pos rfl, NeighborRecord.apply, hvec]
      rfl
    · next hfind =>
      have htail : (d.recordOf neighbor).pending.tail = (d.recordOf neighbor).pending := by
        rw [hpending]
        cases hvec : Lib.mapFind d.pendingByNeighbor neighbor with
        | none => rfl
        | some vec =>
          cases vec with
          | nil => rfl
          | cons pp vec => exact absurd hvec (hfind pp vec)
      rw [recordOf_setStats, if_pos rfl, NeighborRecord.apply, htail]
      rfl
  · rw [if_neg hdeed]
    split_ifs with henabled hunicast
    · rfl
    · rfl
    · have hne : n ≠ neighbor := by
        rintro rfl
        rw [not_or, not_or] at hunicast
        exact hdeed ⟨by simpa using henabled, rfl, hunicast⟩
      split
      · rw [recordOf_setPending, if_neg hne, recordOf_setStats, if_neg hne]
        rfl
      · rw [recordOf_setStats, if_neg hne]
        rfl

lemma isPlausibleOnwardHop_setStats (d : OlsrWatchdogDefense) (s : OlsrState) (a : Ipv4Address)
    (st : NeighborStats) (rx : Mac48Address) (forwarder : Ipv4Address) :
    (d.setStats a st).isPlausibleOnwardHop s rx forwarder =
      d.isPlausibleOnwardHop s rx forwarder := rfl

lemma onNeighborForwardedPacket_recordOf (d : OlsrWatchdogDefense) (s : OlsrState)
    (tx rx : Mac48Address) (uid : ℕ) :
    (d.onNeighborForwardedPacket now s tx rx uid).recordOf n =
      (d.recordOf n).apply d (d.overhearDeed n now s tx rx uid) := by
  rw [overhearDeed]
  simp only [onNeighborForwardedPacket]
  by_cases hdeed : d.enabled ∧ d.lookupIpFromMac tx = n ∧ n ≠ unsetAddress
  · obtain ⟨henabled, hn, hunset⟩ := id hdeed
    rw [if_pos hdeed, henabled, Bool.not_true, if_neg Bool.false_ne_true, hn, if_neg hunset]
    rw [creditForward, NeighborRecord.apply, isPlausibleOnwardHop_setStats]
    have hpending : ∀ st, (d.setStats n st).pendingOf n = d.pendingOf n := fun st => rfl
    have hpending' : (d.recordOf n).pending = d.pendingOf n := rfl
    simp only [hpending, hpending']
    cases hany : (d.pendingOf n).any fun pp => pp.packetUid == uid with
    | false =>
      rw [Bool.and_false, if_neg Bool.false_ne_true, Bool.not_false, if_pos rfl,
        recordOf_setStats, if_pos rfl]
      rfl
    | true =>
      cases hplausible : d.isPlausibleOnwardHop s rx n with
      | false =>
        rw [Bool.false_and, if_neg Bool.false_ne_true, Bool.not_true, if_neg Bool.false_ne_true,
          Bool.not_false, if_pos rfl, recordOf_setStats, if_pos rfl]
        rfl
      | true =>
        rw [Bool.true_and, if_pos rfl, Bool.not_true, if_neg Bool.false_ne_true,
          if_neg Bool.false_ne_true, recordOf_setStats, if_pos rfl, recordOf_setPending,
          if_pos rfl, recordOf_setStats, if_pos rfl, statsOf_setStats, if_pos rfl]
        rfl
  · rw [if_neg hdeed]
    split_ifs with henabled hunset
    · rfl
    · rfl
    · have hne : n ≠ d.lookupIpFromMac tx := by
        rintro rfl
        exact hdeed ⟨by simpa using henabled, rfl, hunset⟩
      rw [creditForward]
      split_ifs
      · rw [recordOf_setStats, if_neg hne]
        rfl
      · rw [recordOf_setStats, if_neg hne]
        rfl
      · rw [recordOf_setStats, if_neg hne, recordOf_setPending, if_neg hne, recordOf_setStats,
          if_neg hne]
        rfl

lemma onRtsReceived_recordOf (d : OlsrWatchdogDefense) (sender : Mac48Address) :
    (d.onRtsReceived sender).recordOf n = (d.recordOf n).apply d (d.macDeed n .ask sender) := by
  rw [macDeed]
  simp only [onRtsReceived]
  by_cases hdeed : d.enabled ∧ sender ≠ d.myMacAddress ∧ d.lookupIpFromMac sender = n ∧
      n ≠ unsetAddress
  · obtain ⟨henabled, hmine, hn, hunset⟩ := id hdeed
    rw [if_pos hdeed, henabled, Bool.not_true, if_neg Bool.false_ne_true, if_neg hmine, hn,
      if_neg hunset, recordOf_setStats, if_pos rfl]
    rfl
  · rw [if_neg hdeed]
    split_ifs with henabled hmine hunset
    · rfl
    · rfl
    · rfl
    · have hne : n ≠ d.lookupIpFromMac sender := by
        rintro rfl
        exact hdeed ⟨by simpa using henabled, hmine, rfl, hunset⟩
      rw [recordOf_setStats, if_neg hne]
      rfl

lemma onCtsReceived_recordOf (d : OlsrWatchdogDefense) (rtsSender : Mac48Address) :
    (d.onCtsReceived rtsSender).recordOf n =
      (d.recordOf n).apply d (d.macDeed n .clear rtsSender) := by
  rw [macDeed]
  simp only [onCtsReceived]
  by_cases hdeed : d.enabled ∧ rtsSender ≠ d.myMacAddress ∧ d.lookupIpFromMac rtsSender = n ∧
      n ≠ unsetAddress
  · obtain ⟨henabled, hmine, hn, hunset⟩ := id hdeed
    rw [if_pos hdeed, henabled, Bool.not_true, if_neg Bool.false_ne_true, if_neg hmine, hn,
      if_neg hunset, recordOf_setStats, if_pos rfl]
    rfl
  · rw [if_neg hdeed]
    split_ifs with henabled hmine hunset
    · rfl
    · rfl
    · rfl
    · have hne : n ≠ d.lookupIpFromMac rtsSender := by
        rintro rfl
        exact hdeed ⟨by simpa using henabled, hmine, rfl, hunset⟩
      rw [recordOf_setStats, if_neg hne]
      rfl

lemma learn_recordOf (d : OlsrWatchdogDefense) (tx rx : Mac48Address) (body : FrameBody) :
    (d.learn tx rx body).recordOf n = d.recordOf n := by
  rw [learn]
  split
  · split
    · split <;> rfl
    · rfl
  · rfl

/-- **One neighbor at a time.**  What a call makes of the record of a neighbor is made of this
record alone. -/
theorem call_recordOf (h : d.WellKept) (c : Call) :
    (d.call c).recordOf n = (d.recordOf n).apply d (d.deed n c) := by
  obtain ⟨now, s, hook⟩ := c
  cases hook with
  | setup nodeAddress =>
    simp only [call, setup, attachWifiTraces]
    cases d.ownWifi <;> rfl
  | setEnabled enabled => exact setEnabled_recordOf now n d enabled
  | onDataPacketForwarded uid nextHop finalDest =>
    exact onDataPacketForwarded_recordOf now n d uid nextHop finalDest
  | onMacTxFailure neighbor count => exact onMacTxFailure_recordOf n d neighbor count
  | onSelfReliabilityReport count =>
    simp only [call, onSelfReliabilityReport]
    split <;> rfl
  | onNeighborForwardedPacket tx rx uid =>
    exact onNeighborForwardedPacket_recordOf now n d s tx rx uid
  | onRtsReceived sender => exact onRtsReceived_recordOf n d sender
  | onCtsReceived rtsSender => exact onCtsReceived_recordOf n d rtsSender
  | snifferRxCallback frame =>
    cases frame with
    | rts tx rx =>
      have hrts := onRtsReceived_recordOf n d tx
      simp only [call, snifferRxCallback]
      split_ifs with henabled hmine
      · rw [Bool.not_eq_true'] at henabled
        simp only [onRtsReceived, henabled, Bool.not_false, if_true] at hrts
        exact hrts
      · simp only [onRtsReceived, if_pos hmine, ite_self] at hrts
        exact hrts
      · exact hrts
    | cts rx =>
      have hcts := onCtsReceived_recordOf n d rx
      simp only [call, snifferRxCallback]
      split_ifs with henabled
      · rw [Bool.not_eq_true'] at henabled
        simp only [onCtsReceived, henabled, Bool.not_false, if_true] at hcts
        exact hcts
      · exact hcts
    | data tx rx uid body =>
      simp only [call, snifferRxCallback, deed]
      have henabled' : (d.learn tx rx body).enabled = d.enabled :=
        IgnoresAddresses.learn (g := OlsrWatchdogDefense.enabled) d
          ⟨fun _ _ => rfl, fun _ _ => rfl⟩ tx rx body
      split_ifs with henabled hmine hmine
      · rfl
      · rw [Bool.not_eq_true'] at henabled
        rw [overhearDeed, henabled', henabled, if_neg fun hdeed => Bool.false_ne_true hdeed.1]
        rfl
      · rfl
      · rw [onNeighborForwardedPacket_recordOf, learn_recordOf]
        -- only a check looks at the settings
        rw [overhearDeed]
        split <;> rfl
    | other => rfl
  | phyRxDropCallback =>
    simp only [call, phyRxDropCallback]
    split <;> rfl
  | periodicCheck =>
    simp only [call, deed]
    split
    · next henabled => exact periodicCheck_recordOf now n h henabled
    · next henabled =>
      rw [periodicCheck, if_pos (by simpa using henabled)]
      rfl
  | take check => rfl

/-! ### What a check makes of a record -/

namespace NeighborRecord

variable (d : OlsrWatchdogDefense) (now : Time) (r : NeighborRecord)

lemma evaluateMissingForward_statsD : (r.evaluateMissingForward d now).statsD =
    if d.countsSilence now r.statsD then
      { r.statsD with notForwardedEvidence := r.statsD.notForwardedEvidence + 1 }
    else r.statsD := by
  rw [evaluateMissingForward]
  split
  · next hwarmup =>
    have hcounts : d.countsSilence now r.statsD = false := by
      rw [countsSilence, decide_eq_true hwarmup]
      rfl
    rw [hcounts, if_neg Bool.false_ne_true]
  split
  · next hlocal =>
    have hcounts : d.countsSilence now r.statsD = false := by
      rw [Bool.not_eq_true'] at hlocal
      rw [countsSilence, hlocal, Bool.and_false]
      rfl
    rw [hcounts, if_neg Bool.false_ne_true]
  · rfl

lemma evaluateMissingForward_blacklisted :
    (r.evaluateMissingForward d now).blacklisted = r.blacklisted := by
  rw [evaluateMissingForward]
  split
  · rfl
  split <;> rfl

/-- Evidence does not change what counts as evidence. -/
lemma countsSilence_evidence (st : NeighborStats) (evidence : UInt32) :
    d.countsSilence now { st with notForwardedEvidence := evidence } = d.countsSilence now st := rfl

/-- As many units as packets, or none. -/
lemma foldl_evaluateMissingForward_statsD (l : List PendingPacket) :
    (l.foldl (fun r _ => r.evaluateMissingForward d now) r).statsD =
      { r.statsD with
        notForwardedEvidence := r.statsD.notForwardedEvidence +
          if d.countsSilence now r.statsD then UInt32.ofNat l.length else 0 } := by
  induction l generalizing r with
  | nil =>
    have hzero : UInt32.ofNat 0 = 0 := rfl
    rw [List.foldl_nil, List.length_nil, hzero, ite_self, UInt32.add_zero]
  | cons pp l ih =>
    rw [List.foldl_cons, ih, evaluateMissingForward_statsD]
    cases hcounts : d.countsSilence now r.statsD with
    | false => simp only [Bool.false_eq_true, if_false, hcounts]
    | true =>
      simp only [if_true, countsSilence_evidence, hcounts, List.length_cons, UInt32.ofNat_add,
        UInt32.ofNat_one]
      rw [UInt32.add_assoc, UInt32.add_comm 1]

/-- The units of evidence that step 1 of `PeriodicCheck` records. -/
def units (d : OlsrWatchdogDefense) (now : Time) (r : NeighborRecord) : ℕ :=
  if d.countsSilence now r.statsD then (r.pending.filter (d.timedOut now)).length else 0

lemma ageOut_statsD : (r.ageOut d now).statsD =
    { r.statsD with
      notForwardedEvidence :=
        r.statsD.notForwardedEvidence + UInt32.ofNat (units d now r) } := by
  have hfold := foldl_evaluateMissingForward_statsD d now r (r.pending.filter (d.timedOut now))
  have hunits : (if d.countsSilence now r.statsD then
      UInt32.ofNat (r.pending.filter (d.timedOut now)).length else 0) =
        UInt32.ofNat (units d now r) := by
    rw [units]
    split <;> rfl
  rw [hunits] at hfold
  exact hfold

lemma ageOut_blacklisted : (r.ageOut d now).blacklisted = r.blacklisted :=
  Lib.foldl_eq NeighborRecord.blacklisted
    (fun r (_ : PendingPacket) => evaluateMissingForward_blacklisted d now r) _ r

end NeighborRecord

/-! ### Runs of calls -/

lemma wellKept_of_empty (hb : d.blacklist = []) (hp : d.pendingByNeighbor = [])
    (hs : d.neighborStats = []) : d.WellKept := by
  refine ⟨?_, ?_, ?_⟩
  · rw [hb]
    exact List.Pairwise.nil
  · rw [hp]
    exact List.Pairwise.nil
  · rw [hs]
    exact List.Pairwise.nil

lemma WellKept.onMacTxFailure (h : d.WellKept) (neighbor : Ipv4Address) (count : ℕ) :
    (d.onMacTxFailure neighbor count).WellKept := by
  simp only [OlsrWatchdogDefense.onMacTxFailure]
  split_ifs
  · exact h
  · exact h
  · split
    · exact (h.setStats neighbor _).setPending neighbor _
    · exact h.setStats neighbor _

lemma WellKept.onNeighborForwardedPacket (h : d.WellKept) (s : OlsrState) (tx rx : Mac48Address)
    (uid : ℕ) : (d.onNeighborForwardedPacket now s tx rx uid).WellKept := by
  simp only [OlsrWatchdogDefense.onNeighborForwardedPacket]
  split_ifs
  · exact h
  · exact h
  · rw [creditForward]
    split_ifs
    · exact h.setStats _ _
    · exact h.setStats _ _
    · exact ((h.setStats _ _).setPending _ _).setStats _ _

lemma WellKept.onRtsReceived (h : d.WellKept) (sender : Mac48Address) :
    (d.onRtsReceived sender).WellKept := by
  simp only [OlsrWatchdogDefense.onRtsReceived]
  split_ifs
  · exact h
  · exact h
  · exact h
  · exact h.setStats _ _

lemma WellKept.onCtsReceived (h : d.WellKept) (rtsSender : Mac48Address) :
    (d.onCtsReceived rtsSender).WellKept := by
  simp only [OlsrWatchdogDefense.onCtsReceived]
  split_ifs
  · exact h
  · exact h
  · exact h
  · exact h.setStats _ _

lemma WellKept.learn (h : d.WellKept) (tx rx : Mac48Address) (body : FrameBody) :
    (d.learn tx rx body).WellKept := by
  rw [OlsrWatchdogDefense.learn]
  split
  · split
    · split
      · exact h
      · exact h.congr rfl rfl rfl
    · exact h
  · exact h

lemma WellKept.call (h : d.WellKept) (c : Call) : (d.call c).WellKept := by
  obtain ⟨now, s, hook⟩ := c
  -- Each hook rewrites the records and the pending packets of one neighbor at most.
  cases hook with
  | setup nodeAddress =>
    refine h.congr ?_ ?_ ?_
    all_goals
      simp only [OlsrWatchdogDefense.call, setup, attachWifiTraces]
      cases d.ownWifi <;> rfl
  | setEnabled enabled =>
    simp only [OlsrWatchdogDefense.call, setEnabled]
    split
    · exact h
    · exact wellKept_of_empty rfl rfl rfl
  | onDataPacketForwarded uid nextHop finalDest =>
    simp only [OlsrWatchdogDefense.call, onDataPacketForwarded]
    split_ifs
    · exact h
    · exact h
    · exact h
    · exact h
    · exact h
    · exact (h.setPending nextHop _).setStats nextHop _
  | onMacTxFailure neighbor count => exact h.onMacTxFailure neighbor count
  | onSelfReliabilityReport count =>
    simp only [OlsrWatchdogDefense.call, onSelfReliabilityReport]
    split
    · exact h
    · exact h.congr rfl rfl rfl
  | onNeighborForwardedPacket tx rx uid => exact h.onNeighborForwardedPacket now s tx rx uid
  | onRtsReceived sender => exact h.onRtsReceived sender
  | onCtsReceived rtsSender => exact h.onCtsReceived rtsSender
  | snifferRxCallback frame =>
    cases frame with
    | rts tx rx =>
      simp only [OlsrWatchdogDefense.call, snifferRxCallback]
      split_ifs
      · exact h
      · exact h
      · exact h.onRtsReceived tx
    | cts rx =>
      simp only [OlsrWatchdogDefense.call, snifferRxCallback]
      split_ifs
      · exact h
      · exact h.onCtsReceived rx
    | data tx rx uid body =>
      simp only [OlsrWatchdogDefense.call, snifferRxCallback]
      split_ifs
      · exact h
      · exact h
      · exact (h.learn tx rx body).onNeighborForwardedPacket now s tx rx uid
    | other => exact h
  | phyRxDropCallback =>
    simp only [OlsrWatchdogDefense.call, phyRxDropCallback]
    split
    · exact h
    · exact h.congr rfl rfl rfl
  | periodicCheck => exact h.periodicCheck now
  | take check => exact h.congr rfl rfl rfl

/-- A watchdog that has just been created. -/
structure IsNew (d : OlsrWatchdogDefense) : Prop where
  blacklist : d.blacklist = []
  pendingByNeighbor : d.pendingByNeighbor = []
  neighborStats : d.neighborStats = []

lemma IsNew.wellKept (h : d.IsNew) : d.WellKept :=
  wellKept_of_empty h.blacklist h.pendingByNeighbor h.neighborStats

lemma IsNew.recordOf (h : d.IsNew) (n : Ipv4Address) : d.recordOf n = {} := by
  rw [OlsrWatchdogDefense.recordOf, pendingOf, h.blacklist, h.pendingByNeighbor, h.neighborStats]
  rfl

/-- The watchdog after some calls. -/
abbrev runCalls (d : OlsrWatchdogDefense) (cs : List Call) : OlsrWatchdogDefense :=
  Lib.run call d cs

lemma WellKept.runCalls (h : d.WellKept) (cs : List Call) : (d.runCalls cs).WellKept :=
  Lib.inv_run (I := WellKept) (P := fun _ _ => True) (fun _ c hd _ => hd.call c) h
    fun _ _ => trivial

/-- The attributes that the verdicts depend on. -/
def terms (d : OlsrWatchdogDefense) : UInt32 × Time × Time :=
  (d.blacklistThreshold, d.probationDuration, d.blacklistDuration)

lemma terms_ignoresTables : IgnoresTables terms where
  neighborStats _ _ := rfl
  pendingByNeighbor _ _ := rfl
  macToIp _ _ := rfl
  blacklist _ _ := rfl

/-- No call changes an attribute. -/
lemma call_terms (d : OlsrWatchdogDefense) (c : Call) : (d.call c).terms = d.terms := by
  have hs := terms_ignoresTables.toIgnoresStats
  have hp := terms_ignoresTables.toIgnoresPending
  obtain ⟨now, s, hook⟩ := c
  cases hook with
  | setup nodeAddress =>
    simp only [call, setup, attachWifiTraces]
    cases d.ownWifi <;> rfl
  | setEnabled enabled =>
    simp only [call, setEnabled]
    split <;> rfl
  | onDataPacketForwarded uid nextHop finalDest =>
    exact hs.onDataPacketForwarded d now hp uid nextHop finalDest
  | onMacTxFailure neighbor count => exact hs.onMacTxFailure d hp neighbor count
  | onSelfReliabilityReport count =>
    simp only [call, onSelfReliabilityReport]
    split <;> rfl
  | onNeighborForwardedPacket tx rx uid =>
    exact hs.onNeighborForwardedPacket d now s hp tx rx uid
  | onRtsReceived sender => exact hs.onRtsReceived d sender
  | onCtsReceived rtsSender => exact hs.onCtsReceived d rtsSender
  | snifferRxCallback frame => exact terms_ignoresTables.snifferRxCallback d now s frame
  | phyRxDropCallback =>
    simp only [call, phyRxDropCallback]
    split <;> rfl
  | periodicCheck =>
    simp only [call, periodicCheck]
    split
    · rfl
    · exact terms_ignoresTables.evaluated d now
  | take check => rfl

lemma runCalls_terms (d : OlsrWatchdogDefense) (cs : List Call) :
    (d.runCalls cs).terms = d.terms :=
  Lib.foldl_eq terms call_terms cs d

end Tables

end OlsrWatchdogDefense

end ManetOlsr
