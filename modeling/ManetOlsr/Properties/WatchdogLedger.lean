/-
The books of the packets that a watchdog has handed to a neighbor.

The watchdog keeps the packets that are still pending, and counters.  Beside it a ledger is kept for
every neighbor, in which every packet has one fate at most: that the neighbor was heard to forward
it, that it was withdrawn after a MAC failure, or that it was timed out, with or without becoming a
unit of evidence.  The pending packets are the open items of the ledger, and the counters are the
numbers of its items.
-/
import ManetOlsr.Lib.Ledger
import ManetOlsr.Model.CallHistory

namespace ManetOlsr.OlsrWatchdogDefense

open Lib

inductive Fate where
  | forwarded
  | withdrawn
  | timedOut (evidence : Bool)
deriving DecidableEq

namespace Fate

def isForwarded : Fate → Bool
  | forwarded => true
  | _ => false

def isWithdrawn : Fate → Bool
  | withdrawn => true
  | _ => false

def isTimedOut : Fate → Bool
  | timedOut _ => true
  | _ => false

def isEvidence : Fate → Bool
  | timedOut evidence => evidence
  | _ => false

end Fate

abbrev PacketLedger : Type := Ledger PendingPacket Fate

/-- What a deed is for the packets of a neighbor. -/
def book (d : OlsrWatchdogDefense) (r : NeighborRecord) (l : PacketLedger) : Deed → PacketLedger
  | .nothing | .ask | .clear => l
  | .reset => []
  | .handOver packet => l.enter packet
  | .fail _ => l.settleFirst (fun _ => true) .withdrawn
  | .overhear _ uid onward =>
    if onward then l.settleFirst (fun pp => pp.packetUid == uid) .forwarded else l
  | .check now => l.settleAll (d.timedOut now) (.timedOut (d.countsSilence now r.statsD))

/-- A watchdog with the ledgers of its neighbors. -/
structure Audited where
  watchdog : OlsrWatchdogDefense
  ledger : Ipv4Address → PacketLedger

def Audited.call (x : Audited) (c : Call) : Audited where
  watchdog := x.watchdog.call c
  ledger n := book x.watchdog (x.watchdog.recordOf n) (x.ledger n) (x.watchdog.deed n c)

/-- The record of a neighbor agrees with the ledger. -/
structure Balanced (r : NeighborRecord) (l : PacketLedger) : Prop where
  pending : l.openItems = r.pending
  packetsSentTo : r.statsD.packetsSentTo = UInt32.ofNat l.length
  packetsForwarded : r.statsD.packetsForwarded = UInt32.ofNat (l.settled Fate.isForwarded)
  evidence : r.statsD.notForwardedEvidence.toNat ≤ l.settled Fate.isEvidence

/-! ### The check leaves the counters -/

namespace NeighborRecord

variable (d : OlsrWatchdogDefense) (now : Time) (r : NeighborRecord)

/-- Neither the counters of the packets nor the packets are touched, and no evidence is added. -/
structure Spares (r r' : NeighborRecord) : Prop where
  pending : r'.pending = r.pending
  packetsSentTo : r'.statsD.packetsSentTo = r.statsD.packetsSentTo
  packetsForwarded : r'.statsD.packetsForwarded = r.statsD.packetsForwarded
  evidence : r'.statsD.notForwardedEvidence ≤ r.statsD.notForwardedEvidence

lemma Spares.refl : Spares r r := ⟨rfl, rfl, rfl, UInt32.le_refl _⟩

lemma Spares.trans {r r' r'' : NeighborRecord} (h : Spares r r') (h' : Spares r' r'') :
    Spares r r'' :=
  ⟨h'.pending.trans h.pending, h'.packetsSentTo.trans h.packetsSentTo,
    h'.packetsForwarded.trans h.packetsForwarded, UInt32.le_trans h'.evidence h.evidence⟩

lemma spares_maybeBlacklist : Spares r (r.maybeBlacklist d now) := by
  obtain ⟨pending, stats, blacklisted⟩ := r
  cases stats with
  | none => exact Spares.refl _
  | some st =>
    simp only [maybeBlacklist]
    split
    · exact Spares.refl _
    split
    · exact ⟨rfl, rfl, rfl, UInt32.le_refl _⟩
    split
    · exact Spares.refl _
    split
    · refine ⟨rfl, rfl, rfl, ?_⟩
      show st.notForwardedEvidence / 2 ≤ st.notForwardedEvidence
      rw [UInt32.le_iff_toNat_le, UInt32.toNat_div]
      exact Nat.div_le_self _ _
    · exact ⟨rfl, rfl, rfl, UInt32.le_refl _⟩

lemma spares_release : Spares r (r.release d now) := by
  obtain ⟨pending, stats, blacklisted⟩ := r
  rw [release]
  split
  · cases stats with
    | none => exact Spares.refl _
    | some st =>
      simp only [releaseExpired]
      split
      · exact ⟨rfl, rfl, rfl, UInt32.zero_le⟩
      · exact Spares.refl _
  · exact Spares.refl _

lemma spares_rotate : Spares r r.rotate := by
  obtain ⟨pending, stats, blacklisted⟩ := r
  cases stats with
  | none => exact Spares.refl _
  | some st => exact ⟨rfl, rfl, rfl, UInt32.le_refl _⟩

/-- After step 1 a check spares the packets. -/
lemma spares_check : Spares (r.ageOut d now) (r.check d now) :=
  ((spares_maybeBlacklist d now _).trans (spares_release d now _)).trans (spares_rotate _)

end NeighborRecord

/-! ### Every deed keeps the balance -/

variable {d : OlsrWatchdogDefense} {r : NeighborRecord} {l : PacketLedger}

lemma toNat_ofNat_le (k : ℕ) : (UInt32.ofNat k).toNat ≤ k := by
  rw [UInt32.toNat_ofNat']
  exact Nat.mod_le _ _

lemma Balanced.spares {r' : NeighborRecord} (h : Balanced r l) (hr : NeighborRecord.Spares r r') :
    Balanced r' l where
  pending := h.pending.trans hr.pending.symm
  packetsSentTo := hr.packetsSentTo.trans h.packetsSentTo
  packetsForwarded := hr.packetsForwarded.trans h.packetsForwarded
  evidence := (UInt32.le_iff_toNat_le.mp hr.evidence).trans h.evidence

/-- The evidence grows by as many units as packets were timed out with evidence. -/
lemma Balanced.units_eq (h : Balanced r l) (now : Time) :
    (book d r l (.check now)).settled Fate.isEvidence =
      l.settled Fate.isEvidence + r.units d now := by
  rw [book, Ledger.settled_settleAll, NeighborRecord.units, h.pending]
  rfl

lemma Balanced.ageOut (h : Balanced r l) (now : Time) :
    Balanced (r.ageOut d now) (book d r l (.check now)) where
  pending := by rw [book, Ledger.openItems_settleAll, h.pending]; rfl
  packetsSentTo := by
    rw [NeighborRecord.ageOut_statsD, book, Ledger.length_settleAll]
    exact h.packetsSentTo
  packetsForwarded := by
    rw [NeighborRecord.ageOut_statsD, book, Ledger.settled_settleAll]
    exact h.packetsForwarded
  evidence := by
    rw [NeighborRecord.ageOut_statsD, h.units_eq]
    refine le_trans ?_ (Nat.add_le_add h.evidence (toNat_ofNat_le _))
    rw [UInt32.toNat_add]
    exact Nat.mod_le _ _

/-- The first pending packet with this identifier is credited, if there is one. -/
lemma overhear_onward (r : NeighborRecord) (now : Time) (uid : ℕ) :
    (r.apply d (.overhear now uid true)).pending =
      r.pending.eraseP (fun pp => pp.packetUid == uid) ∧
    (r.apply d (.overhear now uid true)).statsD.packetsSentTo = r.statsD.packetsSentTo ∧
    (r.apply d (.overhear now uid true)).statsD.packetsForwarded = r.statsD.packetsForwarded +
      (if r.pending.any fun pp => pp.packetUid == uid then 1 else 0) ∧
    (r.apply d (.overhear now uid true)).statsD.notForwardedEvidence =
      r.statsD.notForwardedEvidence := by
  rw [NeighborRecord.apply]
  cases hany : r.pending.any fun pp => pp.packetUid == uid with
  | true => exact ⟨rfl, rfl, rfl, rfl⟩
  | false =>
    rw [List.any_eq_false] at hany
    exact ⟨(List.eraseP_of_forall_not hany).symm, rfl, (UInt32.add_zero _).symm, rfl⟩

/-- **Step lemma.** -/
lemma Balanced.apply (h : Balanced r l) (deed : Deed) :
    Balanced (r.apply d deed) (book d r l deed) := by
  cases deed with
  | nothing => exact h
  | reset => exact ⟨rfl, rfl, rfl, le_rfl⟩
  | handOver packet =>
    refine ⟨?_, ?_, ?_, ?_⟩
    · rw [book, Ledger.openItems_enter, h.pending]
      rfl
    · rw [book, Ledger.length_enter, UInt32.ofNat_add, ← h.packetsSentTo]
      rfl
    · rw [book, Ledger.settled_enter]
      exact h.packetsForwarded
    · rw [book, Ledger.settled_enter]
      exact h.evidence
  | fail count =>
    refine ⟨?_, ?_, ?_, ?_⟩
    · rw [book, Ledger.openItems_settleFirst, h.pending]
      -- A failure takes the oldest entry, as the test that every entry passes does.
      show List.eraseP _ r.pending = r.pending.tail
      cases r.pending with
      | nil => rfl
      | cons pp vec => rfl
    · rw [book, Ledger.length_settleFirst]
      exact h.packetsSentTo
    · rw [book, Ledger.settled_settleFirst]
      simp only [Fate.isForwarded, Bool.and_false, Bool.false_eq_true, if_false, Nat.add_zero]
      exact h.packetsForwarded
    · rw [book, Ledger.settled_settleFirst]
      exact h.evidence.trans (Nat.le_add_right _ _)
  | overhear now uid onward =>
    cases onward with
    | false => exact ⟨h.pending, h.packetsSentTo, h.packetsForwarded, h.evidence⟩
    | true =>
      -- One entry at most leaves, and the counter moves exactly when one does.
      have hbook : book d r l (.overhear now uid true) =
        l.settleFirst (fun pp => pp.packetUid == uid) .forwarded := rfl
      obtain ⟨hpending, hsent, hforwarded, hevidence⟩ := overhear_onward (d := d) r now uid
      rw [hbook]
      refine ⟨?_, ?_, ?_, ?_⟩
      · rw [Ledger.openItems_settleFirst, h.pending, hpending]
      · rw [Ledger.length_settleFirst, hsent]
        exact h.packetsSentTo
      · rw [Ledger.settled_settleFirst, UInt32.ofNat_add, ← h.packetsForwarded, h.pending, hforwarded]
        cases r.pending.any fun pp => pp.packetUid == uid <;> rfl
      · rw [Ledger.settled_settleFirst, hevidence]
        exact h.evidence.trans (Nat.le_add_right _ _)
  | ask => exact ⟨h.pending, h.packetsSentTo, h.packetsForwarded, h.evidence⟩
  | clear => exact ⟨h.pending, h.packetsSentTo, h.packetsForwarded, h.evidence⟩
  | check now => exact (h.ageOut now).spares (NeighborRecord.spares_check d now r)

/-- A packet that has a fate keeps it, unless everything is forgotten. -/
lemma continues_book (deed : Deed) (hdeed : deed ≠ .reset) : l.Continues (book d r l deed) := by
  cases deed with
  | reset => exact absurd rfl hdeed
  | handOver packet => exact Ledger.continues_enter
  | fail count => exact Ledger.continues_settleFirst
  | overhear now uid onward =>
    rw [book]
    split
    · exact Ledger.continues_settleFirst
    · exact Ledger.Continues.refl l
  | check now => exact Ledger.continues_settleAll
  | nothing => exact Ledger.Continues.refl l
  | ask => exact Ledger.Continues.refl l
  | clear => exact Ledger.Continues.refl l

/-- Every packet has one fate, or is pending. -/
lemma Balanced.length_eq (h : Balanced r l) :
    l.length = l.settled Fate.isForwarded + r.pending.length + l.settled Fate.isTimedOut +
      l.settled Fate.isWithdrawn := by
  have hall : (fun _ => true) = fun f : Fate => (f.isForwarded || f.isTimedOut) || f.isWithdrawn := by
    funext f
    cases f <;> rfl
  have hthree : l.settled (fun _ => true) = l.settled Fate.isForwarded +
      l.settled Fate.isTimedOut + l.settled Fate.isWithdrawn := by
    rw [hall, Ledger.settled_or, Ledger.settled_or]
    · intro f hf
      cases f <;> simp [Fate.isForwarded, Fate.isTimedOut] at hf
    · intro f hf
      cases f <;> simp [Fate.isForwarded, Fate.isTimedOut, Fate.isWithdrawn] at hf
  rw [Ledger.length_eq, hthree, h.pending]
  omega

/-! ### Runs -/

/-- The ledgers start empty. -/
def audit (d : OlsrWatchdogDefense) (cs : List Call) : Audited :=
  Lib.run Audited.call ⟨d, fun _ => []⟩ cs

/-- An audit watches and does not interfere. -/
lemma audit_watchdog (d : OlsrWatchdogDefense) (cs : List Call) :
    (audit d cs).watchdog = d.runCalls cs :=
  Lib.run_reading (r := Audited.watchdog) (I := fun _ => True) (P := fun _ _ => True)
    (fun _ _ _ _ => trivial) (fun _ _ _ _ => rfl) trivial fun _ _ => trivial

/-- The books of all neighbors are in order. -/
structure Audited.Balanced (x : Audited) : Prop where
  wellKept : x.watchdog.WellKept
  balanced : ∀ n, OlsrWatchdogDefense.Balanced (x.watchdog.recordOf n) (x.ledger n)

lemma Audited.Balanced.call {x : Audited} (h : x.Balanced) (c : Call) : (x.call c).Balanced where
  wellKept := h.wellKept.call c
  balanced n := by
    show OlsrWatchdogDefense.Balanced ((x.watchdog.call c).recordOf n) _
    rw [call_recordOf n h.wellKept c]
    exact (h.balanced n).apply _

lemma IsNew.balanced {d : OlsrWatchdogDefense} (h : d.IsNew) :
    Audited.Balanced ⟨d, fun _ => []⟩ where
  wellKept := h.wellKept
  balanced n := by
    show OlsrWatchdogDefense.Balanced (d.recordOf n) []
    rw [h.recordOf]
    exact ⟨rfl, rfl, rfl, le_rfl⟩

/-- **Run lemma.** -/
lemma audit_balanced {d : OlsrWatchdogDefense} (hd : d.IsNew) (cs : List Call) :
    (audit d cs).Balanced :=
  Lib.inv_run (I := Audited.Balanced) (P := fun _ _ => True) (fun _ c hx _ => hx.call c) hd.balanced
    fun _ _ => trivial

/-- **Conservation.**  After any calls to a new watchdog and for every neighbor, the ledger has an
item for every packet handed over since the last reset; the open ones are those pending, the counter
`packetsSentTo` is the sum of the others and of these, and the evidence is at most the number of
packets timed out with evidence.  At every further call that is no reset the packets keep their
fates, and step 1 of a check adds as many units of evidence as it times out packets with evidence. -/
theorem packets_conserved {d : OlsrWatchdogDefense} (hd : d.IsNew) (cs : List Call)
    (n : Ipv4Address) :
    (audit d cs).watchdog = d.runCalls cs ∧
    ((audit d cs).ledger n).openItems = (d.runCalls cs).pendingOf n ∧
    ((audit d cs).ledger n).length =
      ((audit d cs).ledger n).settled Fate.isForwarded + ((d.runCalls cs).pendingOf n).length +
        ((audit d cs).ledger n).settled Fate.isTimedOut +
        ((audit d cs).ledger n).settled Fate.isWithdrawn ∧
    ((d.runCalls cs).statsOf n).packetsSentTo = UInt32.ofNat ((audit d cs).ledger n).length ∧
    ((d.runCalls cs).statsOf n).packetsSentTo =
      ((d.runCalls cs).statsOf n).packetsForwarded +
        UInt32.ofNat ((d.runCalls cs).pendingOf n).length +
        UInt32.ofNat (((audit d cs).ledger n).settled Fate.isTimedOut) +
        UInt32.ofNat (((audit d cs).ledger n).settled Fate.isWithdrawn) ∧
    ((d.runCalls cs).statsOf n).packetsForwarded =
      UInt32.ofNat (((audit d cs).ledger n).settled Fate.isForwarded) ∧
    ((d.runCalls cs).statsOf n).notForwardedEvidence.toNat ≤
      ((audit d cs).ledger n).settled Fate.isEvidence ∧
    ∀ c,
      ((d.runCalls cs).deed n c ≠ .reset →
        ((audit d cs).ledger n).Continues ((audit d (cs ++ [c])).ledger n)) ∧
      ∀ now, (d.runCalls cs).deed n c = .check now →
        (((d.runCalls cs).ageOut now).statsOf n).notForwardedEvidence =
          ((d.runCalls cs).statsOf n).notForwardedEvidence +
            UInt32.ofNat (((audit d (cs ++ [c])).ledger n).settled Fate.isEvidence -
              ((audit d cs).ledger n).settled Fate.isEvidence) := by
  obtain ⟨hwell, hbalanced⟩ := audit_balanced hd cs
  -- Everything is read off the books of the neighbor, which the run keeps balanced.
  have hbook := hbalanced n
  rw [audit_watchdog] at hwell hbook
  have hnext : ∀ c, (audit d (cs ++ [c])).ledger n =
      book (d.runCalls cs) ((d.runCalls cs).recordOf n) ((audit d cs).ledger n)
        ((d.runCalls cs).deed n c) := by
    intro c
    rw [← audit_watchdog d cs, audit, Lib.run_append]
    rfl
  refine ⟨audit_watchdog d cs, hbook.pending, hbook.length_eq, hbook.packetsSentTo, ?_, hbook.packetsForwarded, hbook.evidence,
    fun c => ⟨fun hreset => ?_, fun now hcheck => ?_⟩⟩
  · have hsent : ((d.runCalls cs).statsOf n).packetsSentTo =
        UInt32.ofNat ((audit d cs).ledger n).length := hbook.packetsSentTo
    have hforwarded : ((d.runCalls cs).statsOf n).packetsForwarded =
        UInt32.ofNat (((audit d cs).ledger n).settled Fate.isForwarded) := hbook.packetsForwarded
    rw [hsent, hforwarded, hbook.length_eq, UInt32.ofNat_add, UInt32.ofNat_add, UInt32.ofNat_add]
    rfl
  · rw [hnext]
    exact continues_book _ hreset
  · have hunits := hbook.units_eq (d := d.runCalls cs) now
    rw [hnext, hcheck, hunits, Nat.add_sub_cancel_left]
    have hstats : ((d.runCalls cs).ageOut now).statsOf n =
        (((d.runCalls cs).recordOf n).ageOut (d.runCalls cs) now).statsD := by
      rw [← ageOut_recordOf now n hwell]
      rfl
    rw [hstats, NeighborRecord.ageOut_statsD]
    rfl

/-- Three packets with one identifier go to a neighbor: one is withdrawn, one times out, and one is
pending. -/
def sampleCalls : List Call :=
  [{ now := 0, hook := .setup 1 },
    { now := Seconds 20, hook := .onDataPacketForwarded 7 4 9 },
    { now := Seconds 20, hook := .onDataPacketForwarded 7 4 9 },
    { now := Seconds 20, hook := .onMacTxFailure 4 1 },
    { now := Seconds 21, hook := .onDataPacketForwarded 7 4 9 },
    { now := Seconds 21, hook := .periodicCheck }]

theorem sampleCalls_packets_conserved :
    ((({} : OlsrWatchdogDefense).runCalls sampleCalls).statsOf 4).packetsSentTo =
      ((({} : OlsrWatchdogDefense).runCalls sampleCalls).statsOf 4).packetsForwarded +
        UInt32.ofNat ((({} : OlsrWatchdogDefense).runCalls sampleCalls).pendingOf 4).length +
        UInt32.ofNat (((audit {} sampleCalls).ledger 4).settled Fate.isTimedOut) +
        UInt32.ofNat (((audit {} sampleCalls).ledger 4).settled Fate.isWithdrawn) :=
  (packets_conserved ⟨rfl, rfl, rfl⟩ sampleCalls 4).2.2.2.2.1

end ManetOlsr.OlsrWatchdogDefense
