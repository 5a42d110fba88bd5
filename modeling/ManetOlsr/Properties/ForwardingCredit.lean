/-
What the FPNT defense counts for a selector that forwards everything.

A packet that the node hands to one of its MPR selectors is remembered under the hash of the header
that the hook is called with.  For a packet that is relayed this is the header on the air, so that the
retransmission is recognised.  For a packet of the node itself it is not: `RouteOutput` is called
before the IP layer fills the header in, so that the selector is not credited for it.  A packet that is
relayed into a network that a gateway announces is not counted at all, and packets with one hash are
counted each and credited once.  The counters are cleared with every check, while the packets on their
way stay remembered.
-/
import ManetOlsr.Model.FpntAccount
import ManetOlsr.Model.Scenario

namespace ManetOlsr

namespace OlsrDefenseFpnt

/-! ### Packets on their way -/

/-- The packets of a period that a node is given to forward, and those that it is overheard to
forward; and the headers of all packets that it has been given and not yet forwarded. -/
structure Deliveries where
  handed : ℕ := 0
  overheard : ℕ := 0
  inFlight : List Ipv4Header := []
deriving DecidableEq

namespace Deliveries

variable (f : Deliveries) (header : Ipv4Header)

def hand : Deliveries :=
  { f with handed := f.handed + 1, inFlight := f.inFlight ++ [header] }

def overhear : Deliveries :=
  { f with overheard := f.overheard + 1, inFlight := f.inFlight.erase header }

/-- A new period begins. -/
def close : Deliveries := { f with handed := 0, overheard := 0 }

end Deliveries

lemma keyLt_comparesKeys : Lib.ComparesKeys keyLt UInt64.toNat where
  lt_iff a b := by rw [keyLt, decide_eq_true_eq, UInt64.lt_iff_toNat_lt]
  injective _ _ h := UInt64.toNat_inj.mp h

namespace Account

variable {a : Account} {f : Deliveries} {header : Ipv4Header}

/-- The account is true of the deliveries. -/
structure Matches (a : Account) (f : Deliveries) : Prop where
  countRcv : a.countRcv = UInt32.ofNat f.handed
  countFwd : a.countFwd = UInt32.ofNat f.overheard
  handed : f.handed = f.overheard + f.inFlight.length
  pending : ∀ key, (Lib.mapFind a.pendingArrivals key).isSome = true ↔
    ∃ h ∈ f.inFlight, hashIpv4Header h = key
  distinct : (f.inFlight.map hashIpv4Header).Nodup

lemma matches_nil : ({} : Account).Matches {} :=
  ⟨rfl, rfl, rfl, fun key => by simp, List.nodup_nil⟩

/-- A packet with a new hash is handed over. -/
lemma Matches.arrive (h : a.Matches f) (now : Time)
    (hnew : ∀ h ∈ f.inFlight, hashIpv4Header h ≠ hashIpv4Header header) :
    (a.arrive now (hashIpv4Header header)).Matches (f.hand header) := by
  have hunknown : ¬ (Lib.mapFind a.pendingArrivals (hashIpv4Header header)).isSome = true := by
    rw [h.pending]
    rintro ⟨h', hmem, hsame⟩
    exact hnew h' hmem hsame
  refine ⟨?_, h.countFwd, ?_, fun key => ?_, ?_⟩
  · show a.countRcv + 1 = UInt32.ofNat (f.handed + 1)
    rw [h.countRcv, UInt32.ofNat_add]
    rfl
  · show f.handed + 1 = f.overheard + (f.inFlight ++ [header]).length
    rw [List.length_append, h.handed]
    rfl
  · show (Lib.mapFind (if _ then _ else _) key).isSome = true ↔ ∃ h ∈ f.inFlight ++ [header], _
    rw [if_neg hunknown, keyLt_comparesKeys.mapFind_mapSet]
    by_cases hkey : key = hashIpv4Header header
    · rw [if_pos hkey]
      exact ⟨fun _ => ⟨header, by simp, hkey.symm⟩, fun _ => rfl⟩
    · rw [if_neg hkey, h.pending]
      constructor
      · rintro ⟨h', hmem, hhash⟩
        exact ⟨h', List.mem_append_left _ hmem, hhash⟩
      · rintro ⟨h', hmem, hhash⟩
        rcases List.mem_append.mp hmem with hmem | hmem
        · exact ⟨h', hmem, hhash⟩
        · obtain rfl := List.mem_singleton.mp hmem
          exact absurd hhash.symm hkey
  · show ((f.inFlight ++ [header]).map hashIpv4Header).Nodup
    rw [List.map_append, List.nodup_append]
    refine ⟨h.distinct, List.nodup_singleton _, fun key hkey key' hkey' => ?_⟩
    obtain ⟨h', hmem, rfl⟩ := List.mem_map.mp hkey
    obtain rfl := List.mem_singleton.mp hkey'
    exact hnew h' hmem

/-- A packet on its way is passed on. -/
lemma Matches.forward (h : a.Matches f) (hmem : header ∈ f.inFlight) :
    (a.forward (hashIpv4Header header)).Matches (f.overhear header) := by
  have hknown : (Lib.mapFind a.pendingArrivals (hashIpv4Header header)).isSome = true :=
    (h.pending _).mpr ⟨header, hmem, rfl⟩
  have hnodup : f.inFlight.Nodup := List.Nodup.of_map _ h.distinct
  rw [Account.forward, if_pos hknown]
  refine ⟨h.countRcv, ?_, ?_, fun key => ?_, ?_⟩
  · show a.countFwd + 1 = UInt32.ofNat (f.overheard + 1)
    rw [h.countFwd, UInt32.ofNat_add]
    rfl
  · show f.handed = f.overheard + 1 + (f.inFlight.erase header).length
    have hlength := List.length_erase_of_mem hmem
    have hpos := List.length_pos_of_mem hmem
    have hhanded := h.handed
    omega
  · show (Lib.mapFind (a.pendingArrivals.filter fun kv => !(kv.1 == _)) key).isSome = true ↔ _
    rw [Lib.mapFind_filter_fst fun key' => !(key' == hashIpv4Header header)]
    by_cases hkey : key = hashIpv4Header header
    · -- the hash belongs to this packet only
      rw [hkey, beq_self_eq_true, Bool.not_true, if_neg Bool.false_ne_true]
      refine ⟨fun hnone => absurd hnone (by simp), ?_⟩
      rintro ⟨h', hmem', hhash⟩
      have hin := (hnodup.mem_erase_iff.mp hmem')
      exact absurd (List.inj_on_of_nodup_map h.distinct hin.2 hmem hhash) hin.1
    · rw [if_pos (by simpa using hkey), h.pending]
      constructor
      · rintro ⟨h', hmem', hhash⟩
        refine ⟨h', hnodup.mem_erase_iff.mpr ⟨?_, hmem'⟩, hhash⟩
        rintro rfl
        exact hkey hhash.symm
      · rintro ⟨h', hmem', hhash⟩
        exact ⟨h', List.mem_of_mem_erase hmem', hhash⟩
  · exact h.distinct.sublist (List.Sublist.map _ List.erase_sublist)

/-- Nothing is on its way. -/
lemma Matches.settled (h : a.Matches f) (hempty : f.inFlight = []) :
    a.countFwd = a.countRcv ∧ a.pendingArrivals = [] := by
  have hhanded := h.handed
  rw [hempty, List.length_nil, Nat.add_zero] at hhanded
  refine ⟨by rw [h.countFwd, h.countRcv, hhanded], ?_⟩
  rw [List.eq_nil_iff_forall_not_mem]
  rintro ⟨key, time⟩ hmem
  have hkey : ¬ (Lib.mapFind a.pendingArrivals key).isSome = true := by
    rw [h.pending, hempty]
    rintro ⟨h', hmem', -⟩
    exact absurd hmem' List.not_mem_nil
  rw [Option.isSome_iff_ne_none, ne_eq, Lib.mapFind_eq_none_iff, not_not] at hkey
  exact hkey (List.mem_map_of_mem (f := Prod.fst) hmem)

end Account

end OlsrDefenseFpnt

/-! ### Inputs -/

/-- A packet that is handed to a gateway: its header on the air, and the one that the hook is called
with, if it is called. -/
structure Handover where
  gateway : Ipv4Address
  header : Ipv4Header
  hookHeader : Option Ipv4Header
deriving DecidableEq

/-- The input is a check. -/
def FpntInput.isCheck : FpntInput → Bool
  | .control (.timer _ .handleDefenseTimer _) _ => true
  | _ => false

/-- The header of a packet of `v` that is overheard. -/
def FpntInput.overheard (env : FpntEnvironment) (v : Ipv4Address) : FpntInput → Option Ipv4Header
  | .frame _ transmitter _ p macToIpv4 =>
    if transmitter ∉ env.ownMacs ∧ macToIpv4 transmitter = v then some p.header else none
  | _ => none

/-- The input is neither a failure of `v`, nor a frame for it, and leaves the defense enabled. -/
def FpntInput.LeavesAlone (env : FpntEnvironment) (v : Ipv4Address) : FpntInput → Prop
  | .frame _ transmitter receiver _ macToIpv4 =>
    transmitter ∈ env.ownMacs ∨ receiver.isGroup = true ∨ macToIpv4 receiver ≠ v
  | .control (.macTxDrop _ _ neighbor) _ => neighbor ≠ v
  | .setEnabled _ enabled => enabled = true
  | _ => True

instance (env : FpntEnvironment) (v : Ipv4Address) : (x : FpntInput) →
    Decidable (x.LeavesAlone env v)
  | .frame .. => inferInstanceAs (Decidable (_ ∨ _ ∨ _))
  | .control (.macTxDrop ..) _ => inferInstanceAs (Decidable (_ ≠ _))
  | .setEnabled .. => inferInstanceAs (Decidable (_ = _))
  | .control (.recvOlsr ..) _ | .control (.timer ..) _ | .control (.onLocalRxDrop ..) _
  | .control (.setDefenseStrategy ..) _ | .control (.reactivateDefenseStrategy ..) _
  | .control (.addHostNetworkAssociation ..) _ | .control (.removeHostNetworkAssociation ..) _
  | .control (.setAttack ..) _ | .routeOutput .. | .routeInput .. =>
    inferInstanceAs (Decidable True)

namespace Node

open OlsrDefenseFpnt

variable (env : FpntEnvironment) (v : Ipv4Address) (n : Node OlsrDefenseFpnt)

/-- The packet that an input hands to a gateway. -/
def handover : FpntInput → Option Handover
  | .routeOutput t p oif =>
    match (n.perform (Act.advance t)).chooseOutput env.ipv4 p.toDataPacket oif with
    | .route q => some ⟨q.gateway, p.header, some (bareHeader p.header.destination)⟩
    | _ => none
  | .routeInput t p iif lcb =>
    match (n.perform (Act.advance t)).chooseInput env.ipv4 p.toDataPacket iif lcb with
    | .route q =>
      some ⟨q.gateway, p.header,
        if (n.table p.header.destination).isSome then some p.header else none⟩
    | _ => none
  | _ => none

/-- The packet that an input hands to `v` for another destination. -/
def handsTo (x : FpntInput) : Option Handover :=
  (n.handover env x).filter fun h => h.gateway == v && h.header.destination != v

/-- What becomes of the deliveries. -/
def deliver (f : Deliveries) (x : FpntInput) : Deliveries :=
  if x.isCheck then f.close
  else
    match n.handsTo env v x with
    | some h => f.hand h.header
    | none =>
      match x.overheard env v with
      | some header => f.overhear header
      | none => f

/-- The node `v` forwards what it is given: it is an MPR selector where it matters, what is overheard
of it are packets on their way, unchanged, and nothing else concerns it. -/
structure Honest (f : Deliveries) (x : FpntInput) : Prop where
  selector : (n.handsTo env v x).isSome = true ∨ (x.overheard env v).isSome = true ∨
    x.isCheck = true ∧ f.handed ≠ 0 → isOurSelector n.state v = true
  retransmits : ∀ header ∈ x.overheard env v, header ∈ f.inFlight
  leavesAlone : x.LeavesAlone env v

/-- The defense can tell what is forwarded: the hook sees the hash that the packet has on the air, no
packet on its way has the same, and no packet is on its way in a check. -/
structure Traceable (f : Deliveries) (x : FpntInput) : Prop where
  hash : ∀ h ∈ n.handsTo env v x,
    h.hookHeader.map hashIpv4Header = some (hashIpv4Header h.header)
  distinct : ∀ h ∈ n.handsTo env v x,
    ∀ header ∈ f.inFlight, hashIpv4Header header ≠ hashIpv4Header h.header
  check : x.isCheck = true → f.inFlight = []

instance (f : Deliveries) (x : FpntInput) : Decidable (n.Honest env v f x) :=
  decidable_of_iff (_ ∧ _ ∧ _) ⟨fun h => ⟨h.1, h.2.1, h.2.2⟩, fun h => ⟨h.1, h.2, h.3⟩⟩

instance (f : Deliveries) (x : FpntInput) : Decidable (n.Traceable env v f x) :=
  decidable_of_iff (_ ∧ _ ∧ _) ⟨fun h => ⟨h.1, h.2.1, h.2.2⟩, fun h => ⟨h.1, h.2, h.3⟩⟩

/-- The counters of the node `v`, and the packets that are awaited of it. -/
def accountOf (v : Ipv4Address) (n : Node OlsrDefenseFpnt) : Account :=
  (n.defenseStrategy.map fun d => d.account v).getD {}

/-- The forwarding rate of `v` that the last check found. -/
def forwardingRate (v : Ipv4Address) (n : Node OlsrDefenseFpnt) : Option ℚ :=
  (n.defenseStrategy.bind fun d => Lib.mapFind d.lastSValues v).map fun S => S p3FwdHigh

/-- The defense is enabled, and what it has counted is true of the deliveries. -/
def Counts (v : Ipv4Address) (n : Node OlsrDefenseFpnt) (f : Deliveries) : Prop :=
  ∃ a : Account, n.defenseStrategy.map (audit v) = some ⟨true, true, True, a⟩ ∧ a.Matches f

variable {env v n} {f : Deliveries}

lemma Counts.accountOf {a : Account}
    (h : n.defenseStrategy.map (audit v) = some ⟨true, true, True, a⟩) : n.accountOf v = a := by
  obtain ⟨d, hd, hwatch⟩ := Option.map_eq_some_iff.mp h
  rw [Node.accountOf, hd]
  exact congrArg Audit.account hwatch

lemma Counts.of_reading {m : Node OlsrDefenseFpnt} (h : n.Counts v f)
    (hsame : Edition.reading (audit v) m = Edition.reading (audit v) n) : m.Counts v f := by
  obtain ⟨a, ha, hmatches⟩ := h
  exact ⟨a, (congrArg Prod.snd hsame).trans ha, hmatches⟩

/-! ### Control traffic -/

/-- No act of a label other than the checks and the failures of `v` changes the account of `v`. -/
lemma exec_audit {redundant : Bool} {vectors vectors' : MessageHeader → List EvaluationVector}
    {l : Label OlsrDefenseFpnt} (hl : OfFpnt l)
    (hcheck : (FpntInput.control l vectors').isCheck = false)
    (halone : (FpntInput.control l vectors').LeavesAlone env v) {k m : Node OlsrDefenseFpnt}
    {a : Act OlsrDefenseFpnt} (ha : a ∈ k.acts l) :
    Edition.reading (audit v) ((fpntEdition redundant vectors).exec m a) =
      Edition.reading (audit v) m := by
  by_cases hdrop : ∃ x, a = .macTxDrop x
  · obtain ⟨x, rfl⟩ := hdrop
    have hne : x ≠ v := by
      rcases List.mem_cons.mp ha with hadvance | ha
      · cases hadvance
      · cases l with
        | recvOlsr => rcases mem_recvOlsrActs ha with ⟨_, -, _, heq⟩ | heq <;> cases heq
        | macTxDrop t uid neighbor =>
          cases List.mem_singleton.mp ha
          exact halone
        | _ => cases List.mem_singleton.mp ha
    rw [Edition.exec]
    split
    · rfl
    · show Edition.reading (audit v) (if x = 0 then m else m.macTxDrop x) = _
      split
      · rfl
      · exact Edition.reading_mapDefense m fun d => onMacTxFailure_audit hne.symm 1
  · refine fpntExec_reading (audit_ignoresControl v) (hl.leavesStrategy ha) ?_
      fun x h => hdrop ⟨x, h⟩
    rintro t jitter rfl
    rcases List.mem_cons.mp ha with hadvance | ha
    · cases hadvance
    · cases l with
      | recvOlsr => rcases mem_recvOlsrActs ha with ⟨_, -, _, heq⟩ | heq <;> cases heq
      | timer t e jitter =>
        cases List.mem_singleton.mp ha
        cases hcheck
      | _ => cases List.mem_singleton.mp ha

/-- The control traffic leaves the account as it is. -/
lemma Counts.control {vectors : MessageHeader → List EvaluationVector} {l : Label OlsrDefenseFpnt}
    (h : n.Counts v f) (hl : OfFpnt l) (hcheck : (FpntInput.control l vectors).isCheck = false)
    (halone : (FpntInput.control l vectors).LeavesAlone env v) :
    (n.fpntNext env (.control l vectors)).Counts v f :=
  Lib.inv_run (I := fun m : Node OlsrDefenseFpnt => m.Counts v f) (P := fun _ a => a ∈ n.acts l)
    (fun _ _ hm ha => hm.of_reading (exec_audit hl hcheck halone ha)) h
    fun _ hy => Lib.snd_mem_of_mem_trace hy

variable (env) in
/-- A check. -/
lemma fpntNext_check (hrunning : n.fatalError = false) {d : OlsrDefenseFpnt}
    (hd : n.defenseStrategy = some d) (t jitter : Time)
    (vectors : MessageHeader → List EvaluationVector) :
    (n.fpntNext env (.control (.timer t .handleDefenseTimer jitter) vectors)).defenseStrategy =
      some (d.periodicCheck t n.state).1 := by
  have hadvanced : (fpntEdition env.redundantMprCoverage vectors).exec n (.advance t) =
      { n with now := t } := by
    rw [Edition.exec, if_neg (by simp [hrunning])]
    rfl
  show (Edition.exec _ (Edition.exec _ n (.advance t)) _).defenseStrategy = _
  rw [hadvanced, Edition.exec, if_neg (by simp [hrunning])]
  show (fpntHandleDefenseTimer _).defenseStrategy = _
  rw [fpntHandleDefenseTimer]
  have hd' : ({ n with now := t }.dequeue t .handleDefenseTimer).defenseStrategy = some d := hd
  simp only [hd']
  split <;> rfl

variable (env) in
/-- A check finds the account closed, and the selector forwarding everything. -/
lemma Counts.check (h : n.Counts v f) (hrunning : n.fatalError = false) (t jitter : Time)
    (vectors : MessageHeader → List EvaluationVector) (hempty : f.inFlight = []) :
    (n.fpntNext env (.control (.timer t .handleDefenseTimer jitter) vectors)).Counts v f.close ∧
      (isOurSelector n.state v = true → (n.accountOf v).countRcv ≠ 0 →
        (n.fpntNext env
          (.control (.timer t .handleDefenseTimer jitter) vectors)).forwardingRate v = some 1) := by
  obtain ⟨a, ha, hmatches⟩ := h
  obtain ⟨d, hd, haudit⟩ := Option.map_eq_some_iff.mp ha
  obtain ⟨hall, hpending⟩ := hmatches.settled hempty
  have haccount : d.account v = a := congrArg Audit.account haudit
  have henabled : d.enabled = true := congrArg Audit.enabled haudit
  have hordered : d.MetricsOrdered := of_eq_true (congrArg Audit.metricsOrdered haudit)
  have hprotocol : d.hasProtocol = true := congrArg Audit.hasProtocol haudit
  rw [← haccount] at hall hpending
  have hnext := fpntNext_check env hrunning hd t jitter vectors
  refine ⟨⟨{}, ?_, ?_⟩, fun hselector hsome => ?_⟩
  · rw [hnext, Option.map_some, periodicCheck_audit t n.state henabled hpending, hprotocol]
  · refine ⟨rfl, rfl, ?_, fun key => ?_, hmatches.distinct⟩
    · show 0 = 0 + f.inFlight.length
      rw [hempty]
      rfl
    · show (Lib.mapFind [] key).isSome = true ↔ ∃ h ∈ f.inFlight, _
      rw [hempty]
      simp
  · rw [Node.forwardingRate, hnext]
    rw [Node.accountOf, hd] at hsome
    exact periodicCheck_forwardsAll t n.state henabled hordered hselector hall hsome

/-! ### Packets and frames -/

/-- A hook of the defense that writes the account. -/
lemma Counts.mapDefense (h : n.Counts v f) {g : OlsrDefenseFpnt → OlsrDefenseFpnt}
    {k : Account → Account} {f' : Deliveries}
    (hg : ∀ d, d.hasProtocol = true → d.enabled = true →
      (g d).audit v = { d.audit v with account := k (d.account v) })
    (hk : ∀ a : Account, a.Matches f → (k a).Matches f') : (n.mapDefense g).Counts v f' := by
  obtain ⟨a, ha, hmatches⟩ := h
  obtain ⟨d, hd, haudit⟩ := Option.map_eq_some_iff.mp ha
  have hprotocol : d.hasProtocol = true := congrArg Audit.hasProtocol haudit
  have henabled : d.enabled = true := congrArg Audit.enabled haudit
  have haccount : d.account v = a := congrArg Audit.account haudit
  refine ⟨k a, ?_, hk a hmatches⟩
  rw [Node.mapDefense, hd, Option.map_some, Option.map_some, hg d hprotocol henabled, haudit,
    haccount]

/-- The packet of an input is told to the defense, or the node goes on without. -/
lemma Counts.tell (h : n.Counts v f) (hv : v ≠ 0 ∧ v ≠ 0xffffffff) {q : Handover} {p : IpPacket}
    (hp : p.header = q.header) {hookHeader : Ipv4Header}
    (hhash : q.gateway = v ∧ q.header.destination ≠ v →
      hashIpv4Header hookHeader = hashIpv4Header q.header ∧ isOurSelector n.state v = true ∧
        ∀ header ∈ f.inFlight, hashIpv4Header header ≠ hashIpv4Header q.header) :
    (n.fpntTellForwarded hookHeader p q.gateway).Counts v
      (if q.gateway = v ∧ q.header.destination ≠ v then f.hand q.header else f) := by
  rw [fpntTellForwarded, hp]
  by_cases hto : q.gateway = v ∧ q.header.destination ≠ v
  · rw [if_pos hto]
    obtain ⟨hsame, hselector, hnew⟩ := hhash hto
    refine h.mapDefense (k := fun a => a.arrive n.now (hashIpv4Header q.header))
      (fun d hprotocol _ => ?_) fun a ha => ha.arrive n.now hnew
    rw [hto.1, onDataPacketForwarded_audit_self n.now n.state hookHeader p.size hprotocol hv hselector
      hto.2.symm, hsame]
  · rw [if_neg hto]
    refine h.mapDefense (k := id) (fun d _ _ => ?_) fun a ha => ha
    exact onDataPacketForwarded_audit_of_not n.now n.state hookHeader p.size hto

/-- A choice other than a route. -/
lemma Counts.settle (h : n.Counts v f) (c : Choice) : (n.settle c).Counts v f := by
  have hsame : Edition.reading (audit v) (n.settle c) = Edition.reading (audit v) n := by
    cases c <;> rfl
  exact h.of_reading hsame

section Handover

variable {x : FpntInput}

lemma handsTo_eq {q : Handover} (hq : n.handover env x = some q) :
    n.handsTo env v x = if q.gateway = v ∧ q.header.destination ≠ v then some q else none := by
  rw [handsTo, hq, Option.filter_some]
  refine if_congr ?_ rfl rfl
  rw [Bool.and_eq_true, beq_iff_eq, bne_iff_ne]

/-- What is handed over is no check, and nothing that is overheard. -/
lemma deliver_of_handover {q : Handover} (hq : n.handover env x = some q) :
    n.deliver env v f x =
      if q.gateway = v ∧ q.header.destination ≠ v then f.hand q.header else f := by
  have hcheck : ¬ x.isCheck = true := by
    intro h
    cases x with
    | control l vectors => cases hq
    | _ => cases h
  have hoverheard : x.overheard env v = none := by
    cases x with
    | frame => cases hq
    | _ => rfl
  rw [deliver, if_neg hcheck, handsTo_eq hq]
  by_cases hto : q.gateway = v ∧ q.header.destination ≠ v
  · simp only [if_pos hto]
  · simp only [if_neg hto, hoverheard]

lemma deliver_of_none (hcheck : x.isCheck = false) (hq : n.handover env x = none)
    (hoverheard : x.overheard env v = none) : n.deliver env v f x = f := by
  have hhands : n.handsTo env v x = none := by
    rw [handsTo, hq]
    rfl
  rw [deliver, if_neg (by simp [hcheck])]
  simp only [hhands, hoverheard]

/-- A packet of `v` that is overheard counts once. -/
lemma deliver_overheard_of_some {header : Ipv4Header} (h : x.overheard env v = some header) :
    (n.deliver env v f x).overheard = f.overheard + 1 := by
  cases x with
  | frame t transmitter receiver p macToIpv4 =>
    have hhands : n.handsTo env v (.frame t transmitter receiver p macToIpv4) = none := rfl
    rw [deliver, if_neg (by simp [FpntInput.isCheck])]
    simp only [hhands, h]
    rfl
  | _ => cases h

lemma deliver_overheard_of_none (hcheck : x.isCheck = false) (h : x.overheard env v = none) :
    (n.deliver env v f x).overheard = f.overheard := by
  rw [deliver, if_neg (by simp [hcheck])]
  cases n.handsTo env v x with
  | none => simp only [h]
  | some q => rfl

/-- The premises about a packet that is handed to `v`. -/
lemma Honest.handed {q : Handover} {hookHeader : Ipv4Header} (hhonest : n.Honest env v f x)
    (htrace : n.Traceable env v f x) (hq : n.handover env x = some q)
    (hhook : ∀ header ∈ q.hookHeader, header = hookHeader)
    (hto : q.gateway = v ∧ q.header.destination ≠ v) :
    hashIpv4Header hookHeader = hashIpv4Header q.header ∧ isOurSelector n.state v = true ∧
      ∀ header ∈ f.inFlight, hashIpv4Header header ≠ hashIpv4Header q.header := by
  have hhands : n.handsTo env v x = some q := by rw [handsTo_eq hq, if_pos hto]
  refine ⟨?_, hhonest.selector (Or.inl (by rw [hhands]; rfl)), htrace.distinct q hhands⟩
  obtain ⟨header, hheader, hsame⟩ := Option.map_eq_some_iff.mp (htrace.hash q hhands)
  rw [← hhook header hheader]
  exact hsame

end Handover

/-- A frame that is overheard. -/
lemma Counts.hear (h : n.Counts v f) (hv : v ≠ 0) {t : Time} {transmitter receiver : Mac48Address}
    {p : IpPacket} {macToIpv4 : Mac48Address → Ipv4Address}
    (hhonest : n.Honest env v f (.frame t transmitter receiver p macToIpv4)) :
    (n.fpntMonitorSnifferRx env transmitter receiver p macToIpv4).Counts v
      (n.deliver env v f (.frame t transmitter receiver p macToIpv4)) := by
  have hdeliver : n.deliver env v f (.frame t transmitter receiver p macToIpv4) =
      if transmitter ∉ env.ownMacs ∧ macToIpv4 transmitter = v then f.overhear p.header else f := by
    rw [deliver, if_neg (by simp [FpntInput.isCheck])]
    have hhands : n.handsTo env v (.frame t transmitter receiver p macToIpv4) = none := rfl
    by_cases hheard : transmitter ∉ env.ownMacs ∧ macToIpv4 transmitter = v
    · simp only [hhands, FpntInput.overheard, if_pos hheard]
    · simp only [hhands, FpntInput.overheard, if_neg hheard]
  rw [hdeliver, fpntMonitorSnifferRx]
  by_cases hown : transmitter ∈ env.ownMacs
  · rw [if_pos hown, if_neg fun hnot => hnot.1 hown]
    exact h
  rw [if_neg hown]
  have hreceiver : receiver.isGroup = true ∨ macToIpv4 receiver ≠ v :=
    hhonest.leavesAlone.resolve_left hown
  by_cases hfrom : macToIpv4 transmitter = v
  · have hoverheard : FpntInput.overheard env v (.frame t transmitter receiver p macToIpv4) =
        some p.header := if_pos ⟨hown, hfrom⟩
    have hselector : isOurSelector n.state v = true :=
      hhonest.selector (Or.inr (Or.inl (by rw [hoverheard]; rfl)))
    rw [if_pos ⟨hown, hfrom⟩]
    refine h.mapDefense (k := fun a => a.forward (hashIpv4Header p.header))
      (fun d hprotocol _ => ?_) fun a ha => ha.forward (hhonest.retransmits _ hoverheard)
    rw [onNeighborForwardedPacket_audit n.now n.state p.header p.size hprotocol hreceiver,
      if_pos ⟨hfrom, hv, hselector⟩]
  · rw [if_neg fun hnot => hfrom hnot.2]
    refine h.mapDefense (k := id) (fun d hprotocol _ => ?_) fun a ha => ha
    rw [onNeighborForwardedPacket_audit n.now n.state p.header p.size hprotocol hreceiver,
      if_neg fun hnot => hfrom hnot.1]
    rfl

/-- The switch, which is on already. -/
lemma Counts.setDefenseEnabled (h : n.Counts v f) : (n.setDefenseEnabled true).Counts v f := by
  obtain ⟨a, ha, hmatches⟩ := id h
  obtain ⟨d, hd, haudit⟩ := Option.map_eq_some_iff.mp ha
  have henabled : d.enabled = true := congrArg Audit.enabled haudit
  have htoggling : n.toggling true = none := by
    rw [toggling, hd]
    exact if_neg fun hne => hne.1 henabled
  rw [Node.setDefenseEnabled, htoggling]
  refine h.mapDefense (k := id) (fun d _ hon => ?_) fun a ha => ha
  rw [setEnabled, if_pos hon]
  rfl

lemma exists_of_isCheck {x : FpntInput} (h : x.isCheck = true) :
    ∃ t jitter vectors, x = .control (.timer t .handleDefenseTimer jitter) vectors := by
  cases x with
  | control l vectors =>
    cases l with
    | timer t e jitter =>
      cases e with
      | handleDefenseTimer => exact ⟨t, jitter, vectors, rfl⟩
      | _ => cases h
    | _ => cases h
  | _ => cases h

/-- **Step lemma.**  The counters stay true of the deliveries. -/
lemma Counts.fpntNext (h : n.Counts v f) (hv : v ≠ 0 ∧ v ≠ 0xffffffff) {x : FpntInput}
    (hx : n.EnabledFpnt x) (hhonest : n.Honest env v f x) (htrace : n.Traceable env v f x) :
    (n.fpntNext env x).Counts v (n.deliver env v f x) := by
  have hrunning : ¬ n.fatalError = true := by simp [hx.1]
  have hadvanced : ∀ t, (n.perform (Act.advance t)).Counts v f := fun _ => h.of_reading rfl
  -- A check closes the account; every other input is booked.
  by_cases hcheck : x.isCheck = true
  · obtain ⟨t, jitter, vectors, rfl⟩ := exists_of_isCheck hcheck
    rw [deliver, if_pos hcheck]
    exact (h.check env hx.1 t jitter vectors (htrace.check hcheck)).1
  rw [Bool.not_eq_true] at hcheck
  cases x with
  | control l vectors =>
    rw [deliver_of_none hcheck rfl rfl]
    exact h.control hx.2.2.2.2 hcheck hhonest.leavesAlone
  | routeOutput t p oif =>
    simp only [Node.fpntNext, if_neg hrunning, fpntNextAt, FpntInput.time, fpntRouteOutput]
    cases hchoice : (n.perform (Act.advance t)).chooseOutput env.ipv4 p.toDataPacket oif with
    | route q =>
      have hq : n.handover env (.routeOutput t p oif) =
          some ⟨q.gateway, p.header, some (bareHeader p.header.destination)⟩ := by
        simp only [handover, hchoice]
      rw [deliver_of_handover hq]
      exact (hadvanced t).tell hv rfl
        (hhonest.handed htrace hq fun header hheader => (Option.some.inj hheader).symm)
    | _ =>
      rw [deliver_of_none hcheck (by simp only [handover, hchoice]) rfl]
      exact (hadvanced t).settle _
  | routeInput t p iif lcb =>
    simp only [Node.fpntNext, if_neg hrunning, fpntNextAt, FpntInput.time, fpntRouteInput]
    cases hchoice : (n.perform (Act.advance t)).chooseInput env.ipv4 p.toDataPacket iif lcb with
    | route q =>
      have hq : n.handover env (.routeInput t p iif lcb) = some ⟨q.gateway, p.header,
          if (n.table p.header.destination).isSome then some p.header else none⟩ := by
        simp only [handover, hchoice]
      rw [deliver_of_handover hq]
      have htable : (n.perform (Act.advance t)).table = n.table := rfl
      simp only [htable]
      by_cases htold : (n.table p.header.destination).isSome = true
      · rw [if_pos htold]
        refine (hadvanced t).tell hv (q := ⟨q.gateway, p.header, _⟩) rfl
          (hhonest.handed htrace hq fun header hheader => ?_)
        rw [if_pos htold] at hheader
        exact (Option.some.inj hheader).symm
      · -- a packet that takes a network route would not be counted
        rw [if_neg htold, if_neg]
        · exact hadvanced t
        · intro hto
          have hhands : n.handsTo env v (.routeInput t p iif lcb) = some _ :=
            (handsTo_eq hq).trans (if_pos hto)
          have hhash := htrace.hash _ hhands
          rw [if_neg htold] at hhash
          cases hhash
    | _ =>
      rw [deliver_of_none hcheck (by simp only [handover, hchoice]) rfl]
      exact (hadvanced t).settle _
  | frame t transmitter receiver p macToIpv4 =>
    simp only [Node.fpntNext, if_neg hrunning, fpntNextAt, FpntInput.time]
    exact (hadvanced t).hear hv.1 ⟨hhonest.selector, hhonest.retransmits, hhonest.leavesAlone⟩
  | setEnabled t enabled =>
    obtain rfl : enabled = true := hhonest.leavesAlone
    rw [deliver_of_none hcheck rfl rfl]
    simp only [Node.fpntNext, if_neg hrunning, fpntNextAt, FpntInput.time]
    exact (hadvanced t).setDefenseEnabled

end Node

/-! ### Runs -/

namespace FpntRun

open OlsrDefenseFpnt

variable (r : FpntRun) (v : Ipv4Address)

/-- The inputs of a run, each with the node it happens to and the deliveries so far. -/
def deliveries : List ((Node OlsrDefenseFpnt × Deliveries) × FpntInput) :=
  Lib.trace (fun y x => (y.1.fpntNext r.env x, y.1.deliver r.env v y.2 x)) (r.start, {}) r.inputs

lemma deliveries_enabled {y : (Node OlsrDefenseFpnt × Deliveries) × FpntInput}
    (hy : y ∈ r.deliveries v) : y.1.1.EnabledFpnt y.2 :=
  Lib.forall_trace_of_cons (P := fun z x => z.1.EnabledFpnt x)
    (Q := fun z xs => z.1.IsFpntRun r.env xs) (fun _ _ _ h => h) r.isRun y hy

/-- At the start nothing is counted. -/
lemma start_counts (henabled : r.strategy.enabled = true) : r.start.Counts v {} := by
  have hstart : Edition.reading (audit v) r.start =
      Edition.reading (audit v) r.config.node.fpntStartDefense :=
    Edition.doInitialize_reading _ _ (audit_ignoresControl v).ignoresOlsr r.jitter
  have hinstalled : r.config.node.fpntStartDefense.Counts v {} := by
    have hd : r.config.node.defenseStrategy = some r.strategy := r.installed
    have hmetrics : r.strategy.metrics = [] := by
      rw [← r.fresh]
      rfl
    have hpending : r.strategy.pendingArrivals = [] := by
      rw [← r.fresh]
      rfl
    refine ⟨{}, ?_, Account.matches_nil⟩
    rw [Node.fpntStartDefense]
    simp only [hd]
    show some (audit v _) = _
    rw [audit, account, metricsOf, pendingOf, MetricsOrdered]
    simp only [setup, hmetrics, hpending, henabled]
    simp [Lib.Ordered]
  exact hinstalled.of_reading hstart

variable {v}

/-- **Credited forwarding.**  Take a run of an enabled defense in which `v` forwards what it is given
and the defense can tell.  Each packet that `v` is overheard to pass on raises its counter by one, and
nothing else does; what it is given is counted, and on its way as long as it is not passed on; and each
check finds both counters the same, and the forwarding rate to be one, if `v` was given anything in the
period. -/
theorem forwarding_credited (henabled : r.strategy.enabled = true)
    (hv : v ≠ 0 ∧ v ≠ 0xffffffff)
    (hhonest : ∀ y ∈ r.deliveries v, y.1.1.Honest r.env v y.1.2 y.2)
    (htrace : ∀ y ∈ r.deliveries v, y.1.1.Traceable r.env v y.1.2 y.2) :
    ∀ y ∈ r.deliveries v,
      ((y.2.overheard r.env v).isSome = true →
        ((y.1.1.fpntNext r.env y.2).accountOf v).countFwd = (y.1.1.accountOf v).countFwd + 1) ∧
      (y.2.overheard r.env v = none → y.2.isCheck = false →
        ((y.1.1.fpntNext r.env y.2).accountOf v).countFwd = (y.1.1.accountOf v).countFwd) ∧
      (y.1.1.accountOf v).countRcv = UInt32.ofNat y.1.2.handed ∧
      y.1.2.handed = y.1.2.overheard + y.1.2.inFlight.length ∧
      (y.2.isCheck = true →
        (y.1.1.accountOf v).countFwd = (y.1.1.accountOf v).countRcv ∧
        (0 < y.1.2.handed → y.1.2.handed < 2 ^ 32 →
          (y.1.1.fpntNext r.env y.2).forwardingRate v = some 1)) := by
  intro y hy
  have hcounts : y.1.1.Counts v y.1.2 := by
    refine Lib.inv_trace (I := fun z : Node OlsrDefenseFpnt × Deliveries => z.1.Counts v z.2)
      (P := fun z x => z.1.EnabledFpnt x ∧ z.1.Honest r.env v z.2 x ∧ z.1.Traceable r.env v z.2 x)
      (fun z x hz hx => hz.fpntNext hv hx.1 hx.2.1 hx.2.2) (r.start_counts v henabled)
      (fun z hz => ⟨r.deliveries_enabled v hz, hhonest z hz, htrace z hz⟩) y hy
  have hnext := hcounts.fpntNext hv (r.deliveries_enabled v hy) (hhonest y hy) (htrace y hy)
  -- The counters before and after this one input.
  obtain ⟨a, ha, hmatches⟩ := id hcounts
  obtain ⟨a', ha', hmatches'⟩ := hnext
  rw [Node.Counts.accountOf ha, Node.Counts.accountOf ha']
  refine ⟨fun hheard => ?_, fun hheard hcheck => ?_, hmatches.countRcv, hmatches.handed,
    fun hcheck => ⟨?_, fun hpos hfits => ?_⟩⟩
  · obtain ⟨header, hheader⟩ := Option.isSome_iff_exists.mp hheard
    rw [hmatches'.countFwd, hmatches.countFwd, Node.deliver_overheard_of_some hheader,
      UInt32.ofNat_add]
    rfl
  · rw [hmatches'.countFwd, hmatches.countFwd, Node.deliver_overheard_of_none hcheck hheard]
  · exact (hmatches.settled ((htrace y hy).check hcheck)).1
  · have hselector := (hhonest y hy).selector (Or.inr (Or.inr ⟨hcheck, hpos.ne'⟩))
    have hsome : (y.1.1.accountOf v).countRcv ≠ 0 := by
      rw [Node.Counts.accountOf ha, hmatches.countRcv]
      intro hzero
      have hnat := congrArg UInt32.toNat hzero
      rw [UInt32.toNat_ofNat_of_lt' hfits] at hnat
      exact hpos.ne' hnat
    have hempty := (htrace y hy).check hcheck
    obtain ⟨t, jitter, vectors, hx⟩ := Node.exists_of_isCheck hcheck
    have hrate := hcounts.check r.env (r.deliveries_enabled v hy).1 t jitter vectors hempty
    rw [hx]
    exact hrate.2 hselector hsome

end FpntRun

section Passing

open Scenario

/-- The node 2 has chosen this one as an MPR, and leads to the node 4. -/
def selectorHello : FpntInput :=
  .control (recv 0 2 (hello 2 [mprLinks [1], symLinks [4]] 0x07)) fun _ => []

/-- The stations with the addresses 2 and 4. -/
def stationAddress (mac : Mac48Address) : Ipv4Address := if mac = 2 then 2 else if mac = 4 then 4 else 0

/-- The node 2 passes the packet on to the node 4, which is overheard; then comes a check. -/
def passedOn (p : IpPacket) : List FpntInput :=
  [.frame 0 2 4 p stationAddress, .control (.timer (Seconds 5) .handleDefenseTimer 0) fun _ => []]

def relayedPacket : IpPacket := ⟨0, 128, ⟨3, 4, 7, 100⟩⟩

/-- A packet of the node 3 is relayed. -/
def relaying : FpntRun where
  config := quietFpnt
  strategy := {}
  installed := quietFpnt_installed
  fresh := OlsrDefenseFpnt.resetAccumulatedState_default
  checked := OlsrDefenseFpnt.attributesChecked_default
  jitter := 0
  isJitter := quietFpnt_isJitter
  env := { ipv4 := forwardingIpv4 }
  inputs := .control (.timer 0 .sendQueuedMessages 0) (fun _ => []) :: selectorHello ::
    .routeInput 0 relayedPacket 0 true :: passedOn relayedPacket
  isRun := by decide +kernel

def ownPacket : IpPacket := ⟨0, 128, ⟨1, 4, 7, 100⟩⟩

/-- A packet of this node takes the same way. -/
def originating : FpntRun where
  config := quietFpnt
  strategy := {}
  installed := quietFpnt_installed
  fresh := OlsrDefenseFpnt.resetAccumulatedState_default
  checked := OlsrDefenseFpnt.attributesChecked_default
  jitter := 0
  isJitter := quietFpnt_isJitter
  env := { ipv4 := forwardingIpv4 }
  inputs := .control (.timer 0 .sendQueuedMessages 0) (fun _ => []) :: selectorHello ::
    .routeOutput 0 ownPacket none :: passedOn ownPacket
  isRun := by decide +kernel

/-- The retransmission of the relayed packet is credited, and the check finds the rate one. -/
theorem relaying_forwarding_credited :
    ∃ y ∈ relaying.deliveries 2, y.2.isCheck = true ∧ y.1.2 = ⟨1, 1, []⟩ ∧
      (y.1.1.fpntNext relaying.env y.2).forwardingRate 2 = some 1 := by
  have hcheck : ∃ y ∈ relaying.deliveries 2, y.2.isCheck = true ∧ y.1.2 = ⟨1, 1, []⟩ := by
    decide +kernel
  obtain ⟨y, hy, hcheck, hhanded⟩ := hcheck
  have hcredited := relaying.forwarding_credited rfl (v := 2) ⟨by decide, by decide⟩
    (by decide +kernel) (by decide +kernel) y hy
  refine ⟨y, hy, hcheck, hhanded, (hcredited.2.2.2.2 hcheck).2 ?_ ?_⟩
  · rw [hhanded]
    exact Nat.one_pos
  · rw [hhanded]
    norm_num

/-- **An honest selector without credit.**  The node 2 forwards what it is given, which is overheard,
and the check finds it to have forwarded nothing. -/
theorem originating_not_credited :
    (∀ y ∈ originating.deliveries 2, y.1.1.Honest originating.env 2 y.1.2 y.2) ∧
      ∃ y ∈ originating.deliveries 2, y.2.isCheck = true ∧ y.1.2 = ⟨1, 1, []⟩ ∧
        (y.1.1.accountOf 2).countRcv = 1 ∧ (y.1.1.accountOf 2).countFwd = 0 ∧
        (y.1.1.fpntNext originating.env y.2).forwardingRate 2 = some 0 :=
  ⟨by decide +kernel, by decide +kernel⟩

end Passing

end ManetOlsr
