/-
`OlsrDefenseFpnt`, the defense that rates its neighbors with a fuzzy Petri net.

The hooks count what the MPR selectors of the node receive and pass on, and how the MPRs keep to the
protocol.  Once in a period the counters become degrees of truth, the net infers from them how far
a node can be trusted, and the evaluations of other nodes, which come with their TC messages, are
mixed in.  The doubles of the source are rational numbers here: nothing is rounded but where the
source rounds.  `tcInterval` is the attribute that the source reads off the protocol.
-/
import ManetOlsr.Model.Forwarding
import ManetOlsr.Model.TrustRouting
import Mathlib.Algebra.BigOperators.Fin
import Mathlib.Algebra.Order.Floor.Semiring
import Mathlib.Data.Fin.VecNotation
import Mathlib.Data.Finset.Sort
import Mathlib.Data.Rat.Floor
import Mathlib.Tactic.NormNum

namespace ManetOlsr

/-- The members of an IP header that the defense reads. -/
structure Ipv4Header where
  source : Ipv4Address
  destination : Ipv4Address
  identification : UInt16
  payloadSize : UInt16
deriving DecidableEq, Repr

/-- `HashIpv4Header`. -/
def hashIpv4Header (h : Ipv4Header) : UInt64 :=
  let v := (h.source.toUInt64 <<< 32) ||| h.destination.toUInt64
  let v := v ^^^ ((h.identification.toUInt64 <<< 16) ||| h.payloadSize.toUInt64)
  let v := (v ^^^ (v >>> 30)) * 0xbf58476d1ce4e5b9
  let v := (v ^^^ (v >>> 27)) * 0x94d049bb133111eb
  v ^^^ (v >>> 31)

structure EvaluationVector where
  trust : UInt8 := 0
  distrust : UInt8 := 0
  uncertain : UInt8 := 0
deriving DecidableEq, Repr

namespace OlsrDefenseFpnt

/-! ### The net -/

abbrev numPlaces : ℕ := 15

instance : NeZero numPlaces := ⟨by decide⟩

abbrev numTransitions : ℕ := 11

abbrev p1LoadHigh : Fin numPlaces := 0
abbrev p2LoadLow : Fin numPlaces := 1
abbrev p3FwdHigh : Fin numPlaces := 2
abbrev p4FwdLow : Fin numPlaces := 3
abbrev p5DelayHigh : Fin numPlaces := 4
abbrev p6DelayLow : Fin numPlaces := 5
abbrev p7RouteBad : Fin numPlaces := 6
abbrev p8RouteOk : Fin numPlaces := 7
abbrev p14Distrust : Fin numPlaces := 13
abbrev p15Trust : Fin numPlaces := 14

/-- A degree of truth for every place. -/
abbrev Marking : Type := Fin numPlaces → ℚ

/-- The firing thresholds of the transitions. -/
def th : Fin numTransitions → ℚ :=
  ![2/5, 2/5, 1/2, 1/2, 1/2, 7/10, 4/5, 2/5, 2/5, 2/5, 3/5]

/-- The weights of the inputs of each transition. -/
def wT : Fin numTransitions → Marking :=
  ![![1, 0, 0, 0, 0, 0, 0, 0, 0, 0, 0, 0, 0, 0, 0],
    ![0, 0, 0, 1, 0, 0, 0, 0, 0, 0, 0, 0, 0, 0, 0],
    ![0, 0, 0, 0, 1, 0, 0, 0, 0, 0, 0, 0, 0, 0, 0],
    ![0, 3/5, 0, 0, 2/5, 0, 0, 0, 0, 0, 0, 0, 0, 0, 0],
    ![0, 0, 0, 0, 0, 0, 1, 0, 0, 0, 0, 0, 0, 0, 0],
    ![0, 1/10, 3/5, 0, 0, 3/10, 0, 0, 0, 0, 0, 0, 0, 0, 0],
    ![0, 0, 0, 0, 0, 0, 0, 1, 0, 0, 0, 0, 0, 0, 0],
    ![0, 0, 0, 0, 0, 0, 0, 0, 1, 0, 0, 0, 0, 0, 0],
    ![0, 0, 0, 0, 0, 0, 0, 0, 0, 1, 0, 0, 0, 0, 0],
    ![0, 0, 0, 0, 0, 0, 0, 0, 0, 0, 1, 0, 0, 0, 0],
    ![0, 0, 0, 0, 0, 0, 0, 0, 0, 0, 0, 1/2, 1/2, 0, 0]]

/-- The weights of the arcs from the transitions to each place. -/
def uMat : Fin numPlaces → Fin numTransitions → ℚ :=
  ![![0, 0, 0, 0, 0, 0, 0, 0, 0, 0, 0],
    ![0, 0, 0, 0, 0, 0, 0, 0, 0, 0, 0],
    ![0, 0, 0, 0, 0, 0, 0, 0, 0, 0, 0],
    ![0, 0, 0, 0, 0, 0, 0, 0, 0, 0, 0],
    ![0, 0, 0, 0, 0, 0, 0, 0, 0, 0, 0],
    ![0, 0, 0, 0, 0, 0, 0, 0, 0, 0, 0],
    ![0, 0, 0, 0, 0, 0, 0, 0, 0, 0, 0],
    ![0, 0, 0, 0, 0, 0, 0, 0, 0, 0, 0],
    ![9/10, 9/10, 3/5, 0, 0, 0, 0, 0, 0, 0, 0],
    ![0, 0, 0, 4/5, 0, 0, 0, 0, 0, 0, 0],
    ![0, 0, 0, 0, 9/10, 0, 0, 0, 0, 0, 0],
    ![0, 0, 0, 0, 0, 9/10, 0, 0, 0, 0, 0],
    ![0, 0, 0, 0, 0, 0, 1, 0, 0, 0, 0],
    ![0, 0, 0, 0, 0, 0, 0, 9/10, 7/10, 9/10, 0],
    ![0, 0, 0, 0, 0, 0, 0, 0, 0, 0, 9/10]]

def maxFpnIterations : ℕ := 10

def difEps : ℚ := 1 / 1000000000

def d1HoldMultiplier : ℤ := 3

/-- `MatrixOp_Threshold`. -/
def matrixOpThreshold (input threshold : Fin numTransitions → ℚ) : Fin numTransitions → ℚ :=
  fun r => if input r > threshold r then input r else 0

/-- `MatrixOp_Max`. -/
def matrixOpMax (a b : Marking) : Marking := fun p => max (a p) (b p)

/-- `MatrixOp_WeightedMax`. -/
def matrixOpWeightedMax (u : Fin numPlaces → Fin numTransitions → ℚ)
    (g : Fin numTransitions → ℚ) : Marking := fun p =>
  (List.finRange numTransitions).foldl
    (fun maxVal r => if u p r * g r > maxVal then u p r * g r else maxVal) 0

/-- The marking after steps 1 to 4. -/
def fpnNext (s : Marking) : Marking :=
  matrixOpMax s (matrixOpWeightedMax uMat (matrixOpThreshold (fun r => ∑ p, wT r p * s p) th))

/-- The variables of the loop, `converged` being set where it breaks. -/
structure FpnLoop where
  s : Marking
  converged : Bool := false

def fpnRound (x : FpnLoop) : FpnLoop :=
  if fpnNext x.s = x.s then { x with converged := true } else { x with s := fpnNext x.s }

/-- `std::round` of a double between 0 and 255, as a byte. -/
def roundByte (x : ℚ) : UInt8 := UInt8.ofNat ⌊x + 1 / 2⌋₊

/-- `RunFuzzyPetriNet`. -/
def runFuzzyPetriNet (s0 : Marking) : EvaluationVector :=
  let s := (Lib.whileLoop (fun x => !x.converged) fpnRound maxFpnIterations { s := s0 }).s
  let sTrust := s p15Trust
  let sDistrust := s p14Distrust
  if sTrust + sDistrust < 1 then
    ⟨roundByte (sTrust * 255), roundByte (sDistrust * 255),
      roundByte ((1 - sTrust - sDistrust) * 255)⟩
  else ⟨roundByte (sTrust * 255), roundByte ((1 - sTrust) * 255), roundByte 0⟩

/-! ### The aggregation -/

/-- The distance of two evaluations. -/
def evDistance (e e' : EvaluationVector) : ℚ :=
  |(e.trust.toNat / 255 : ℚ) - e'.trust.toNat / 255| +
    |(e.distrust.toNat / 255 : ℚ) - e'.distrust.toNat / 255| +
    |(e.uncertain.toNat / 255 : ℚ) - e'.uncertain.toNat / 255|

def dif (evs : List EvaluationVector) (e : EvaluationVector) : ℚ := (evs.map (evDistance e)).sum

/-- `*std::max_element`, of a list that is not empty. -/
def maxDif (evs : List EvaluationVector) : ℚ := (evs.map (dif evs)).foldl max 0

/-- The weight of one of the evaluations. -/
def alpha (evs : List EvaluationVector) (e : EvaluationVector) : ℚ :=
  if maxDif evs < difEps then 1 / evs.length
  else (1 / dif evs e) / (evs.map fun e' => 1 / dif evs e').sum

/-- `std::clamp`. -/
def clamp (x lo hi : ℚ) : ℚ := if x < lo then lo else if hi < x then hi else x

/-- `AggregateEvaluations`: the trust and the uncertainty. -/
def aggregateEvaluations (evs : List EvaluationVector) : ℚ × ℚ :=
  (clamp (evs.map fun e => alpha evs e * (e.trust.toNat / 255)).sum 0 1,
    clamp (evs.map fun e => alpha evs e * (e.uncertain.toNat / 255)).sum 0 1)

/-! ### What is stored for a neighbor -/

structure NodeBehaviorMetrics where
  countLoad : UInt32 := 0
  countRcv : UInt32 := 0
  countFwd : UInt32 := 0
  countRCheat : UInt32 := 0
  totalDelay : ℚ := 0
deriving DecidableEq, Repr

end OlsrDefenseFpnt

open OlsrDefenseFpnt in
/-- The members of `OlsrDefenseFpnt`, with the defaults of its attributes. -/
structure OlsrDefenseFpnt where
  hasProtocol : Bool := false
  tcInterval : Time := Seconds 5
  selfAddress : Ipv4Address := unsetAddress
  metrics : List (Ipv4Address × NodeBehaviorMetrics) := []
  trustTable : List (Ipv4Address × ℚ) := []
  directEvaluationVectors : List (Ipv4Address × EvaluationVector) := []
  lastSValues : List (Ipv4Address × Marking) := []
  recommendations : List ((Ipv4Address × Ipv4Address) × EvaluationVector) := []
  pendingArrivals : List (Ipv4Address × List (UInt64 × Time)) := []
  lastTcTime : List (Ipv4Address × Time) := []
  mprSelectionTime : List (Ipv4Address × Time) := []
  checkInterval : Time := Seconds 5
  maliciousThreshold : ℚ := 1 / 5
  uncertaintyBeta : ℚ := 3 / 5
  fadingFactor : ℚ := 7 / 10
  maxLoad : ℚ := 1000000
  maxDelay : ℚ := 1 / 2
  cheatThreshold : UInt32 := 2
  enabled : Bool := true

namespace OlsrDefenseFpnt

variable (d : OlsrDefenseFpnt) (now : Time) (s : OlsrState)

/-- What the checkers of the attributes demand. -/
structure AttributesChecked (d : OlsrDefenseFpnt) : Prop where
  maliciousThreshold : 0 ≤ d.maliciousThreshold ∧ d.maliciousThreshold ≤ 1
  uncertaintyBeta : 0 ≤ d.uncertaintyBeta ∧ d.uncertaintyBeta ≤ 1
  fadingFactor : 0 ≤ d.fadingFactor ∧ d.fadingFactor ≤ 1
  maxLoad : 1 ≤ d.maxLoad
  maxDelay : 1 / 1000 ≤ d.maxDelay

/-- The defaults pass their own checks. -/
lemma attributesChecked_default : ({} : OlsrDefenseFpnt).AttributesChecked := by
  constructor <;> norm_num

/-- `Time::GetSeconds`. -/
def getSeconds (t : Time) : ℚ := t / 1000000000

/-- `m_metrics[addr]`, which is inserted when it is read for the first time. -/
def metricsOf (addr : Ipv4Address) : NodeBehaviorMetrics := (Lib.mapFind d.metrics addr).getD {}

def setMetrics (addr : Ipv4Address) (m : NodeBehaviorMetrics) : OlsrDefenseFpnt :=
  { d with metrics := Lib.mapSet Ipv4Address.lt addr m d.metrics }

/-- `m_pendingArrivals[addr]`. -/
def pendingOf (addr : Ipv4Address) : List (UInt64 × Time) :=
  (Lib.mapFind d.pendingArrivals addr).getD []

def setPending (addr : Ipv4Address) (pending : List (UInt64 × Time)) : OlsrDefenseFpnt :=
  { d with pendingArrivals := Lib.mapSet Ipv4Address.lt addr pending d.pendingArrivals }

def setup (nodeAddress : Ipv4Address) : OlsrDefenseFpnt :=
  { d with hasProtocol := true, selfAddress := nodeAddress }

/-- What `SetEnabled` clears. -/
def resetAccumulatedState : OlsrDefenseFpnt :=
  { d with
    metrics := []
    pendingArrivals := []
    recommendations := []
    directEvaluationVectors := []
    lastSValues := []
    trustTable := []
    lastTcTime := []
    mprSelectionTime := [] }

lemma resetAccumulatedState_default :
    ({} : OlsrDefenseFpnt).resetAccumulatedState = {} := rfl

/-- `SetEnabled` up to the call of `RunTrustDijkstra`, which it makes if the value changes. -/
def setEnabled (enabled : Bool) : OlsrDefenseFpnt :=
  if d.enabled = enabled then d else { d with enabled := enabled }.resetAccumulatedState

/-! ### The verdicts -/

def isMalicious (addr : Ipv4Address) : Bool :=
  if !d.enabled then false
  else
    match Lib.mapFind d.trustTable addr with
    | none => false
    | some trust => decide (trust < d.maliciousThreshold)

def getBlacklist : Finset Ipv4Address :=
  if !d.enabled then ∅
  else
    ((d.trustTable.filter fun kv => decide (kv.2 < d.maliciousThreshold)).map Prod.fst).toFinset

/-- The node occurs in the neighbor set or the 2-hop neighbor set. -/
def seenInRealState (s : OlsrState) (node : Ipv4Address) : Bool :=
  (s.neighborSet.any fun nb => nb.neighborMainAddr == node) ||
  s.twoHopNeighborSet.any fun nb2 =>
    nb2.twoHopNeighborAddr == node || nb2.neighborMainAddr == node

def getNodeTrust (node : Ipv4Address) : ℚ :=
  if !d.enabled then d.uncertaintyBeta
  else
    match Lib.mapFind d.trustTable node with
    | some trust => trust
    | none =>
      if d.hasProtocol && !seenInRealState s node then
        max (d.maliciousThreshold + 1 / 100) (d.uncertaintyBeta * (1 / 2))
      else d.uncertaintyBeta

/-! ### TC messages -/

/-- The order of `std::pair`. -/
def pairLt (a b : Ipv4Address × Ipv4Address) : Bool :=
  Ipv4Address.lt a.1 b.1 || (a.1 == b.1 && Ipv4Address.lt a.2 b.2)

def onRecvEvaluationVectors (sender : Ipv4Address) (advertisedNeighbors : List Ipv4Address)
    (vectors : List EvaluationVector) : OlsrDefenseFpnt :=
  if advertisedNeighbors.length ≠ vectors.length then d
  else
    { d with
      recommendations := (advertisedNeighbors.zip vectors).foldl
        (fun m tv => Lib.mapSet pairLt (sender, tv.1) tv.2 m) d.recommendations }

def raiseRCheat (addr : Ipv4Address) : OlsrDefenseFpnt :=
  let m := d.metricsOf addr
  d.setMetrics addr { m with countRCheat := m.countRCheat + 1 }

def onRecvTc (msg : MessageHeader) (tc : Tc) : OlsrDefenseFpnt :=
  let originator := msg.originatorAddress
  let d := { d with lastTcTime := Lib.mapSet Ipv4Address.lt originator now d.lastTcTime }
  if !d.hasProtocol then d
  else if originator ∉ s.mprSet then d
  else
    match Lib.mapFind d.mprSelectionTime originator with
    | none =>
      { d with mprSelectionTime := Lib.mapSet Ipv4Address.lt originator now d.mprSelectionTime }
    | some since =>
      if now - since < d.tcInterval * d1HoldMultiplier then d
      else if d.selfAddress ∈ tc.neighborAddresses then d
      else d.raiseRCheat originator

/-! ### Data packets -/

/-- The address is the main address of a node that chose this one as an MPR. -/
def isOurSelector (s : OlsrState) (addr : Ipv4Address) : Bool :=
  s.mprSelectorSet.any fun sel => sel.mainAddr == addr

def keyLt (a b : UInt64) : Bool := decide (a < b)

/-- Remember the arrival of a packet, unless it is known. -/
def seedArrival (addr : Ipv4Address) (key : UInt64) : OlsrDefenseFpnt :=
  let pending := d.pendingOf addr
  d.setPending addr
    (if (Lib.mapFind pending key).isSome then pending else Lib.mapSet keyLt key now pending)

/-- A packet of this size is on its way to a selector. -/
def countArrival (addr finalDest : Ipv4Address) (size : UInt32) (key : UInt64) : OlsrDefenseFpnt :=
  let m := d.metricsOf addr
  let d := d.setMetrics addr { m with countLoad := m.countLoad + size }
  if addr = finalDest then d
  else
    let m := d.metricsOf addr
    (d.setMetrics addr { m with countRcv := m.countRcv + 1 }).seedArrival now addr key

def onDataPacketForwarded (header : Ipv4Header) (size : UInt32) (nextHop finalDest : Ipv4Address) :
    OlsrDefenseFpnt :=
  if nextHop = 0xffffffff then d
  else if nextHop = 0 then d
  else if !d.hasProtocol then d
  else if !isOurSelector s nextHop then d
  else d.countArrival now nextHop finalDest size (hashIpv4Header header)

/-- The transmitter has passed on a packet that it owes. -/
def creditForward (txAddr : Ipv4Address) (fingerprint : UInt64) : OlsrDefenseFpnt :=
  match Lib.mapFind (d.pendingOf txAddr) fingerprint with
  | none => d.setPending txAddr (d.pendingOf txAddr)
  | some arrivalTime =>
    let m := d.metricsOf txAddr
    let delay := getSeconds (now - arrivalTime)
    (d.setMetrics txAddr
      { m with
        countFwd := m.countFwd + 1
        totalDelay := if delay ≥ 0 then m.totalDelay + delay else m.totalDelay }).setPending txAddr
      ((d.pendingOf txAddr).filter fun kv => !(kv.1 == fingerprint))

/-- `OnNeighborForwardedPacket`; `macToIpv4` stands for `MacToIpv4`. -/
def onNeighborForwardedPacket (macToIpv4 : Mac48Address → Ipv4Address)
    (transmitter receiver : Mac48Address) (header : Ipv4Header) (size : UInt32) : OlsrDefenseFpnt :=
  if !d.hasProtocol then d
  else
    let fingerprint := hashIpv4Header header
    let txAddr := macToIpv4 transmitter
    let d :=
      if txAddr ≠ 0 ∧ isOurSelector s txAddr then d.creditForward now txAddr fingerprint else d
    if receiver.isGroup then d
    else
      let rxAddr := macToIpv4 receiver
      if rxAddr = 0 then d
      else if !isOurSelector s rxAddr then d
      else d.countArrival now rxAddr header.destination size fingerprint

def onMacTxFailure (neighbor : Ipv4Address) (count : ℕ) : OlsrDefenseFpnt :=
  if !d.enabled then d
  else if neighbor = 0 ∨ neighbor = 0xffffffff then d
  else
    match Lib.mapFind d.metrics neighbor with
    | none => d
    | some m =>
      d.setMetrics neighbor
        { m with
          countRcv :=
            if m.countRcv ≥ UInt32.ofNat count then m.countRcv - UInt32.ofNat count else 0 }

/-! ### The periodic check -/

/-- The addresses with counters that are no longer selectors. -/
def noLongerSelectors : List Ipv4Address :=
  (d.metrics.map Prod.fst).filter fun addr => !isOurSelector s addr

/-- The first loop of `PeriodicCheck`. -/
def forgetNonSelectors : OlsrDefenseFpnt :=
  let gone := d.noLongerSelectors s
  { d with
    metrics := d.metrics.filter fun kv => !gone.contains kv.1
    pendingArrivals := d.pendingArrivals.filter fun kv => !gone.contains kv.1
    directEvaluationVectors := d.directEvaluationVectors.filter fun kv => !gone.contains kv.1
    lastSValues := d.lastSValues.filter fun kv => !gone.contains kv.1 }

/-- `ScanDeviationRuleD1` for one MPR. -/
def scanMpr (d : OlsrDefenseFpnt) (mpr : Ipv4Address) : OlsrDefenseFpnt :=
  match Lib.mapFind d.mprSelectionTime mpr with
  | none => { d with mprSelectionTime := Lib.mapSet Ipv4Address.lt mpr now d.mprSelectionTime }
  | some selectedSince =>
    let holdTime := d.tcInterval * d1HoldMultiplier
    if now - selectedSince < holdTime then d
    else
      let age :=
        match Lib.mapFind d.lastTcTime mpr with
        | none => now - selectedSince
        | some last => now - last
      if age > holdTime then d.raiseRCheat mpr else d

def scanDeviationRuleD1 : OlsrDefenseFpnt :=
  if !d.hasProtocol then d
  else
    (s.mprSet.sort (· ≤ ·)).foldl (scanMpr now)
      { d with mprSelectionTime := d.mprSelectionTime.filter fun kv => decide (kv.1 ∈ s.mprSet) }

def expireStaleArrivals : OlsrDefenseFpnt :=
  { d with
    pendingArrivals := d.pendingArrivals.map fun kv =>
      (kv.1, kv.2.filter fun p => !decide (p.2 < now - d.checkInterval * 2)) }

/-- One of the factors that are 0 without evidence, and keep their last values without new
evidence. -/
def factor (evidence : Option ℚ) (last : Option Marking) (high low : Fin numPlaces) (s : Marking) :
    Marking :=
  match evidence, last with
  | some x, _ => Function.update (Function.update s high x) low (1 - x)
  | none, some m => Function.update (Function.update s high (m high)) low (m low)
  | none, none => s

def metricsToS0 (addr : Ipv4Address) (m : NodeBehaviorMetrics) : Marking :=
  let last := Lib.mapFind d.lastSValues addr
  let t := getSeconds d.checkInterval
  let tSafe := if t > 0 then t else 1
  let load :=
    if m.countLoad > 0 then some (clamp (m.countLoad.toNat * 8 / tSafe / d.maxLoad) 0 1) else none
  let pfr :=
    if m.countRcv > 0 then some (clamp (m.countFwd.toNat / m.countRcv.toNat) 0 1) else none
  let delay :=
    if m.countFwd > 0 ∧ m.totalDelay > 0 then
      some (clamp (m.totalDelay / m.countFwd.toNat / d.maxDelay) 0 1)
    else none
  let s := factor load last p1LoadHigh p2LoadLow fun _ => 0
  let s := factor pfr last p3FwdHigh p4FwdLow s
  let s := factor delay last p5DelayHigh p6DelayLow s
  let deviates := decide (m.countRCheat > d.cheatThreshold)
  Function.update (Function.update s p7RouteBad (if deviates then 1 else 0)) p8RouteOk
    (if deviates then 0 else 1)

/-- Step 1 for one neighbor. -/
def evaluate (d : OlsrDefenseFpnt) (kv : Ipv4Address × NodeBehaviorMetrics) : OlsrDefenseFpnt :=
  let s0 := d.metricsToS0 kv.1 kv.2
  { d with
    lastSValues := Lib.mapSet Ipv4Address.lt kv.1 s0 d.lastSValues
    directEvaluationVectors :=
      Lib.mapSet Ipv4Address.lt kv.1 (runFuzzyPetriNet s0) d.directEvaluationVectors }

def targets : List Ipv4Address :=
  (d.directEvaluationVectors.map Prod.fst ++ d.recommendations.map fun kv => kv.1.2).foldl
    (fun l addr => Lib.setInsert Ipv4Address.lt addr l) []

/-- The evidence about a target: the direct evaluation, and what others say. -/
def evidence (addr : Ipv4Address) : List EvaluationVector :=
  (Lib.mapFind d.directEvaluationVectors addr).toList ++
    (d.recommendations.filter fun kv => kv.1.2 == addr).map Prod.snd

/-- Step 3 for one target.  The flag is `needsReactiveUpdate`. -/
def updateTrust (x : OlsrDefenseFpnt × Bool) (addr : Ipv4Address) : OlsrDefenseFpnt × Bool :=
  let d := x.1
  let evs := d.evidence addr
  if evs.isEmpty then x
  else
    let agg := aggregateEvaluations evs
    let tc := clamp (agg.1 + d.uncertaintyBeta * agg.2) 0 1
    let old := Lib.mapFind d.trustTable addr
    let finalTrust :=
      match old with
      | some t => (1 - d.fadingFactor) * tc + d.fadingFactor * t
      | none => tc
    let wasMalicious := old.any fun t => decide (t < d.maliciousThreshold)
    let isMalicious := decide (finalTrust < d.maliciousThreshold)
    ({ d with trustTable := Lib.mapSet Ipv4Address.lt addr finalTrust d.trustTable },
      x.2 || (wasMalicious != isMalicious))

/-- `PeriodicCheck`, with the answer to the question whether it calls `RunTrustDijkstra`. -/
def periodicCheck : OlsrDefenseFpnt × Bool :=
  if !d.enabled then ({ d with metrics := [], recommendations := [], pendingArrivals := [] }, false)
  else
    let d := if d.hasProtocol then d.forgetNonSelectors s else d
    let d := (d.scanDeviationRuleD1 now s).expireStaleArrivals now
    let d := d.metrics.foldl evaluate d
    let x := d.targets.foldl updateTrust (d, false)
    ({ x.1 with metrics := [], recommendations := [] }, x.2 && x.1.hasProtocol)

end OlsrDefenseFpnt

instance : OlsrDefenseStrategy OlsrDefenseFpnt where
  setup d _ nodeAddress := d.setup nodeAddress
  isMalicious d _ addr := d.isMalicious addr
  getBlacklist d _ := d.getBlacklist
  requiresFictitiousNode _ _ _ := false
  onRecvHello d _ _ _ _ _ := d
  onRecvTc d now s _ msg tc := d.onRecvTc now s msg tc
  onTcGenerated d _ _ _ := d
  onMacTxFailure d _ _ neighbor count := d.onMacTxFailure neighbor count
  onSelfReliabilityReport d _ _ _ := d
  periodicCheck d now s := (d.periodicCheck now s).1

end ManetOlsr
