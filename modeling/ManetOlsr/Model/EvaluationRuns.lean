/-
Runs of the evaluation harness (`olsr-dcfm-eval-mitigation.cc` from the slots on).

A run has four slots, in each of which one of the four scenarios is in force: the attack is on or off,
and the defense is on or off.  `main` schedules what the harness does before the simulation starts;
`timeline` puts this in order with what the network does meanwhile.  The nodes of the network are nodes
of the protocol with the DCFM defense, which do as they like.

A staged row is kept by its values.  Left out are the flow monitor and what is computed from the
columns that are here, the path lengths and trust values of the oracle row, and the handlers that
only print.
-/
import ManetOlsr.Lib.Timeline
import ManetOlsr.Model.AttackerCount
import ManetOlsr.Model.ColdStart
import ManetOlsr.Model.ConnectivityGates
import ManetOlsr.Model.DetectionMetrics
import ManetOlsr.Model.FeatureCollector
import Mathlib.Data.Fin.VecNotation
import Mathlib.GroupTheory.Perm.Basic

namespace ManetOlsr

/-! ### Scenarios and slots -/

structure ScenarioSpec where
  name : String
  attackEnabled : Bool
  defenseEnabled : Bool
deriving DecidableEq, Repr

/-- `SCENARIOS`. -/
def scenarios : Fin 4 → ScenarioSpec :=
  ![⟨"baseline", false, false⟩, ⟨"attack_only", true, false⟩, ⟨"defense_only", false, true⟩,
    ⟨"defense_vs_attack", true, true⟩]

/-- `LabelsForScenario`: the labels of the attack and of the defense. -/
def labelsForScenario (name : String) : ℕ × ℕ :=
  match (List.finRange 4).find? fun i => name == (scenarios i).name with
  | some i => ((scenarios i).attackEnabled.toNat, (scenarios i).defenseEnabled.toNat)
  | none => (0, 0)

/-- What `main` has fixed before it schedules anything.  The canonical order of the scenarios is the
identity; `DeterministicShuffle` permutes it in a mixed order. -/
structure EvaluationConfig where
  randomWindowOrder : Bool
  scenarioOrder : Equiv.Perm (Fin 4)
  canonical : randomWindowOrder = false → scenarioOrder = 1
  attackerIds : List UInt32
  spoofCount : ℕ
  maliciousNodesList : List Char
  flowPairs : List (ℕ × ℕ)
  flowAddrPairs : List (Ipv4Address × Ipv4Address)
  headers : FrameHeaders
  sqrt : ℚ → ℚ

/-- The scenario of a slot. -/
def EvaluationConfig.scenario (c : EvaluationConfig) (k : Fin 4) : ScenarioSpec :=
  scenarios (c.scenarioOrder k)

def initialStabilization (randomWindowOrder : Bool) : Time :=
  if randomWindowOrder then Seconds 60 else 0

def slotTransitionTime (randomWindowOrder : Bool) (k : Fin 4) : Time :=
  initialStabilization randomWindowOrder + (k : ℕ) * Seconds 100

def slotWindowStart (randomWindowOrder : Bool) (k : Fin 4) : Time :=
  slotTransitionTime randomWindowOrder k + Seconds 60

def slotWindowEnd (randomWindowOrder : Bool) (k : Fin 4) : Time :=
  slotWindowStart randomWindowOrder k + Seconds 40

def simulationTail (randomWindowOrder : Bool) : Time :=
  initialStabilization randomWindowOrder + 4 * Seconds 100 + Seconds 2

/-- The functions that `main` schedules. -/
inductive Handler where
  | observeAttackerOnPath
  | sampleDetectionAccuracy
  | assertConnectivity
  | assertRouteExists
  | applyScenarioState (slot : Fin 4)
  | startSlot (slot : Fin 4)
  | endSlot (slot : Fin 4)
deriving DecidableEq, Repr

/-- The calls of `Simulator::Schedule`, in their order. -/
def schedule (randomWindowOrder : Bool) : List (Time × Handler) :=
  let windowStart := slotWindowStart randomWindowOrder
  let windowEnd := slotWindowEnd randomWindowOrder
  ((List.finRange 4).flatMap fun k =>
    [(windowStart k + Seconds 4 - Seconds 2, Handler.observeAttackerOnPath),
      (windowEnd k - 1000000, Handler.sampleDetectionAccuracy)]) ++
  [(Seconds 60, Handler.assertConnectivity), (Seconds 60, Handler.assertRouteExists)] ++
  ((List.finRange 4).map fun k =>
    (slotTransitionTime randomWindowOrder k, Handler.applyScenarioState k)) ++
  (List.finRange 4).flatMap fun k =>
    [(windowStart k, Handler.startSlot k), (windowEnd k, Handler.endSlot k)]

/-- What the network does: an act of a node, and what the harness has traced. -/
inductive NetworkEvent where
  | node (i : ℕ) (a : Act OlsrDefenseGcop)
  | sniffedByListener (packet : Option (List UInt8))
  | olsrPacketSent (size : ℕ) (messages : List MessageHeader)
  | udpReceived
  | macTx
  | macTxDrop

/-! ### The variables of the harness -/

/-- The counters that `ResetOlsrCounters` sets to 0. -/
structure OlsrCounters where
  helloCount : ℕ := 0
  tcCount : ℕ := 0
  midCount : ℕ := 0
  hnaCount : ℕ := 0
  totalTcRows : ℕ := 0
  olsrControlBytesWithHello : ℕ := 0
deriving DecidableEq, Repr

/-- The body of the loop of `TraceOlsrPacket`. -/
def OlsrCounters.countMessage (c : OlsrCounters) (msg : MessageHeader) : OlsrCounters :=
  match msg.body with
  | .hello _ => { c with helloCount := c.helloCount + 1 }
  | .tc tc =>
    { c with tcCount := c.tcCount + 1, totalTcRows := c.totalTcRows + tc.neighborAddresses.length }
  | .mid _ => { c with midCount := c.midCount + 1 }
  | .hna _ => { c with hnaCount := c.hnaCount + 1 }

/-- The sums of the counters of the UDP servers and of the MAC layers, which only grow. -/
structure Totals where
  udpReceived : ℕ := 0
  macTx : ℕ := 0
  macDrop : ℕ := 0
deriving DecidableEq, Repr

/-- The rows of a window, as far as they are kept here. -/
structure WindowRow where
  scenarioName : String
  windowStart : Time
  windowEnd : Time
  defenseEnabled : ℕ
  attackEnabled : ℕ
  attackerOnPath : Bool
  numAttackers : UInt32
  features : Features
  counters : OlsrCounters
  inWindow : Totals
  totals : Totals
  detection : DetectionSample

structure Evaluation where
  nodes : List (Node OlsrDefenseGcop)
  status : RunStatus := {}
  aborted : Bool := false  -- an assertion of the collector has failed
  attackCurrentlyOn : Bool := false
  defenseCurrentlyOn : Bool := false
  featuresActive : Bool := false
  features : FeatureCollector := {}
  counters : OlsrCounters := {}
  totals : Totals := {}
  atWindowStart : Totals := {}
  paths : NodeContainer.PathCounts := ⟨0, 0, false⟩
  detection : DetectionSample := {}
  staging : List WindowRow := []

/-- `Simulator::Now ().GetSeconds ()`. -/
def getSeconds (now : Time) : ℚ := now / 1000000000

namespace Evaluation

variable (c : EvaluationConfig) (now : Time) (s : Evaluation)

/-! ### The functions of the harness -/

/-- The nodes as the gates and the walk along routes see them. -/
def container : NodeContainer :=
  s.nodes.map fun n => ⟨n.mainAddress, some n.table.getRoutingTableEntries⟩

/-- The nodes as `SampleDetectionAccuracy` sees them. -/
def sampledNodes : SampledNodes :=
  s.nodes.map fun n =>
    some ⟨n.mainAddress, n.state.neighborSet, n.defenseStrategy.map OlsrDefenseGcop.getBlacklist⟩

def setAttackState (active : Bool) : Evaluation :=
  if s.status.runRejected then s
  else
    { s with
      nodes := c.attackerIds.foldl (fun nodes id => nodes.modify id.toNat fun n =>
        n.perform (.setAttack active (if active then c.spoofCount else 0))) s.nodes }

def setDefenseState (active : Bool) : Evaluation :=
  if s.status.runRejected then s
  else { s with nodes := s.nodes.map fun n => n.mapDefense fun d => d.setEnabled active }

def forceDefenseColdStart : Evaluation :=
  if s.status.runRejected then s
  else { s with nodes := s.nodes.map fun n => n.mapDefense OlsrDefenseGcop.coldStart }

def applyScenarioState (k : Fin 4) : Evaluation :=
  if s.status.runRejected then s
  else
    let sc := c.scenario k
    let s₁ := if sc.attackEnabled ≠ s.attackCurrentlyOn then
        { s.setAttackState c sc.attackEnabled with attackCurrentlyOn := sc.attackEnabled }
      else s
    let s₂ := if sc.defenseEnabled ≠ s₁.defenseCurrentlyOn then
        { s₁.setDefenseState sc.defenseEnabled with defenseCurrentlyOn := sc.defenseEnabled }
      else s₁
    s₂.forceDefenseColdStart

def startMeasurementWindow : Evaluation :=
  if s.status.runRejected then s
  else
    { s with
      atWindowStart := s.totals
      counters := {}
      features := s.features.reset (getSeconds now)
      featuresActive := true }

def endMeasurementWindow (scenarioName : String) (windowStart windowEnd : Time) : Evaluation :=
  if s.status.runRejected then s
  else
    let emitted := s.features.emitFeatureCsv c.sqrt (getSeconds windowEnd)
    let labels := labelsForScenario scenarioName
    let row : WindowRow :=
      { scenarioName := scenarioName
        windowStart := windowStart
        windowEnd := windowEnd
        defenseEnabled := labels.2
        attackEnabled := labels.1
        attackerOnPath := s.paths.attackerOnPath
        numAttackers := countAttackers c.maliciousNodesList
        features := emitted.2
        counters := s.counters
        inWindow :=
          { udpReceived := s.totals.udpReceived - s.atWindowStart.udpReceived
            macTx := s.totals.macTx - s.atWindowStart.macTx
            macDrop := s.totals.macDrop - s.atWindowStart.macDrop }
        totals := s.totals
        detection := s.detection }
    { s with featuresActive := false, features := emitted.1, staging := s.staging ++ [row] }

/-- A handler runs. -/
def handle : Handler → Evaluation
  | .observeAttackerOnPath =>
    { s with
      paths := s.container.observeAttackerOnPath (c.attackerIds.map UInt32.toNat)
        c.flowAddrPairs }
  | .sampleDetectionAccuracy =>
    { s with
      detection := sampleDetectionAccuracy s.status.runRejected (some s.sampledNodes)
        c.attackerIds }
  | .assertConnectivity => { s with status := s.container.assertConnectivity now s.status }
  | .assertRouteExists =>
    { s with status := s.container.assertRouteExists c.flowPairs now s.status }
  | .applyScenarioState k => s.applyScenarioState c k
  | .startSlot _ => s.startMeasurementWindow now
  | .endSlot k =>
    s.endMeasurementWindow c (c.scenario k).name (slotWindowStart c.randomWindowOrder k)
      (slotWindowEnd c.randomWindowOrder k)

/-- The network does something. -/
def network : NetworkEvent → Evaluation
  | .node i a => { s with nodes := s.nodes.modify i fun n => n.exec a }
  | .sniffedByListener packet =>
    if !s.featuresActive then s
    else
      match s.features.observeSniffedFrame c.headers (getSeconds now) packet with
      | none => { s with aborted := true }
      | some features => { s with features := features }
  | .olsrPacketSent size messages =>
    let counted := { s.counters with
      olsrControlBytesWithHello := s.counters.olsrControlBytesWithHello + size }
    { s with counters := messages.foldl OlsrCounters.countMessage counted }
  | .udpReceived => { s with totals.udpReceived := s.totals.udpReceived + 1 }
  | .macTx => { s with totals.macTx := s.totals.macTx + 1 }
  | .macTxDrop => { s with totals.macDrop := s.totals.macDrop + 1 }

/-- An event of the simulation, which does nothing once the simulation has been stopped. -/
def step (s : Evaluation) (x : Time × (Handler ⊕ NetworkEvent)) : Evaluation :=
  if s.status.stopped || s.aborted then s
  else
    match x.2 with
    | .inl h => s.handle c x.1 h
    | .inr e => s.network c x.1 e

end Evaluation

/-! ### Runs -/

/-- The acts of the nodes and of the network: to switch the attack, or to exchange the defense, is left
to the harness. -/
def NetworkEvent.IsOwn : NetworkEvent → Prop
  | .node _ (.setAttack ..) | .node _ (.setDefenseStrategy _) => False
  | _ => True

/-- A run of the harness: the nodes that `main` has created, and what the network does up to
`SimulationTail`. -/
structure EvaluationRun where
  config : EvaluationConfig
  nodes : List (Node OlsrDefenseGcop)
  created : ∀ n ∈ nodes, n.isMalicious = false ∧ n.spoofedLinksCount = 0 ∧
    n.defenseStrategy.map OlsrDefenseGcop.enabled = some false
  network : List (Time × NetworkEvent)
  ordered : network.Pairwise fun x y => x.1 ≤ y.1
  inTime : ∀ x ∈ network, 0 ≤ x.1 ∧ x.1 < simulationTail config.randomWindowOrder
  isOwn : ∀ x ∈ network, x.2.IsOwn

namespace EvaluationRun

variable (r : EvaluationRun)

def timeline : List (Time × (Handler ⊕ NetworkEvent)) :=
  Lib.timeline (Lib.inTimeOrder (schedule r.config.randomWindowOrder)) r.network

/-- The harness after some events. -/
def after (events : List (Time × (Handler ⊕ NetworkEvent))) : Evaluation :=
  events.foldl (Evaluation.step r.config) { nodes := r.nodes }

def final : Evaluation := r.after r.timeline

end EvaluationRun

end ManetOlsr
