/-
The detection metrics of a window (`SampleDetectionAccuracy`).

The accusations of all defenders are counted, and divided once by the number of all defenders, once
by the number of those with an attacker among their neighbors, times the number of attackers.  The
percentages are rational numbers.
-/
import ManetOlsr.Model.Repositories
import Mathlib.Algebra.Order.Field.Rat
import Mathlib.Data.Finset.Card

namespace ManetOlsr

/-- What `SampleDetectionAccuracy` asks a node: its address, its neighbors, and the blacklist of its
defense strategy if it has one. -/
structure SampledNode where
  mainAddress : Ipv4Address
  neighbors : List NeighborTuple
  blacklist : Option (Finset Ipv4Address)

/-- The nodes of a container, of which some may lack the protocol. -/
abbrev SampledNodes : Type := List (Option SampledNode)

structure DetectionSample where
  trueDetections : UInt32 := 0
  falseDetections : UInt32 := 0
  defendersTotal : UInt32 := 0
  defendersInRange : UInt32 := 0
  detectionPercent : ℚ := 0
  detectionPercentInRange : ℚ := 0
  falseAlarmRate : ℚ := 0

def attackerAddresses (nodes : SampledNodes) (attackerIds : List UInt32) : Finset Ipv4Address :=
  attackerIds.foldl (fun addrs attId =>
    if attId.toNat ≥ nodes.length then addrs
    else (nodes[attId.toNat]?.join).elim addrs fun ap => insert ap.mainAddress addrs) ∅

/-- A node that is no attacker and has a defense strategy. -/
structure Defender where
  neighbors : List NeighborTuple
  blacklist : Finset Ipv4Address

def defenderAt (attackerIds : List UInt32) (x : Option SampledNode × ℕ) : Option Defender :=
  if x.2 ∈ attackerIds.map UInt32.toNat then none
  else x.1.bind fun p => p.blacklist.map fun blacklist => ⟨p.neighbors, blacklist⟩

/-- There is an attacker among the neighbors. -/
def Defender.inRange (attackers : Finset Ipv4Address) (d : Defender) : Bool :=
  d.neighbors.any fun nb => decide (nb.neighborMainAddr ∈ attackers)

/-- The round of the loop for a defender. -/
def DetectionSample.count (attackers : Finset Ipv4Address) (c : DetectionSample) (d : Defender) :
    DetectionSample :=
  { c with
    defendersTotal := c.defendersTotal + 1
    defendersInRange := c.defendersInRange + if d.inRange attackers then 1 else 0
    trueDetections := c.trueDetections +
      UInt32.ofNat (d.blacklist.filter (· ∈ attackers)).card
    falseDetections := c.falseDetections +
      UInt32.ofNat (d.blacklist.filter (· ∉ attackers)).card }

def DetectionSample.rates (attackers : Finset Ipv4Address) (c : DetectionSample) :
    DetectionSample :=
  let noMalicious : ℚ := attackers.card
  let totalDet := c.trueDetections + c.falseDetections
  { c with
    detectionPercent := if 0 < c.defendersTotal then
      100 * c.trueDetections.toNat / (c.defendersTotal.toNat * noMalicious) else 0
    detectionPercentInRange := if 0 < c.defendersInRange then
      100 * c.trueDetections.toNat / (c.defendersInRange.toNat * noMalicious) else 0
    falseAlarmRate := if 0 < totalDet then 100 * c.falseDetections.toNat / totalDet.toNat else 0 }

def sampleDetectionAccuracy (runRejected : Bool) (nodes : Option SampledNodes)
    (attackerIds : List UInt32) : DetectionSample :=
  if runRejected then {}
  else nodes.elim {} fun nodes =>
    let attackers := attackerAddresses nodes attackerIds
    if attackers = ∅ then {}
    else
      let counted : DetectionSample := nodes.zipIdx.foldl
        (fun c x => (defenderAt attackerIds x).elim c (c.count attackers)) {}
      counted.rates attackers

end ManetOlsr
