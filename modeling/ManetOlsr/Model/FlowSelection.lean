/-
The random choices of the evaluation harness (`DeterministicDraw`, `DeterministicShuffle`,
`SelectDataFlowPairs`).

Of a generator one knows the raw outputs that it still has to give.  There is no result where a
function asks for more of them than there are.

The positions are vectors over any type with the operations that the code uses, so that nothing
depends on how numbers of type `double` are rounded and compared.  The constant `NUM_DATA_FLOWS`,
which is 1 at present, is a parameter.
-/
import ManetOlsr.Lib.FisherYates
import Mathlib.Order.Basic

namespace ManetOlsr

/-! ### Draws -/

abbrev RawOutputs : Type := List UInt32

/-- The number of outputs that `std::mt19937` may give, 2 ^ 32. -/
def mt19937Range : UInt64 := 0x100000000

/-- The largest multiple of the bound in the range. -/
def drawLimit (b : UInt64) : UInt64 := mt19937Range - mt19937Range % b

/-- `do { r = rng (); } while (r >= limit);` -/
def drawBelow (limit : UInt64) : RawOutputs → Option (UInt32 × RawOutputs)
  | [] => none
  | r :: rng => if r.toUInt64 ≥ limit then drawBelow limit rng else some (r, rng)

def deterministicDraw (rng : RawOutputs) (bound : UInt32) : Option (UInt32 × RawOutputs) :=
  if bound = 0 then some (0, rng)
  else
    let b := bound.toUInt64
    (drawBelow (drawLimit b) rng).map fun x => ((x.1.toUInt64 % b).toUInt32, x.2)

/-! ### Shuffles -/

def numSlots : ℕ := 4

/-- The loop of `DeterministicShuffle` from index `i` down to 1. -/
def deterministicShuffleFrom : ℕ → List ℤ → RawOutputs → Option (List ℤ × RawOutputs)
  | 0, a, rng => some (a, rng)
  | i + 1, a, rng =>
    let bound := UInt64.ofNat (i + 1) + 1
    (drawBelow (drawLimit bound) rng).bind fun x =>
      deterministicShuffleFrom i (Lib.exchange a (i + 1) (x.1.toUInt64 % bound).toNat) x.2

def deterministicShuffle (a : List ℤ) (rng : RawOutputs) : Option (List ℤ × RawOutputs) :=
  deterministicShuffleFrom (numSlots - 1) a rng

/-- The shuffle of `SelectDataFlowPairs`, with `i` places left. -/
def shuffleCandidates : ℕ → List UInt32 → RawOutputs → Option (List UInt32 × RawOutputs)
  | i + 2, cand, rng =>
    (deterministicDraw rng (UInt32.ofNat (i + 2))).bind fun x =>
      shuffleCandidates (i + 1) (Lib.exchange cand (i + 1) x.1.toNat) x.2
  | _, cand, rng => some (cand, rng)

/-! ### Flows -/

def udpServerNodeId : UInt32 := 0

def udpClientNodeId : UInt32 := 1

/-- A source and a destination. -/
abbrev FlowPair : Type := UInt32 × UInt32

/-- `ns3::Vector`. -/
structure Position (δ : Type) where
  x : δ
  y : δ
  z : δ

/-- Everything except attackers and the endpoints of flow 0. -/
def candidates (n : UInt32) (attackerSet : List UInt32) : List UInt32 :=
  ((List.range n.toNat).map UInt32.ofNat).filter fun i =>
    !decide (i ∈ attackerSet) && !decide (i = udpServerNodeId ∨ i = udpClientNodeId)

/-- The condition of `NS_ABORT_MSG_IF`, with its product of 32 bits. -/
def NotEnoughNodes (numDataFlows n : UInt32) (attackerSet : List UInt32) : Prop :=
  (candidates n attackerSet).length + 2 < (2 * numDataFlows).toNat

instance (numDataFlows n : UInt32) (attackerSet : List UInt32) :
    Decidable (NotEnoughNodes numDataFlows n attackerSet) :=
  inferInstanceAs (Decidable (_ < _))

/-- Two candidates become a flow, and the larger index is erased first. -/
def takePair (cand : List UInt32) (i j : ℕ) : Option (FlowPair × List UInt32) :=
  cand[i]?.bind fun a => cand[j]?.map fun b =>
    ((a, b), (cand.eraseIdx (max i j)).eraseIdx (min i j))

section Distances

variable {δ : Type} [Add δ] [Sub δ] [Mul δ] [Neg δ] [OfNat δ 0] [OfNat δ 1] [LE δ] [LT δ]
  [DecidableLE δ] [DecidableLT δ] (sqrt : δ → δ)

def euclid (pos : UInt32 → Position δ) (a b : UInt32) : δ :=
  let dx := (pos a).x - (pos b).x
  let dy := (pos a).y - (pos b).y
  let dz := (pos a).z - (pos b).z
  sqrt (dx * dx + dy * dy + dz * dz)

/-- The first pair of different indices whose distance exceeds `minDist`, which is 0. -/
def searchPair (pos : UInt32 → Position δ) (cand : List UInt32) : Option (ℕ × ℕ) :=
  cand.zipIdx.findSome? fun s => cand.zipIdx.findSome? fun d =>
    if d.2 = s.2 then none
    else if euclid sqrt pos s.1 d.1 ≤ 0 then none
    else some (s.2, d.2)

/-- The variables of the fallback. -/
structure Farthest (δ : Type) where
  bi : ℕ
  bj : ℕ
  best : δ

def Farthest.consider (f : Farthest δ) (a b : ℕ) (d : δ) : Farthest δ :=
  if a = b then f
  else if f.best < d then ⟨a, b, d⟩
  else f

/-- The pair of indices at maximum distance. -/
def farthestPair (pos : UInt32 → Position δ) (cand : List UInt32) : Farthest δ :=
  cand.zipIdx.foldl (fun f a => cand.zipIdx.foldl
    (fun f b => f.consider a.2 b.2 (euclid sqrt pos a.1 b.1)) f) ⟨0, 1, -1⟩

/-- The indices that a round of the loop settles on. -/
def choosePair (pos : UInt32 → Position δ) (cand : List UInt32) : ℕ × ℕ :=
  (searchPair sqrt pos cand).getD
    ((farthestPair sqrt pos cand).bi, (farthestPair sqrt pos cand).bj)

/-- `while (flows.size () < NUM_DATA_FLOWS)`. -/
def selectFlows (numDataFlows : ℕ) (pos : UInt32 → Position δ) (flows : List FlowPair)
    (cand : List UInt32) : Option (List FlowPair) :=
  if flows.length < numDataFlows then
    (takePair cand (choosePair sqrt pos cand).1 (choosePair sqrt pos cand).2).bind fun x =>
      selectFlows numDataFlows pos (flows ++ [x.1]) x.2
  else some flows
termination_by numDataFlows - flows.length
decreasing_by
  rw [List.length_append, List.length_singleton]
  omega

/-- There is no result either where the run is aborted, or where an index is out of range.  A node
without a mobility model is at the origin. -/
def selectDataFlowPairs (numDataFlows n : UInt32) (mobility : UInt32 → Option (Position δ))
    (attackerSet : List UInt32) (rng : RawOutputs) : Option (List FlowPair) :=
  let pos := fun i => (mobility i).getD ⟨0, 0, 0⟩
  let cand := candidates n attackerSet
  if NotEnoughNodes numDataFlows n attackerSet then none
  else (shuffleCandidates cand.length cand rng).bind fun x =>
    selectFlows sqrt numDataFlows.toNat pos [(udpClientNodeId, udpServerNodeId)] x.1

end Distances

end ManetOlsr
