/-
`RoutingProtocol::MprComputation` and its helpers.

The computation works on a copy `N2` of part of the 2-hop neighbor set, from which it erases the
tuples of covered 2-hop neighbors: first those covered by the neighbors of willingness `ALWAYS`,
then those covered by the sole providers of some 2-hop neighbor, and then greedily, one neighbor
a round, until `N2` is empty.
-/
import ManetOlsr.Lib.Selection
import ManetOlsr.Lib.WhileLoop
import ManetOlsr.Model.Node
import Mathlib.Data.Finset.Lattice.Basic
import Mathlib.Data.Finset.Dedup
import Mathlib.Data.List.Sort

namespace ManetOlsr

namespace Mpr

/-- `RoutingProtocol::Degree`. -/
def degree (s : OlsrState) (tuple : NeighborTuple) : ℕ :=
  s.twoHopNeighborSet.countP fun t =>
    t.neighborMainAddr == tuple.neighborMainAddr &&
      (s.findNeighborTuple t.neighborMainAddr).isNone

def coverTwoHopNeighbors (neighborMainAddr : Ipv4Address) (N2 : List TwoHopNeighborTuple) :
    List TwoHopNeighborTuple :=
  let toRemove := (N2.filter fun t => t.neighborMainAddr == neighborMainAddr).map
    TwoHopNeighborTuple.twoHopNeighborAddr
  N2.filter fun t => !toRemove.contains t.twoHopNeighborAddr

/-- The symmetric neighbors. -/
def N (s : OlsrState) : List NeighborTuple :=
  s.neighborSet.filter fun t => t.status == Status.sym

/-- The 2-hop neighbors that have to be covered, with the neighbors that reach them. -/
def initialN2 (mainAddress : Ipv4Address) (s : OlsrState) : List TwoHopNeighborTuple :=
  s.twoHopNeighborSet.filter fun t =>
    !(t.twoHopNeighborAddr == mainAddress) &&
    (match (N s).find? fun neigh => neigh.neighborMainAddr == t.neighborMainAddr with
      | some neigh => !(neigh.willingness == Willingness.never)
      | none => false) &&
    !(N s).any fun neigh => neigh.neighborMainAddr == t.twoHopNeighborAddr

/-- The MPR set under construction and the 2-hop tuples that are left to cover. -/
structure Progress where
  mprSet : Finset Ipv4Address
  N2 : List TwoHopNeighborTuple

/-- Elect a neighbor. -/
def Progress.select (p : Progress) (neighborMainAddr : Ipv4Address) : Progress where
  mprSet := insert neighborMainAddr p.mprSet
  N2 := coverTwoHopNeighbors neighborMainAddr p.N2

/-- Step 1: the neighbors of willingness `ALWAYS`. -/
def selectAlways (N : List NeighborTuple) (p : Progress) : Progress :=
  N.foldl
    (fun p t => if t.willingness == Willingness.always then p.select t.neighborMainAddr else p) p

/-- No other neighbor reaches the 2-hop neighbor of the tuple. -/
def onlyOne (N2 : List TwoHopNeighborTuple) (t : TwoHopNeighborTuple) : Bool :=
  !N2.any fun other =>
    other.twoHopNeighborAddr == t.twoHopNeighborAddr &&
      !(other.neighborMainAddr == t.neighborMainAddr)

/-- Step 3: the neighbors that are the only ones to reach some 2-hop neighbor.  They are elected
while `N2` stays as it is; what they cover is erased afterwards. -/
def selectSoleProviders (p : Progress) : Progress :=
  let sole := (p.N2.filter (onlyOne p.N2)).map TwoHopNeighborTuple.neighborMainAddr
  let coveredTwoHopNeighbors := (p.N2.filter fun t => sole.contains t.neighborMainAddr).map
    TwoHopNeighborTuple.twoHopNeighborAddr
  { mprSet := p.mprSet ∪ sole.toFinset
    N2 := p.N2.filter fun t => !coveredTwoHopNeighbors.contains t.twoHopNeighborAddr }

/-- Step 4.1: the number of tuples in `N2` that the neighbor announced. -/
def reachability (N2 : List TwoHopNeighborTuple) (t : NeighborTuple) : ℕ :=
  N2.countP fun t2 => t.neighborMainAddr == t2.neighborMainAddr

/-- The order in which step 4.2 visits the neighbors: by increasing reachability, and the
neighbors of equal reachability in the order of `N`.  Those without reachability are skipped. -/
def candidates (N : List NeighborTuple) (N2 : List TwoHopNeighborTuple) :
    List NeighborTuple :=
  let rs := ((N.map (reachability N2)).dedup.insertionSort (· ≤ ·)).filter (fun r => !(r == 0))
  rs.flatMap fun r => N.filter fun t => reachability N2 t == r

/-- Whether step 4.2 prefers a neighbor over the best one so far. -/
def isBetter (s : OlsrState) (N2 : List TwoHopNeighborTuple) (t max : NeighborTuple) : Bool :=
  if t.willingness > max.willingness then true
  else if t.willingness = max.willingness then
    if reachability N2 t > reachability N2 max then true
    else if reachability N2 t = reachability N2 max then
      decide (degree s t > degree s max)
    else false
  else false

/-- Step 4.2: the neighbor that the round elects. -/
def chooseMax (s : OlsrState) (N : List NeighborTuple) (N2 : List TwoHopNeighborTuple) :
    Option NeighborTuple :=
  Lib.select (isBetter s N2) (candidates N N2)

/-- The condition of the loop of step 4. -/
def greedyCond (p : Progress) : Bool := !p.N2.isEmpty

/-- One round of the loop of step 4. -/
def greedyRound (s : OlsrState) (N : List NeighborTuple) (p : Progress) : Progress :=
  match chooseMax s N p.N2 with
  | some max => p.select max.neighborMainAddr
  | none => p

/-- What is left when the loop of step 4 starts. -/
def beforeGreedy (mainAddress : Ipv4Address) (s : OlsrState) : Progress :=
  selectSoleProviders (selectAlways (N s) ⟨∅, initialN2 mainAddress s⟩)

/-- The loop of step 4, given one round for each tuple that is left. -/
def greedy (mainAddress : Ipv4Address) (s : OlsrState) : Progress :=
  let p := beforeGreedy mainAddress s
  Lib.whileLoop greedyCond (greedyRound s (N s)) p.N2.length p

/-- The backup relay that is added when every elected neighbor is a suspect. -/
def addBackup (s : OlsrState) (isMalicious : Ipv4Address → Bool) (mprSet : Finset Ipv4Address) :
    Finset Ipv4Address :=
  if mprSet = ∅ then mprSet
  else if (mprSet.filter fun a => !isMalicious a) = ∅ then
    match s.neighborSet.find? fun t => t.status == Status.sym && !isMalicious t.neighborMainAddr &&
        !(t.willingness == Willingness.never) with
    | some t => insert t.neighborMainAddr mprSet
    | none => mprSet
  else mprSet

end Mpr

namespace Node

variable {D : Type} [OlsrDefenseStrategy D] (n : Node D)

/-- The MPR set that `MprComputation` computes. -/
def computedMprSet : Finset Ipv4Address :=
  let mprSet := (Mpr.greedy n.mainAddress n.state).mprSet
  match n.defenseStrategy with
  | some d => Mpr.addBackup n.state (OlsrDefenseStrategy.isMalicious d n.now) mprSet
  | none => mprSet

def mprComputation : Node D := n.withState (n.state.setMprSet n.computedMprSet)

end Node

/-! ### The previous MPR set plays no role -/

namespace Mpr

lemma greedyRound_setMprSet (s : OlsrState) (mprSet : Finset Ipv4Address) :
    greedyRound (s.setMprSet mprSet) = greedyRound s := rfl

lemma beforeGreedy_setMprSet (mainAddress : Ipv4Address) (s : OlsrState)
    (mprSet : Finset Ipv4Address) :
    beforeGreedy mainAddress (s.setMprSet mprSet) = beforeGreedy mainAddress s := rfl

lemma greedy_setMprSet (mainAddress : Ipv4Address) (s : OlsrState) (mprSet : Finset Ipv4Address) :
    greedy mainAddress (s.setMprSet mprSet) = greedy mainAddress s := by
  rw [greedy, greedyRound_setMprSet, beforeGreedy_setMprSet]
  rfl

end Mpr

lemma Node.mprComputation_computedMprSet {D : Type} [OlsrDefenseStrategy D] (n : Node D) :
    n.mprComputation.computedMprSet = n.computedMprSet := by
  have hgreedy := Mpr.greedy_setMprSet n.mainAddress n.state n.computedMprSet
  rw [computedMprSet, mprComputation, withState, hgreedy]
  rfl

end ManetOlsr
