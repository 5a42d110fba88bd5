/-
The list of attackers of a run (`CountAttackers`, the parsing of the list in `main`,
`SetAttackState`).

The string is taken apart twice: the label `num_attackers` is the number of its segments, and the
attackers are the nodes that the segments name.
-/
import ManetOlsr.Model.FlowSelection
import Mathlib.Algebra.Group.Nat.Defs
import Mathlib.Data.UInt

namespace ManetOlsr

/-! ### Segments -/

/-- What the calls `std::getline (ss, seg, ',')` read that succeed, with `seg` read so far. -/
def getlines : List Char → List Char → List (List Char)
  | seg, [] => if seg = [] then [] else [seg]
  | seg, c :: rest => if c = ',' then seg :: getlines [] rest else getlines (seg ++ [c]) rest

def countAttackers (list : List Char) : UInt32 :=
  (getlines [] list).foldl (fun n seg => if seg ≠ [] then n + 1 else n) 0

/-! ### Ids -/

/-- `std::isspace`: the blank, and the characters from `'\t'` to `'\r'`. -/
def isSpace (c : Char) : Bool := decide (c = ' ' ∨ 9 ≤ c.toNat ∧ c.toNat ≤ 13)

/-- `std::stoul`.  There is no result where it throws. -/
def stoul (seg : List Char) : Option UInt64 :=
  let s := seg.dropWhile isSpace
  let negative := s.head? == some '-'
  let s' := if negative || s.head? == some '+' then s.drop 1 else s
  let digits := s'.takeWhile Char.isDigit
  let value := digits.foldl (fun v c => 10 * v + (c.toNat - '0'.toNat)) 0
  if digits = [] then none  -- `std::invalid_argument`
  else if value ≥ 2 ^ 64 then none  -- `std::out_of_range`
  else some (if negative then 0 - UInt64.ofNat value else UInt64.ofNat value)

/-- The node that a segment names.  The number is cut to 32 bits first. -/
def attackerId (nNodes : UInt32) (seg : List Char) : Option UInt32 :=
  (stoul seg).bind fun value =>
    let id := value.toUInt32
    if id < nNodes ∧ id ≠ udpServerNodeId ∧ id ≠ udpClientNodeId then some id else none

def attackerIds (nNodes : UInt32) (list : List Char) : List UInt32 :=
  (getlines [] list).foldl (fun ids seg =>
    if seg = [] then ids else (attackerId nNodes seg).elim ids fun id => ids ++ [id]) []

/-! ### The attack -/

/-- The attributes that `SetAttackState` sets. -/
structure AttackAttributes where
  isMalicious : Bool := false
  spoofedLinksCount : UInt32 := 0
deriving DecidableEq

/-- A node without the protocol has no attributes. -/
def setAttackState (runRejected : Bool) (nodes : List (Option AttackAttributes))
    (attackerIds : List UInt32) (spoofCount : UInt32) (active : Bool) :
    List (Option AttackAttributes) :=
  if runRejected then nodes
  else attackerIds.foldl (fun nodes id =>
    if id.toNat ≥ nodes.length then nodes
    else nodes.modify id.toNat (Option.map fun _ => ⟨active, if active then spoofCount else 0⟩))
    nodes

/-- The nodes that `main` creates, before the first attack. -/
def createdNodes (nNodes : UInt32) : List (Option AttackAttributes) :=
  List.replicate nNodes.toNat (some {})

end ManetOlsr
