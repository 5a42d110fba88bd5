/-
The connectivity gates of the evaluation harness, and its walk along routes (`AssertConnectivity`,
`AssertRouteExists`, `WalkOlsrPath`, and the part of `ObserveAttackerOnPath` that counts flows).

The harness looks at the routing tables of all nodes at once, which no node of the network can do.
`NS_ASSERT` keeps the numbers of nodes that it asks for in range; the model finds no protocol on a
node that does not exist.
-/
import ManetOlsr.Model.Runs
import Mathlib.Data.Finset.Dedup

namespace ManetOlsr

/-- All addresses, in their order. -/
def allAddresses : List Ipv4Address := (List.range UInt32.size).map UInt32.ofNat

lemma mem_allAddresses (a : Ipv4Address) : a ∈ allAddresses :=
  List.mem_map.mpr ⟨a.toNat, List.mem_range.mpr a.toNat_lt, UInt32.ofNat_toNat⟩

/-- `GetRoutingTableEntries`: the entries in the order of their keys. -/
def Table.getRoutingTableEntries (tbl : Table) : List RoutingTableEntry :=
  allAddresses.filterMap tbl

/-- What the harness knows of a node: the address of its interface and, if it runs OLSR, what
`GetRoutingTableEntries` gives. -/
structure SimNode where
  address : Ipv4Address
  entries : Option (List RoutingTableEntry)

/-- `NodeContainer`. -/
abbrev NodeContainer : Type := List SimNode

/-- `g_runRejected` and what is noted with it. -/
structure RunStatus where
  runRejected : Bool := false
  rejectReason : String := ""
  rejectedAt : Time := 0
  stopped : Bool := false  -- `Simulator::Stop` has been called
deriving DecidableEq, Repr

namespace RunStatus

def reject (s : RunStatus) (reason : String) (now : Time) : RunStatus :=
  { s with runRejected := true, rejectReason := reason, rejectedAt := now, stopped := true }

/-- A loop that rejects the run at the first reason, and then returns. -/
def rejectFirst (s : RunStatus) (reasons : List (Option String)) (now : Time) : RunStatus :=
  match reasons.findSome? id with
  | some reason => s.reject reason now
  | none => s

end RunStatus

namespace NodeContainer

variable (nodes : NodeContainer)

/-- `GetOlsrProtocol (nodes.Get (i))`, with its entries. -/
def getEntries (i : ℕ) : Option (List RoutingTableEntry) := nodes[i]?.bind SimNode.entries

/-- `g_ipToNode`, in which a later node takes the place of an earlier one with its address. -/
def ipToNode (a : Ipv4Address) : Option ℕ :=
  (nodes.zipIdx.reverse.find? fun x => x.1.address == a).map Prod.snd

/-- `g_nodeToIp`. -/
def nodeToIp (i : ℕ) : Option Ipv4Address := nodes[i]?.map SimNode.address

/-! ### The walk -/

/-- The loop of `WalkOlsrPath`, with the steps that it has left. -/
def walkFrom (dst : Ipv4Address) : ℕ → Ipv4Address → List Ipv4Address → List ℕ → List ℕ
  | 0, _, _, _ => []
  | steps + 1, current, visited, path =>
    if current ∈ visited then []
    else
      match nodes.ipToNode current with
      | none => []
      | some nodeIdx =>
        if current = dst then path ++ [nodeIdx]
        else
          match nodes.getEntries nodeIdx with
          | none => []
          | some entries =>
            match entries.find? fun e => e.destAddr == dst with
            | none => []
            | some e => walkFrom dst steps e.nextAddr (current :: visited) (path ++ [nodeIdx])

def walkOlsrPath (src dst : Ipv4Address) : List ℕ :=
  nodes.walkFrom dst (nodes.length + 2) src [] []

/-! ### The gates -/

/-- The body of the loop of `AssertConnectivity`. -/
def connectivityFailure (node : SimNode) : Option String :=
  match node.entries with
  | none => some "no_olsr"
  | some entries =>
    let uniqueDests := (entries.map RoutingTableEntry.destAddr).toFinset
    if uniqueDests.card < nodes.length - 1 then some "assert_connectivity" else none

def assertConnectivity (now : Time) (s : RunStatus) : RunStatus :=
  if s.runRejected then s else s.rejectFirst (nodes.map nodes.connectivityFailure) now

/-- The body of the loop of `AssertRouteExists`. -/
def routeFailure (flow : ℕ × ℕ) : Option String :=
  match nodes.getEntries flow.1 with
  | none => some "no_olsr_on_client"
  | some entries =>
    let dstAddr := (nodes.nodeToIp flow.2).getD unsetAddress
    if entries.any fun e => e.destAddr == dstAddr then none else some "no_route_to_victim"

def assertRouteExists (flowPairs : List (ℕ × ℕ)) (now : Time) (s : RunStatus) : RunStatus :=
  if s.runRejected then s
  else if nodes.length < 2 then s
  else s.rejectFirst (flowPairs.map nodes.routeFailure) now

/-! ### Attackers on the paths -/

/-- What `ObserveAttackerOnPath` counts. -/
structure PathCounts where
  flowsWithValidPath : ℕ
  flowsWithAttackerOnPath : ℕ
  attackerOnPath : Bool
deriving DecidableEq, Repr

/-- The loop over the flows.  Without attackers nothing is counted. -/
def observeAttackerOnPath (attackerIds : List ℕ) (flows : List (Ipv4Address × Ipv4Address)) :
    PathCounts :=
  if nodes.isEmpty || attackerIds.isEmpty then ⟨0, 0, false⟩
  else
    let paths := (flows.map fun f => nodes.walkOlsrPath f.1 f.2).filter fun p => !p.isEmpty
    let attacked := paths.filter fun p => p.any fun v => decide (v ∈ attackerIds)
    ⟨paths.length, attacked.length, !attacked.isEmpty⟩

end NodeContainer

end ManetOlsr
