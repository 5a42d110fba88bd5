/-
The way of data packets through a node: `RouteOutput` for the packets it sends, `RouteInput` for
those it receives, and the hooks of the defense strategy on both.

What the two functions ask of the IP layer beyond the addresses of the interfaces (whether a
destination is local, which source address belongs to a destination, whether an interface forwards)
depends on masks and attributes that OLSR never sees; it is the argument `ipv4`.  A packet is handed
over together with a gateway and an interface, and what the callbacks do with it is not modelled.
-/
import ManetOlsr.Model.Gcop
import ManetOlsr.Model.RoutingTable
import ManetOlsr.Model.Runs

namespace ManetOlsr

/-! ### The other hooks of a strategy -/

abbrev Mac48Address : Type := BitVec 48

instance : LawfulBEq Mac48Address := inferInstance

namespace Mac48Address

def getBroadcast : Mac48Address := BitVec.allOnes 48

/-- The lowest bit of the first byte. -/
def isGroup (a : Mac48Address) : Bool := BitVec.getLsbD a 40

end Mac48Address

/-- A data packet, with the addresses of its IP header. -/
structure DataPacket where
  uid : ℕ
  source : Ipv4Address
  destination : Ipv4Address
deriving DecidableEq, Repr

inductive DropReason where
  | noRoute
  | ttlExpired
  | queueFull
deriving DecidableEq, Repr

/-- A frame that the promiscuous monitor tells the strategy about. -/
inductive SniffedFrame where
  | data (transmitter receiver : Mac48Address) (packet : DataPacket)
  | rts (transmitter receiver : Mac48Address)
  | cts (receiver : Mac48Address)
deriving DecidableEq, Repr

/-- The hooks of `OlsrDefenseStrategy` on data packets, sniffed frames, and reports of the lower
layers. -/
class OlsrDefenseDataHooks (D : Type) extends OlsrDefenseStrategy D where
  onDataPacketReceived : D → Time → OlsrState → DataPacket → Ipv4Address → D
  onDataPacketForwarded : D → Time → OlsrState → DataPacket → Ipv4Address → D
  onDataPacketDropped : D → Time → OlsrState → DataPacket → DropReason → D
  onSniffed : D → Time → OlsrState → SniffedFrame → D
  onQueueStatusReport : D → Time → OlsrState → UInt32 → UInt32 → D
  onEnergyStateUpdate : D → Time → OlsrState → ℚ → ℚ → D

/-- `OlsrDefenseGcop` writes to the log on the two hooks of forwarded packets, and has no others. -/
instance : OlsrDefenseDataHooks OlsrDefenseGcop where
  onDataPacketReceived d _ _ _ _ := d
  onDataPacketForwarded d _ _ _ _ := d
  onDataPacketDropped d _ _ _ _ := d
  onSniffed d _ _ _ := d
  onQueueStatusReport d _ _ _ _ := d
  onEnergyStateUpdate d _ _ _ _ := d

instance : OlsrDefenseDataHooks OlsrDefenseNull where
  onDataPacketReceived d _ _ _ _ := d
  onDataPacketForwarded d _ _ _ _ := d
  onDataPacketDropped d _ _ _ _ := d
  onSniffed d _ _ _ := d
  onQueueStatusReport d _ _ _ _ := d
  onEnergyStateUpdate d _ _ _ _ := d

/-! ### The IP layer -/

/-- What forwarding asks of `Ipv4L3Protocol`. -/
structure Ipv4L3Protocol where
  isDestinationAddress : Ipv4Address → ℕ → Bool
  sourceAddressSelection : ℕ → Ipv4Address → Ipv4Address
  isForwarding : ℕ → Bool

structure Ipv4Route where
  destination : Ipv4Address
  source : Ipv4Address
  gateway : Ipv4Address
  outputDevice : ℕ
deriving DecidableEq, Repr

/-- What becomes of a packet: the route it is handed over with, its local delivery, nothing more,
a call of the error callback, the answer that there is no route, a fatal error, or a search for the
send entry that does not end. -/
inductive Choice where
  | route (r : Ipv4Route)
  | deliver
  | consumed
  | error
  | noRoute
  | fatalError
  | endless
deriving DecidableEq, Repr

def isMulticast (a : Ipv4Address) : Bool := decide (0xe0000000 ≤ a) && decide (a ≤ 0xefffffff)

def isLocalMulticast (a : Ipv4Address) : Bool := a &&& 0xffffff00 == 0xe0000000

/-- The condition and the body of the loop of `Ipv4Mask::GetPrefixLength`. -/
def maskLeft (p : ℕ × Ipv4Mask) : Bool := !(p.2 == 0)

def shiftMask (p : ℕ × Ipv4Mask) : ℕ × Ipv4Mask := (p.1 + 1, p.2 <<< 1)

def prefixLength (mask : Ipv4Mask) : ℕ := (Lib.whileLoop maskLeft shiftMask 32 (0, mask)).1

def isMatch (mask : Ipv4Mask) (a b : Ipv4Address) : Bool := a &&& mask == b &&& mask

/-! ### The HNA routing table -/

/-- The variables of the loop of `Ipv4StaticRouting::LookupStatic` over the routes. -/
structure StaticLookup where
  longestMask : ℕ := 0
  shortestMetric : ℕ := 0xffffffff
  route : Option HnaRoute := none
  stopped : Bool := false

/-- The loop for one route: longer masks win, then smaller metrics, then later routes. -/
def lookupStep (dest : Ipv4Address) (oif : Option ℕ) (x : StaticLookup) (r : HnaRoute) :
    StaticLookup :=
  let masklen := prefixLength r.destNetworkMask
  if x.stopped then x
  else if !isMatch r.destNetworkMask dest r.destNetwork then x
  else if oif.any fun i => !(i == r.interface) then x
  else if masklen < x.longestMask then x
  else
    let shortestMetric := if masklen > x.longestMask then 0xffffffff else x.shortestMetric
    if r.metric > shortestMetric then
      { x with longestMask := masklen, shortestMetric := shortestMetric }
    else
      { longestMask := masklen
        shortestMetric := r.metric
        route := some r
        stopped := masklen == 32 }

/-! ### The search for the send entry -/

/-- The variables of the loop of `FindSendEntryIn`: the entry, and whether the lookup of its next
address has failed. -/
structure SendSearch where
  outEntry : RoutingTableEntry
  failed : Bool
deriving DecidableEq

namespace SendSearch

/-- The search goes on. -/
def goesOn (x : SendSearch) : Bool :=
  !x.failed && !(x.outEntry.destAddr == x.outEntry.nextAddr)

/-- Look the next address up. -/
def round (table : Table) (x : SendSearch) : SendSearch :=
  match table x.outEntry.nextAddr with
  | some e => { x with outEntry := e }
  | none => { x with failed := true }

end SendSearch

/-- The outcome of `FindSendEntryIn`. -/
inductive SendEntry where
  | found (e : RoutingTableEntry)
  | failure
  | endless
deriving DecidableEq

/-- `FindSendEntryIn`, and `FindSendEntry` for `m_table`.  A search that has not ended when it has
made as many rounds as there are addresses never ends. -/
def findSendEntryIn (table : Table) (entry : RoutingTableEntry) : SendEntry :=
  let x := Lib.whileLoop SendSearch.goesOn (SendSearch.round table) (2 ^ 32) ⟨entry, false⟩
  if x.goesOn then SendEntry.endless
  else if x.failed then SendEntry.failure
  else SendEntry.found x.outEntry

namespace Node

variable {D : Type} (n : Node D)

def findSuspectAvoidingSendEntry (dest : Ipv4Address) : SendEntry :=
  match n.tableAvoidingSuspects dest with
  | some destEntry => findSendEntryIn n.tableAvoidingSuspects destEntry
  | none => SendEntry.failure

/-- Whether the installed strategy takes an address for malicious. -/
def suspects [OlsrDefenseStrategy D] (addr : Ipv4Address) : Bool :=
  match n.defenseStrategy with
  | some d => OlsrDefenseStrategy.isMalicious d n.now addr
  | none => false

/-- `IsMyOwnAddress`, which asks the sending sockets. -/
def isMyOwnAddress (a : Ipv4Address) : Bool :=
  n.interfaces.zipIdx.any fun (i, idx) =>
    i.address == a && !(i.address == loopback) && decide (idx ∉ n.interfaceExclusions)

/-- The address of an interface that has only one. -/
def soleAddress (interface : ℕ) : Option Ipv4Address :=
  match n.interfaces[interface]? with
  | some i => if i.otherAddresses.isEmpty then some i.address else none
  | none => none

/-- The simulation does not go on. -/
def stop (c : Choice) : Node D × Choice := ({ n with fatalError := true }, c)

/-! ### Network routes -/

/-- `Ipv4StaticRouting::LookupStatic` of the HNA routing table. -/
def lookupStatic (ipv4 : Ipv4L3Protocol) (dest : Ipv4Address) (oif : Option ℕ) :
    Option Ipv4Route :=
  (n.hnaRoutingTable.foldl (lookupStep dest oif) {}).route.map fun r =>
    { destination := r.destNetwork
      source := ipv4.sourceAddressSelection r.interface r.destNetwork
      gateway := r.gateway
      outputDevice := r.interface }

/-- `Ipv4StaticRouting::RouteOutput`.  For a local multicast destination an assertion demands that
the interface is given. -/
def hnaRouteOutput (ipv4 : Ipv4L3Protocol) (p : DataPacket) (oif : Option ℕ) : Choice :=
  if isLocalMulticast p.destination then
    match oif.bind fun i => (n.interfaces[i]?).map fun iface => (i, iface.address) with
    | some (i, source) => Choice.route ⟨p.destination, source, 0, i⟩
    | none => Choice.fatalError
  else
    match n.lookupStatic ipv4 p.destination oif with
    | some r => Choice.route r
    | none => Choice.noRoute

/-- `Ipv4StaticRouting::RouteInput`; the table has no multicast routes. -/
def hnaRouteInput (ipv4 : Ipv4L3Protocol) (p : DataPacket) (iif : ℕ) (lcb : Bool) : Choice :=
  if isMulticast p.destination then Choice.noRoute
  else if ipv4.isDestinationAddress p.destination iif then
    if lcb then Choice.deliver else Choice.noRoute
  else if !ipv4.isForwarding iif then Choice.error
  else
    match n.lookupStatic ipv4 p.destination none with
    | some r => Choice.route r
    | none => Choice.noRoute

/-! ### Data packets -/

variable [OlsrDefenseDataHooks D]

/-- Hand a packet over, and tell the strategy. -/
def handOver (p : DataPacket) (r : Ipv4Route) : Node D × Choice :=
  (n.mapDefense fun d => OlsrDefenseDataHooks.onDataPacketForwarded d n.now n.state p r.gateway,
    Choice.route r)

/-- What `RouteOutput` and `RouteInput` do once the send entry has been found: a next hop that is a
suspect is replaced by one that is not, if there is one. -/
def sendVia (p : DataPacket) (entry2 : RoutingTableEntry) : Node D × Choice :=
  match n.soleAddress entry2.interface with
  | none => n.stop Choice.fatalError
  | some source =>
    if n.suspects entry2.nextAddr then
      match n.findSuspectAvoidingSendEntry p.destination with
      | .found altEntry =>
        match n.interfaces[altEntry.interface]? with
        | some i =>
          n.handOver p ⟨p.destination, i.address, altEntry.nextAddr, altEntry.interface⟩
        | none => n.stop Choice.fatalError
      | .failure => n.handOver p ⟨p.destination, source, entry2.nextAddr, entry2.interface⟩
      | .endless => n.stop Choice.endless
    else n.handOver p ⟨p.destination, source, entry2.nextAddr, entry2.interface⟩

/-- `RouteOutput`; `oif` is the interface of the requested output device. -/
def routeOutput (ipv4 : Ipv4L3Protocol) (p : DataPacket) (oif : Option ℕ) : Node D × Choice :=
  match n.table p.destination with
  | some entry1 =>
    match findSendEntryIn n.table entry1 with
    | .found entry2 =>
      if oif.any fun i => !(i == entry2.interface) then (n, Choice.noRoute) else n.sendVia p entry2
    | .failure => n.stop Choice.fatalError
    | .endless => n.stop Choice.endless
  | none =>
    match n.hnaRouteOutput ipv4 p oif with
    | .route r => n.handOver p r
    | .fatalError => n.stop Choice.fatalError
    | c => (n, c)

/-- `RouteInput`; `iif` is the interface of the input device, and `lcb` tells whether there is a
callback for local delivery. -/
def routeInput (ipv4 : Ipv4L3Protocol) (p : DataPacket) (iif : ℕ) (lcb : Bool) :
    Node D × Choice :=
  if n.isMyOwnAddress p.source then (n, Choice.consumed)
  else if ipv4.isDestinationAddress p.destination iif then
    (n, if lcb then Choice.deliver else Choice.noRoute)
  else if n.isMalicious then (n, Choice.consumed)
  else
    match n.table p.destination with
    | some entry1 =>
      match findSendEntryIn n.table entry1 with
      | .found entry2 =>
        (n.mapDefense fun d =>
          OlsrDefenseDataHooks.onDataPacketReceived d n.now n.state p entry2.nextAddr).sendVia p
            entry2
      | .failure => n.stop Choice.fatalError
      | .endless => n.stop Choice.endless
    | none =>
      match n.hnaRouteInput ipv4 p iif lcb with
      | .noRoute =>
        (n.mapDefense fun d =>
          OlsrDefenseDataHooks.onDataPacketDropped d n.now n.state p DropReason.noRoute,
          Choice.noRoute)
      | c => (n, c)

end Node

/-! ### Runs with data packets -/

/-- What happens to a node that also routes data packets, and when. -/
inductive Input (D : Type) where
  | control (l : Label D)
  | routeOutput (t : Time) (p : DataPacket) (oif : Option ℕ)
  | routeInput (t : Time) (p : DataPacket) (iif : ℕ) (lcb : Bool)
  | monitorSnifferRx (t : Time) (frame : SniffedFrame)
  | queueStatusReport (t : Time) (size capacity : UInt32)
  | energyStateUpdate (t : Time) (remaining fraction : ℚ)

/-- The time at which an input happens. -/
def Input.time {D : Type} : Input D → Time
  | control l => l.time
  | routeOutput t .. | routeInput t .. | monitorSnifferRx t .. => t
  | queueStatusReport t .. | energyStateUpdate t .. => t

namespace Node

variable {D : Type} [OlsrDefenseDataHooks D] (ipv4 : Ipv4L3Protocol)

/-- The effect of an input at its time, with the choice made for a packet. -/
def handleAt (n : Node D) : Input D → Node D × Option Choice
  | .control _ => (n, none)
  | .routeOutput _ p oif => ((n.routeOutput ipv4 p oif).1, some (n.routeOutput ipv4 p oif).2)
  | .routeInput _ p iif lcb =>
    ((n.routeInput ipv4 p iif lcb).1, some (n.routeInput ipv4 p iif lcb).2)
  | .monitorSnifferRx _ frame =>
    (n.mapDefense fun d => OlsrDefenseDataHooks.onSniffed d n.now n.state frame, none)
  | .queueStatusReport _ size capacity =>
    (n.mapDefense fun d =>
      OlsrDefenseDataHooks.onQueueStatusReport d n.now n.state size capacity, none)
  | .energyStateUpdate _ remaining fraction =>
    (n.mapDefense fun d =>
      OlsrDefenseDataHooks.onEnergyStateUpdate d n.now n.state remaining fraction, none)

/-- The effect of an input: none once the simulation has been stopped. -/
def handle (n : Node D) (x : Input D) : Node D × Option Choice :=
  match x with
  | .control l => (n.step l, none)
  | x => if n.fatalError then (n, none) else (n.perform (Act.advance x.time)).handleAt ipv4 x

/-- The node after an input. -/
def next (n : Node D) (x : Input D) : Node D := (n.handle ipv4 x).1

/-- An input that can happen next. -/
def EnabledInput (n : Node D) : Input D → Prop
  | .control l => n.Enabled l
  | .routeInput t _ iif _ =>
    n.fatalError = false ∧ n.now ≤ t ∧ (∀ te ∈ n.events, t ≤ te.1) ∧ iif < n.interfaces.length
  | x => n.fatalError = false ∧ n.now ≤ x.time ∧ ∀ te ∈ n.events, x.time ≤ te.1

/-- Each input of the list can happen when its turn comes. -/
def IsInputRun (n : Node D) : List (Input D) → Prop
  | [] => True
  | x :: xs => n.EnabledInput x ∧ (n.next ipv4 x).IsInputRun xs

instance (n : Node D) : (x : Input D) → Decidable (n.EnabledInput x)
  | .control l => inferInstanceAs (Decidable (n.Enabled l))
  | .routeInput .. => inferInstanceAs (Decidable (_ ∧ _ ∧ (∀ te ∈ _, _) ∧ _))
  | .routeOutput .. | .monitorSnifferRx .. | .queueStatusReport .. | .energyStateUpdate .. =>
    inferInstanceAs (Decidable (_ ∧ _ ∧ ∀ te ∈ _, _))

instance decidableIsInputRun (n : Node D) : (xs : List (Input D)) →
    Decidable (n.IsInputRun ipv4 xs)
  | [] => inferInstanceAs (Decidable True)
  | x :: xs => @instDecidableAnd _ _ _ (decidableIsInputRun (n.next ipv4 x) xs)

lemma handle_stopped {n : Node D} (hn : n.fatalError = true) (x : Input D) :
    n.handle ipv4 x = (n, none) := by
  cases x with
  | control l => rw [handle, step, run_stopped hn]
  | _ => simp [handle, hn]

/-- A member of the node that neither the hooks on packets and frames change, nor a fatal error. -/
structure IgnoresPackets {β : Type} (g : Node D → β) : Prop where
  stop : ∀ (n : Node D) c, g (n.stop c).1 = g n
  received : ∀ (n : Node D) p nextHop, g (n.mapDefense fun d =>
    OlsrDefenseDataHooks.onDataPacketReceived d n.now n.state p nextHop) = g n
  forwarded : ∀ (n : Node D) p nextHop, g (n.mapDefense fun d =>
    OlsrDefenseDataHooks.onDataPacketForwarded d n.now n.state p nextHop) = g n
  dropped : ∀ (n : Node D) p reason, g (n.mapDefense fun d =>
    OlsrDefenseDataHooks.onDataPacketDropped d n.now n.state p reason) = g n
  sniffed : ∀ (n : Node D) frame, g (n.mapDefense fun d =>
    OlsrDefenseDataHooks.onSniffed d n.now n.state frame) = g n
  queueStatus : ∀ (n : Node D) size capacity, g (n.mapDefense fun d =>
    OlsrDefenseDataHooks.onQueueStatusReport d n.now n.state size capacity) = g n
  energyState : ∀ (n : Node D) remaining fraction, g (n.mapDefense fun d =>
    OlsrDefenseDataHooks.onEnergyStateUpdate d n.now n.state remaining fraction) = g n

/-- A relation of a node to what becomes of it, that holds for each hook for packets by itself. -/
structure RelatesPackets (R : Node D → Node D → Prop) : Prop where
  refl : ∀ n, R n n
  trans : ∀ n m k, R n m → R m k → R n k
  stop : ∀ n c, R n (n.stop c).1
  received : ∀ (n : Node D) p nextHop, R n (n.mapDefense fun d =>
    OlsrDefenseDataHooks.onDataPacketReceived d n.now n.state p nextHop)
  forwarded : ∀ (n : Node D) p nextHop, R n (n.mapDefense fun d =>
    OlsrDefenseDataHooks.onDataPacketForwarded d n.now n.state p nextHop)
  dropped : ∀ (n : Node D) p reason, R n (n.mapDefense fun d =>
    OlsrDefenseDataHooks.onDataPacketDropped d n.now n.state p reason)
  sniffed : ∀ (n : Node D) frame, R n (n.mapDefense fun d =>
    OlsrDefenseDataHooks.onSniffed d n.now n.state frame)
  queueStatus : ∀ (n : Node D) size capacity, R n (n.mapDefense fun d =>
    OlsrDefenseDataHooks.onQueueStatusReport d n.now n.state size capacity)
  energyState : ∀ (n : Node D) remaining fraction, R n (n.mapDefense fun d =>
    OlsrDefenseDataHooks.onEnergyStateUpdate d n.now n.state remaining fraction)

namespace RelatesPackets

variable {R : Node D → Node D → Prop} (hR : RelatesPackets R) (n : Node D)
include hR

lemma sendVia (p : DataPacket) (e : RoutingTableEntry) : R n (n.sendVia p e).1 := by
  rw [Node.sendVia]
  split
  · exact hR.stop n _
  · split
    · split
      · split
        · exact hR.forwarded n p _
        · exact hR.stop n _
      · exact hR.forwarded n p _
      · exact hR.stop n _
    · exact hR.forwarded n p _

lemma handleAt (x : Input D) : R n (n.handleAt ipv4 x).1 := by
  cases x with
  | routeOutput t p oif =>
    simp only [Node.handleAt, routeOutput]
    split
    · split
      · split
        · exact hR.refl n
        · exact hR.sendVia n p _
      · exact hR.stop n _
      · exact hR.stop n _
    · split
      · exact hR.forwarded n p _
      · exact hR.stop n _
      · exact hR.refl n
  | routeInput t p iif lcb =>
    simp only [Node.handleAt, routeInput]
    split
    · exact hR.refl n
    · split
      · exact hR.refl n
      · split
        · exact hR.refl n
        · split
          · split
            · exact hR.trans n _ _ (hR.received n p _) (hR.sendVia _ p _)
            · exact hR.stop n _
            · exact hR.stop n _
          · split
            · exact hR.dropped n p _
            · exact hR.refl n
  | monitorSnifferRx t frame => exact hR.sniffed n frame
  | queueStatusReport t size capacity => exact hR.queueStatus n size capacity
  | energyStateUpdate t remaining fraction => exact hR.energyState n remaining fraction
  | control l => exact hR.refl n

end RelatesPackets

namespace IgnoresPackets

variable {β : Type} {g : Node D → β} (hg : IgnoresPackets g)
include hg

lemma relatesPackets : RelatesPackets fun n m : Node D => g m = g n where
  refl _ := rfl
  trans _ _ _ h h' := h'.trans h
  stop := hg.stop
  received := hg.received
  forwarded := hg.forwarded
  dropped := hg.dropped
  sniffed := hg.sniffed
  queueStatus := hg.queueStatus
  energyState := hg.energyState

lemma handleAt (n : Node D) (x : Input D) : g (n.handleAt ipv4 x).1 = g n :=
  hg.relatesPackets.handleAt ipv4 n x

end IgnoresPackets

/-- The choices made for the packets among the inputs. -/
def choices (n : Node D) (xs : List (Input D)) : List Choice :=
  (Lib.trace (next ipv4) n xs).filterMap fun y => (y.1.handle ipv4 y.2).2

end Node

end ManetOlsr
