/-
Runs of a node.

What happens to a node is a list of labels: the reception of a packet, the firing of a pending
timer, or a change that comes from outside the protocol.  A label stands for a list of acts, the
units in which the effects of a run are stated: one act for each message of a packet, one for
the computation of the routing table that follows, one for each timer.

Time passes between labels, never within one.  A label happens at a time that no pending timer
precedes, so that no timer is skipped; a timer fires at the time it was scheduled for, and among
timers of the same time any order is possible.
-/
import ManetOlsr.Lib.Machine
import ManetOlsr.Model.Timers

namespace ManetOlsr

inductive Act (D : Type) where
  | advance (t : Time)
  | recvMessage (msg : MessageHeader) (receiverIface senderIface : Ipv4Address) (jitter : Time)
  | routingTableComputation
  | fire (t : Time) (e : Event) (jitter : Time)
  | macTxDrop (neighbor : Ipv4Address)
  | onLocalRxDrop
  | setDefenseStrategy (d : Option D)
  | reactivateDefenseStrategy
  | addHostNetworkAssociation (networkAddr : Ipv4Address) (netmask : Ipv4Mask)
  | removeHostNetworkAssociation (networkAddr : Ipv4Address) (netmask : Ipv4Mask)
  | setAttack (isMalicious : Bool) (spoofedLinksCount : ℕ)
deriving DecidableEq

/-- What happens to a node, and when.  A strategy that changes by itself (on data packets, on
sniffed frames, by one of its switches) is a `setDefenseStrategy`.  A `macTxDrop` names the packet
in the frame that is dropped, which no `MacTxDrop` looks at, and the address it reads off it. -/
inductive Label (D : Type) where
  | recvOlsr (t : Time) (recvInterface : ℕ) (senderIface : Ipv4Address)
      (messages : List MessageHeader) (jitter : Time)
  | timer (t : Time) (e : Event) (jitter : Time)
  | macTxDrop (t : Time) (uid : ℕ) (neighbor : Ipv4Address)
  | onLocalRxDrop (t : Time)
  | setDefenseStrategy (t : Time) (d : Option D)
  | reactivateDefenseStrategy (t : Time)
  | addHostNetworkAssociation (t : Time) (networkAddr : Ipv4Address) (netmask : Ipv4Mask)
  | removeHostNetworkAssociation (t : Time) (networkAddr : Ipv4Address) (netmask : Ipv4Mask)
  | setAttack (t : Time) (isMalicious : Bool) (spoofedLinksCount : ℕ)

/-- The time at which a label happens. -/
def Label.time {D : Type} : Label D → Time
  | recvOlsr t .. | timer t .. | macTxDrop t .. | onLocalRxDrop t | setDefenseStrategy t ..
  | reactivateDefenseStrategy t | addHostNetworkAssociation t .. => t
  | removeHostNetworkAssociation t .. | setAttack t .. => t

/-- What is set on a node before it starts. -/
structure Config (D : Type) where
  mainAddress : Ipv4Address
  interfaces : List Ipv4Interface
  interfaceExclusions : Finset ℕ := ∅
  helloInterval : Time := Seconds 2
  tcInterval : Time := Seconds 5
  midInterval : Time := Seconds 5
  hnaInterval : Time := Seconds 5
  willingness : Willingness := Willingness.default
  isMalicious : Bool := false
  spoofedLinksCount : ℕ := 0
  defenseStrategy : Option D := none
  associations : List Association := []
  startTime : Time := 0

/-- The node that `SetIpv4` leaves. -/
def Config.node {D : Type} (c : Config D) : Node D where
  mainAddress := c.mainAddress
  interfaces := c.interfaces
  interfaceExclusions := c.interfaceExclusions
  helloInterval := c.helloInterval
  tcInterval := c.tcInterval
  midInterval := c.midInterval
  hnaInterval := c.hnaInterval
  willingness := c.willingness
  isMalicious := c.isMalicious
  spoofedLinksCount := c.spoofedLinksCount
  defenseStrategy := c.defenseStrategy
  state := { associations := c.associations }
  now := c.startTime

namespace Node

variable {D : Type} [OlsrDefenseStrategy D] (n : Node D)

/-! ### The start -/

/-- The main address of a node that starts: the one that was set, or that of its first interface
other than the loopback. -/
def chosenMainAddress : Ipv4Address :=
  if n.mainAddress = unsetAddress then
    ((n.interfaces.map Ipv4Interface.address).find? fun a => !(a == loopback)).getD unsetAddress
  else n.mainAddress

/-- The associations of the other interfaces of a node with its main address. -/
def ownIfaceAssocs : List IfaceAssocTuple :=
  ((n.interfaces.map Ipv4Interface.address).filter fun a =>
    !(a == loopback) && !(a == n.chosenMainAddress)).map fun a => ⟨a, n.chosenMainAddress, 0⟩

def canRunOlsr : Bool :=
  n.interfaces.zipIdx.any fun (i, idx) =>
    !(i.address == loopback) && decide (idx ∉ n.interfaceExclusions)

/-- `DoInitialize` before the emission timers. -/
def startDefense : Node D :=
  let n₁ : Node D :=
    { n with
      mainAddress := n.chosenMainAddress
      state := { n.state with ifaceAssocSet := n.state.ifaceAssocSet ++ n.ownIfaceAssocs } }
  match n₁.defenseStrategy with
  | some d =>
    { n₁ with
      defenseStrategy := some (OlsrDefenseStrategy.setup d n.now n.chosenMainAddress) }.schedule
        (Seconds 1) Event.handleDefenseTimer
  | none => n₁

def doInitialize (jitter : Time) : Node D :=
  let n₁ := n.startDefense
  if n.canRunOlsr then
    (((n₁.helloTimerExpire jitter).tcTimerExpire jitter).midTimerExpire jitter).hnaTimerExpire
      jitter
  else n₁

/-! ### Acts -/

def macTxDrop (neighbor : Ipv4Address) : Node D :=
  n.mapDefense fun d => OlsrDefenseStrategy.onMacTxFailure d n.now n.state neighbor 1

def reactivateDefenseStrategy : Node D :=
  match n.defenseStrategy with
  | none => n
  | some d =>
    let n₁ := { n with
      defenseStrategy := some (OlsrDefenseStrategy.setup d n.now n.mainAddress) }
    if n.isRunning Event.handleDefenseTimer then n₁
    else n₁.schedule (Seconds 1) Event.handleDefenseTimer

def addHostNetworkAssociation (networkAddr : Ipv4Address) (netmask : Ipv4Mask) : Node D :=
  if n.state.associations.any fun a => a.networkAddr == networkAddr && a.netmask == netmask then n
  else n.withState (n.state.insertAssociation ⟨networkAddr, netmask⟩)

def removeHostNetworkAssociation (networkAddr : Ipv4Address) (netmask : Ipv4Mask) : Node D :=
  n.withState (n.state.eraseAssociation ⟨networkAddr, netmask⟩)

/-- The node without a pending event. -/
def dequeue (t : Time) (e : Event) : Node D := { n with events := n.events.erase (t, e) }

/-- The effect of an act on a node that has not stopped. -/
def perform : Act D → Node D
  | .advance t => { n with now := t }
  | .recvMessage msg receiverIface senderIface jitter =>
    n.recvMessage msg receiverIface senderIface jitter
  | .routingTableComputation => n.routingTableComputation
  | .fire t e jitter => (n.dequeue t e).call e jitter
  | .macTxDrop neighbor => n.macTxDrop neighbor
  | .onLocalRxDrop => { n with localRxDrops := n.localRxDrops + 1 }
  | .setDefenseStrategy d => { n with defenseStrategy := d }
  | .reactivateDefenseStrategy => n.reactivateDefenseStrategy
  | .addHostNetworkAssociation networkAddr netmask =>
    n.addHostNetworkAssociation networkAddr netmask
  | .removeHostNetworkAssociation networkAddr netmask =>
    n.removeHostNetworkAssociation networkAddr netmask
  | .setAttack isMalicious spoofedLinksCount =>
    { n with isMalicious := isMalicious, spoofedLinksCount := spoofedLinksCount }

/-- The effect of an act: none once the simulation has been stopped. -/
def exec (n : Node D) (a : Act D) : Node D := if n.fatalError then n else n.perform a

/-! ### Labels -/

/-- `RecvOlsr`, as a list of acts. -/
def recvOlsrActs (recvInterface : ℕ) (senderIface : Ipv4Address) (messages : List MessageHeader)
    (jitter : Time) : List (Act D) :=
  match n.interfaces[recvInterface]? with
  | none => []
  | some iface =>
    if n.acceptsFrom recvInterface senderIface then
      messages.map (fun msg => Act.recvMessage msg iface.address senderIface jitter) ++
        [Act.routingTableComputation]
    else []

/-- The acts of a label. -/
def acts (l : Label D) : List (Act D) :=
  Act.advance l.time ::
  match l with
  | .recvOlsr _ recvInterface senderIface messages jitter =>
    n.recvOlsrActs recvInterface senderIface messages jitter
  | .timer t e jitter => [Act.fire t e jitter]
  | .macTxDrop _ _ neighbor => [Act.macTxDrop neighbor]
  | .onLocalRxDrop _ => [Act.onLocalRxDrop]
  | .setDefenseStrategy _ d => [Act.setDefenseStrategy d]
  | .reactivateDefenseStrategy _ => [Act.reactivateDefenseStrategy]
  | .addHostNetworkAssociation _ networkAddr netmask =>
    [Act.addHostNetworkAssociation networkAddr netmask]
  | .removeHostNetworkAssociation _ networkAddr netmask =>
    [Act.removeHostNetworkAssociation networkAddr netmask]
  | .setAttack _ isMalicious spoofedLinksCount => [Act.setAttack isMalicious spoofedLinksCount]

/-- A jitter is drawn between `0` and `OLSR_MAXJITTER`. -/
def IsJitter (jitter : Time) : Prop := 0 ≤ jitter ∧ 4 * jitter ≤ n.helloInterval

/-- A label that can happen next. -/
def Enabled (l : Label D) : Prop :=
  n.fatalError = false ∧ n.now ≤ l.time ∧ (∀ te ∈ n.events, l.time ≤ te.1) ∧
  match l with
  | .recvOlsr _ recvInterface _ _ jitter =>
    recvInterface < n.interfaces.length ∧ n.IsJitter jitter
  | .timer t e jitter => (t, e) ∈ n.events ∧ n.IsJitter jitter
  | _ => True

/-- The effect of a label. -/
def step (n : Node D) (l : Label D) : Node D := Lib.run exec n (n.acts l)

/-- The acts of a list of labels. -/
def runActs (n : Node D) : List (Label D) → List (Act D)
  | [] => []
  | l :: ls => n.acts l ++ (n.step l).runActs ls

/-- Each label of the list can happen when its turn comes. -/
def IsRun (n : Node D) : List (Label D) → Prop
  | [] => True
  | l :: ls => n.Enabled l ∧ (n.step l).IsRun ls

instance (n : Node D) (jitter : Time) : Decidable (n.IsJitter jitter) :=
  inferInstanceAs (Decidable (_ ∧ _))

instance (n : Node D) : (l : Label D) → Decidable (n.Enabled l)
  | .recvOlsr .. | .timer .. => inferInstanceAs (Decidable (_ ∧ _ ∧ (∀ te ∈ _, _) ∧ _ ∧ _))
  | .macTxDrop .. | .onLocalRxDrop .. | .setDefenseStrategy .. | .reactivateDefenseStrategy ..
  | .addHostNetworkAssociation .. | .removeHostNetworkAssociation .. | .setAttack .. =>
    inferInstanceAs (Decidable (_ ∧ _ ∧ (∀ te ∈ _, _) ∧ True))

instance decidableIsRun (n : Node D) : (ls : List (Label D)) → Decidable (n.IsRun ls)
  | [] => inferInstanceAs (Decidable True)
  | l :: ls => @instDecidableAnd _ _ _ (decidableIsRun (n.step l) ls)

end Node

namespace Node

variable {D : Type} [OlsrDefenseStrategy D]

/-- What a run guarantees of its acts: time does not go back and passes no pending timer, and a
timer fires when it is due. -/
def Timed (n : Node D) : Act D → Prop
  | .advance t => n.fatalError = false ∧ n.now ≤ t ∧ ∀ te ∈ n.events, t ≤ te.1
  | .fire t e _ => n.fatalError = false ∧ n.now = t ∧ (t, e) ∈ n.events ∧ ∀ te ∈ n.events, t ≤ te.1
  | _ => True

omit [OlsrDefenseStrategy D] in
lemma mem_recvOlsrActs {n : Node D} {recvInterface : ℕ} {senderIface : Ipv4Address}
    {messages : List MessageHeader} {jitter : Time} {a : Act D}
    (h : a ∈ n.recvOlsrActs recvInterface senderIface messages jitter) :
    (∃ msg ∈ messages, ∃ receiverIface, a = Act.recvMessage msg receiverIface senderIface jitter) ∨
      a = Act.routingTableComputation := by
  simp only [recvOlsrActs] at h
  split at h
  · simp at h
  · split at h
    · rcases List.mem_append.mp h with h | h
      · obtain ⟨msg, hmsg, rfl⟩ := List.mem_map.mp h
        exact Or.inl ⟨msg, hmsg, _, rfl⟩
      · exact Or.inr (List.mem_singleton.mp h)
    · simp at h

lemma timed_label {n : Node D} {l : Label D} (h : n.Enabled l) :
    ∀ x ∈ Lib.trace exec n (n.acts l), x.1.Timed x.2 := by
  obtain ⟨hrunning, hnow, hevents, hl⟩ := h
  intro x hx
  rcases List.mem_cons.mp hx with rfl | hx
  · exact ⟨hrunning, hnow, hevents⟩
  · cases l with
    | timer t e jitter =>
      -- The timer finds the node as it was, at the time it was due.
      rw [exec, if_neg (by simp [hrunning])] at hx
      obtain rfl := List.mem_singleton.mp hx
      exact ⟨hrunning, rfl, hl.1, hevents⟩
    | recvOlsr t recvInterface senderIface messages jitter =>
      rcases mem_recvOlsrActs (Lib.snd_mem_of_mem_trace hx) with ⟨msg, -, receiverIface, hact⟩ | hact
      · rw [hact]
        trivial
      · rw [hact]
        trivial
    | _ =>
      have hact := Lib.snd_mem_of_mem_trace hx
      rw [List.mem_singleton.mp hact]
      trivial

/-- A node that has stopped stays as it is. -/
lemma run_stopped {n : Node D} (hn : n.fatalError = true) (as : List (Act D)) :
    Lib.run exec n as = n := by
  induction as with
  | nil => rfl
  | cons a as ih => rw [Lib.run_cons, exec, if_pos hn, ih]

/-- The labels of a run come when they are enabled. -/
lemma IsRun.enabled {n : Node D} {ls : List (Label D)} (h : n.IsRun ls) :
    ∀ x ∈ Lib.trace step n ls, x.1.Enabled x.2 :=
  Lib.forall_trace_of_cons (Q := IsRun) (fun _ _ _ h => h) h

/-- Labels that come when they are enabled make a run. -/
lemma isRun_of_enabled {n : Node D} {ls : List (Label D)}
    (h : ∀ x ∈ Lib.trace step n ls, x.1.Enabled x.2) : n.IsRun ls := by
  induction ls generalizing n with
  | nil => trivial
  | cons l ls ih =>
    exact ⟨h (n, l) List.mem_cons_self, ih fun x hx => h x (List.mem_cons_of_mem _ hx)⟩

lemma timed_runActs {n : Node D} {ls : List (Label D)} (h : n.IsRun ls) :
    ∀ x ∈ Lib.trace exec n (n.runActs ls), x.1.Timed x.2 := by
  induction ls generalizing n with
  | nil => simp [runActs]
  | cons l ls ih =>
    intro x hx
    rw [runActs, Lib.trace_append, List.mem_append] at hx
    rcases hx with hx | hx
    · exact timed_label h.1 x hx
    · exact ih h.2 x hx

end Node

/-- A run: a node is configured, started, and takes part in what its labels say. -/
structure Run (D : Type) [OlsrDefenseStrategy D] where
  config : Config D
  jitter : Time
  labels : List (Label D)
  isJitter : config.node.IsJitter jitter
  isRun : (config.node.doInitialize jitter).IsRun labels

namespace Run

variable {D : Type} [OlsrDefenseStrategy D] (r : Run D)

def start : Node D := r.config.node.doInitialize r.jitter

/-- The acts of the run, each with the node it changes. -/
def trace : List (Node D × Act D) := Lib.trace Node.exec r.start (r.start.runActs r.labels)

/-- The node at the end of the run. -/
def final : Node D := r.labels.foldl Node.step r.start

/-- The nodes of the run: those in which its acts happen, and the last. -/
def nodes : List (Node D) := r.trace.map Prod.fst ++ [r.final]

end Run

/-- A node that some run ends in. -/
def Reachable {D : Type} [OlsrDefenseStrategy D] (n : Node D) : Prop := ∃ r : Run D, r.final = n

namespace Run

variable {D : Type} [OlsrDefenseStrategy D] (r : Run D)

lemma foldl_step_eq_run (n : Node D) (ls : List (Label D)) :
    ls.foldl Node.step n = Lib.run Node.exec n (n.runActs ls) := by
  induction ls generalizing n with
  | nil => rfl
  | cons l ls ih => rw [List.foldl_cons, ih, Node.runActs, Lib.run_append, Node.step]

lemma final_eq_run : r.final = Lib.run Node.exec r.start (r.start.runActs r.labels) :=
  foldl_step_eq_run _ _

/-- The node an act leaves is a node of the run. -/
lemma exec_mem_nodes {x : Node D × Act D} (hx : x ∈ r.trace) : x.1.exec x.2 ∈ r.nodes := by
  rcases Lib.exec_mem_of_mem_trace hx with hlast | ⟨y, hy, hnext⟩
  · rw [hlast, ← final_eq_run]
    exact List.mem_append_right _ (List.mem_singleton_self _)
  · rw [← hnext]
    exact List.mem_append_left _ (List.mem_map_of_mem hy)

/-- The acts of a run come in time. -/
lemma timed_trace : ∀ x ∈ r.trace, x.1.Timed x.2 := Node.timed_runActs r.isRun

variable {I : Node D → Prop} {P : Node D → Act D → Prop}

/-- An act does nothing to a stopped node, so that only acts on running nodes matter. -/
lemma exec_inv (hstep : ∀ n a, n.fatalError = false → I n → P n a → I (n.perform a)) (n : Node D)
    (a : Act D) (hn : I n) (ha : P n a) : I (n.exec a) := by
  rw [Node.exec]
  split
  · exact hn
  · next hrunning => exact hstep n a (by simpa using hrunning) hn ha

/-- **Invariant rule for runs** whose acts all satisfy a condition. -/
theorem final_inv (hstart : I r.start)
    (hstep : ∀ n a, n.fatalError = false → I n → P n a → I (n.perform a))
    (hP : ∀ x ∈ r.trace, P x.1 x.2) : I r.final := by
  rw [final_eq_run]
  exact Lib.inv_run (exec_inv hstep) hstart hP

/-- The invariant rule for all the nodes of a run. -/
theorem nodes_inv (hstart : I r.start)
    (hstep : ∀ n a, n.fatalError = false → I n → P n a → I (n.perform a))
    (hP : ∀ x ∈ r.trace, P x.1 x.2) : ∀ n ∈ r.nodes, I n := by
  intro n hn
  rcases List.mem_append.mp hn with hn | hn
  · obtain ⟨x, hx, rfl⟩ := List.mem_map.mp hn
    exact Lib.inv_trace (exec_inv hstep) hstart hP x hx
  · rw [List.mem_singleton.mp hn]
    exact r.final_inv hstart hstep hP

end Run

/-- **Invariant rule for reachable nodes.** -/
theorem Reachable.inv {D : Type} [OlsrDefenseStrategy D] {I : Node D → Prop}
    (hstart : ∀ (c : Config D) jitter, I (c.node.doInitialize jitter))
    (hstep : ∀ n a, I n → I (n.perform a)) {n : Node D} (h : Reachable n) : I n := by
  obtain ⟨r, rfl⟩ := h
  exact r.final_inv (P := fun _ _ => True) (hstart _ _) (fun n a _ hn _ => hstep n a hn)
    fun _ _ => trivial

end ManetOlsr
