/-
A disabled strategy is no strategy.

Two nodes run on the same packets and timers, one with a strategy that is not enabled and the other
without any.  The first fires one timer more, that of the strategy, and what can be observed of the
two nodes is the same after every run: what they sent, their repositories, their routing tables
and where they sent the data packets.
-/
import ManetOlsr.Model.Scenario
import ManetOlsr.Properties.BareNodes

namespace ManetOlsr

namespace Node

/-! ### Two nodes that differ in the strategy only -/

/-- Two nodes that are the same but for their strategies, which are not enabled. -/
structure Alike (n m : Node OlsrDefenseGcop) : Prop where
  left : n.Inert
  right : m.Inert
  bare : n.bare = m.bare

variable {n m : Node OlsrDefenseGcop}

lemma IgnoresDefense.alike {f : Node OlsrDefenseGcop → Node OlsrDefenseGcop}
    (hf : IgnoresDefense f) (h : Alike n m) : Alike (f n) (f m) where
  left := hf.inert h.left
  right := hf.inert h.right
  bare := by rw [(hf n h.left).1, (hf m h.right).1, h.bare]

/-- Setting the strategy up keeps it disabled, and its timer is not part of the bare node. -/
lemma reactivateDefenseStrategy_bare (hn : n.Inert) :
    n.reactivateDefenseStrategy.bare = n.bare ∧ n.reactivateDefenseStrategy.Inert := by
  cases hd : n.defenseStrategy with
  | none =>
    have hself : n.reactivateDefenseStrategy = n := by rw [reactivateDefenseStrategy, hd]
    rw [hself]
    exact ⟨rfl, hn⟩
  | some d =>
    have hset : (OlsrDefenseStrategy.setup d n.now n.mainAddress : OlsrDefenseGcop).enabled =
        false := hn d hd
    simp only [reactivateDefenseStrategy, hd]
    by_cases hrun : n.isRunning Event.handleDefenseTimer
    · rw [if_pos hrun]
      refine ⟨rfl, fun d' hd' => ?_⟩
      obtain rfl := Option.some.inj hd'
      exact hset
    · rw [if_neg hrun]
      refine ⟨bare_schedule_defenseTimer _ _, fun d' hd' => ?_⟩
      obtain rfl := Option.some.inj hd'
      exact hset

/-- **Step lemma.**  An act that does not replace the strategy does the same to two alike nodes. -/
lemma Alike.perform (h : Alike n m) (a : Act OlsrDefenseGcop)
    (ha : ∀ d, a ≠ Act.setDefenseStrategy d) : Alike (n.perform a) (m.perform a) := by
  cases a with
  | setDefenseStrategy d => exact absurd rfl (ha d)
  | advance t =>
    exact IgnoresDefense.alike (f := fun n => { n with now := t }) (fun _ _ => ⟨rfl, rfl⟩) h
  | recvMessage msg receiverIface senderIface jitter =>
    exact (recvMessage_ignores msg receiverIface senderIface jitter).alike h
  | routingTableComputation => exact routingTableComputation_ignores.alike h
  | fire t e jitter =>
    have hdequeue : IgnoresDefense fun n => n.dequeue t e := fun n _ => ⟨bare_dequeue n t e, rfl⟩
    exact ((call_ignores e jitter).comp hdequeue).alike h
  | macTxDrop neighbor =>
    have hdrop : ∀ n : Node OlsrDefenseGcop, n.Inert → n.macTxDrop neighbor = n :=
      fun n hn => hn.mapDefense fun _ _ => rfl
    simp only [Node.perform, hdrop n h.left, hdrop m h.right]
    exact h
  | onLocalRxDrop => exact ⟨h.left, h.right, h.bare⟩
  | reactivateDefenseStrategy =>
    obtain ⟨hn, hin⟩ := reactivateDefenseStrategy_bare h.left
    obtain ⟨hm, him⟩ := reactivateDefenseStrategy_bare h.right
    exact ⟨hin, him, hn.trans (h.bare.trans hm.symm)⟩
  | addHostNetworkAssociation networkAddr netmask =>
    have hadd : IgnoresDefense fun n => n.addHostNetworkAssociation networkAddr netmask :=
      .ite (fun _ => Iff.rfl) .self fun _ _ => ⟨rfl, rfl⟩
    exact hadd.alike h
  | removeHostNetworkAssociation networkAddr netmask =>
    exact IgnoresDefense.alike (f := fun n => n.removeHostNetworkAssociation networkAddr netmask)
      (fun _ _ => ⟨rfl, rfl⟩) h
  | setAttack isMalicious spoofedLinksCount =>
    have hset : IgnoresDefense fun n => n.perform (Act.setAttack isMalicious spoofedLinksCount) :=
      fun _ _ => ⟨rfl, rfl⟩
    exact hset.alike h

/-- What does not depend on the strategy is the same for two alike nodes. -/
lemma Alike.eq_of {β : Type} (h : Alike n m) (g : Node OlsrDefenseGcop → β)
    (hg : ∀ n, g n.bare = g n) : g n = g m := by
  rw [← hg n, h.bare, hg m]

lemma Alike.exec (h : Alike n m) (a : Act OlsrDefenseGcop)
    (ha : ∀ d, a ≠ Act.setDefenseStrategy d) : Alike (n.exec a) (m.exec a) := by
  rw [Node.exec, Node.exec, h.eq_of Node.fatalError fun _ => rfl]
  split
  · exact h
  · exact h.perform a ha

lemma Alike.run (h : Alike n m) (as : List (Act OlsrDefenseGcop))
    (has : ∀ a ∈ as, ∀ d, a ≠ Act.setDefenseStrategy d) :
    Alike (Lib.run Node.exec n as) (Lib.run Node.exec m as) := by
  induction as generalizing n m with
  | nil => exact h
  | cons a as ih =>
    exact ih (h.exec a (has a (by simp))) fun b hb => has b (List.mem_cons_of_mem a hb)

/-- A label that leaves the strategy to the node. -/
def KeepsStrategy : Label OlsrDefenseGcop → Prop
  | .setDefenseStrategy .. => False
  | _ => True

lemma KeepsStrategy.acts {l : Label OlsrDefenseGcop} (hl : KeepsStrategy l)
    {a : Act OlsrDefenseGcop} (ha : a ∈ n.acts l) (d : Option OlsrDefenseGcop) :
    a ≠ Act.setDefenseStrategy d := by
  rcases List.mem_cons.mp ha with rfl | ha
  · simp
  · cases l with
    | recvOlsr =>
      rcases mem_recvOlsrActs ha with ⟨msg, -, receiverIface, rfl⟩ | rfl <;> simp
    | setDefenseStrategy => exact absurd hl id
    | _ =>
      rw [List.mem_singleton.mp ha]
      simp

lemma Alike.step (h : Alike n m) {l : Label OlsrDefenseGcop} (hl : KeepsStrategy l) :
    Alike (n.step l) (m.step l) := by
  have hacts : n.acts l = m.acts l := h.eq_of (fun n => n.acts l) fun n => by cases l <;> rfl
  rw [Node.step, Node.step, hacts]
  exact h.run _ fun a ha d => hl.acts ha d

/-! ### Data packets -/

lemma stop_ignores (c : Choice) : IgnoresDefense fun n => (n.stop c).1 := fun _ _ => ⟨rfl, rfl⟩

lemma Alike.mapDefense (h : Alike n m) {f g : OlsrDefenseGcop → OlsrDefenseGcop}
    (hf : ∀ d : OlsrDefenseGcop, d.enabled = false → f d = d)
    (hg : ∀ d : OlsrDefenseGcop, d.enabled = false → g d = d) :
    Alike (n.mapDefense f) (m.mapDefense g) := by
  rwa [h.left.mapDefense hf, h.right.mapDefense hg]

lemma suspects_of_inert (hn : n.Inert) (a : Ipv4Address) : n.suspects a = false := by
  cases hd : n.defenseStrategy with
  | none => rw [suspects, hd]
  | some d =>
    rw [suspects, hd]
    show d.isMalicious a = false
    simp [OlsrDefenseGcop.isMalicious, hn d hd]

/-- Two results of a decision: the nodes are alike, and the choices are the same. -/
def AlikeResults (x y : Node OlsrDefenseGcop × Choice) : Prop := Alike x.1 y.1 ∧ x.2 = y.2

lemma Alike.stop (h : Alike n m) (c : Choice) : AlikeResults (n.stop c) (m.stop c) :=
  ⟨(stop_ignores c).alike h, rfl⟩

lemma Alike.handOver (h : Alike n m) (p : DataPacket) (r : Ipv4Route) :
    AlikeResults (n.handOver p r) (m.handOver p r) :=
  ⟨h.mapDefense (fun _ _ => rfl) fun _ _ => rfl, rfl⟩

lemma Alike.sendVia (h : Alike n m) (p : DataPacket) (e : RoutingTableEntry) :
    AlikeResults (n.sendVia p e) (m.sendVia p e) := by
  have hsource : n.soleAddress e.interface = m.soleAddress e.interface :=
    h.eq_of (fun n => n.soleAddress e.interface) fun _ => rfl
  simp only [Node.sendVia, hsource, suspects_of_inert h.left, suspects_of_inert h.right]
  cases m.soleAddress e.interface with
  | none => exact h.stop _
  | some source => exact h.handOver p _

lemma Alike.routeOutput (h : Alike n m) (ipv4 : Ipv4L3Protocol) (p : DataPacket) (oif : Option ℕ) :
    AlikeResults (n.routeOutput ipv4 p oif) (m.routeOutput ipv4 p oif) := by
  have htable : n.table = m.table := h.eq_of Node.table fun _ => rfl
  have hhna : n.hnaRouteOutput ipv4 p oif = m.hnaRouteOutput ipv4 p oif :=
    h.eq_of (fun n => n.hnaRouteOutput ipv4 p oif) fun _ => rfl
  simp only [Node.routeOutput, htable, hhna]
  cases m.table p.destination with
  | none =>
    cases m.hnaRouteOutput ipv4 p oif with
    | route r => exact h.handOver p r
    | fatalError => exact h.stop _
    | deliver | consumed | error | noRoute | endless => exact ⟨h, rfl⟩
  | some entry1 =>
    dsimp only
    cases findSendEntryIn m.table entry1 with
    | found entry2 =>
      dsimp only
      split
      · exact ⟨h, rfl⟩
      · exact h.sendVia p entry2
    | failure => exact h.stop _
    | endless => exact h.stop _

lemma Alike.routeInput (h : Alike n m) (ipv4 : Ipv4L3Protocol) (p : DataPacket) (iif : ℕ)
    (lcb : Bool) : AlikeResults (n.routeInput ipv4 p iif lcb) (m.routeInput ipv4 p iif lcb) := by
  have htable : n.table = m.table := h.eq_of Node.table fun _ => rfl
  have hhna : n.hnaRouteInput ipv4 p iif lcb = m.hnaRouteInput ipv4 p iif lcb :=
    h.eq_of (fun n => n.hnaRouteInput ipv4 p iif lcb) fun _ => rfl
  have hown : n.isMyOwnAddress p.source = m.isMyOwnAddress p.source :=
    h.eq_of (fun n => n.isMyOwnAddress p.source) fun _ => rfl
  have hattack : n.isMalicious = m.isMalicious := h.eq_of Node.isMalicious fun _ => rfl
  simp only [Node.routeInput, htable, hhna, hown, hattack]
  split
  · exact ⟨h, rfl⟩
  · split
    · exact ⟨h, rfl⟩
    · split
      · exact ⟨h, rfl⟩
      · cases m.table p.destination with
        | none =>
          cases m.hnaRouteInput ipv4 p iif lcb with
          | noRoute => exact ⟨h.mapDefense (fun _ _ => rfl) fun _ _ => rfl, rfl⟩
          | route | fatalError | deliver | consumed | error | endless => exact ⟨h, rfl⟩
        | some entry1 =>
          dsimp only
          cases findSendEntryIn m.table entry1 with
          | found entry2 => exact (h.mapDefense (fun _ _ => rfl) fun _ _ => rfl).sendVia p entry2
          | failure => exact h.stop _
          | endless => exact h.stop _

/-! ### Runs -/

/-- An input that leaves the strategy to the node. -/
def InputKeepsStrategy : Input OlsrDefenseGcop → Prop
  | .control l => KeepsStrategy l
  | _ => True

/-- An input other than the timer that serves the strategy. -/
def isNotDefenseTimer : Input OlsrDefenseGcop → Bool
  | .control (.timer _ e _) => !(e == Event.handleDefenseTimer)
  | _ => true

lemma Alike.handleAt (h : Alike n m) (ipv4 : Ipv4L3Protocol) (x : Input OlsrDefenseGcop) :
    Alike (n.handleAt ipv4 x).1 (m.handleAt ipv4 x).1 ∧
      (n.handleAt ipv4 x).2 = (m.handleAt ipv4 x).2 := by
  cases x with
  | control l => exact ⟨h, rfl⟩
  | routeOutput t p oif =>
    obtain ⟨hnode, hchoice⟩ := h.routeOutput ipv4 p oif
    exact ⟨hnode, congrArg some hchoice⟩
  | routeInput t p iif lcb =>
    obtain ⟨hnode, hchoice⟩ := h.routeInput ipv4 p iif lcb
    exact ⟨hnode, congrArg some hchoice⟩
  | monitorSnifferRx | queueStatusReport | energyStateUpdate =>
    exact ⟨h.mapDefense (fun _ _ => rfl) fun _ _ => rfl, rfl⟩

/-- **Step lemma.**  Two alike nodes stay alike, and choose alike. -/
lemma Alike.handle (h : Alike n m) (ipv4 : Ipv4L3Protocol) {x : Input OlsrDefenseGcop}
    (hx : InputKeepsStrategy x) :
    Alike (n.next ipv4 x) (m.next ipv4 x) ∧ (n.handle ipv4 x).2 = (m.handle ipv4 x).2 := by
  cases x with
  | control l => exact ⟨h.step hx, rfl⟩
  | _ =>
    simp only [Node.next, Node.handle, h.eq_of Node.fatalError fun _ => rfl]
    split
    · exact ⟨h, rfl⟩
    · exact (h.perform _ (by simp)).handleAt ipv4 _

/-- What an input does does not depend on the time of the input before it. -/
lemma handle_advance (ipv4 : Ipv4L3Protocol) (hm : m.fatalError = false) (t : Time)
    (x : Input OlsrDefenseGcop) : (m.perform (Act.advance t)).handle ipv4 x = m.handle ipv4 x := by
  have hadv : (m.perform (Act.advance t)).fatalError = false := hm
  cases x with
  | control l =>
    have hfirst : (m.perform (Act.advance t)).exec (Act.advance l.time) =
        m.exec (Act.advance l.time) := by
      rw [Node.exec, Node.exec, hm, hadv]
      rfl
    have hacts : (m.perform (Act.advance t)).acts l = m.acts l := by cases l <;> rfl
    have hstep : (m.perform (Act.advance t)).step l = m.step l := by
      rw [Node.step, Node.step, hacts, Node.acts.eq_def, Lib.run_cons, Lib.run_cons, hfirst]
    rw [Node.handle, Node.handle, hstep]
  | _ =>
    simp only [Node.handle, hm, hadv]
    rfl

/-- The timer of the strategy does nothing to the bare node. -/
lemma fire_defenseTimer_bare (hn : n.Inert) (t : Time) (jitter : Time) :
    (n.perform (Act.fire t Event.handleDefenseTimer jitter)).bare = n.bare := by
  have hcall := (handleDefenseTimer_ignores (n.dequeue t Event.handleDefenseTimer) hn).1
  have hbare : (n.bare.dequeue t Event.handleDefenseTimer) = n.bare := by
    have hnone : (t, Event.handleDefenseTimer) ∉ n.bare.events := by
      simp [bare]
    rw [dequeue, List.erase_of_not_mem hnone]
  have hfire : (n.perform (Act.fire t Event.handleDefenseTimer jitter)) =
    (n.dequeue t Event.handleDefenseTimer).handleDefenseTimer := rfl
  rw [hfire, hcall, bare_dequeue, hbare]
  rfl

/-- The second node is like the first, but its clock may be behind. -/
def Behind (n m : Node OlsrDefenseGcop) : Prop := Alike n (m.perform (Act.advance n.now))

lemma Alike.behind (h : Alike n m) : Behind n m := by
  have hnow : n.now = m.now := h.eq_of Node.now fun _ => rfl
  have hself : m.perform (Act.advance n.now) = m := by
    rw [hnow]
    rfl
  rw [Behind, hself]
  exact h

lemma Behind.fatalError (h : Behind n m) : n.fatalError = m.fatalError :=
  h.eq_of Node.fatalError fun _ => rfl

lemma Behind.handle (h : Behind n m) (ipv4 : Ipv4L3Protocol) {x : Input OlsrDefenseGcop}
    (hx : InputKeepsStrategy x) :
    Behind (n.next ipv4 x) (m.next ipv4 x) ∧ (n.handle ipv4 x).2 = (m.handle ipv4 x).2 := by
  cases hfatal : m.fatalError with
  | true =>
    rw [Node.next, Node.next, handle_stopped ipv4 (h.fatalError.trans hfatal),
      handle_stopped ipv4 hfatal]
    exact ⟨h, rfl⟩
  | false =>
    obtain ⟨hnode, hchoice⟩ := Alike.handle h ipv4 hx
    rw [Node.next, Node.next, handle_advance ipv4 hfatal] at hnode
    rw [handle_advance ipv4 hfatal] at hchoice
    exact ⟨hnode.behind, hchoice⟩

/-- A node that fires the timer of its strategy stays like one that has no such timer. -/
lemma Behind.defenseTimer (h : Behind n m) (ipv4 : Ipv4L3Protocol) (t jitter : Time) :
    Behind (n.next ipv4 (.control (.timer t Event.handleDefenseTimer jitter))) m ∧
      (n.handle ipv4 (.control (.timer t Event.handleDefenseTimer jitter))).2 = none := by
  refine ⟨?_, rfl⟩
  cases hfatal : n.fatalError with
  | true =>
    rw [Node.next, handle_stopped ipv4 hfatal]
    exact h
  | false =>
    have hadv : Alike (n.perform (Act.advance t)) (m.perform (Act.advance t)) :=
      Alike.perform h (Act.advance t) (by simp)
    have hnext : n.next ipv4 (.control (.timer t Event.handleDefenseTimer jitter)) =
        (n.perform (Act.advance t)).perform (Act.fire t Event.handleDefenseTimer jitter) := by
      show (n.exec (Act.advance t)).exec (Act.fire t Event.handleDefenseTimer jitter) = _
      have hfirst : n.exec (Act.advance t) = n.perform (Act.advance t) := if_neg (by simp [hfatal])
      have hrun : (n.perform (Act.advance t)).fatalError = false := hfatal
      rw [hfirst]
      exact if_neg (by simp [hrun])
    have hbare := fire_defenseTimer_bare hadv.left t jitter
    have hinert : ((n.perform (Act.advance t)).perform
        (Act.fire t Event.handleDefenseTimer jitter)).Inert :=
      (Alike.perform hadv (Act.fire t Event.handleDefenseTimer jitter) (by simp)).left
    have hnow := congrArg Node.now hbare
    rw [hnext, Behind]
    have hclock : ((n.perform (Act.advance t)).perform
        (Act.fire t Event.handleDefenseTimer jitter)).now = t := hnow
    rw [hclock]
    exact ⟨hinert, hadv.right, hbare.trans hadv.bare⟩

/-- **Run lemma.**  The first node may fire the timer of its strategy at any time. -/
theorem Behind.runs (h : Behind n m) (ipv4 : Ipv4L3Protocol) (xs : List (Input OlsrDefenseGcop))
    (hxs : ∀ x ∈ xs, InputKeepsStrategy x) :
    Behind (Lib.run (Node.next ipv4) n xs)
        (Lib.run (Node.next ipv4) m (xs.filter isNotDefenseTimer)) ∧
      n.choices ipv4 xs = m.choices ipv4 (xs.filter isNotDefenseTimer) := by
  induction xs generalizing n m with
  | nil => exact ⟨h, rfl⟩
  | cons x xs ih =>
    have hrest : ∀ y ∈ xs, InputKeepsStrategy y := fun y hy => hxs y (List.mem_cons_of_mem x hy)
    cases hx : isNotDefenseTimer x with
    | true =>
      obtain ⟨hnode, hchoice⟩ := h.handle ipv4 (hxs x List.mem_cons_self)
      obtain ⟨hrun, hchoices⟩ := ih hnode hrest
      rw [choices, choices] at hchoices
      rw [List.filter_cons_of_pos hx]
      refine ⟨hrun, ?_⟩
      simp only [choices, Lib.trace_cons, List.filterMap_cons, hchoice, hchoices]
    | false =>
      rw [List.filter_cons_of_neg (by simp [hx])]
      obtain ⟨t, jitter, rfl⟩ : ∃ t jitter,
          x = .control (.timer t Event.handleDefenseTimer jitter) := by
        cases x with
        | control l =>
          cases l with
          | timer t e jitter => exact ⟨t, jitter, by simpa [isNotDefenseTimer] using hx⟩
          | _ => simp [isNotDefenseTimer] at hx
        | _ => simp [isNotDefenseTimer] at hx
      obtain ⟨hnode, hchoice⟩ := h.defenseTimer ipv4 t jitter
      obtain ⟨hrun, hchoices⟩ := ih hnode hrest
      refine ⟨hrun, ?_⟩
      rw [← hchoices]
      simp only [choices, Lib.trace_cons, List.filterMap_cons, hchoice]

/-- What can be observed of a node: its messages, its repositories with the MPR set, and its
routes. -/
structure Outputs where
  sentPackets : List OlsrPacket
  generatedTcs : List GeneratedTc
  queuedMessages : List MessageHeader
  state : OlsrState
  table : Table
  tableAvoidingSuspects : Table
  hnaRoutingTable : List HnaRoute

def outputs (n : Node OlsrDefenseGcop) : Outputs where
  sentPackets := n.sentPackets
  generatedTcs := n.generatedTcs
  queuedMessages := n.queuedMessages
  state := n.state
  table := n.table
  tableAvoidingSuspects := n.tableAvoidingSuspects
  hnaRoutingTable := n.hnaRoutingTable

lemma Behind.outputs (h : Behind n m) : n.outputs = m.outputs :=
  Alike.eq_of h Node.outputs fun _ => rfl

end Node

/-- The node that starts with a configuration and a strategy. -/
def Config.startWith (c : Config OlsrDefenseGcop) (d : Option OlsrDefenseGcop) (jitter : Time) :
    Node OlsrDefenseGcop :=
  ({ c with defenseStrategy := d } : Config OlsrDefenseGcop).node.doInitialize jitter

section Start

open Node

/-- A node starts with a disabled strategy as it starts without one. -/
lemma Config.startWith_alike (c : Config OlsrDefenseGcop) (jitter : Time) {d : OlsrDefenseGcop}
    (hd : d.enabled = false) : Alike (c.startWith (some d) jitter) (c.startWith none jitter) := by
  let n : Node OlsrDefenseGcop := ({ c with defenseStrategy := some d } : Config _).node
  let m : Node OlsrDefenseGcop := ({ c with defenseStrategy := none } : Config _).node
  have hinert : n.startDefense.Inert := by
    intro d' hd'
    obtain rfl := Option.some.inj hd'
    exact hd
  have hbare : n.startDefense.bare = m.startDefense.bare := bare_schedule_defenseTimer _ _
  have hdefense : Alike n.startDefense m.startDefense :=
    ⟨hinert, (fun _ hd' => nomatch hd'), hbare⟩
  have hhello := (call_ignores Event.helloTimerExpire jitter).alike hdefense
  have htc := (call_ignores Event.tcTimerExpire jitter).alike hhello
  have hmid := (call_ignores Event.midTimerExpire jitter).alike htc
  have hhna := (call_ignores Event.hnaTimerExpire jitter).alike hmid
  have hcan : n.canRunOlsr = m.canRunOlsr := rfl
  show Alike (n.doInitialize jitter) (m.doInitialize jitter)
  rw [doInitialize, doInitialize, hcan]
  split
  · exact hhna
  · exact hdefense

/-- **A disabled strategy is no strategy.**  A node with a strategy that is not enabled starts like
one without any.  From two nodes that differ so, and on any inputs that leave the strategies alone,
the outputs and the choices for data packets are the same; the only inputs that the second node
does without are the timers of the strategy. -/
theorem disabledDefense_noninterference (ipv4 : Ipv4L3Protocol) :
    (∀ (c : Config OlsrDefenseGcop) (jitter : Time) (d : OlsrDefenseGcop), d.enabled = false →
      Alike (c.startWith (some d) jitter) (c.startWith none jitter)) ∧
    ∀ n m : Node OlsrDefenseGcop, Alike n m → ∀ xs : List (Input OlsrDefenseGcop),
      (∀ x ∈ xs, InputKeepsStrategy x) →
      (Lib.run (Node.next ipv4) n xs).outputs =
        (Lib.run (Node.next ipv4) m (xs.filter isNotDefenseTimer)).outputs ∧
      n.choices ipv4 xs = m.choices ipv4 (xs.filter isNotDefenseTimer) := by
  refine ⟨fun c jitter d hd => c.startWith_alike jitter hd, fun n m h xs hxs => ?_⟩
  obtain ⟨hrun, hchoices⟩ := h.behind.runs ipv4 xs hxs
  exact ⟨hrun.outputs, hchoices⟩

/-- One interface of address 1. -/
def oneInterface : Ipv4L3Protocol where
  isDestinationAddress a _ := a == 1
  sourceAddressSelection _ _ := 1
  isForwarding _ := true

/-- After the first packet of the node: a HELLO message of 2, the timer of the strategy, and a packet
to 2. -/
def packetAfterTimer : List (Input OlsrDefenseGcop) :=
  [.control (.timer 0 Event.sendQueuedMessages 0),
    .control (Scenario.recv 0 2 (Scenario.hello 2 [Scenario.symLinks [1]])),
    .control (.timer (Seconds 1) Event.handleDefenseTimer 0),
    .routeOutput (Seconds 1) { uid := 0, source := 1, destination := 2 } none]

theorem disabledDefense_noninterference_packetAfterTimer :
    (Lib.run (Node.next oneInterface) (Scenario.quiet.startWith (some {}) 0)
        packetAfterTimer).outputs =
      (Lib.run (Node.next oneInterface) (Scenario.quiet.startWith none 0)
        (packetAfterTimer.filter isNotDefenseTimer)).outputs ∧
    (Scenario.quiet.startWith (some {}) 0).choices oneInterface packetAfterTimer =
      (Scenario.quiet.startWith none 0).choices oneInterface
        (packetAfterTimer.filter isNotDefenseTimer) :=
  have h := disabledDefense_noninterference oneInterface
  h.2 _ _ (h.1 Scenario.quiet 0 {} rfl) packetAfterTimer
    (by simp [packetAfterTimer, InputKeepsStrategy, KeepsStrategy, Scenario.recv])

end Start

end ManetOlsr
