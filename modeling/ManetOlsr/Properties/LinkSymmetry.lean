/-
Symmetric links in networks (`SendHello`, `LinkSensing`).

A node takes a link for symmetric when the other one lists the interface on which the HELLO message
arrives.  `SendHello` lists the interface that a link leads to, and also the interfaces that are
associated with that address by MID messages.  So what a confirmation says is that the sender has a
link to the interface, or to the main address of the node that has announced it; whether the sender
has heard the very interface, it does not say.
-/
import ManetOlsr.Model.AddressSources
import ManetOlsr.Model.Agenda
import ManetOlsr.Model.Network
import ManetOlsr.Model.Scenario
import Mathlib.Data.Fintype.Defs

namespace ManetOlsr

namespace Node

variable {D : Type} {n : Node D}

/-! ### Confirmations -/

/-- `LinkSensing` extends the symmetry of the link to the interface of the sender. -/
def ExtendsSymTime (n : Node D) (msg : MessageHeader) (hello : Hello)
    (receiverIface senderIface : Ipv4Address) : Prop :=
  ((n.state.findLinkTuple senderIface).getD
      (n.newLinkTuple (getVTime msg.vTime) receiverIface senderIface)).symTime <
    (n.sensedLink msg hello receiverIface senderIface).link.symTime

instance (msg : MessageHeader) (hello : Hello) (receiverIface senderIface : Ipv4Address) :
    Decidable (n.ExtendsSymTime msg hello receiverIface senderIface) :=
  inferInstanceAs (Decidable (_ < _))

/-- The loop leaves a link alone whose interface is not listed. -/
lemma foldl_sensingStep_unlisted {receiverIface : Ipv4Address} (vTime : Time)
    (ms : List LinkMessage) (x : Sensing)
    (h : ∀ m ∈ ms, receiverIface ∉ m.neighborInterfaceAddresses) :
    (ms.foldl (n.sensingStep vTime receiverIface) x).link.symTime = x.link.symTime := by
  induction ms generalizing x with
  | nil => rfl
  | cons m ms ih =>
    have hm : m.neighborInterfaceAddresses.contains receiverIface = false := by
      simpa using h m List.mem_cons_self
    have hstep : (n.sensingStep vTime receiverIface x m) = x := by
      rw [sensingStep, hm]
      exact ite_self x
    rw [List.foldl_cons, hstep]
    exact ih x fun m' hm' => h m' (List.mem_cons_of_mem m hm')

/-- Only a HELLO message that lists the receiving interface extends the symmetry. -/
lemma ExtendsSymTime.listed {msg : MessageHeader} {hello : Hello}
    {receiverIface senderIface : Ipv4Address}
    (h : n.ExtendsSymTime msg hello receiverIface senderIface) :
    ∃ lm ∈ hello.linkMessages, receiverIface ∈ lm.neighborInterfaceAddresses := by
  by_contra hcontra
  push Not at hcontra
  have hsame := n.foldl_sensingStep_unlisted (getVTime msg.vTime) hello.linkMessages
    ⟨{ (n.state.findLinkTuple senderIface).getD
        (n.newLinkTuple (getVTime msg.vTime) receiverIface senderIface) with
        asymTime := n.now + getVTime msg.vTime }, (n.state.findLinkTuple senderIface).isSome, false⟩
    hcontra
  exact absurd h (not_lt_of_ge (le_of_eq hsame))

end Node

/-! ### What happened in a network -/

variable {ν D : Type} [DecidableEq ν] [OlsrDefenseStrategy D]

namespace NetworkRun

variable (r : NetworkRun ν D)

/-- The node makes a HELLO message, when it starts or when its timer expires. -/
def BuildsHello (v : ν) (n : Node D) : Prop :=
  n = (r.config v).node.startDefense ∨
    ∃ t jitter, r.Performs v n (.fire t .helloTimerExpire jitter)

/-- The node has received a HELLO message from the interface. -/
def Heard (v : ν) (iface : Ipv4Address) : Prop :=
  ∃ n msg hello receiverIface jitter,
    r.Performs v n (.recvMessage msg receiverIface iface jitter) ∧ msg.body = .hello hello

/-- The interface is one of the node itself, or the node has received a MID message of this originator
that lists it. -/
def Told (v : ν) (iface mainAddr : Ipv4Address) : Prop :=
  (mainAddr = (r.config v).node.chosenMainAddress ∧
    ∃ i ∈ (r.config v).interfaces, i.address = iface) ∨
  ∃ n msg mid receiverIface senderIface jitter,
    r.Performs v n (.recvMessage msg receiverIface senderIface jitter) ∧ msg.body = .mid mid ∧
    msg.originatorAddress = mainAddr ∧ iface ∈ mid.interfaceAddresses

/-- A node that does not attack, in the course of the run: what it knows has been heard and told, and
its HELLO messages are those that it has built. -/
structure Faithful (v : ν) (n : Node D) : Prop where
  isMalicious : n.isMalicious = false
  sourced : n.state.Sourced (r.Heard v) (r.Told v)
  utters : n.Utters fun m => ∀ hello, m.body = .hello hello →
    ∃ n₀, r.BuildsHello v n₀ ∧ m = n₀.helloMessage

variable {r}

lemma Performs.isMalicious_eq {v : ν} {n : Node D} {isMalicious : Bool} {spoofedLinksCount : ℕ}
    (h : r.Performs v n (.setAttack isMalicious spoofedLinksCount)) (hattack : r.NoAttack) :
    isMalicious = false := by
  obtain ⟨-, ⟨σ, w, l⟩, hx, rfl, hy⟩ := h
  have hl : l.startsAttack = false := hattack.2 (w, l) (Lib.snd_mem_of_mem_trace hx)
  rcases List.mem_cons.mp (Lib.snd_mem_of_mem_trace hy) with heq | hmem
  · cases heq
  · cases l with
    | recvOlsr t i senderIface messages jitter =>
      rcases Node.mem_recvOlsrActs hmem with ⟨msg, -, receiverIface, heq⟩ | heq
      · cases heq
      · cases heq
    | setAttack t isMalicious' spoofedLinksCount' =>
      cases List.mem_singleton.mp hmem
      exact hl
    | _ => cases List.mem_singleton.mp hmem

/-- The node before its emission timers. -/
lemma startDefense_faithful (hattack : r.NoAttack) (v : ν) :
    r.Faithful v (r.config v).node.startDefense where
  isMalicious :=
    (congrArg Fixed.isMalicious (r.config v).node.startDefense_fixed).trans (hattack.1 v)
  sourced := Node.startDefense_sourced fun i hi => Or.inl ⟨rfl, i, hi, rfl⟩
  utters := Node.startDefense_utters ⟨by simp [Config.node], by simp [Config.node]⟩

/-- A timer keeps a node faithful, if a HELLO message that it sends counts as built. -/
lemma Faithful.call {v : ν} {n : Node D} (h : r.Faithful v n) (e : Event) (jitter : Time)
    (he : e = .helloTimerExpire → r.BuildsHello v n) : r.Faithful v (n.call e jitter) where
  isMalicious := (congrArg Fixed.isMalicious (n.call_fixed e jitter)).trans h.isMalicious
  sourced := Node.call_sourced h.sourced e jitter
  utters := by
    refine Node.call_utters h.utters e ?_ jitter
    intro m hm hello hbody
    obtain ⟨htimer, rfl⟩ := hm.helloTimer hello hbody
    exact ⟨n, he htimer, rfl⟩

/-- The node as it starts. -/
lemma start_faithful (hattack : r.NoAttack) (v : ν) : r.Faithful v (r.start v) := by
  have hquiet : r.Faithful v (r.config v).node.startDefense := startDefense_faithful hattack v
  rw [start, Node.doInitialize]
  split
  · exact (((hquiet.call .helloTimerExpire _ fun _ => Or.inl rfl).call .tcTimerExpire _ (by simp)).call
      .midTimerExpire _ (by simp)).call .hnaTimerExpire _ (by simp)
  · exact hquiet

lemma perform_faithful (hattack : r.NoAttack) (v : ν) (n : Node D) (a : Act D)
    (ha : r.Performs v n a) (h : r.Faithful v n) : r.Faithful v (n.perform a) where
  isMalicious := by
    have hfixed := n.perform_fixed a
    cases a with
    | advance t => exact h.isMalicious
    | setAttack isMalicious spoofedLinksCount => exact ha.isMalicious_eq hattack
    | _ =>
      have hfixed := hfixed (by simp) (by simp)
      exact (congrArg Fixed.isMalicious hfixed).trans h.isMalicious
  sourced := by
    refine Node.perform_sourced h.sourced ?_
    rintro msg receiverIface senderIface jitter rfl -
    constructor
    · intro hello hbody
      exact ⟨n, msg, hello, receiverIface, jitter, ha, hbody⟩
    · intro mid hbody iface hiface
      exact Or.inr ⟨n, msg, mid, receiverIface, senderIface, jitter, ha, hbody, rfl, hiface⟩
  utters := by
    refine Node.perform_utters h.utters ?_ ?_
    · rintro msg receiverIface senderIface jitter rfl hbody hello hhello
      exact absurd hhello (hbody hello)
    · rintro t e jitter rfl m hm hello hbody
      obtain ⟨rfl, rfl⟩ := hm.helloTimer hello hbody
      exact ⟨n, Or.inr ⟨t, jitter, ha⟩, rfl⟩

/-- An interface of the node has sent the HELLO message. -/
def Emitted (r : NetworkRun ν D) (v : ν) (senderIface : Ipv4Address) (m : MessageHeader) : Prop :=
  senderIface ∈ (r.final v).ownAddresses ∧ ∃ p ∈ (r.final v).sentPackets, m ∈ p.messages

/-- What the sender of a HELLO message knew of an interface that the message confirms: it had a link,
not expired, to the interface, or to a neighbor that the interface was told to belong to; and it had
heard this neighbor. -/
def Vouched (r : NetworkRun ν D) (v : ν) (n : Node D) (iface : Ipv4Address) : Prop :=
  ∃ l ∈ n.state.linkSet, n.now ≤ l.time ∧ r.Heard v l.neighborIfaceAddr ∧
    (l.neighborIfaceAddr = iface ∨
      r.Told v iface l.neighborIfaceAddr ∧
        ∃ t ∈ n.state.ifaceAssocSet, t.mainAddr = l.neighborIfaceAddr ∧ t.ifaceAddr = iface)

/-- A node that does not attack vouches for all it lists, its fictitious node apart. -/
lemma Faithful.vouched {v : ν} {n : Node D} (h : r.Faithful v n) {lm : LinkMessage}
    (hlm : lm ∈ n.helloLinkMessages) {a : Ipv4Address} (ha : a ∈ lm.neighborInterfaceAddresses) :
    r.Vouched v n a ∨ n.injectsFictitiousNode = true ∧ a = n.fakeAddress := by
  rcases Node.mem_helloLinkMessages h.isMalicious hlm ha with ⟨l, hl, htime, hiface⟩ | hfake
  · refine Or.inl ⟨l, hl, htime, h.sourced.link l hl, ?_⟩
    rcases hiface with hiface | ⟨t, ht, hmain, rfl⟩
    · exact Or.inl hiface
    · refine Or.inr ⟨?_, t, ht, hmain, rfl⟩
      rw [← hmain]
      exact h.sourced.ifaceAssoc t ht
  · exact Or.inr hfake

/-- Where a HELLO message was built, the node was faithful. -/
lemma BuildsHello.faithful {v : ν} {n : Node D} (h : r.BuildsHello v n) (hattack : r.NoAttack) :
    r.Faithful v n := by
  rcases h with rfl | ⟨t, jitter, h⟩
  · exact startDefense_faithful hattack v
  · exact performs_inv (I := r.Faithful) (start_faithful hattack) (perform_faithful hattack) h

end NetworkRun

/-- **Soundness of symmetric links.**  In a network without attackers, a HELLO message that extends
the symmetry of a link has been built by its sender when it had a link, not expired, to the receiving
interface or to the main address under which that interface was announced; or the interface has the
address of its fictitious node. -/
theorem extendsSymTime_vouched (r : NetworkRun ν D) (hattack : r.NoAttack) {v : ν} {l : Label D}
    (hl : Possible r.final (v, l)) {n : Node D} {msg : MessageHeader} {hello : Hello}
    {receiverIface senderIface : Ipv4Address} {jitter : Time}
    (hact : (n, .recvMessage msg receiverIface senderIface jitter) ∈
      Lib.trace Node.exec (r.final v) ((r.final v).acts l))
    (hbody : msg.body = .hello hello)
    (hextends : n.ExtendsSymTime msg hello receiverIface senderIface) :
    (∃ w, r.Emitted w senderIface msg) ∧
    ∀ w, r.Emitted w senderIface msg →
      ∃ n₀, r.BuildsHello w n₀ ∧ msg = n₀.helloMessage ∧
        (r.Vouched w n₀ receiverIface ∨
          n₀.injectsFictitiousNode = true ∧ receiverIface = n₀.fakeAddress) := by
  constructor
  · rcases List.mem_cons.mp (Lib.snd_mem_of_mem_trace hact) with heq | hmem
    · cases heq
    · cases l with
      | recvOlsr t i senderIface' messages jitter' =>
        rcases Node.mem_recvOlsrActs hmem with ⟨msg', hmsg, receiverIface', heq⟩ | heq
        · cases heq
          obtain ⟨-, w, hsender, p, hp, rfl⟩ := hl
          exact ⟨w, hsender, p, hp, hmsg⟩
        · cases heq
      | _ => cases List.mem_singleton.mp hmem
  · rintro w ⟨-, p, hp, hmsg⟩
    have hfaithful : r.Faithful w (r.final w) :=
      NetworkRun.final_inv (I := r.Faithful) (NetworkRun.start_faithful hattack)
        (NetworkRun.perform_faithful hattack) w
    obtain ⟨n₀, hbuilt, rfl⟩ := hfaithful.utters.sent p hp msg hmsg hello hbody
    obtain ⟨lm, hlm, hlisted⟩ := hextends.listed
    cases hbody
    exact ⟨n₀, hbuilt, rfl, (hbuilt.faithful hattack).vouched hlm hlisted⟩

/-! ### Two nodes with two interfaces each -/

namespace TwoRadios

inductive Radio
  | node1
  | node2
deriving DecidableEq

instance : Fintype Radio := ⟨{.node1, .node2}, fun v => by cases v <;> decide⟩

/-- The nodes 1 and 2, with the second interfaces 11 and 22. -/
def config (v : Radio) : Config OlsrDefenseNull :=
  match v with
  | .node1 =>
    { mainAddress := 1
      interfaces := [{ address := 1 }, { address := 11 }] }
  | .node2 =>
    { mainAddress := 2
      interfaces := [{ address := 2 }, { address := 22 }]
      midInterval := Seconds 2 }

/-- Node 2 hears node 1 on its first interface, answers, and announces its second interface. -/
def greeting : List (Radio × Label OlsrDefenseNull) :=
  [(.node1, .timer 0 Event.sendQueuedMessages 0),
   (.node2, .timer 0 Event.sendQueuedMessages 0),
   (.node2, .recvOlsr 0 0 1 ((config .node1).node.doInitialize 0).queuedMessages 0),
   (.node2, .timer 1000 (Event.linkTupleTimerExpire 1) 0),
   (.node2, .timer (Seconds 2) Event.helloTimerExpire 0),
   (.node2, .timer (Seconds 2) Event.midTimerExpire 0),
   (.node2, .timer (Seconds 2) Event.sendQueuedMessages 0)]

/-- The HELLO message that node 2 has sent, with the MID message behind it. -/
def answer : List MessageHeader :=
  [⟨0x86, 2, 1, 0, 2, .hello ⟨0x05, 3, [⟨0x01, [1]⟩]⟩⟩, ⟨0x86, 2, 255, 0, 3, .mid ⟨[22]⟩⟩]

/-- Node 1 lists both interfaces of node 2, of which it has heard the first one. -/
def listing : MessageHeader := ⟨0x86, 1, 1, 0, 2, .hello ⟨0x05, 3, [⟨0x06, [2, 22]⟩]⟩⟩

def run : NetworkRun Radio OlsrDefenseNull where
  config := config
  jitter := fun _ => 0
  labels := greeting ++
    [(.node1, .recvOlsr (Seconds 2) 0 2 answer 0),
     (.node1, .timer (Seconds 2) Event.helloTimerExpire 0),
     (.node1, .timer (Seconds 2) Event.sendQueuedMessages 0)]
  isJitter := by decide +kernel
  isRun := by decide +kernel

/-- Node 2 receives it on its second interface, from the second interface of node 1. -/
def reception : Label OlsrDefenseNull := .recvOlsr (Seconds 2) 1 11 [listing] 0

/-- Node 2 when it processes the message. -/
def receiver : Node OlsrDefenseNull := (run.final .node2).exec (.advance (Seconds 2))

/-- The message arrives on the interface 22. -/
lemma received : (receiver, .recvMessage listing 22 11 0) ∈
    Lib.trace Node.exec (run.final .node2) ((run.final .node2).acts reception) := by
  have hacts : (run.final .node2).acts reception =
      [.advance (Seconds 2), .recvMessage listing 22 11 0, .routingTableComputation] := by
    decide +kernel
  rw [hacts]
  exact List.mem_cons_of_mem _ List.mem_cons_self

lemma listing_emitted : run.Emitted .node1 11 listing := by
  refine ⟨by decide +kernel, ?_⟩
  have hsent : ∃ p ∈ (run.final .node1).sentPackets, p.messages = [listing] := by decide +kernel
  obtain ⟨p, hp, hmessages⟩ := hsent
  exact ⟨p, hp, by rw [hmessages]; exact List.mem_singleton_self _⟩

end TwoRadios

open TwoRadios in
theorem extendsSymTime_vouched_twoRadios :
    ∃ n₀, run.BuildsHello .node1 n₀ ∧ listing = n₀.helloMessage ∧
      (run.Vouched .node1 n₀ 22 ∨ n₀.injectsFictitiousNode = true ∧ 22 = n₀.fakeAddress) :=
  (extendsSymTime_vouched run (by decide +kernel) (l := reception) (by decide +kernel) received rfl
    (by decide +kernel)).2 .node1 listing_emitted

open TwoRadios in
/-- Node 2 takes the link between the second interfaces for symmetric, although node 1 has never had
a link to the second interface of node 2. -/
theorem unheardInterface_symmetric :
    run.NoAttack ∧ Possible run.final (.node2, reception) ∧
    (receiver, .recvMessage listing 22 11 0) ∈
      Lib.trace Node.exec (run.final .node2) ((run.final .node2).acts reception) ∧
    run.Emitted .node1 11 listing ∧
    (∃ hello, listing.body = .hello hello ∧ receiver.ExtendsSymTime listing hello 22 11) ∧
    ∀ n₀, run.BuildsHello .node1 n₀ → ¬ ∃ l ∈ n₀.state.linkSet, l.neighborIfaceAddr = 22 := by
  refine ⟨by decide +kernel, by decide +kernel, received, listing_emitted,
    ⟨_, rfl, by decide +kernel⟩, ?_⟩
  have hnone : ∀ x ∈ run.trace, x.2.1 = .node1 →
      ∀ y ∈ Lib.trace Node.exec (x.1 .node1) ((x.1 .node1).acts x.2.2),
        ¬ ∃ l ∈ y.1.state.linkSet, l.neighborIfaceAddr = 22 := by
    decide +kernel
  rintro n₀ (rfl | ⟨t, jitter, -, x, hx, hnode, hy⟩)
  · decide +kernel
  · exact hnone x hx hnode _ hy

end ManetOlsr
