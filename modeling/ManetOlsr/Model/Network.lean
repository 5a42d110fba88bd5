/-
Runs of a network.

A network is a family of nodes.  What happens in it happens at one node at a time; a packet can
arrive at a node as soon as some node has sent it, from an interface of the sender, and it may
arrive there late, repeatedly, after later packets, or never.  The clocks of the nodes are not
compared.  Every node of the network takes part in a run of its own, so that what holds in every
run holds for the nodes of a network.
-/
import ManetOlsr.Lib.Network
import ManetOlsr.Model.Runs

namespace ManetOlsr

/-- The addresses a node has: its main address and those of its interfaces. -/
def Node.ownAddresses {D : Type} (n : Node D) : List Ipv4Address :=
  n.mainAddress :: n.interfaces.flatMap Ipv4Interface.addresses

/-- The label sets a node to attack. -/
def Label.startsAttack {D : Type} : Label D → Bool
  | setAttack _ isMalicious _ => isMalicious
  | _ => false

variable {ν D : Type}

/-- Some node has sent these messages in a packet, and the address is one of its own. -/
def Carries (σ : ν → Node D) (senderIface : Ipv4Address) (messages : List MessageHeader) : Prop :=
  ∃ w, senderIface ∈ (σ w).ownAddresses ∧ ∃ p ∈ (σ w).sentPackets, p.messages = messages

/-- What can happen in a network: the node is ready for it, and what it receives has been sent. -/
def Possible [OlsrDefenseStrategy D] (σ : ν → Node D) (x : ν × Label D) : Prop :=
  (σ x.1).Enabled x.2 ∧
  match x.2 with
  | .recvOlsr _ _ senderIface messages _ => Carries σ senderIface messages
  | _ => True

instance [Fintype ν] (σ : ν → Node D) (senderIface : Ipv4Address) (messages : List MessageHeader) :
    Decidable (Carries σ senderIface messages) :=
  inferInstanceAs (Decidable (∃ _, _ ∧ ∃ p ∈ _, _))

instance [Fintype ν] [OlsrDefenseStrategy D] (σ : ν → Node D) :
    (x : ν × Label D) → Decidable (Possible σ x)
  | (_, .recvOlsr ..) => inferInstanceAs (Decidable (_ ∧ Carries _ _ _))
  | (_, .timer ..) | (_, .macTxDrop ..) | (_, .onLocalRxDrop ..) | (_, .setDefenseStrategy ..)
  | (_, .reactivateDefenseStrategy ..) | (_, .addHostNetworkAssociation ..)
  | (_, .removeHostNetworkAssociation ..) | (_, .setAttack ..) =>
    inferInstanceAs (Decidable (_ ∧ True))

/-- A run of a network: all its nodes are configured and started, and then things happen. -/
structure NetworkRun (ν D : Type) [DecidableEq ν] [OlsrDefenseStrategy D] where
  config : ν → Config D
  jitter : ν → Time
  labels : List (ν × Label D)
  isJitter : ∀ v, (config v).node.IsJitter (jitter v)
  isRun : ∀ x ∈ Lib.trace (Lib.netExec Node.step)
    (fun v => (config v).node.doInitialize (jitter v)) labels, Possible x.1 x.2

namespace NetworkRun

variable [DecidableEq ν] [OlsrDefenseStrategy D] (r : NetworkRun ν D)

def start (v : ν) : Node D := (r.config v).node.doInitialize (r.jitter v)

/-- What happens in the run, each with the network it happens in. -/
def trace : List ((ν → Node D) × (ν × Label D)) :=
  Lib.trace (Lib.netExec Node.step) r.start r.labels

/-- The network at the end of the run. -/
def final : ν → Node D := Lib.run (Lib.netExec Node.step) r.start r.labels

/-- No node is in attack mode when it starts, or goes over to it. -/
def NoAttack : Prop :=
  (∀ v, (r.config v).isMalicious = false) ∧ ∀ x ∈ r.labels, x.2.startsAttack = false

instance [Fintype ν] : Decidable r.NoAttack :=
  inferInstanceAs (Decidable ((∀ _, _) ∧ ∀ x ∈ r.labels, _))

/-- The run of one node. -/
def nodeRun (v : ν) : Run D where
  config := r.config v
  jitter := r.jitter v
  labels := Lib.actionsAt v r.labels
  isJitter := r.isJitter v
  isRun := by
    refine Node.isRun_of_enabled fun y hy => ?_
    obtain ⟨x, hx, hlabel, hnode⟩ := Lib.mem_trace_of_actionsAt (s := r.start) hy
    have hpossible := (r.isRun x hx).1
    rw [hlabel, hnode] at hpossible
    exact hpossible

lemma nodeRun_final (v : ν) : (r.nodeRun v).final = r.final v :=
  (Lib.run_netExec v r.labels r.start).symm

/-! ### Acts of a run -/

/-- In the course of the run, a node performs an act. -/
def Performs (v : ν) (n : Node D) (a : Act D) : Prop :=
  n.fatalError = false ∧
    ∃ x ∈ r.trace, x.2.1 = v ∧ (n, a) ∈ Lib.trace Node.exec (x.1 v) ((x.1 v).acts x.2.2)

section Invariants

variable {r} {I : ν → Node D → Prop} (hstart : ∀ v, I v (r.start v))
  (hstep : ∀ v n a, r.Performs v n a → I v n → I v (n.perform a))

include hstep

/-- A step of the run, as the acts of one node. -/
lemma step_inv_of_performs (σ : ν → Node D) (v : ν) (l : Label D) (hσ : ∀ w, I w (σ w))
    (h : (σ, v, l) ∈ r.trace) : I v ((σ v).step l) := by
  refine Lib.inv_run (P := fun n a => (n, a) ∈ Lib.trace Node.exec (σ v) ((σ v).acts l))
    (Run.exec_inv ?_) (hσ v) fun y hy => hy
  intro n a hrunning hn ha
  exact hstep v n a ⟨hrunning, (σ, v, l), h, rfl, ha⟩ hn

include hstart

/-- **Invariant rule for the acts of a network.**  An invariant that each act preserves at its node
holds at the end of the run. -/
theorem final_inv (v : ν) : I v (r.final v) :=
  Lib.inv_run_net (P := fun σ x => (σ, x) ∈ r.trace) (step_inv_of_performs hstep) hstart
    (fun _ hx => hx) v

/-- It holds wherever a node performs an act. -/
theorem performs_inv {v : ν} {n : Node D} {a : Act D} (h : r.Performs v n a) : I v n := by
  obtain ⟨-, ⟨σ, w, l⟩, hx, rfl, hy⟩ := h
  have hσ := Lib.inv_trace_net (P := fun σ x => (σ, x) ∈ r.trace) (step_inv_of_performs hstep)
    hstart (fun _ hx => hx) (σ, w, l) hx
  refine Lib.inv_trace (P := fun n a => (n, a) ∈ Lib.trace Node.exec (σ w) ((σ w).acts l))
    (Run.exec_inv ?_) (hσ w) (fun y hy => hy) (n, a) hy
  intro n a hrunning hn ha
  exact hstep w n a ⟨hrunning, (σ, w, l), hx, rfl, ha⟩ hn

end Invariants

end NetworkRun

end ManetOlsr
