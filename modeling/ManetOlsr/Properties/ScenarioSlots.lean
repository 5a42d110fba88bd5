/-
The slots of a run of the harness.

What is in force at an event of the network is told by the time of the event (`in_force`): the
scenario of the slot that has begun last, and nothing before the first slot.
-/
import ManetOlsr.Model.Settled
import ManetOlsr.Model.EvaluationRuns

namespace ManetOlsr

open Lib

/-! ### The schedule -/

namespace Handler

/-- The slot whose scenario is put in force. -/
def applies : Handler → Option (Fin 4)
  | .applyScenarioState k => some k
  | _ => none

/-- The slot that ends. -/
def ends : Handler → Option (Fin 4)
  | .endSlot k => some k
  | _ => none

/-- A window is opened or closed. -/
def isBracket : Handler → Bool
  | .startSlot _ | .endSlot _ => true
  | _ => false

def isGate : Handler → Bool
  | .assertConnectivity | .assertRouteExists => true
  | _ => false

end Handler

section Schedule

variable (random : Bool)

/-- The schedule in the order in which it is worked off. -/
def agenda : List (Time × Handler) := inTimeOrder (schedule random)

/-- The part of it that comes before an event. -/
def agendaBefore (x : Time × Handler) : List (Time × Handler) :=
  (agenda random).takeWhile fun y => y ≠ x

lemma agenda_nodup : ∀ random, (agenda random).Nodup := by decide +kernel

lemma agenda_applies : ∀ random, ((agenda random).filterMap fun x => x.2.applies.map (Prod.mk x.1)) =
    (List.finRange 4).map fun k => (slotTransitionTime random k, k) := by decide +kernel

lemma agenda_ends : ∀ random, ((agenda random).filterMap fun x => x.2.ends) = List.finRange 4 := by
  decide +kernel

/-- Where the events of the slots stand. -/
lemma agenda_times : ∀ random, ∀ x ∈ agenda random,
    (∀ k, x.2 = .endSlot k → x.1 = slotWindowEnd random k) ∧
    (x.2.isGate = true → x.1 = Seconds 60) := by decide +kernel

/-- A window is opened, looked at twice and closed.  The scenario of the next slot is put in force
before it is closed, but not earlier. -/
lemma agendaBefore_endSlot : ∀ random k,
    agendaBefore random (slotWindowEnd random k, .endSlot k) =
      agendaBefore random (slotWindowStart random k, .startSlot k) ++
        (slotWindowStart random k, .startSlot k) ::
        (slotWindowStart random k + Seconds 2, .observeAttackerOnPath) ::
        (slotWindowEnd random k - 1000000, .sampleDetectionAccuracy) ::
        if k = 3 then [] else [(slotWindowEnd random k, .applyScenarioState (k + 1))] := by
  decide +kernel

/-- The gates come before all windows, and before all slots but the first one of the canonical
order. -/
lemma agendaBefore_gate : ∀ random, ∀ x ∈ agenda random, x.2.isGate = true →
    (agendaBefore random x).filterMap (fun y => y.2.applies) = (if random then [] else [0]) ∧
    (agendaBefore random x).filterMap (fun y => y.2.ends) = [] := by
  decide +kernel

end Schedule

/-- The totals after an event of the network. -/
def Totals.count (n : Totals) (x : Time × NetworkEvent) : Totals :=
  match x.2 with
  | .udpReceived => { n with udpReceived := n.udpReceived + 1 }
  | .macTx => { n with macTx := n.macTx + 1 }
  | .macTxDrop => { n with macDrop := n.macDrop + 1 }
  | _ => n

namespace Evaluation

variable {c : EvaluationConfig} {s : Evaluation} {x : Time × (Handler ⊕ NetworkEvent)}

/-- The simulation goes on. -/
def Running (s : Evaluation) : Prop := s.status.stopped = false ∧ s.aborted = false

lemma step_of_not_running (h : ¬ s.Running) : s.step c x = s := by
  rw [step, if_pos]
  rw [Running, not_and_or, Bool.not_eq_false, Bool.not_eq_false] at h
  simpa using h

lemma step_inl (h : s.Running) (t : Time) (e : Handler) :
    s.step c (t, .inl e) = s.handle c t e := by
  rw [step, if_neg (by simp [h.1, h.2])]

lemma step_inr (h : s.Running) (t : Time) (e : NetworkEvent) :
    s.step c (t, .inr e) = s.network c t e := by
  rw [step, if_neg (by simp [h.1, h.2])]

/-! #### What the functions change -/

lemma applyScenarioState_eq (s : Evaluation) (k : Fin 4) : ∃ nodes attack defense,
    s.applyScenarioState c k =
      { s with nodes := nodes, attackCurrentlyOn := attack, defenseCurrentlyOn := defense } := by
  simp only [applyScenarioState, setAttackState, setDefenseState, forceDefenseColdStart]
  split_ifs <;> exact ⟨_, _, _, rfl⟩

lemma startMeasurementWindow_eq (s : Evaluation) (now : Time) :
    ∃ active features counters atWindowStart, s.startMeasurementWindow now =
      { s with
        featuresActive := active
        features := features
        counters := counters
        atWindowStart := atWindowStart } := by
  rw [startMeasurementWindow]
  split <;> exact ⟨_, _, _, _, rfl⟩

lemma endMeasurementWindow_eq (s : Evaluation) (name : String) (windowStart windowEnd : Time) :
    ∃ active features staging, s.endMeasurementWindow c name windowStart windowEnd =
      { s with featuresActive := active, features := features, staging := staging } := by
  rw [endMeasurementWindow]
  split <;> exact ⟨_, _, _, rfl⟩

lemma network_eq (s : Evaluation) (now : Time) (e : NetworkEvent) :
    ∃ nodes aborted features counters, s.network c now e =
      { s with
        nodes := nodes
        aborted := aborted
        features := features
        counters := counters
        totals := s.totals.count (now, e) } := by
  cases e with
  | sniffedByListener packet =>
    rw [network]
    split
    · exact ⟨_, _, _, _, rfl⟩
    · split <;> exact ⟨_, _, _, _, rfl⟩
  | _ => exact ⟨_, _, _, _, rfl⟩

/-- What no handler changes. -/
lemma handle_frame (s : Evaluation) (t : Time) (e : Handler) :
    (s.handle c t e).aborted = s.aborted ∧ (s.handle c t e).totals = s.totals ∧
      (s.handle c t e).nodes.length = s.nodes.length := by
  cases e with
  | applyScenarioState k =>
    have hfold (f : Node OlsrDefenseGcop → Node OlsrDefenseGcop) (ids : List UInt32)
        (nodes : List (Node OlsrDefenseGcop)) :
        (ids.foldl (fun nodes id => nodes.modify id.toNat f) nodes).length = nodes.length := by
      induction ids generalizing nodes with
      | nil => rfl
      | cons id ids ih => rw [List.foldl_cons, ih, List.length_modify]
    obtain ⟨_, _, _, h⟩ := s.applyScenarioState_eq (c := c) k
    refine ⟨by rw [handle, h], by rw [handle, h], ?_⟩
    simp only [handle, applyScenarioState, setAttackState, setDefenseState, forceDefenseColdStart]
    split_ifs <;> simp only [List.length_map, hfold]
  | startSlot k =>
    obtain ⟨_, _, _, _, h⟩ := s.startMeasurementWindow_eq t
    rw [handle, h]
    exact ⟨rfl, rfl, rfl⟩
  | endSlot k =>
    obtain ⟨_, _, _, h⟩ := s.endMeasurementWindow_eq (c := c) _ _ _
    rw [handle, h]
    exact ⟨rfl, rfl, rfl⟩
  | _ => exact ⟨rfl, rfl, rfl⟩

/-- A simulation that goes on after an event has gone on before. -/
lemma running_of_step (h : (s.step c x).Running) : s.Running := by
  by_contra hstopped
  rw [step_of_not_running hstopped] at h
  exact hstopped h

end Evaluation

/-! ### What is in force -/

/-- The attackers attack with their spoofed links if the attack is on, and the defense of every node
is on or off. -/
structure InForce (c : EvaluationConfig) (attack defense : Bool)
    (nodes : List (Node OlsrDefenseGcop)) : Prop where
  attack : ∀ i n, nodes[i]? = some n →
    n.isMalicious = (attack && decide (i ∈ c.attackerIds.map UInt32.toNat)) ∧
    n.spoofedLinksCount =
      if attack && decide (i ∈ c.attackerIds.map UInt32.toNat) then c.spoofCount else 0
  defense : ∀ n ∈ nodes, n.defenseStrategy.map OlsrDefenseGcop.enabled = some defense

namespace OlsrDefenseGcop

lemma enabled_evaluateContradictionRules (d : OlsrDefenseGcop) (s : OlsrState) (a : Ipv4Address) :
    (d.evaluateContradictionRules s a).enabled = d.enabled := by
  rw [evaluateContradictionRules]
  split
  · rfl
  · split <;> rfl

lemma hooksKeep_enabled : HooksKeep enabled where
  setup _ _ _ := rfl
  onRecvHello d _ s a _ _ := by
    show (d.onRecvHello s a).enabled = d.enabled
    rw [onRecvHello]
    split
    · rfl
    · exact d.enabled_evaluateContradictionRules s a
  onRecvTc _ _ _ _ _ _ := rfl
  onTcGenerated _ _ _ _ := rfl
  onMacTxFailure _ _ _ _ _ := rfl
  onSelfReliabilityReport _ _ _ _ := rfl
  periodicCheck _ _ _ := rfl

lemma enabled_setEnabled (d : OlsrDefenseGcop) (enabled : Bool) :
    (d.setEnabled enabled).enabled = enabled := by
  rw [setEnabled]
  split
  · assumption
  · rfl

/-- A cold start leaves the switch where it was, and empties the rest. -/
lemma coldStart_eq_reset (d : OlsrDefenseGcop) : d.coldStart = { d with riskyNodes := ∅ } := by
  obtain ⟨enabled, _, _, _, _⟩ := d
  cases enabled <;> rfl

end OlsrDefenseGcop

namespace InForce

variable {c : EvaluationConfig} {attack defense : Bool} {nodes : List (Node OlsrDefenseGcop)}

/-- What is done to one node, the switches left alone. -/
lemma modify (h : InForce c attack defense nodes) (i : ℕ)
    {f : Node OlsrDefenseGcop → Node OlsrDefenseGcop}
    (hmalicious : ∀ n, (f n).isMalicious = n.isMalicious)
    (hspoofed : ∀ n, (f n).spoofedLinksCount = n.spoofedLinksCount)
    (henabled : ∀ n, (f n).defenseStrategy.map OlsrDefenseGcop.enabled =
      n.defenseStrategy.map OlsrDefenseGcop.enabled) :
    InForce c attack defense (nodes.modify i f) := by
  have hold : ∀ (j : ℕ) n, (nodes.modify i f)[j]? = some n →
      ∃ n₀, nodes[j]? = some n₀ ∧ (n = n₀ ∨ n = f n₀) := by
    intro j n hn
    rw [List.getElem?_modify] at hn
    obtain ⟨n₀, hn₀, rfl⟩ := Option.map_eq_some_iff.mp hn
    refine ⟨n₀, hn₀, ?_⟩
    split
    · exact Or.inr rfl
    · exact Or.inl rfl
  constructor
  · intro j n hn
    obtain ⟨n₀, hn₀, rfl | rfl⟩ := hold j n hn
    · exact h.attack j n hn₀
    · rw [hmalicious, hspoofed]
      exact h.attack j n₀ hn₀
  · intro n hn
    obtain ⟨j, hj⟩ := List.mem_iff_getElem?.mp hn
    obtain ⟨n₀, hn₀, rfl | rfl⟩ := hold j n hj
    · exact h.defense n (List.mem_of_getElem? hn₀)
    · rw [henabled]
      exact h.defense n₀ (List.mem_of_getElem? hn₀)

/-- What is done to the defense of all nodes. -/
lemma mapDefense (h : InForce c attack defense nodes) {f : OlsrDefenseGcop → OlsrDefenseGcop}
    {defense' : Bool} (hf : ∀ d, d.enabled = defense → (f d).enabled = defense') :
    InForce c attack defense' (nodes.map fun n => n.mapDefense f) := by
  constructor
  · intro i n hn
    rw [List.getElem?_map] at hn
    obtain ⟨n₀, hn₀, rfl⟩ := Option.map_eq_some_iff.mp hn
    exact h.attack i n₀ hn₀
  · intro n hn
    obtain ⟨n₀, hn₀, rfl⟩ := List.mem_map.mp hn
    obtain ⟨d, hd, hdefense⟩ := Option.map_eq_some_iff.mp (h.defense n₀ hn₀)
    rw [Node.mapDefense, hd]
    exact congrArg some (hf d hdefense)

/-- The acts of a node leave its switches alone. -/
lemma exec (h : InForce c attack defense nodes) (i : ℕ) {a : Act OlsrDefenseGcop}
    (hown : (NetworkEvent.node i a).IsOwn) :
    InForce c attack defense (nodes.modify i fun n => n.exec a) := by
  have hattack : ∀ m k, a ≠ .setAttack m k := by
    rintro m k rfl
    exact hown
  have hset : ∀ d, a ≠ .setDefenseStrategy d := by
    rintro d rfl
    exact hown
  have hfixed : ∀ n : Node OlsrDefenseGcop, (n.exec a).isMalicious = n.isMalicious ∧
      (n.exec a).spoofedLinksCount = n.spoofedLinksCount := by
    intro n
    rw [Node.exec]
    split
    · exact ⟨rfl, rfl⟩
    · by_cases hadv : ∃ t, a = .advance t
      · obtain ⟨t, rfl⟩ := hadv
        exact ⟨rfl, rfl⟩
      · have hsame := n.perform_fixed a (fun t ht => hadv ⟨t, ht⟩) hattack
        exact ⟨congrArg Fixed.isMalicious hsame,
          congrArg Fixed.spoofedLinksCount hsame⟩
  refine h.modify i (fun n => (hfixed n).1) (fun n => (hfixed n).2) fun n => ?_
  rw [Node.exec]
  split
  · rfl
  · exact OlsrDefenseGcop.hooksKeep_enabled.perform n hset

/-- Switching the same nodes again makes no difference. -/
lemma getElem?_foldl_modify {α : Type} {f : α → α} (hf : ∀ a, f (f a) = f a) (ids : List ℕ)
    (l : List α) (i : ℕ) : (ids.foldl (fun l id => l.modify id f) l)[i]? =
      if i ∈ ids then l[i]?.map f else l[i]? := by
  induction ids generalizing l with
  | nil => simp
  | cons id ids ih =>
    rw [List.foldl_cons, ih, List.getElem?_modify]
    by_cases hid : id = i
    · subst hid
      cases l[id]? <;> simp [hf]
    · have hne : i ≠ id := Ne.symm hid
      cases l[i]? <;> simp [hid, hne]

/-- The other nodes do not attack, whether the attack is on or off. -/
lemma setAttack (h : InForce c attack defense nodes) (active : Bool) :
    InForce c active defense (c.attackerIds.foldl (fun nodes id => nodes.modify id.toNat fun n =>
      n.perform (.setAttack active (if active then c.spoofCount else 0))) nodes) := by
  have hnodes := getElem?_foldl_modify (f := fun n : Node OlsrDefenseGcop =>
    n.perform (.setAttack active (if active then c.spoofCount else 0))) (fun _ => rfl)
    (c.attackerIds.map UInt32.toNat) nodes
  rw [List.foldl_map] at hnodes
  generalize c.attackerIds.foldl _ nodes = nodes' at hnodes ⊢
  constructor
  · intro i n hn
    rw [hnodes] at hn
    by_cases hi : i ∈ c.attackerIds.map UInt32.toNat
    · rw [if_pos hi] at hn
      obtain ⟨n₀, -, rfl⟩ := Option.map_eq_some_iff.mp hn
      simp only [Node.perform, hi, decide_true, Bool.and_true]
      exact ⟨trivial, trivial⟩
    · rw [if_neg hi] at hn
      have hold := h.attack i n hn
      simp only [hi, decide_false, Bool.and_false] at hold ⊢
      exact hold
  · intro n hn
    obtain ⟨i, hi⟩ := List.mem_iff_getElem?.mp hn
    rw [hnodes] at hi
    split at hi
    · obtain ⟨n₀, hn₀, rfl⟩ := Option.map_eq_some_iff.mp hi
      exact h.defense n₀ (List.mem_of_getElem? hn₀)
    · exact h.defense n (List.mem_of_getElem? hi)

end InForce

namespace Evaluation

variable {c : EvaluationConfig} {s : Evaluation} {now : Time}

/-- The flags of the harness tell what is in force. -/
def FlagsInForce (c : EvaluationConfig) (s : Evaluation) : Prop :=
  InForce c s.attackCurrentlyOn s.defenseCurrentlyOn s.nodes

/-- The attack is switched if it has to be. -/
lemma switchAttack_inForce (h : s.FlagsInForce c) (haccepted : s.status.runRejected = false)
    (active : Bool) : ∃ nodes,
    (if active ≠ s.attackCurrentlyOn then
        { s.setAttackState c active with attackCurrentlyOn := active } else s) =
      { s with nodes := nodes, attackCurrentlyOn := active } ∧
    InForce c active s.defenseCurrentlyOn nodes := by
  split
  · rw [setAttackState, haccepted, if_neg (by decide)]
    exact ⟨_, rfl, h.setAttack active⟩
  · next hsame =>
    rw [not_not] at hsame
    subst hsame
    exact ⟨s.nodes, rfl, h⟩

/-- The defense is switched if it has to be. -/
lemma switchDefense_inForce (h : s.FlagsInForce c) (haccepted : s.status.runRejected = false)
    (active : Bool) : ∃ nodes,
    (if active ≠ s.defenseCurrentlyOn then
        { s.setDefenseState active with defenseCurrentlyOn := active } else s) =
      { s with nodes := nodes, defenseCurrentlyOn := active } ∧
    InForce c s.attackCurrentlyOn active nodes := by
  split
  · rw [setDefenseState, haccepted, if_neg (by decide)]
    exact ⟨_, rfl, h.mapDefense fun d _ => d.enabled_setEnabled active⟩
  · next hsame =>
    rw [not_not] at hsame
    subst hsame
    exact ⟨s.nodes, rfl, h⟩

/-- The scenario of a slot is put in force, and every defense starts anew. -/
lemma applyScenarioState_inForce (h : s.FlagsInForce c) (haccepted : s.status.runRejected = false)
    (k : Fin 4) : ∃ nodes,
    s.applyScenarioState c k =
      { s with
        nodes := nodes
        attackCurrentlyOn := (c.scenario k).attackEnabled
        defenseCurrentlyOn := (c.scenario k).defenseEnabled } ∧
    InForce c (c.scenario k).attackEnabled (c.scenario k).defenseEnabled nodes ∧
    ∀ n ∈ nodes, ∀ d, n.defenseStrategy = some d → d.riskyNodes = ∅ := by
  rw [applyScenarioState, haccepted, if_neg (by decide)]
  obtain ⟨nodes₁, heq₁, h₁⟩ := switchAttack_inForce h haccepted (c.scenario k).attackEnabled
  obtain ⟨nodes₂, heq₂, h₂⟩ := switchDefense_inForce
    (s := { s with nodes := nodes₁, attackCurrentlyOn := (c.scenario k).attackEnabled }) h₁
    haccepted (c.scenario k).defenseEnabled
  dsimp only
  rw [heq₁, heq₂, forceDefenseColdStart]
  dsimp only
  rw [haccepted, if_neg (by decide)]
  refine ⟨_, rfl, h₂.mapDefense fun d hd => ?_, fun n hn d hd => ?_⟩
  · rw [d.coldStart_eq_reset]
    exact hd
  · obtain ⟨n₀, -, rfl⟩ := List.mem_map.mp hn
    obtain ⟨d₀, -, rfl⟩ := Option.map_eq_some_iff.mp hd
    rw [d₀.coldStart_eq_reset]

/-! ### The status -/

lemma rejectFirst_stopped {status : RunStatus} (h : status.stopped = status.runRejected)
    (reasons : List (Option String)) (now : Time) :
    (status.rejectFirst reasons now).stopped = (status.rejectFirst reasons now).runRejected := by
  rw [RunStatus.rejectFirst]
  split
  · rfl
  · exact h

lemma network_status (s : Evaluation) (now : Time) (e : NetworkEvent) :
    (s.network c now e).status = s.status := by
  obtain ⟨_, _, _, _, h⟩ := s.network_eq (c := c) now e
  rw [h]

/-- Only the gates have a say in the status. -/
lemma handle_status (s : Evaluation) (now : Time) {e : Handler} (he : e.isGate = false) :
    (s.handle c now e).status = s.status := by
  cases e with
  | assertConnectivity | assertRouteExists => cases he
  | observeAttackerOnPath | sampleDetectionAccuracy => rfl
  | applyScenarioState k =>
    obtain ⟨_, _, _, h⟩ := s.applyScenarioState_eq (c := c) k
    rw [handle, h]
  | startSlot k =>
    obtain ⟨_, _, _, _, h⟩ := s.startMeasurementWindow_eq now
    rw [handle, h]
  | endSlot k =>
    obtain ⟨_, _, _, h⟩ := s.endMeasurementWindow_eq (c := c) _ _ _
    rw [handle, h]

lemma handle_stopped (s : Evaluation) (h : s.status.stopped = s.status.runRejected) (now : Time)
    (e : Handler) :
    (s.handle c now e).status.stopped = (s.handle c now e).status.runRejected := by
  cases hgate : e.isGate with
  | false =>
    rw [handle_status s now hgate]
    exact h
  | true =>
    cases e with
    | assertConnectivity =>
      simp only [handle, NodeContainer.assertConnectivity]
      split
      · exact h
      · exact rejectFirst_stopped h _ _
    | assertRouteExists =>
      simp only [handle, NodeContainer.assertRouteExists]
      split_ifs
      · exact h
      · exact h
      · exact rejectFirst_stopped h _ _
    | _ => cases hgate

/-! ### What an event leaves in force -/

/-- The slot that the flags belong to after an event, if any slot has begun. -/
def slotAfter (current : Option (Fin 4)) : Handler ⊕ NetworkEvent → Option (Fin 4)
  | .inl h => h.applies.orElse fun _ => current
  | .inr _ => current

/-- What a slot puts in force; before the first one, nothing is. -/
def InForceFor (c : EvaluationConfig) (slot : Option (Fin 4)) (s : Evaluation) : Prop :=
  s.FlagsInForce c ∧
    (s.attackCurrentlyOn, s.defenseCurrentlyOn) =
      slot.elim (false, false) fun k => ((c.scenario k).attackEnabled, (c.scenario k).defenseEnabled)

/-- **Step lemma.**  An event of the network leaves in force what is in force, and so do the handlers
but the one that puts a scenario in force. -/
lemma step_inForce {slot : Option (Fin 4)} (h : s.InForceFor c slot)
    {x : Time × (Handler ⊕ NetworkEvent)} (hown : ∀ e, x.2 = .inr e → e.IsOwn)
    (hrunning : (s.step c x).Running) (haccepted : s.status.runRejected = false) :
    (s.step c x).InForceFor c (slotAfter slot x.2) := by
  have hgoes := running_of_step hrunning
  obtain ⟨t, e | e⟩ := x
  · rw [step_inl hgoes]
    cases e with
    | applyScenarioState k =>
      -- The switches are set to the scenario, whatever they have been set to.
      obtain ⟨nodes, heq, hnodes, -⟩ := applyScenarioState_inForce h.1 haccepted k
      rw [handle, heq]
      exact ⟨hnodes, rfl⟩
    | startSlot k =>
      rw [handle, startMeasurementWindow, haccepted, if_neg (by decide)]
      exact h
    | endSlot k =>
      rw [handle, endMeasurementWindow, haccepted, if_neg (by decide)]
      exact h
    | observeAttackerOnPath | sampleDetectionAccuracy | assertConnectivity | assertRouteExists =>
      exact h
  · rw [step_inr hgoes]
    cases e with
    | node i a => exact ⟨h.1.exec i (hown _ rfl), h.2⟩
    | sniffedByListener packet =>
      rw [network]
      split
      · exact h
      · split <;> exact h
    | olsrPacketSent | udpReceived | macTx | macTxDrop => exact h

end Evaluation

namespace EvaluationRun

variable {r : EvaluationRun}

lemma after_append (r : EvaluationRun) (l l' : List (Time × (Handler ⊕ NetworkEvent))) :
    r.after (l ++ l') = l'.foldl (Evaluation.step r.config) (r.after l) := List.foldl_append

lemma after_concat (r : EvaluationRun) (l : List (Time × (Handler ⊕ NetworkEvent)))
    (x : Time × (Handler ⊕ NetworkEvent)) :
    r.after (l ++ [x]) = (r.after l).step r.config x := r.after_append l [x]

lemma running_of_append {l l' : List (Time × (Handler ⊕ NetworkEvent))}
    (h : (r.after (l ++ l')).Running) : (r.after l).Running := by
  induction l' using List.reverseRecOn with
  | nil => simpa using h
  | append_singleton l' x ih =>
    rw [← List.append_assoc, after_concat] at h
    exact ih (Evaluation.running_of_step h)

lemma isOwn_of_timeline {before rest : List (Time × (Handler ⊕ NetworkEvent))}
    (h : r.timeline = before ++ rest) : ∀ x ∈ arisingOf before, x.2.IsOwn := by
  intro x hx
  have hall : arisingOf before ++ arisingOf rest = r.network := by
    rw [← arisingOf_append, ← h]
    exact arisingOf_timeline _ _
  exact r.isOwn x (hall ▸ List.mem_append_left _ hx)

/-! ### Rejection -/

/-- A rejected run has been stopped, and nothing else stops one. -/
lemma after_stopped (r : EvaluationRun) (l : List (Time × (Handler ⊕ NetworkEvent))) :
    (r.after l).status.stopped = (r.after l).status.runRejected := by
  induction l using List.reverseRecOn with
  | nil => rfl
  | append_singleton l x ih =>
    rw [after_concat]
    by_cases hgoes : (r.after l).Running
    · obtain ⟨t, e | e⟩ := x
      · rw [Evaluation.step_inl hgoes]
        exact (r.after l).handle_stopped ih t e
      · rw [Evaluation.step_inr hgoes, Evaluation.network_status]
        exact ih
    · rw [Evaluation.step_of_not_running hgoes]
      exact ih

lemma accepted_of_running {l : List (Time × (Handler ⊕ NetworkEvent))}
    (h : (r.after l).Running) : (r.after l).status.runRejected = false :=
  (r.after_stopped l).symm.trans h.1

/-! ### Slots -/

/-- The slot that has begun last. -/
def slotIn (handlers : List (Time × Handler)) : Option (Fin 4) :=
  (handlers.filterMap fun x => x.2.applies).getLast?

/-- **Run lemma.**  What is in force is told by the handlers that have run. -/
lemma after_inForce {l : List (Time × (Handler ⊕ NetworkEvent))}
    (hown : ∀ x ∈ arisingOf l, x.2.IsOwn) (hrunning : (r.after l).Running) :
    (r.after l).InForceFor r.config (slotIn (scheduledOf l)) := by
  induction l using List.reverseRecOn with
  | nil =>
    refine ⟨⟨fun i n hn => ?_, fun n hn => (r.created n hn).2.2⟩, rfl⟩
    obtain ⟨hmalicious, hspoofed, -⟩ := r.created n (List.mem_of_getElem? hn)
    exact ⟨hmalicious, hspoofed⟩
  | append_singleton l x ih =>
    rw [arisingOf_append] at hown
    have hgoes := running_of_append hrunning
    rw [after_concat] at hrunning ⊢
    have hstep := Evaluation.step_inForce (ih (fun y hy => hown y (List.mem_append_left _ hy)) hgoes)
      (x := x) ?_ hrunning (accepted_of_running hgoes)
    · have hslot : slotIn (scheduledOf (l ++ [x])) =
          Evaluation.slotAfter (slotIn (scheduledOf l)) x.2 := by
        obtain ⟨t, e | e⟩ := x
        · rw [scheduledOf_append, slotIn, List.filterMap_append, List.getLast?_append]
          cases he : e.applies <;> simp [scheduledOf, slotIn, Evaluation.slotAfter, he]
        · have hnone : scheduledOf (l ++ [(t, Sum.inr e)]) = scheduledOf l := by
            rw [scheduledOf_append]
            exact List.append_nil _
          rw [hnone]
          rfl
      rwa [hslot]
    · intro e he
      refine hown (x.1, e) (List.mem_append_right _ (mem_arisingOf.mpr ?_))
      rw [← he]
      exact List.mem_singleton_self x

/-- At the time `t` the slot has begun, and no later one. -/
def InSlot (random : Bool) (k : Fin 4) (t : Time) : Prop :=
  slotTransitionTime random k ≤ t ∧ ∀ j, k < j → t < slotTransitionTime random j

lemma slotIn_agenda (random : Bool) (t : Time) :
    slotIn ((agenda random).filter fun x => x.1 ≤ t) =
      ((List.finRange 4).filter fun k => slotTransitionTime random k ≤ t).getLast? := by
  have hfilter : ∀ l : List (Time × Handler),
      (l.filter fun x => x.1 ≤ t).filterMap (fun x => x.2.applies) =
        ((l.filterMap fun x => x.2.applies.map (Prod.mk x.1)).filter fun x => x.1 ≤ t).map
          Prod.snd := by
    intro l
    induction l with
    | nil => rfl
    | cons x l ih =>
      by_cases hx : x.1 ≤ t <;> cases he : x.2.applies <;> simp [hx, he, ih]
  rw [slotIn, hfilter, agenda_applies, List.filter_map, List.map_map]
  congr 1
  exact List.map_id _

lemma slotIn_of_inSlot {random : Bool} {k : Fin 4} {t : Time} (h : InSlot random k t) :
    slotIn ((agenda random).filter fun x => x.1 ≤ t) = some k := by
  have hmono : ∀ random, ∀ j k : Fin 4, j ≤ k →
      slotTransitionTime random j ≤ slotTransitionTime random k := by decide +kernel
  have hlast : ∀ k : Fin 4, ((List.finRange 4).filter fun j => j ≤ k).getLast? = some k := by decide
  rw [slotIn_agenda, ← hlast k]
  congr 1
  refine List.filter_congr fun j _ => decide_eq_decide.mpr ⟨fun hj => ?_, fun hj => ?_⟩
  · exact not_lt.mp fun hlt => absurd (h.2 j hlt) (not_lt.mpr hj)
  · exact (hmono random j k hj).trans h.1

lemma slotIn_of_lt {random : Bool} {t : Time} (h : t < slotTransitionTime random 0) :
    slotIn ((agenda random).filter fun x => x.1 ≤ t) = none := by
  have hfirst : ∀ random, ∀ j : Fin 4, slotTransitionTime random 0 ≤ slotTransitionTime random j := by
    decide +kernel
  rw [slotIn_agenda, List.getLast?_eq_none_iff, List.filter_eq_nil_iff]
  intro j _
  simpa using h.trans_le (hfirst random j)

lemma scheduledOf_before {before rest : List (Time × (Handler ⊕ NetworkEvent))} {t : Time}
    {e : NetworkEvent} (h : r.timeline = before ++ (t, .inr e) :: rest) :
    scheduledOf before = (agenda r.config.randomWindowOrder).filter fun x => x.1 ≤ t :=
  scheduled_before (pairwise_inTimeOrder _) r.ordered h

lemma scheduledOf_before_handler {before rest : List (Time × (Handler ⊕ NetworkEvent))} {t : Time}
    {e : Handler} (h : r.timeline = before ++ (t, .inl e) :: rest) :
    scheduledOf before = agendaBefore r.config.randomWindowOrder (t, e) :=
  scheduled_before_scheduled (agenda_nodup _) h

lemma arisingOf_before_handler {before rest : List (Time × (Handler ⊕ NetworkEvent))} {t : Time}
    {e : Handler} (h : r.timeline = before ++ (t, .inl e) :: rest) :
    arisingOf before = r.network.filter fun x => x.1 < t :=
  arisen_before (pairwise_inTimeOrder _) r.ordered h

/-! #### A lone node -/

/-- The gates let pass whom there is nobody to reach. -/
lemma assertConnectivity_of_length_lt {nodes : NodeContainer} (hfew : nodes.length < 2)
    (hentries : ∀ n ∈ nodes, n.entries ≠ none) (now : Time) (status : RunStatus) :
    nodes.assertConnectivity now status = status := by
  have hpass : ∀ n ∈ nodes, nodes.connectivityFailure n = none := by
    intro n hn
    cases hn' : n.entries with
    | none => exact absurd hn' (hentries n hn)
    | some entries =>
      have hnobody : nodes.length - 1 = 0 := by omega
      simp [NodeContainer.connectivityFailure, hn', hnobody]
  have hnone : (nodes.map nodes.connectivityFailure).findSome? id = none := by
    simpa using hpass
  rw [NodeContainer.assertConnectivity, RunStatus.rejectFirst, hnone]
  split <;> rfl

lemma handle_status_of_length_lt {s : Evaluation} (hfew : s.nodes.length < 2) (t : Time)
    (e : Handler) : (s.handle r.config t e).status = s.status := by
  have hfew' : s.container.length < 2 := by
    rw [Evaluation.container, List.length_map]
    exact hfew
  cases e with
  | assertConnectivity =>
    refine assertConnectivity_of_length_lt hfew' (fun n hn => ?_) _ _
    obtain ⟨n₀, -, rfl⟩ := List.mem_map.mp hn
    exact Option.some_ne_none _
  | assertRouteExists =>
    rw [Evaluation.handle, NodeContainer.assertRouteExists, if_pos hfew']
    split <;> rfl
  | _ => exact Evaluation.handle_status _ _ rfl

/-- A run of less than two nodes whose listener hears nothing goes on. -/
lemma running_of_length_lt {l : List (Time × (Handler ⊕ NetworkEvent))}
    (hfew : r.nodes.length < 2) (hsilent : ∀ x ∈ arisingOf l, ∀ p, x.2 ≠ .sniffedByListener p) :
    (r.after l).Running ∧ (r.after l).nodes.length < 2 := by
  induction l using List.reverseRecOn with
  | nil => exact ⟨⟨rfl, rfl⟩, hfew⟩
  | append_singleton l x ih =>
    rw [arisingOf_append] at hsilent
    obtain ⟨hgoes, hlength⟩ := ih fun y hy => hsilent y (List.mem_append_left _ hy)
    rw [after_concat]
    obtain ⟨t, e | e⟩ := x
    · obtain ⟨haborted, -, hsame⟩ := (r.after l).handle_frame (c := r.config) t e
      rw [Evaluation.step_inl hgoes, Evaluation.Running, haborted, hsame,
        handle_status_of_length_lt hlength]
      exact ⟨hgoes, hlength⟩
    · have hnetwork : ((r.after l).network r.config t e).aborted = (r.after l).aborted ∧
          ((r.after l).network r.config t e).nodes.length = (r.after l).nodes.length := by
        cases e with
        | node i a => exact ⟨rfl, List.length_modify _ _ _⟩
        | sniffedByListener p =>
          exact absurd rfl (hsilent (t, .sniffedByListener p)
            (List.mem_append_right _ (List.mem_singleton_self _)) p)
        | _ => exact ⟨rfl, rfl⟩
      rw [Evaluation.step_inr hgoes, Evaluation.Running, Evaluation.network_status, hnetwork.1,
        hnetwork.2]
      exact ⟨hgoes, hlength⟩

/-- A node with its defense, which is off. -/
def createdNode (a : Ipv4Address) : Node OlsrDefenseGcop :=
  Config.node
    { mainAddress := a
      interfaces := [{ address := a }]
      defenseStrategy := some { attached := true, mainAddress := a } }

/-- The canonical order, with the first node as the attacker. -/
def canonicalConfig : EvaluationConfig where
  randomWindowOrder := false
  scenarioOrder := 1
  canonical _ := rfl
  attackerIds := [0]
  spoofCount := 2
  maliciousNodesList := ['0']
  flowPairs := []
  flowAddrPairs := []
  headers := FrameHeaders.ns3
  sqrt := id

/-- One node sends in the first window and acts in the second slot. -/
def loneRun : EvaluationRun where
  config := canonicalConfig
  nodes := [createdNode 1]
  created := by
    intro n hn
    rw [List.mem_singleton.mp hn]
    exact ⟨rfl, rfl, rfl⟩
  network := [(Seconds 70, .macTx), (Seconds 150, .node 0 .routingTableComputation)]
  ordered := by decide
  inTime := by decide
  isOwn := by
    intro x hx
    rcases List.mem_pair.mp hx with rfl | rfl <;> trivial

lemma loneRun_running {before rest : List (Time × (Handler ⊕ NetworkEvent))}
    (h : loneRun.timeline = before ++ rest) : (loneRun.after before).Running := by
  refine (running_of_length_lt (by decide) fun x hx p => ?_).1
  have hall : arisingOf before ++ arisingOf rest = loneRun.network := by
    rw [← arisingOf_append, ← h]
    exact arisingOf_timeline _ _
  have hmem : x ∈ loneRun.network := hall ▸ List.mem_append_left _ hx
  rcases List.mem_pair.mp hmem with rfl | rfl <;> exact NetworkEvent.noConfusion

/-- **What is in force.**  As long as the simulation goes on, whatever happens in the network in a slot
happens while the scenario of the slot is in force, and what happens before the first slot while
neither the attack nor the defense is on.  Every defense is empty when a slot begins. -/
theorem in_force (r : EvaluationRun) :
    (∀ before t e rest, r.timeline = before ++ (t, .inr e) :: rest → (r.after before).Running →
      (∀ k, InSlot r.config.randomWindowOrder k t →
        InForce r.config (r.config.scenario k).attackEnabled (r.config.scenario k).defenseEnabled
          (r.after before).nodes) ∧
      (t < slotTransitionTime r.config.randomWindowOrder 0 →
        InForce r.config false false (r.after before).nodes)) ∧
    ∀ before t k rest, r.timeline = before ++ (t, .inl (.applyScenarioState k)) :: rest →
      (r.after before).Running →
      ∀ n ∈ (r.after (before ++ [(t, .inl (.applyScenarioState k))])).nodes,
        ∀ d, n.defenseStrategy = some d → d.riskyNodes = ∅ := by
  refine ⟨fun before t e rest h hrunning => ?_, fun before t k rest h hrunning => ?_⟩
  · obtain ⟨hflags, hslot⟩ := after_inForce (isOwn_of_timeline h) hrunning
    rw [scheduledOf_before h] at hslot
    constructor
    · intro k hk
      rw [slotIn_of_inSlot hk] at hslot
      obtain ⟨hattack, hdefense⟩ := Prod.mk.inj hslot
      rw [Evaluation.FlagsInForce, hattack, hdefense] at hflags
      exact hflags
    · intro ht
      rw [slotIn_of_lt ht] at hslot
      obtain ⟨hattack, hdefense⟩ := Prod.mk.inj hslot
      rw [Evaluation.FlagsInForce, hattack, hdefense] at hflags
      exact hflags
  · obtain ⟨hflags, -⟩ := after_inForce (isOwn_of_timeline h) hrunning
    obtain ⟨nodes, heq, -, hfresh⟩ :=
      Evaluation.applyScenarioState_inForce hflags (accepted_of_running hrunning) k
    rw [after_concat, Evaluation.step_inl hrunning, Evaluation.handle, heq]
    exact hfresh

/-- The node attacks in the second slot. -/
theorem in_force_loneRun : ∃ before rest,
    loneRun.timeline = before ++ (Seconds 150, .inr (.node 0 .routingTableComputation)) :: rest ∧
    InForce canonicalConfig true false (loneRun.after before).nodes := by
  have hmem : (Seconds 150, Sum.inr (NetworkEvent.node 0 .routingTableComputation)) ∈
      loneRun.timeline := by
    rw [← mem_arisingOf, EvaluationRun.timeline, arisingOf_timeline]
    exact List.mem_cons_of_mem _ (List.mem_singleton_self _)
  obtain ⟨before, rest, hcut⟩ := List.append_of_mem hmem
  have hslot : InSlot false 1 (Seconds 150) := by
    constructor
    · decide
    · decide
  exact ⟨before, rest, hcut,
    ((in_force loneRun).1 before _ _ rest hcut (loneRun_running hcut)).1 1 hslot⟩

end EvaluationRun

end ManetOlsr
