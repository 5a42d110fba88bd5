/-
The five repositories whose tuples are removed by a timer of their own.

`TupleSet` says of such a repository where its tuples are, under which key they are looked up, when
they expire and which event removes them; `TupleSet.Lawful` says that the protocol treats it so.
`OnTime` is the invariant that carries the removal: each tuple has an event that is not later than a
granule after its expiration, and none is overdue.  `Renews` lists what a loop over the addresses of
a message does to the tuples for one address.
-/
import ManetOlsr.Lib.Expiry
import ManetOlsr.Model.Agenda
import ManetOlsr.Model.MainAddresses
import Mathlib.Tactic.Linarith

namespace ManetOlsr

/-- A repository of tuples with timers.  The associations of the interfaces of the node itself have
no timer; `tracked` tells the tuples that have one, given the main address of the node. -/
structure TupleSet (α κ : Type) where
  tuples : OlsrState → List α
  tracked : Ipv4Address → α → Prop
  key : α → κ
  expiration : α → Time
  event : κ → Event

namespace TupleSet

def topology : TupleSet TopologyTuple (Ipv4Address × Ipv4Address) where
  tuples := OlsrState.topologySet
  tracked _ _ := True
  key := TopologyTuple.key
  expiration := TopologyTuple.expirationTime
  event k := Event.topologyTupleTimerExpire k.1 k.2

def twoHopNeighbors : TupleSet TwoHopNeighborTuple (Ipv4Address × Ipv4Address) where
  tuples := OlsrState.twoHopNeighborSet
  tracked _ _ := True
  key := TwoHopNeighborTuple.key
  expiration := TwoHopNeighborTuple.expirationTime
  event k := Event.nb2hopTupleTimerExpire k.1 k.2

def mprSelectors : TupleSet MprSelectorTuple Ipv4Address where
  tuples := OlsrState.mprSelectorSet
  tracked _ _ := True
  key := MprSelectorTuple.mainAddr
  expiration := MprSelectorTuple.expirationTime
  event := Event.mprSelTupleTimerExpire

def ifaceAssocs : TupleSet IfaceAssocTuple Ipv4Address where
  tuples := OlsrState.ifaceAssocSet
  tracked mainAddress t := t.mainAddr ≠ mainAddress
  key := IfaceAssocTuple.ifaceAddr
  expiration := IfaceAssocTuple.time
  event := Event.ifaceAssocTupleTimerExpire

def associations : TupleSet AssociationTuple (Ipv4Address × Ipv4Address × Ipv4Mask) where
  tuples := OlsrState.associationSet
  tracked _ _ := True
  key t := (t.gatewayAddr, t.networkAddr, t.netmask)
  expiration := AssociationTuple.expirationTime
  event k := Event.associationTupleTimerExpire k.1 k.2.1 k.2.2

instance (a : Ipv4Address) (t : TopologyTuple) : Decidable (topology.tracked a t) :=
  inferInstanceAs (Decidable True)

instance (a : Ipv4Address) (t : TwoHopNeighborTuple) : Decidable (twoHopNeighbors.tracked a t) :=
  inferInstanceAs (Decidable True)

instance (a : Ipv4Address) (t : MprSelectorTuple) : Decidable (mprSelectors.tracked a t) :=
  inferInstanceAs (Decidable True)

instance (a : Ipv4Address) (t : IfaceAssocTuple) : Decidable (ifaceAssocs.tracked a t) :=
  inferInstanceAs (Decidable (_ ≠ _))

instance (a : Ipv4Address) (t : AssociationTuple) : Decidable (associations.tracked a t) :=
  inferInstanceAs (Decidable True)

end TupleSet

/-- Tuples with timers may be lost between two states of the repositories, and no more. -/
structure OlsrState.Shrinks (s s' : OlsrState) : Prop where
  topology : s'.topologySet.Sublist s.topologySet
  twoHopNeighbors : s'.twoHopNeighborSet.Sublist s.twoHopNeighborSet
  mprSelectors : s'.mprSelectorSet.Sublist s.mprSelectorSet
  ifaceAssocs : s'.ifaceAssocSet.Sublist s.ifaceAssocSet
  associations : s'.associationSet.Sublist s.associationSet

namespace Node

variable {D : Type} {α κ : Type}

/-- The tuples are watched by their events, and none is still there a granule after it expired. -/
structure OnTime (T : TupleSet α κ) (n : Node D) : Prop where
  watched : Lib.Watched (T.tracked n.mainAddress) T.key (fun t => T.expiration t + Granule)
    (fun k t => (t, T.event k) ∈ n.events) (T.tuples n.state)
  due : ∀ t ∈ T.tuples n.state, T.tracked n.mainAddress t → n.now ≤ T.expiration t + Granule

/-- If the tuples of some keys are renewed for the validity time `v`, an event comes for them no
later than a granule after they expire. -/
def Renewable (T : TupleSet α κ) (keys : κ → Prop) (v : Time) (n : Node D) : Prop :=
  ∀ t ∈ T.tuples n.state, T.tracked n.mainAddress t → keys (T.key t) →
    ∃ te ∈ n.events, te.2 = T.event (T.key t) ∧ te.1 ≤ n.now + v + Granule

instance (T : TupleSet α κ) (keys : κ → Prop) (v : Time) (n : Node D)
    [∀ t, Decidable (T.tracked n.mainAddress t)] [DecidablePred keys] :
    Decidable (n.Renewable T keys v) :=
  inferInstanceAs (Decidable (∀ t ∈ T.tuples n.state, T.tracked n.mainAddress t → keys (T.key t) →
    ∃ te ∈ n.events, te.2 = T.event (T.key t) ∧ te.1 ≤ n.now + v + Granule))

/-- What happens to the tuples for one address of a message with the validity time `v`: they are
left alone or erased, those of some keys are refreshed, or one of a new key is entered and has a
timer. -/
inductive Renews (T : TupleSet α κ) (keys : κ → Prop) (v : Time) (n n' : Node D) : Prop where
  | shrunk (hsub : (T.tuples n'.state).Sublist (T.tuples n.state))
  | refreshed (h : List.Forall₂ (fun a a' => T.key a' = T.key a ∧
      (T.tracked n.mainAddress a' ↔ T.tracked n.mainAddress a) ∧
      (a' = a ∨ keys (T.key a) ∧ T.expiration a' = n.now + v))
        (T.tuples n.state) (T.tuples n'.state))
  | inserted (t : α) (hexp : T.expiration t = n.now + v)
      (hnew : ∀ b ∈ T.tuples n.state, T.key b ≠ T.key t)
      (hinsert : T.tuples n'.state = T.tuples n.state ++ [t])
      (hevent : (n.now + v + Granule, T.event (T.key t)) ∈ n'.events)

/-- No event is lost, and no time passes. -/
structure Continues (n n' : Node D) : Prop where
  now : n'.now = n.now
  mainAddress : n'.mainAddress = n.mainAddress
  events : ∀ te ∈ n.events, te ∈ n'.events

variable {T : TupleSet α κ} {n n' n'' : Node D} {keys : κ → Prop} {v : Time}

namespace Continues

lemma trans (h : Continues n n') (h' : Continues n' n'') : Continues n n'' :=
  ⟨h'.now.trans h.now, h'.mainAddress.trans h.mainAddress,
    fun te hte => h'.events te (h.events te hte)⟩

lemma of_eventsGrow {kind : Event → Prop} (hfixed : n'.fixed = n.fixed)
    (h : EventsGrow kind n n') : Continues n n' :=
  ⟨now_of_fixed hfixed, mainAddress_of_fixed hfixed, fun _ hte => h.mem hte⟩

end Continues

/-- Tuples may be lost, and events may be added. -/
lemma OnTime.shrink (h : OnTime T n) (hf : Continues n n')
    (hsub : (T.tuples n'.state).Sublist (T.tuples n.state)) : OnTime T n' where
  watched := by
    rw [hf.mainAddress]
    exact (h.watched.sublist hsub).mono fun k t hte => hf.events _ hte
  due t ht htracked := by
    rw [hf.mainAddress] at htracked
    rw [hf.now]
    exact h.due t (hsub.mem ht) htracked

lemma Renewable.shrink (h : Renewable T keys v n) (hf : Continues n n')
    (hsub : (T.tuples n'.state).Sublist (T.tuples n.state)) : Renewable T keys v n' := by
  intro t ht htracked hkey
  rw [hf.mainAddress] at htracked
  obtain ⟨te, hte, hevent, hle⟩ := h t (hsub.mem ht) htracked hkey
  rw [hf.now]
  exact ⟨te, hf.events te hte, hevent, hle⟩

/-- **Step lemma** for one address of a message. -/
lemma OnTime.renews (h : OnTime T n ∧ Renewable T keys v n) (hv : 0 ≤ v) (hf : Continues n n')
    (hstep : Renews T keys v n n') : OnTime T n' ∧ Renewable T keys v n' := by
  obtain ⟨hon, hre⟩ := h
  have hgranule : (0 : ℤ) ≤ Granule := by decide
  cases hstep with
  | shrunk hsub => exact ⟨hon.shrink hf hsub, hre.shrink hf hsub⟩
  | refreshed hl =>
    refine ⟨⟨?_, fun t ht htracked => ?_⟩, fun t ht htracked hkey => ?_⟩
    · rw [hf.mainAddress]
      refine Lib.Watched.mono ?_ fun k t hte => hf.events _ hte
      -- A refreshed tuple is one of the renewable keys, so that its event comes in time.
      have hmem := (List.forall₂_and_left _ _).mpr ⟨fun a ha => ha, hl⟩
      refine hon.watched.renew (hmem.imp fun a a' h => ⟨h.2.1, h.2.2.1, fun htracked => ?_⟩)
      obtain ⟨ha, -, -, rfl | ⟨hkey, hexp⟩⟩ := h
      · exact hon.watched.alarmed _ ha htracked
      · obtain ⟨te, hte, hevent, hle⟩ := hre a ha htracked hkey
        refine ⟨te.1, ?_, by rwa [hexp]⟩
        rwa [← hevent]
    · rw [hf.mainAddress] at htracked
      obtain ⟨a, ha, -, htrack, rfl | ⟨-, hexp⟩⟩ := Lib.exists_of_forall₂ hl ht
      · rw [hf.now]
        exact hon.due _ ha htracked
      · rw [hf.now, hexp]
        linarith
    · rw [hf.mainAddress] at htracked
      obtain ⟨a, ha, hsame, htrack, -⟩ := Lib.exists_of_forall₂ hl ht
      rw [hsame] at hkey ⊢
      obtain ⟨te, hte, hevent, hle⟩ := hre a ha (htrack.mp htracked) hkey
      rw [hf.now]
      exact ⟨te, hf.events te hte, hevent, hle⟩
  | inserted t hexp hnew hinsert hevent =>
    refine ⟨⟨?_, fun t' ht' htracked => ?_⟩, fun t' ht' htracked hkey => ?_⟩
    · rw [hf.mainAddress, hinsert]
      refine (hon.watched.mono fun k t hte => hf.events _ hte).append hnew ?_
      exact ⟨_, hevent, by rw [hexp]⟩
    · rw [hinsert] at ht'
      rw [hf.mainAddress] at htracked
      rw [hf.now]
      rcases List.mem_append.mp ht' with ht' | ht'
      · exact hon.due t' ht' htracked
      · rw [List.mem_singleton.mp ht', hexp]
        linarith
    · rw [hinsert] at ht'
      rw [hf.mainAddress] at htracked
      rw [hf.now]
      rcases List.mem_append.mp ht' with ht' | ht'
      · obtain ⟨te, hte, hevent, hle⟩ := hre t' ht' htracked hkey
        exact ⟨te, hf.events te hte, hevent, hle⟩
      · rw [List.mem_singleton.mp ht']
        exact ⟨_, hevent, rfl, le_refl _⟩

/-- Time passes, but not beyond a pending event. -/
lemma OnTime.advance (h : OnTime T n) {t : Time} (ht : ∀ te ∈ n.events, t ≤ te.1) :
    OnTime T { n with now := t } where
  watched := h.watched
  due _ ha htracked := h.watched.le_due (fun _ _ hte => ht _ hte) ha htracked

end Node

/-! ### The timers -/

/-- How the protocol treats such a repository: an event tells the key of its tuples, and its
function does what the tuple timers do. -/
structure TupleSet.Lawful (D : Type) [OlsrDefenseStrategy D] {α κ : Type} (T : TupleSet α κ) :
    Prop where
  injective : Function.Injective T.event
  shrinks : ∀ {s s' : OlsrState}, s.Shrinks s' → (T.tuples s').Sublist (T.tuples s)
  timer : ∀ (n : Node D) (k : κ) (jitter : Time), ∃ (p : α → Bool) (remove : α → Node D),
    n.call (T.event k) jitter =
      n.tupleTimer ((T.tuples n.state).find? p) T.expiration remove (T.event k) ∧
    (∀ t, p t = true ↔ T.key t = k) ∧
    ∀ t, (remove t).fixed = n.fixed ∧ (remove t).events = n.events ∧
      ∃ q : α → Bool, q t = true ∧ (∀ b, q b = true → T.key b = T.key t) ∧
        T.tuples (remove t).state = (T.tuples n.state).eraseP q

namespace OlsrState.Shrinks

lemma refl (s : OlsrState) : s.Shrinks s := ⟨.refl _, .refl _, .refl _, .refl _, .refl _⟩

end OlsrState.Shrinks

namespace TupleSet

variable {D : Type} [OlsrDefenseStrategy D]

lemma topology_lawful : topology.Lawful D where
  injective := by
    rintro ⟨a, b⟩ ⟨c, d⟩ h
    simpa [topology] using h
  shrinks h := h.topology
  timer n k jitter := by
    refine ⟨fun t => t.key == k, _, rfl, fun t => beq_iff_eq, fun t => ⟨rfl, rfl, ?_⟩⟩
    refine ⟨fun b => b.same t, by simp [TopologyTuple.same], fun b hb => ?_, rfl⟩
    simp only [TopologyTuple.same, Bool.and_eq_true, beq_iff_eq] at hb
    exact Prod.ext hb.1.1 hb.1.2

lemma twoHopNeighbors_lawful : twoHopNeighbors.Lawful D where
  injective := by
    rintro ⟨a, b⟩ ⟨c, d⟩ h
    simpa [twoHopNeighbors] using h
  shrinks h := h.twoHopNeighbors
  timer n k jitter := by
    refine ⟨fun t => t.key == k, _, rfl, fun t => beq_iff_eq, fun t => ⟨rfl, rfl, ?_⟩⟩
    refine ⟨fun b => b.same t, by simp [TwoHopNeighborTuple.same], fun b hb => ?_, rfl⟩
    simp only [TwoHopNeighborTuple.same, Bool.and_eq_true, beq_iff_eq] at hb
    exact Prod.ext hb.1 hb.2

lemma mprSelectors_lawful : mprSelectors.Lawful D where
  injective := by
    intro a b h
    simpa [mprSelectors] using h
  shrinks h := h.mprSelectors
  timer n k jitter := by
    refine ⟨fun t => t.mainAddr == k, _, rfl, fun t => beq_iff_eq, fun t => ⟨rfl, rfl, ?_⟩⟩
    exact ⟨fun b => b.same t, by simp [MprSelectorTuple.same], fun b hb => beq_iff_eq.mp hb, rfl⟩

lemma ifaceAssocs_lawful : ifaceAssocs.Lawful D where
  injective := by
    intro a b h
    simpa [ifaceAssocs] using h
  shrinks h := h.ifaceAssocs
  timer n k jitter := by
    refine ⟨fun t => t.ifaceAddr == k, _, rfl, fun t => beq_iff_eq, fun t => ⟨rfl, rfl, ?_⟩⟩
    refine ⟨fun b => b.same t, by simp [IfaceAssocTuple.same], fun b hb => ?_, rfl⟩
    simp only [IfaceAssocTuple.same, Bool.and_eq_true, beq_iff_eq] at hb
    exact hb.1

lemma associations_lawful : associations.Lawful D where
  injective := by
    rintro ⟨a, b, c⟩ ⟨a', b', c'⟩ h
    simpa [associations] using h
  shrinks h := h.associations
  timer n k jitter := by
    refine ⟨fun t => t.gatewayAddr == k.1 && t.networkAddr == k.2.1 && t.netmask == k.2.2, _, rfl,
      fun t => ?_, fun t => ⟨rfl, rfl, ?_⟩⟩
    · simp [associations, Prod.ext_iff, and_assoc]
    · refine ⟨fun b => b.same t, by simp [AssociationTuple.same], fun b hb => ?_, rfl⟩
      simp only [AssociationTuple.same, Bool.and_eq_true, beq_iff_eq] at hb
      exact Prod.ext hb.1.1 (Prod.ext hb.1.2 hb.2)

end TupleSet

namespace Node

variable {D : Type} {α κ : Type} {T : TupleSet α κ} {n n' : Node D} [OlsrDefenseStrategy D]

/-- The functions of the events only erase tuples. -/
lemma call_shrinks (n : Node D) (e : Event) (jitter : Time) :
    n.state.Shrinks (n.call e jitter).state := by
  have hrefl := OlsrState.Shrinks.refl n.state
  refine n.call_state_inv (Q := n.state.Shrinks) hrefl (fun _ => ?_) (fun a _ => ?_)
    (fun t _ => ?_) (fun t _ => ?_) (fun t _ => ?_) (fun a t _ _ _ => ?_) (fun t _ => ?_)
  · exact { hrefl with }
  · refine n.linkTupleTimerExpire_state_inv (Q := n.state.Shrinks) hrefl (fun tuple _ _ => ?_)
      fun tuple _ _ _ _ => ?_
    · exact { hrefl with }
    · obtain ⟨ns, hns⟩ := n.dropNeighbor_state tuple
      rw [neighborLoss_state, hns]
      exact { hrefl with
        twoHopNeighbors := List.filter_sublist
        mprSelectors := List.filter_sublist }
  · exact { hrefl with twoHopNeighbors := List.eraseP_sublist }
  · exact { hrefl with mprSelectors := List.eraseP_sublist }
  · exact { hrefl with topology := List.eraseP_sublist }
  · exact { hrefl with ifaceAssocs := List.eraseP_sublist }
  · exact { hrefl with associations := List.eraseP_sublist }

/-- The event of a tuple fires. -/
lemma OnTime.fire (hT : T.Lawful D) (h : OnTime T n) (t : Time) (k : κ) (jitter : Time) :
    OnTime T ((n.dequeue t (T.event k)).call (T.event k) jitter) := by
  obtain ⟨p, remove, hcall, hp, hremove⟩ := hT.timer (n.dequeue t (T.event k)) k jitter
  have hkeep : ∀ k' t', k' ≠ k → (t', T.event k') ∈ n.events →
      (t', T.event k') ∈ (n.dequeue t (T.event k)).events := by
    intro k' t' hk' hmem
    refine (List.mem_erase_of_ne fun heq => hk' ?_).mpr hmem
    exact hT.injective (congrArg Prod.snd heq)
  rw [hcall]
  cases hfind : (T.tuples (n.dequeue t (T.event k)).state).find? p with
  | none =>
    have hnone : ∀ a ∈ T.tuples n.state, T.key a ≠ k := fun a ha hkey =>
      List.find?_eq_none.mp hfind a ha ((hp a).mpr hkey)
    refine ⟨h.watched.fire hkeep (.refl _) fun a ha _ hkey => ?_, h.due⟩
    exact absurd hkey (hnone a ha)
  | some a =>
    have ha : a ∈ T.tuples n.state := List.mem_of_find?_eq_some hfind
    have hkey : T.key a = k := (hp a).mp (List.find?_some hfind)
    simp only [tupleTimer]
    split
    · -- The tuple is erased, and with it every tuple of its key.
      obtain ⟨hfixed, hevents, q, hqa, hq, herase⟩ := hremove a
      have hsub : (T.tuples (remove a).state).Sublist (T.tuples n.state) := by
        rw [herase]
        exact List.eraseP_sublist
      have hnow : (remove a).now = n.now := now_of_fixed hfixed
      have hmain : (remove a).mainAddress = n.mainAddress := mainAddress_of_fixed hfixed
      refine ⟨?_, fun b hb htracked => ?_⟩
      · rw [hmain, hevents]
        refine h.watched.fire hkeep hsub fun b hb htracked hb' => ?_
        rw [herase] at hb
        exact absurd hb' (h.watched.key_ne_of_mem_eraseP (fun c hc => (hq c hc).trans hkey)
          ⟨a, ha, hqa⟩ hb htracked)
      · rw [hmain] at htracked
        rw [hnow]
        exact h.due b (hsub.mem hb) htracked
    · -- The event is scheduled again for the time the tuple expires at now.
      next hexp =>
      refine ⟨?_, h.due⟩
      refine h.watched.fire (fun k' t' hk' hmem => List.mem_append_left _ (hkeep k' t' hk' hmem))
        (.refl _) fun b hb htracked hb' => ?_
      have hab : b = a := h.watched.eq_of_key hb ha htracked (hb'.trans hkey.symm)
      refine ⟨_, List.mem_append_right _ (List.mem_singleton_self _), ?_⟩
      rw [hab, delay, if_neg hexp]
      linarith

/-- The firing of an event. -/
lemma OnTime.perform_fire (hT : T.Lawful D) (h : OnTime T n) (t : Time) (e : Event)
    (jitter : Time) : OnTime T ((n.dequeue t e).call e jitter) := by
  by_cases he : ∃ k, e = T.event k
  · obtain ⟨k, rfl⟩ := he
    exact h.fire hT t k jitter
  · -- The events of the tuples stay pending while another one fires.
    have hdequeue : OnTime T (n.dequeue t e) := by
      refine ⟨h.watched.mono fun k t' hmem => (List.mem_erase_of_ne fun heq => he ?_).mpr hmem, h.due⟩
      exact ⟨k, (congrArg Prod.snd heq).symm⟩
    have hfixed := (n.dequeue t e).call_fixed e jitter
    have hcontinues : Continues (n.dequeue t e) ((n.dequeue t e).call e jitter) :=
      ⟨congrArg Fixed.now hfixed, congrArg Fixed.mainAddress hfixed,
        fun te hte => ((n.dequeue t e).call_eventsGrow jitter e).mem hte⟩
    exact hdequeue.shrink hcontinues (hT.shrinks ((n.dequeue t e).call_shrinks e jitter))

end Node

end ManetOlsr
