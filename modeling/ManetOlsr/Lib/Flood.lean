/-
Floods over relays.

A source sends a message, and some of the vertices that hear it send it on, each of them once: the
relays of the vertex from which they have heard it first.  Nothing that is sent gets lost, and it
has been heard before somebody else sends.  When nothing more is to happen, everybody who can be
reached has the message (`Flood.Complete.has_of_reachable`), although a vertex does not send on what
it hears from another vertex first, even if it is a relay of one that sends later.
-/
import ManetOlsr.Lib.Relays

namespace ManetOlsr.Lib

variable {V : Type*} [DecidableEq V]

/-- How far a message has come: the vertices that have sent it, in their order, and the vertex from
which each other one has heard it first. -/
structure Flood (G : SimpleGraph V) (relays : V → Set V) (source : V) where
  senders : List V
  first : V → Option V
  nodup : senders.Nodup
  first_source : first source = none
  heard : ∀ v w, first v = some w → w ∈ senders ∧ G.Adj w v
  earliest : ∀ v w, first v = some w → ∀ u ∈ senders, G.Adj u v →
    senders.idxOf w ≤ senders.idxOf u
  relayed : ∀ v ∈ senders, v = source ∨
    ∃ u, first v = some u ∧ v ∈ relays u ∧ senders.idxOf u < senders.idxOf v
  spaced : ∀ u ∈ senders.dropLast, ∀ v, G.Adj u v → v ≠ source → (first v).isSome

namespace Flood

variable {G : SimpleGraph V} {relays : V → Set V} {source : V}

/-- The flood that has not begun. -/
def unsent : Flood G relays source where
  senders := []
  first _ := none
  nodup := List.nodup_nil
  first_source := rfl
  heard := by simp
  earliest := by simp
  relayed := by simp
  spaced := by simp

variable (f : Flood G relays source)

/-- Everybody near a sender has heard the message. -/
def AllHeard : Prop := ∀ u ∈ f.senders, ∀ v, G.Adj u v → v ≠ source → (f.first v).isSome

/-- A vertex that has heard nothing is near the last sender only. -/
lemma idxOf_eq_of_unheard {u v w : V} (hv : v ≠ source) (hfirst : f.first v = none)
    (hu : u ∈ f.senders) (huv : G.Adj u v) (hw : w ∈ f.senders) (hwv : G.Adj w v) : u = w := by
  have hlast : ∀ x ∈ f.senders, G.Adj x v → f.senders.getLast? = some x := by
    intro x hx hxv
    have hnot : x ∉ f.senders.dropLast := by
      intro hmem
      have hsome := f.spaced x hmem v hxv hv
      rw [hfirst] at hsome
      cases hsome
    have hne : f.senders ≠ [] := List.ne_nil_of_mem hx
    rw [← List.dropLast_append_getLast hne, List.mem_append, List.mem_singleton] at hx
    rw [List.getLast?_eq_getLast_of_ne_nil hne, hx.resolve_left hnot]
  exact Option.some.inj ((hlast u hu huv).symm.trans (hlast w hw hwv))

/-- A vertex hears the message for the first time. -/
def hear (v w : V) (hw : w ∈ f.senders) (hadj : G.Adj w v) (hv : v ≠ source)
    (hfirst : f.first v = none) : Flood G relays source where
  senders := f.senders
  first := Function.update f.first v (some w)
  nodup := f.nodup
  first_source := by
    rw [Function.update_of_ne hv.symm]
    exact f.first_source
  heard := by
    intro x y hxy
    by_cases hx : x = v
    · subst hx
      rw [Function.update_self] at hxy
      obtain rfl := Option.some.inj hxy
      exact ⟨hw, hadj⟩
    · rw [Function.update_of_ne hx] at hxy
      exact f.heard x y hxy
  earliest := by
    intro x y hxy u hu hux
    by_cases hx : x = v
    · subst hx
      rw [Function.update_self] at hxy
      obtain rfl := Option.some.inj hxy
      rw [f.idxOf_eq_of_unheard hv hfirst hu hux hw hadj]
    · rw [Function.update_of_ne hx] at hxy
      exact f.earliest x y hxy u hu hux
  relayed := by
    intro x hx
    refine (f.relayed x hx).imp_right ?_
    rintro ⟨u, hu, hrelay⟩
    refine ⟨u, ?_, hrelay⟩
    rw [Function.update_of_ne, hu]
    rintro rfl
    rw [hfirst] at hu
    cases hu
  spaced := by
    intro u hu x hux hx
    by_cases hxv : x = v
    · subst hxv
      rw [Function.update_self]
      rfl
    · rw [Function.update_of_ne hxv]
      exact f.spaced u hu x hux hx

/-- A vertex sends the message. -/
def send (v : V) (hv : v ∉ f.senders)
    (hrelay : v = source ∨ ∃ u, f.first v = some u ∧ v ∈ relays u) (hall : f.AllHeard) :
    Flood G relays source where
  senders := f.senders ++ [v]
  first := f.first
  nodup := by
    rw [List.nodup_append]
    refine ⟨f.nodup, List.nodup_singleton v, fun x hx y hy => ?_⟩
    rw [List.mem_singleton.mp hy]
    rintro rfl
    exact hv hx
  first_source := f.first_source
  heard := by
    intro x y hxy
    obtain ⟨hy, hadj⟩ := f.heard x y hxy
    exact ⟨List.mem_append_left _ hy, hadj⟩
  earliest := by
    intro x y hxy u hu hux
    obtain ⟨hy, -⟩ := f.heard x y hxy
    rw [List.idxOf_append_of_mem hy]
    rcases List.mem_append.mp hu with hu | hu
    · rw [List.idxOf_append_of_mem hu]
      exact f.earliest x y hxy u hu hux
    · rw [List.mem_singleton.mp hu, List.idxOf_append_of_notMem hv]
      have hlt := List.idxOf_lt_length_iff.mpr hy
      omega
  relayed := by
    intro x hx
    rcases List.mem_append.mp hx with hx | hx
    · refine (f.relayed x hx).imp_right ?_
      rintro ⟨u, hu, hmem, hlt⟩
      refine ⟨u, hu, hmem, ?_⟩
      rwa [List.idxOf_append_of_mem (f.heard x u hu).1, List.idxOf_append_of_mem hx]
    · obtain rfl := List.mem_singleton.mp hx
      refine hrelay.imp_right ?_
      rintro ⟨u, hu, hmem⟩
      refine ⟨u, hu, hmem, ?_⟩
      have hin := (f.heard x u hu).1
      have hlt := List.idxOf_lt_length_iff.mpr hin
      rw [List.idxOf_append_of_mem hin, List.idxOf_append_of_notMem hv]
      omega
  spaced := by
    rw [List.dropLast_concat]
    exact hall

variable {f}

/-- From one flood to another something has happened at one vertex only. -/
structure Advances (f f' : Flood G relays source) (v : V) : Prop where
  first : ∀ w, w ≠ v → f'.first w = f.first w
  mem : ∀ w, w ≠ v → (w ∈ f'.senders ↔ w ∈ f.senders)
  idxOf : ∀ u ∈ f.senders, f'.senders.idxOf u = f.senders.idxOf u

lemma Advances.refl (f : Flood G relays source) (v : V) : Advances f f v :=
  ⟨fun _ _ => rfl, fun _ _ => Iff.rfl, fun _ _ => rfl⟩

lemma hear_advances {v w : V} (hw : w ∈ f.senders) (hadj : G.Adj w v) (hv : v ≠ source)
    (hfirst : f.first v = none) : Advances f (f.hear v w hw hadj hv hfirst) v :=
  ⟨fun _ hne => Function.update_of_ne hne _ _, fun _ _ => Iff.rfl, fun _ _ => rfl⟩

lemma send_advances {v : V} (hv : v ∉ f.senders)
    (hrelay : v = source ∨ ∃ u, f.first v = some u ∧ v ∈ relays u) (hall : f.AllHeard) :
    Advances f (f.send v hv hrelay hall) v where
  first _ _ := rfl
  mem w hne := by simp [send, hne]
  idxOf _ hu := List.idxOf_append_of_mem hu

variable (f)

/-- Nothing more is to happen. -/
structure Complete : Prop where
  source_mem : source ∈ f.senders
  allHeard : f.AllHeard
  relays_send : ∀ v w, f.first v = some w → v ∈ relays w → v ∈ f.senders

/-- A vertex has the message. -/
def Has (v : V) : Prop := v = source ∨ (f.first v).isSome

variable {f}

lemma has_of_mem {v : V} (hv : v ∈ f.senders) : f.Has v := by
  refine (f.relayed v hv).imp_right ?_
  rintro ⟨u, hu, -⟩
  rw [hu]
  rfl

namespace Complete

lemma has_of_adj (h : f.Complete) {u v : V} (hu : u ∈ f.senders) (huv : G.Adj u v) : f.Has v := by
  by_cases hv : v = source
  · exact Or.inl hv
  · exact Or.inr (h.allHeard u hu v huv hv)

/-- Nobody who sends is two hops away from a vertex that has not got the message: the sender that came
first would have a relay that sends the message on to it. -/
lemma has_of_twoHops (h : f.Complete) (hrelays : RelaysCover G relays) {u d : V}
    (hu : u ∈ f.senders) (htwo : TwoHops G u d) : f.Has d := by
  induction hr : f.senders.idxOf u using Nat.strong_induction_on generalizing u with
  | _ r ih =>
    obtain ⟨m, hm, hmd⟩ := hrelays.covers u d htwo
    have hum := hrelays.adj u m hm
    by_cases hmsource : m = source
    · exact h.has_of_adj (hmsource ▸ h.source_mem) hmd
    obtain ⟨w, hfirst⟩ := Option.isSome_iff_exists.mp (h.allHeard u hu m hum hmsource)
    obtain ⟨hw, hwm⟩ := f.heard m w hfirst
    rcases eq_or_lt_of_le (f.earliest m w hfirst u hu hum) with heq | hlt
    · obtain rfl := (List.idxOf_inj hw).mp heq
      exact h.has_of_adj (h.relays_send m w hfirst hm) hmd
    · -- The relay has heard it first from another sender, which came earlier.
      by_cases hwd : w = d
      · exact hwd ▸ has_of_mem hw
      by_cases hadj : G.Adj w d
      · exact h.has_of_adj hw hadj
      exact ih (f.senders.idxOf w) (hr ▸ hlt) hw ⟨hwd, hadj, m, hwm, hmd⟩ rfl

/-- **A flood over relays reaches every vertex that can be reached.** -/
theorem has_of_reachable (h : f.Complete) (hrelays : RelaysCover G relays) {d : V}
    (hd : G.Reachable source d) : f.Has d := by
  obtain ⟨p⟩ := hd
  induction p using SimpleGraph.Walk.concatRec with
  | Hnil => exact Or.inl rfl
  | @Hconcat _ v d p hvd ih =>
    rcases ih h with rfl | hv
    · exact h.has_of_adj h.source_mem hvd
    · obtain ⟨w, hw⟩ := Option.isSome_iff_exists.mp hv
      obtain ⟨hsends, hwv⟩ := f.heard v w hw
      by_cases hwd : w = d
      · exact hwd ▸ has_of_mem hsends
      by_cases hadj : G.Adj w d
      · exact h.has_of_adj hsends hadj
      exact h.has_of_twoHops hrelays hsends ⟨hwd, hadj, v, hwv, hvd⟩

end Complete

end Flood

end ManetOlsr.Lib
