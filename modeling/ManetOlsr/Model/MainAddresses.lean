/-
Main addresses after a MID message.

A stored association of an interface address takes precedence over those that arrive later, so
that the main addresses which `ProcessMid` uses for its remapping are known beforehand.
-/
import ManetOlsr.Model.Frames

namespace ManetOlsr

/-- The main address of an address once a MID message has been stored: a stored association
takes precedence over the message. -/
def OlsrState.mainAddressAfterMid (s : OlsrState) (originator : Ipv4Address)
    (listed : List Ipv4Address) (a : Ipv4Address) : Ipv4Address :=
  match s.findIfaceAssocTuple a with
  | some t => t.mainAddr
  | none => if a ∈ listed then originator else a

lemma OlsrState.mainAddressAfterMid_eq_getD (s : OlsrState) (originator : Ipv4Address)
    (listed : List Ipv4Address) (a : Ipv4Address) :
    s.mainAddressAfterMid originator listed a =
      ((s.findIfaceAssocTuple a).map IfaceAssocTuple.mainAddr).getD
        (if a ∈ listed then originator else a) := by
  rw [mainAddressAfterMid]
  cases s.findIfaceAssocTuple a <;> rfl

namespace Node

variable {D : Type} {n : Node D} {msg : MessageHeader}

lemma midAddressStep_find (n : Node D) (addr a : Ipv4Address) :
    ((midAddressStep msg n addr).state.findIfaceAssocTuple a).map IfaceAssocTuple.mainAddr =
      ((n.state.findIfaceAssocTuple a).map IfaceAssocTuple.mainAddr).or
        (if a = addr then some msg.originatorAddress else none) := by
  simp only [midAddressStep]
  split
  · next hlisted =>
    -- A refreshed tuple keeps its addresses.
    have hfind : ∀ l : List IfaceAssocTuple, ∀ time,
        ((l.map fun t => if t.ifaceAddr == addr && t.mainAddr == msg.originatorAddress then
          { t with time := time } else t).find? fun t => t.ifaceAddr == a).map
            IfaceAssocTuple.mainAddr =
        (l.find? fun t => t.ifaceAddr == a).map IfaceAssocTuple.mainAddr := by
      intro l time
      rw [List.find?_map, Option.map_map]
      have hp : ((fun t : IfaceAssocTuple => t.ifaceAddr == a) ∘ fun t =>
          if t.ifaceAddr == addr && t.mainAddr == msg.originatorAddress then
            { t with time := time } else t) = fun t => t.ifaceAddr == a := by
        funext t
        simp only [Function.comp]
        split <;> rfl
      rw [hp]
      refine Option.map_congr fun t _ => ?_
      simp only [Function.comp]
      split <;> rfl
    rw [withState_state, OlsrState.findIfaceAssocTuple, hfind, OlsrState.findIfaceAssocTuple]
    split
    · next heq =>
      subst heq
      obtain ⟨t, ht, hkey⟩ := List.any_eq_true.mp hlisted
      rw [Bool.and_eq_true] at hkey
      cases hnone : n.state.ifaceAssocSet.find? fun t => t.ifaceAddr == a with
      | some t' => rfl
      | none => exact absurd hkey.1 (by simpa using List.find?_eq_none.mp hnone t ht)
    · rw [Option.or_none]
  · rw [schedule_state, withState_state, OlsrState.insertIfaceAssocTuple,
      OlsrState.findIfaceAssocTuple, List.find?_append, OlsrState.findIfaceAssocTuple]
    cases n.state.ifaceAssocSet.find? fun t => t.ifaceAddr == a with
    | some t => rfl
    | none =>
      by_cases heq : a = addr
      · simp [heq]
      · simp [heq, beq_eq_false_iff_ne.mpr (Ne.symm heq)]

/-- The main addresses that the remapping of `ProcessMid` uses. -/
lemma foldl_midAddressStep_getMainAddress (n : Node D) (listed : List Ipv4Address)
    (a : Ipv4Address) :
    (listed.foldl (midAddressStep msg) n).getMainAddress a =
      n.state.mainAddressAfterMid msg.originatorAddress listed a := by
  induction listed generalizing n with
  | nil => simp [OlsrState.mainAddressAfterMid_eq_getD, OlsrState.getMainAddress_eq_getD]
  | cons addr listed ih =>
    rw [List.foldl_cons, ih, OlsrState.mainAddressAfterMid_eq_getD,
      OlsrState.mainAddressAfterMid_eq_getD, midAddressStep_find]
    cases (n.state.findIfaceAssocTuple a).map IfaceAssocTuple.mainAddr with
    | some main => rfl
    | none => by_cases heq : a = addr <;> simp [heq]

/-- The loop over the listed interfaces changes interface associations only. -/
lemma foldl_midAddressStep_state (n : Node D) (msg : MessageHeader)
    (listed : List Ipv4Address) :
    ∃ ias, (listed.foldl (midAddressStep msg) n).state = { n.state with ifaceAssocSet := ias } :=
  foldl_state (fun s ias => { s with ifaceAssocSet := ias }) (fun _ _ _ => rfl)
    (fun n a => n.midAddressStep_state msg a) listed n rfl

end Node

end ManetOlsr
