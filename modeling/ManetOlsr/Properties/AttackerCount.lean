/-
The label `num_attackers` of a run.

It is the number of the segments of the list, and the attackers are the nodes that the segments name.
A segment that names no node, or one that has been named before, makes the difference.
-/
import ManetOlsr.Model.AttackerCount
import Mathlib.Data.Finset.Card
import Mathlib.Data.List.Induction

namespace ManetOlsr

/-! ### The label -/

/-- The segments that are not empty. -/
def segments (list : List Char) : List (List Char) :=
  (getlines [] list).filter fun seg => decide (seg ≠ [])

/-- The node is in attack mode. -/
def attacks (node : Option AttackAttributes) : Bool := node.any AttackAttributes.isMalicious

/-- The label is the number of the nodes that are switched to attack mode. -/
def LabelMatches (nNodes : UInt32) (list : List Char) (spoofCount : UInt32) : Prop :=
  (countAttackers list).toNat =
    (setAttackState false (createdNodes nNodes) (attackerIds nNodes list) spoofCount true).countP
      attacks

instance (nNodes : UInt32) (list : List Char) (spoofCount : UInt32) :
    Decidable (LabelMatches nNodes list spoofCount) :=
  inferInstanceAs (Decidable (_ = _))

/-- The number of segments that name no node, or one of those named so far. -/
def surplus (nNodes : UInt32) : List UInt32 → List (List Char) → ℕ
  | _, [] => 0
  | named, seg :: segs => (attackerId nNodes seg).elim (1 + surplus nNodes named segs) fun id =>
      if id ∈ named then 1 + surplus nNodes named segs else surplus nNodes (id :: named) segs

/-! ### The two parsers -/

section Parsers

variable {nNodes : UInt32}

lemma toNat_countAttackers (list : List Char) :
    (countAttackers list).toNat = (segments list).length % 2 ^ 32 := by
  have hfold : ∀ (segs : List (List Char)) (n : UInt32),
      segs.foldl (fun n seg => if seg ≠ [] then n + 1 else n) n =
        n + UInt32.ofNat (segs.filter fun seg => decide (seg ≠ [])).length := by
    intro segs
    induction segs with
    | nil =>
      intro n
      exact (UInt32.add_zero n).symm
    | cons seg segs ih =>
      intro n
      rw [List.foldl_cons, ih]
      by_cases hseg : seg = []
      · rw [if_neg (not_not.mpr hseg), List.filter_cons_of_neg (by simpa using hseg)]
      · rw [if_pos hseg, List.filter_cons_of_pos (by simpa using hseg), List.length_cons,
          UInt32.ofNat_add, UInt32.add_assoc, UInt32.add_comm 1]
        rfl
  rw [countAttackers, hfold, UInt32.zero_add, UInt32.toNat_ofNat']
  rfl

lemma attackerIds_eq (list : List Char) :
    attackerIds nNodes list = (segments list).filterMap (attackerId nNodes) := by
  have hfold : ∀ (segs : List (List Char)) (ids : List UInt32),
      segs.foldl (fun ids seg =>
        if seg = [] then ids else (attackerId nNodes seg).elim ids fun id => ids ++ [id]) ids =
        ids ++ (segs.filter fun seg => decide (seg ≠ [])).filterMap (attackerId nNodes) := by
    intro segs
    induction segs with
    | nil =>
      intro ids
      exact (List.append_nil ids).symm
    | cons seg segs ih =>
      intro ids
      rw [List.foldl_cons, ih]
      by_cases hseg : seg = []
      · rw [if_pos hseg, List.filter_cons_of_neg (by simpa using hseg)]
      · rw [if_neg hseg, List.filter_cons_of_pos (by simpa using hseg), List.filterMap_cons]
        cases attackerId nNodes seg with
        | none => rfl
        | some id => rw [Option.elim_some, List.append_assoc, List.singleton_append]
  exact (hfold _ []).trans (List.nil_append _)

lemma attackerId_lt {seg : List Char} {id : UInt32} (h : attackerId nNodes seg = some id) :
    id < nNodes := by
  obtain ⟨value, -, hid⟩ := Option.bind_eq_some_iff.mp h
  dsimp only at hid
  split at hid
  · rename_i hvalid
    cases hid
    exact hvalid.1
  · cases hid

end Parsers

/-! ### The switched nodes -/

section Switched

variable {nNodes spoofCount : UInt32}

/-- The nodes, of which those with the given ids are in attack mode. -/
def markedNodes (nNodes spoofCount : UInt32) (ids : List UInt32) : List (Option AttackAttributes) :=
  (List.range nNodes.toNat).map fun i =>
    some (if UInt32.ofNat i ∈ ids then ⟨true, spoofCount⟩ else {})

lemma ofNat_eq_iff {i : ℕ} (hi : i < nNodes.toNat) {id : UInt32} :
    UInt32.ofNat i = id ↔ id.toNat = i := by
  rw [← UInt32.toNat_inj, UInt32.toNat_ofNat_of_lt' (hi.trans nNodes.toNat_lt), eq_comm]

/-- One more node is marked. -/
lemma modify_markedNodes (ids : List UInt32) (id : UInt32) :
    (markedNodes nNodes spoofCount ids).modify id.toNat (Option.map fun _ => ⟨true, spoofCount⟩) =
      markedNodes nNodes spoofCount (ids ++ [id]) := by
  apply List.ext_getElem
  · rw [List.length_modify, markedNodes, markedNodes, List.length_map, List.length_map]
  · intro i hi hi'
    have hlt : i < nNodes.toNat := by
      rw [markedNodes, List.length_map, List.length_range] at hi'
      exact hi'
    rw [List.getElem_modify]
    simp only [markedNodes, List.getElem_map, List.getElem_range, List.mem_append,
      List.mem_singleton, ofNat_eq_iff hlt, Option.map_some]
    by_cases hid : id.toNat = i
    · rw [if_pos hid, if_pos (Or.inr hid)]
    · rw [if_neg hid]
      simp only [hid, or_false]

lemma setAttackState_eq {ids : List UInt32} (hids : ∀ id ∈ ids, id < nNodes) :
    setAttackState false (createdNodes nNodes) ids spoofCount true =
      markedNodes nNodes spoofCount ids := by
  rw [setAttackState, if_neg Bool.false_ne_true]
  induction ids using List.reverseRecOn with
  | nil =>
    rw [List.foldl_nil, createdNodes, markedNodes]
    simp only [List.not_mem_nil, if_false]
    rw [List.map_const', List.length_range]
  | append_singleton ids id ih =>
    have hid : id.toNat < nNodes.toNat := UInt32.lt_iff_toNat_lt.mp (hids id (by simp))
    rw [List.foldl_append, ih fun id' h => hids id' (List.mem_append_left _ h), List.foldl_cons,
      List.foldl_nil, if_neg (by rw [markedNodes, List.length_map, List.length_range]; omega),
      if_pos rfl, modify_markedNodes]

variable (spoofCount) in
lemma countP_markedNodes {ids : List UInt32} (hids : ∀ id ∈ ids, id < nNodes) :
    (markedNodes nNodes spoofCount ids).countP attacks = ids.toFinset.card := by
  rw [markedNodes, List.countP_map, List.countP_eq_length_filter]
  have hfilter : ((List.range nNodes.toNat).filter (attacks ∘ fun i =>
      some (if UInt32.ofNat i ∈ ids then ⟨true, spoofCount⟩ else {}))) =
      (List.range nNodes.toNat).filter fun i => decide (UInt32.ofNat i ∈ ids) := by
    refine List.filter_congr fun i _ => ?_
    by_cases hi : UInt32.ofNat i ∈ ids
    · simp [hi, attacks]
    · simp [hi, attacks]
  rw [hfilter, ← List.toFinset_card_of_nodup (List.nodup_range.filter _)]
  refine Finset.card_bij (fun i _ => UInt32.ofNat i) ?_ ?_ ?_
  · intro i hi
    rw [List.mem_toFinset, List.mem_filter, decide_eq_true_iff] at hi
    exact List.mem_toFinset.mpr hi.2
  · intro i hi j hj h
    rw [List.mem_toFinset, List.mem_filter, List.mem_range] at hi hj
    rw [ofNat_eq_iff hi.1, UInt32.toNat_ofNat_of_lt' (hj.1.trans nNodes.toNat_lt)] at h
    exact h.symm
  · intro id hid
    rw [List.mem_toFinset] at hid
    refine ⟨id.toNat, ?_, UInt32.ofNat_toNat⟩
    rw [List.mem_toFinset, List.mem_filter, List.mem_range, UInt32.ofNat_toNat]
    exact ⟨UInt32.lt_iff_toNat_lt.mp (hids id hid), decide_eq_true hid⟩

end Switched

/-! ### The surplus -/

section Surplus

variable {nNodes : UInt32}

variable (nNodes) in
/-- The segments are as many as the nodes they newly name, and those that name none. -/
lemma length_eq_surplus_add (named : List UInt32) (segs : List (List Char)) :
    segs.length = surplus nNodes named segs +
      ((segs.filterMap (attackerId nNodes)).toFinset \ named.toFinset).card := by
  induction segs generalizing named with
  | nil => simp [surplus]
  | cons seg segs ih =>
    rw [List.length_cons, surplus, List.filterMap_cons]
    cases hseg : attackerId nNodes seg with
    | none =>
      rw [Option.elim_none, ih named]
      dsimp only
      omega
    | some id =>
      rw [Option.elim_some]
      dsimp only
      rw [List.toFinset_cons]
      by_cases hid : id ∈ named
      · rw [if_pos hid, Finset.insert_sdiff_of_mem _ (List.mem_toFinset.mpr hid), ih named]
        omega
      · have hnotMem : id ∉ named.toFinset := mt List.mem_toFinset.mp hid
        have hinsert : insert id (segs.filterMap (attackerId nNodes)).toFinset \ named.toFinset =
            insert id ((segs.filterMap (attackerId nNodes)).toFinset \ (id :: named).toFinset) := by
          ext a
          simp only [List.toFinset_cons, Finset.mem_sdiff, Finset.mem_insert]
          by_cases ha : a = id
          · subst ha
            simp [hnotMem]
          · simp [ha]
        rw [if_neg hid, hinsert, Finset.card_insert_of_notMem (by simp), ih (id :: named)]
        omega

/-- There is no surplus where each segment names a node of its own. -/
lemma surplus_eq_zero_iff (named : List UInt32) (segs : List (List Char)) :
    surplus nNodes named segs = 0 ↔ (∀ seg ∈ segs, (attackerId nNodes seg).isSome) ∧
      (segs.filterMap (attackerId nNodes)).Nodup ∧
      ∀ id ∈ segs.filterMap (attackerId nNodes), id ∉ named := by
  induction segs generalizing named with
  | nil => simp [surplus]
  | cons seg segs ih =>
    rw [surplus, List.filterMap_cons, List.forall_mem_cons]
    cases hseg : attackerId nNodes seg with
    | none =>
      rw [Option.elim_none]
      refine iff_of_false (by omega) ?_
      rintro ⟨⟨h, -⟩, -⟩
      cases h
    | some id =>
      rw [Option.elim_some]
      dsimp only
      rw [List.nodup_cons, List.forall_mem_cons]
      by_cases hid : id ∈ named
      · rw [if_pos hid]
        exact iff_of_false (by omega) fun h => h.2.2.1 hid
      · rw [if_neg hid, ih]
        constructor
        · rintro ⟨hsome, hnodup, hnew⟩
          refine ⟨⟨rfl, hsome⟩, ⟨fun h => hnew id h List.mem_cons_self, hnodup⟩, hid, ?_⟩
          exact fun a ha h => hnew a ha (List.mem_cons_of_mem _ h)
        · rintro ⟨⟨-, hsome⟩, ⟨hnotMem, hnodup⟩, -, hnew⟩
          refine ⟨hsome, hnodup, fun a ha h => ?_⟩
          rcases List.mem_cons.mp h with rfl | h
          · exact hnotMem ha
          · exact hnew a ha h

end Surplus

/-- **The label.**  It is right when each segment that is not empty names a node of its own, or when
the surplus of segments wraps the counter around. -/
theorem labelMatches_iff (nNodes : UInt32) (list : List Char) (spoofCount : UInt32) :
    (LabelMatches nNodes list spoofCount ↔ 2 ^ 32 ∣ surplus nNodes [] (segments list)) ∧
      (surplus nNodes [] (segments list) = 0 ↔
        (∀ seg ∈ segments list, (attackerId nNodes seg).isSome) ∧
          ((segments list).filterMap (attackerId nNodes)).Nodup) := by
  have hids : ∀ id ∈ attackerIds nNodes list, id < nNodes := by
    intro id hid
    rw [attackerIds_eq] at hid
    obtain ⟨seg, -, hseg⟩ := List.mem_filterMap.mp hid
    exact attackerId_lt hseg
  constructor
  · have hlength := length_eq_surplus_add nNodes [] (segments list)
    rw [List.toFinset_nil, Finset.sdiff_empty, ← attackerIds_eq] at hlength
    have hcard : (attackerIds nNodes list).toFinset.card < 2 ^ 32 := by
      have hswitched := countP_markedNodes spoofCount hids
      have hle : (markedNodes nNodes spoofCount (attackerIds nNodes list)).countP attacks ≤
          nNodes.toNat := by
        refine List.countP_le_length.trans ?_
        rw [markedNodes, List.length_map, List.length_range]
      have := nNodes.toNat_lt
      omega
    rw [LabelMatches, toNat_countAttackers, setAttackState_eq hids,
      countP_markedNodes spoofCount hids]
    omega
  · rw [surplus_eq_zero_iff]
    constructor
    · rintro ⟨hsome, hnodup, -⟩
      exact ⟨hsome, hnodup⟩
    · rintro ⟨hsome, hnodup⟩
      exact ⟨hsome, hnodup, fun _ _ => List.not_mem_nil⟩

/-- A node that is named twice counts twice. -/
theorem repeatedId_not_labelMatches : ¬ LabelMatches 50 ['7', ',', '7'] 5 := by
  decide +kernel

/-- A sign, blanks before and letters behind the digits do not matter, nor do multiples of 2 ^ 32. -/
example : attackerId 50 [' ', '+', '7', 'x'] = some 7 ∧
    attackerId 50 ['-', '4', '2', '9', '4', '9', '6', '7', '2', '8', '9'] = some 7 := by
  decide +kernel

end ManetOlsr
