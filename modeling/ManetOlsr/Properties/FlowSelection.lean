/-
The data flows of a run (`SelectDataFlowPairs`).

A round takes two candidates at different indices out of the list, whether the search or the fallback
has found them, so the candidates last as long as the check has counted.  What the check also counts
are the endpoints 0 and 1 of the first flow: the function takes it that there are such nodes.
-/
import ManetOlsr.Properties.UniformDraw

namespace ManetOlsr

/-! ### Generators that keep yielding -/

/-- The first outputs of a generator. -/
def firstOutputs (s : ℕ → UInt32) (m : ℕ) : RawOutputs := (List.range m).map s

/-- Whatever the bound, outputs that a draw accepts keep coming. -/
def KeepsYielding (s : ℕ → UInt32) : Prop :=
  ∀ bound : UInt32, bound ≠ 0 → ∀ k, ∃ i ≥ k, Accepted bound (s i)

section Generator

variable {s : ℕ → UInt32}

lemma firstOutputs_add (k m : ℕ) :
    firstOutputs s (k + m) = firstOutputs s k ++ firstOutputs (fun i => s (k + i)) m := by
  rw [firstOutputs, firstOutputs, firstOutputs, List.range_add, List.map_append, List.map_map]
  rfl

lemma KeepsYielding.shift (h : KeepsYielding s) (k : ℕ) : KeepsYielding fun i => s (k + i) := by
  intro bound hbound j
  obtain ⟨i, hi, hacc⟩ := h bound hbound (k + j)
  refine ⟨i - k, by omega, ?_⟩
  show Accepted bound (s (k + (i - k)))
  rwa [Nat.add_sub_of_le (by omega)]

/-- A draw ends, and further outputs make no difference to it. -/
lemma exists_deterministicDraw (h : KeepsYielding s) {bound : UInt32} (hbound : bound ≠ 0) :
    ∃ k v, ∀ m, deterministicDraw (firstOutputs s (k + m)) bound =
      some (v, firstOutputs (fun i => s (k + i)) m) := by
  obtain ⟨i, -, hi⟩ := h bound hbound 0
  have hex : ∃ i, Accepted bound (s i) := ⟨i, hi⟩
  refine ⟨Nat.find hex + 1, reduced bound (s (Nat.find hex)), fun m => ?_⟩
  have hrejected : ∀ x ∈ firstOutputs s (Nat.find hex), ¬ Accepted bound x := by
    intro x hx
    obtain ⟨j, hj, rfl⟩ := List.mem_map.mp hx
    exact Nat.find_min hex (List.mem_range.mp hj)
  have hsplit : firstOutputs s (Nat.find hex + 1) =
      firstOutputs s (Nat.find hex) ++ [s (Nat.find hex)] := by
    rw [firstOutputs, List.range_succ, List.map_append]
    rfl
  rw [firstOutputs_add, hsplit, List.append_assoc, List.singleton_append]
  exact deterministicDraw_append hbound hrejected (Nat.find_spec hex) _

lemma exists_drawAll {bounds : List ℕ} (hbounds : ∀ b ∈ bounds, 0 < b ∧ b < 2 ^ 32)
    (h : KeepsYielding s) :
    ∃ k choices, ∀ m, drawAll bounds (firstOutputs s (k + m)) =
      some (choices, firstOutputs (fun i => s (k + i)) m) := by
  induction bounds generalizing s with
  | nil => exact ⟨0, [], fun m => by simp only [drawAll, Nat.zero_add]⟩
  | cons b bounds ih =>
    obtain ⟨⟨hpos, hlt⟩, htail⟩ := List.forall_mem_cons.mp hbounds
    obtain ⟨k, v, hdraw⟩ := exists_deterministicDraw h (ofNat_ne_zero hpos hlt)
    obtain ⟨k', choices, hall⟩ := ih htail (h.shift k)
    refine ⟨k + k', v.toNat :: choices, fun m => ?_⟩
    rw [drawAll, Nat.add_assoc, hdraw, Option.bind_some, hall, Option.map_some]
    simp only [Nat.add_assoc]

/-- The shuffle of the candidates ends with a permutation. -/
lemma exists_shuffleCandidates (h : KeepsYielding s) {cand : List UInt32}
    (hlt : cand.length < 2 ^ 32) :
    ∃ k cand', cand'.Perm cand ∧ ∀ m ≥ k, ∃ rest,
      shuffleCandidates cand.length cand (firstOutputs s m) = some (cand', rest) := by
  have hbounds : ∀ b ∈ Lib.choiceBounds cand.length, 0 < b ∧ b < 2 ^ 32 := by
    intro b hb
    have := Lib.of_mem_choiceBounds hb
    omega
  obtain ⟨k, choices, hall⟩ := exists_drawAll hbounds h
  refine ⟨k, Lib.exchanges cand.length choices cand, Lib.exchanges_perm _ _ _, fun m hm => ?_⟩
  obtain ⟨m, rfl⟩ := Nat.exists_eq_add_of_le hm
  exact ⟨_, by rw [shuffleCandidates_eq, hall, Option.map_some]⟩

end Generator

/-! ### One round -/

/-- The pair is taken out of the candidates. -/
lemma exists_takePair {cand : List UInt32} {i j : ℕ} (hi : i < cand.length) (hj : j < cand.length)
    (hij : i ≠ j) :
    ∃ a b rest, takePair cand i j = some ((a, b), rest) ∧ (a :: b :: rest).Perm cand := by
  refine ⟨cand[i], cand[j], (cand.eraseIdx (max i j)).eraseIdx (min i j), ?_, ?_⟩
  · rw [takePair, List.getElem?_eq_getElem hi, List.getElem?_eq_getElem hj]
    rfl
  · rcases Nat.lt_or_gt_of_ne hij with hlt | hlt
    · rw [max_eq_right hlt.le, min_eq_left hlt.le]
      have hlen : i < (cand.eraseIdx j).length := by
        rw [List.length_eraseIdx_of_lt hj]
        omega
      have hinner := List.getElem_cons_eraseIdx_perm hlen
      rw [List.getElem_eraseIdx_of_lt hlen hlt] at hinner
      exact (List.Perm.swap _ _ _).trans ((hinner.cons _).trans (List.getElem_cons_eraseIdx_perm hj))
    · rw [max_eq_left hlt.le, min_eq_right hlt.le]
      have hlen : j < (cand.eraseIdx i).length := by
        rw [List.length_eraseIdx_of_lt hi]
        omega
      have hinner := List.getElem_cons_eraseIdx_perm hlen
      rw [List.getElem_eraseIdx_of_lt hlen hlt] at hinner
      exact (hinner.cons _).trans (List.getElem_cons_eraseIdx_perm hi)

section Indices

variable {cand : List UInt32}

/-- Two different indices of a list of candidates. -/
def IsPairOf (cand : List UInt32) (i j : ℕ) : Prop := i < cand.length ∧ j < cand.length ∧ i ≠ j

lemma snd_lt_of_mem {x : UInt32 × ℕ} (h : x ∈ cand.zipIdx) : x.2 < cand.length := by
  have := List.snd_lt_add_of_mem_zipIdx h
  omega

lemma Farthest.consider_isPairOf {δ : Type} [LT δ] [DecidableLT δ] {f : Farthest δ} {a b : ℕ}
    {d : δ} (hf : IsPairOf cand f.bi f.bj) (ha : a < cand.length) (hb : b < cand.length) :
    IsPairOf cand (f.consider a b d).bi (f.consider a b d).bj := by
  by_cases hab : a = b
  · rwa [consider, if_pos hab]
  · rw [consider, if_neg hab]
    split
    · exact ⟨ha, hb, hab⟩
    · exact hf

end Indices

section Distances

variable {δ : Type} [Add δ] [Sub δ] [Mul δ] [Neg δ] [OfNat δ 0] [OfNat δ 1] [LE δ] [LT δ]
  [DecidableLE δ] [DecidableLT δ] {sqrt : δ → δ} {pos : UInt32 → Position δ} {cand : List UInt32}

omit [Neg δ] [OfNat δ 1] [LT δ] [DecidableLT δ] in
lemma searchPair_isPairOf {p : ℕ × ℕ} (h : searchPair sqrt pos cand = some p) :
    IsPairOf cand p.1 p.2 := by
  obtain ⟨x, hx, hinner⟩ := List.exists_of_findSome?_eq_some h
  obtain ⟨y, hy, hpair⟩ := List.exists_of_findSome?_eq_some hinner
  by_cases hne : y.2 = x.2
  · rw [if_pos hne] at hpair
    cases hpair
  · rw [if_neg hne] at hpair
    split at hpair
    · cases hpair
    · cases hpair
      exact ⟨snd_lt_of_mem hx, snd_lt_of_mem hy, Ne.symm hne⟩

omit [OfNat δ 0] [LE δ] [DecidableLE δ] in
/-- The fallback starts with the indices 0 and 1, which there are as long as there are two
candidates. -/
lemma farthestPair_isPairOf (h : 2 ≤ cand.length) :
    IsPairOf cand (farthestPair sqrt pos cand).bi (farthestPair sqrt pos cand).bj := by
  have hstart : IsPairOf cand (⟨0, 1, -1⟩ : Farthest δ).bi (⟨0, 1, -1⟩ : Farthest δ).bj :=
    ⟨show 0 < cand.length by omega, show 1 < cand.length by omega, zero_ne_one⟩
  refine List.foldlRecOn cand.zipIdx _ (motive := fun f : Farthest δ => IsPairOf cand f.bi f.bj)
    hstart fun f hf x hx => ?_
  refine List.foldlRecOn cand.zipIdx _ (motive := fun f : Farthest δ => IsPairOf cand f.bi f.bj)
    hf fun f hf y hy => ?_
  exact Farthest.consider_isPairOf hf (snd_lt_of_mem hx) (snd_lt_of_mem hy)

variable (sqrt pos) in
lemma choosePair_isPairOf (h : 2 ≤ cand.length) :
    IsPairOf cand (choosePair sqrt pos cand).1 (choosePair sqrt pos cand).2 := by
  rw [choosePair]
  cases hsearch : searchPair sqrt pos cand with
  | some p => exact searchPair_isPairOf hsearch
  | none => exact farthestPair_isPairOf h

/-! ### All rounds -/

def endpoints (flows : List FlowPair) : List UInt32 := flows.flatMap fun p => [p.1, p.2]

variable (sqrt pos) in
/-- The flows that are missing are made of candidates, as long as there are two for each. -/
lemma exists_selectFlows {k missing : ℕ} {flows : List FlowPair} (hk : flows.length + missing = k)
    (hcand : 2 * missing ≤ cand.length) :
    ∃ new rest, selectFlows sqrt k pos flows cand = some (flows ++ new) ∧ new.length = missing ∧
      (endpoints new ++ rest).Perm cand := by
  induction missing generalizing flows cand with
  | zero =>
    refine ⟨[], cand, ?_, rfl, List.Perm.refl cand⟩
    rw [selectFlows, if_neg (by omega), List.append_nil]
  | succ missing ih =>
    have htwo : 2 ≤ cand.length := by omega
    obtain ⟨hi, hj, hij⟩ := choosePair_isPairOf sqrt pos htwo
    obtain ⟨a, b, cand', htake, hperm⟩ := exists_takePair hi hj hij
    have hlength := hperm.length_eq
    rw [List.length_cons, List.length_cons] at hlength
    have hflows : (flows ++ [(a, b)]).length + missing = k := by
      rw [List.length_append, List.length_singleton]
      omega
    have hcand' : 2 * missing ≤ cand'.length := by omega
    obtain ⟨new, rest, hselect, hnew, hrest⟩ := ih hflows hcand'
    refine ⟨(a, b) :: new, rest, ?_, congrArg (· + 1) hnew, ?_⟩
    · rw [selectFlows, if_pos (by omega), htake, Option.bind_some, hselect, List.append_assoc]
      rfl
    · exact ((hrest.cons b).cons a).trans hperm

end Distances

/-! ### The candidates -/

section Candidates

variable {n : UInt32} {attackerSet : List UInt32}

lemma mem_candidates {i : UInt32} :
    i ∈ candidates n attackerSet ↔ i < n ∧ i ∉ attackerSet ∧ i ≠ 0 ∧ i ≠ 1 := by
  have hrange : i ∈ (List.range n.toNat).map UInt32.ofNat ↔ i < n := by
    rw [List.mem_map, UInt32.lt_iff_toNat_lt]
    constructor
    · rintro ⟨m, hm, rfl⟩
      have hlt := List.mem_range.mp hm
      rwa [UInt32.toNat_ofNat_of_lt' (hlt.trans n.toNat_lt)]
    · intro h
      exact ⟨i.toNat, List.mem_range.mpr h, UInt32.ofNat_toNat⟩
  rw [candidates, List.mem_filter, hrange, Bool.and_eq_true, Bool.not_eq_true',
    decide_eq_false_iff_not, Bool.not_eq_true', decide_eq_false_iff_not, not_or]
  rfl

lemma nodup_candidates : (candidates n attackerSet).Nodup := by
  refine List.Nodup.filter _ (List.Nodup.map_on ?_ List.nodup_range)
  intro i hi j hj h
  have hlt := n.toNat_lt
  rw [List.mem_range] at hi hj
  rw [← UInt32.toNat_ofNat_of_lt' (hi.trans hlt), h, UInt32.toNat_ofNat_of_lt' (hj.trans hlt)]

variable (n attackerSet) in
lemma length_candidates_lt : (candidates n attackerSet).length < 2 ^ 32 := by
  have hle : (candidates n attackerSet).length ≤ n.toNat := by
    refine (List.length_filter_le _ _).trans ?_
    rw [List.length_map, List.length_range]
  exact lt_of_le_of_lt hle n.toNat_lt

end Candidates

/-! ### The flows of a run -/

/-- What the selection is for. -/
structure EndpointDisjoint (numDataFlows n : UInt32) (attackerSet : List UInt32)
    (flows : List FlowPair) : Prop where
  length : flows.length = numDataFlows.toNat
  legacy : flows.head? = some (udpClientNodeId, udpServerNodeId)
  distinct : (endpoints flows).Nodup
  valid : ∀ e ∈ endpoints flows, e < n ∧ e ∉ attackerSet

section Selection

variable {δ : Type} [Add δ] [Sub δ] [Mul δ] [Neg δ] [OfNat δ 0] [OfNat δ 1] [LE δ] [LT δ]
  [DecidableLE δ] [DecidableLT δ] {sqrt : δ → δ} {mobility : UInt32 → Option (Position δ)}
  {numDataFlows n : UInt32} {attackerSet : List UInt32} {s : ℕ → UInt32}

/-- The selection returns such flows once the generator has given enough outputs. -/
def SelectsFlows (sqrt : δ → δ) (numDataFlows n : UInt32) (mobility : UInt32 → Option (Position δ))
    (attackerSet : List UInt32) (s : ℕ → UInt32) : Prop :=
  ∃ m flows, (∀ m' ≥ m, selectDataFlowPairs sqrt numDataFlows n mobility attackerSet
    (firstOutputs s m') = some flows) ∧ EndpointDisjoint numDataFlows n attackerSet flows

variable (sqrt mobility) in
/-- Behind the first flow there are as many as are missing, with their endpoints among the
candidates. -/
lemma exists_selectDataFlowPairs (hpos : 1 ≤ numDataFlows) (hlt : numDataFlows < 0x80000000)
    (hcheck : ¬ NotEnoughNodes numDataFlows n attackerSet) (hs : KeepsYielding s) :
    ∃ m new rest, (∀ m' ≥ m, selectDataFlowPairs sqrt numDataFlows n mobility attackerSet
        (firstOutputs s m') = some ((udpClientNodeId, udpServerNodeId) :: new)) ∧
      new.length + 1 = numDataFlows.toNat ∧
      (endpoints new ++ rest).Perm (candidates n attackerSet) := by
  obtain ⟨m, cand, hcand, hshuffle⟩ := exists_shuffleCandidates hs
    (length_candidates_lt n attackerSet)
  have hdouble : (2 * numDataFlows).toNat = 2 * numDataFlows.toNat := by
    rw [UInt32.lt_iff_toNat_lt] at hlt
    rw [UInt32.toNat_mul]
    exact Nat.mod_eq_of_lt (show 2 * numDataFlows.toNat < 2 ^ 32 by
      change numDataFlows.toNat < 2 ^ 31 at hlt
      omega)
  have hone : 1 ≤ numDataFlows.toNat := UInt32.le_iff_toNat_le.mp hpos
  have henough : 2 * (numDataFlows.toNat - 1) ≤ cand.length := by
    rw [NotEnoughNodes, hdouble, ← hcand.length_eq] at hcheck
    omega
  have hfirst : [(udpClientNodeId, udpServerNodeId)].length + (numDataFlows.toNat - 1) =
      numDataFlows.toNat := by
    rw [List.length_singleton]
    omega
  obtain ⟨new, rest, hselect, hnew, hperm⟩ := exists_selectFlows sqrt
    (fun i => (mobility i).getD ⟨0, 0, 0⟩) hfirst henough
  refine ⟨m, new, rest, fun m' hm' => ?_, by omega, hperm.trans hcand⟩
  obtain ⟨outputs, hresult⟩ := hshuffle m' hm'
  rw [selectDataFlowPairs, if_neg hcheck, hresult, Option.bind_some, hselect]
  rfl

/-- **The selected flows.**  Where there are the two nodes of the first flow, whatever passes the check
gives flows that are what the selection is for. -/
theorem selectsFlows_of_two_le (htwo : 2 ≤ n) (hpos : 1 ≤ numDataFlows)
    (hlt : numDataFlows < 0x80000000) (hserver : udpServerNodeId ∉ attackerSet)
    (hclient : udpClientNodeId ∉ attackerSet)
    (hcheck : ¬ NotEnoughNodes numDataFlows n attackerSet) (hs : KeepsYielding s) :
    SelectsFlows sqrt numDataFlows n mobility attackerSet s := by
  have hclientLt : udpClientNodeId < n := by
    rw [UInt32.lt_iff_toNat_lt]
    exact Nat.succ_le_iff.mp (UInt32.le_iff_toNat_le.mp htwo)
  have hserverLt : udpServerNodeId < n := UInt32.lt_trans (by decide) hclientLt
  obtain ⟨m, new, rest, hselect, hlength, hperm⟩ := exists_selectDataFlowPairs sqrt mobility
    hpos hlt hcheck hs
  have hnew : ∀ e ∈ endpoints new, e < n ∧ e ∉ attackerSet ∧ e ≠ 0 ∧ e ≠ 1 := fun e he =>
    mem_candidates.mp (hperm.subset (List.mem_append_left rest he))
  refine ⟨m, _, hselect, ⟨hlength, rfl, ?_, ?_⟩⟩
  · have hnodup := (hperm.nodup_iff.mpr nodup_candidates).of_append_left
    refine List.nodup_cons.mpr ⟨?_, List.nodup_cons.mpr ⟨?_, hnodup⟩⟩
    · intro h
      rcases List.mem_cons.mp h with h | h
      · exact absurd h (by decide)
      · exact (hnew _ h).2.2.2 rfl
    · exact fun h => (hnew _ h).2.2.1 rfl
  · intro e he
    rcases List.mem_cons.mp he with rfl | he
    · exact ⟨hclientLt, hclient⟩
    · rcases List.mem_cons.mp he with rfl | he
      · exact ⟨hserverLt, hserver⟩
      · exact ⟨(hnew e he).1, (hnew e he).2.1⟩

end Selection

/-- A generator that keeps giving 0. -/
lemma keepsYielding_zero : KeepsYielding fun _ => 0 := by
  intro bound hbound k
  exact ⟨k, le_rfl, accepted_of_lt (UInt32.pos_iff_ne_zero.mpr hbound)⟩

/-- Six nodes at the same position, one of them an attacker, and two flows. -/
theorem selectsFlows_coLocated : SelectsFlows Int.sqrt 2 6 (fun _ => none) [4] (fun _ => 0) :=
  selectsFlows_of_two_le (by decide) (by decide) (by decide) (by decide) (by decide)
    (by decide +kernel) keepsYielding_zero

/-- With a single node, the check lets a flow pass whose source does not exist. -/
theorem singleNode_not_selectsFlows :
    ¬ NotEnoughNodes 1 1 [] ∧ KeepsYielding (fun _ => 0) ∧
      selectDataFlowPairs Int.sqrt 1 1 (fun _ => none) [] [] = some [(1, 0)] ∧
      ¬ SelectsFlows Int.sqrt 1 1 (fun _ => none) [] (fun _ => 0) := by
  refine ⟨by decide +kernel, keepsYielding_zero, ?_, ?_⟩
  · have hcandidates : candidates 1 [] = [] := by decide +kernel
    have hshuffle : shuffleCandidates ([] : List UInt32).length [] [] = some ([], []) := rfl
    rw [selectDataFlowPairs, if_neg (by decide +kernel), hcandidates, hshuffle, Option.bind_some,
      selectFlows, if_neg (by decide)]
    rfl
  · rintro ⟨m, flows, -, hflows⟩
    have hmem : udpClientNodeId ∈ endpoints flows :=
      List.mem_flatMap.mpr ⟨_, List.mem_of_head? hflows.legacy, List.mem_cons_self⟩
    exact absurd (hflows.valid _ hmem).1 (by decide)

end ManetOlsr
