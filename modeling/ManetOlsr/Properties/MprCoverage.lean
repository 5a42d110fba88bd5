/-
Coverage by the MPR set.

Every phase of the computation keeps `Covering`: the elected neighbors are eligible, the tuples
that are left are some of the tuples that were there, and every 2-hop neighbor that has lost a
tuple is announced by an elected neighbor.  When no tuple is left, this is coverage.
-/
import ManetOlsr.Model.Frames
import ManetOlsr.Model.Scenario

namespace ManetOlsr

namespace Mpr

/-- A neighbor may be elected: it is symmetric and willing. -/
def Eligible (s : OlsrState) (addr : Ipv4Address) : Prop :=
  ∃ nb ∈ s.neighborSet, nb.neighborMainAddr = addr ∧ nb.status = Status.sym ∧
    nb.willingness ≠ Willingness.never

/-- The 2-hop neighbor of a tuple is announced by some elected neighbor. -/
def CoveredBy (N2 : List TwoHopNeighborTuple) (mprSet : Finset Ipv4Address)
    (t : TwoHopNeighborTuple) : Prop :=
  ∃ t' ∈ N2, t'.twoHopNeighborAddr = t.twoHopNeighborAddr ∧ t'.neighborMainAddr ∈ mprSet

/-- The invariant of the computation. -/
structure Covering (s : OlsrState) (N2 : List TwoHopNeighborTuple) (p : Progress) : Prop where
  eligible : ∀ a ∈ p.mprSet, Eligible s a
  left : p.N2 ⊆ N2
  covered : ∀ t ∈ N2, t ∈ p.N2 ∨ CoveredBy N2 p.mprSet t

variable {s : OlsrState} {mainAddress : Ipv4Address} {N2 : List TwoHopNeighborTuple}
  {p : Progress}

lemma CoveredBy.mono {mprSet mprSet' : Finset Ipv4Address} {t : TwoHopNeighborTuple}
    (h : CoveredBy N2 mprSet t) (hsub : mprSet ⊆ mprSet') : CoveredBy N2 mprSet' t := by
  obtain ⟨t', ht', haddr, hmpr⟩ := h
  exact ⟨t', ht', haddr, hsub hmpr⟩

lemma mem_N {nb : NeighborTuple} : nb ∈ N s ↔ nb ∈ s.neighborSet ∧ nb.status = Status.sym := by
  simp [N]

/-- The tuples to be covered: an eligible neighbor announces a node other than this one and its
symmetric neighbors. -/
lemma mem_initialN2 {t : TwoHopNeighborTuple} (ht : t ∈ initialN2 mainAddress s) :
    t ∈ s.twoHopNeighborSet ∧ ∃ nb ∈ N s, nb.neighborMainAddr = t.neighborMainAddr ∧
      nb.willingness ≠ Willingness.never := by
  simp only [initialN2, List.mem_filter, Bool.and_eq_true] at ht
  obtain ⟨hmem, ⟨-, hwilling⟩, -⟩ := ht
  refine ⟨hmem, ?_⟩
  split at hwilling
  · next nb hnb =>
    exact ⟨nb, List.mem_of_find?_eq_some hnb, by simpa using List.find?_some hnb,
      by simpa using hwilling⟩
  · exact absurd hwilling (by simp)

lemma eligible_of_mem_initialN2 {t : TwoHopNeighborTuple} (ht : t ∈ initialN2 mainAddress s) :
    Eligible s t.neighborMainAddr := by
  obtain ⟨-, nb, hnb, haddr, hwilling⟩ := mem_initialN2 ht
  exact ⟨nb, (mem_N.mp hnb).1, haddr, (mem_N.mp hnb).2, hwilling⟩

/-! ### Electing one neighbor -/

lemma mem_coverTwoHopNeighbors {a : Ipv4Address} {t : TwoHopNeighborTuple} :
    t ∈ coverTwoHopNeighbors a N2 ↔
      t ∈ N2 ∧ ∀ t' ∈ N2, t'.neighborMainAddr = a →
        t'.twoHopNeighborAddr ≠ t.twoHopNeighborAddr := by
  simp [coverTwoHopNeighbors]

lemma Covering.select (h : Covering s N2 p) {a : Ipv4Address} (ha : Eligible s a) :
    Covering s N2 (p.select a) where
  eligible b hb := by
    rcases Finset.mem_insert.mp hb with rfl | hb
    · exact ha
    · exact h.eligible b hb
  left t ht := h.left (mem_coverTwoHopNeighbors.mp ht).1
  covered t ht := by
    rcases h.covered t ht with hleft | hcov
    · by_cases hkept : t ∈ coverTwoHopNeighbors a p.N2
      · exact Or.inl hkept
      · -- The tuple went because the elected neighbor announces its 2-hop neighbor.
        rw [mem_coverTwoHopNeighbors] at hkept
        push Not at hkept
        obtain ⟨t', ht', rfl, haddr⟩ := hkept hleft
        exact Or.inr ⟨t', h.left ht', haddr, Finset.mem_insert_self _ _⟩
    · exact Or.inr (hcov.mono (Finset.subset_insert _ _))

/-! ### The phases -/

lemma covering_initial : Covering s N2 ⟨∅, N2⟩ where
  eligible := by simp
  left := List.Subset.refl _
  covered _ ht := Or.inl ht

lemma Covering.selectAlways (h : Covering s N2 p) {l : List NeighborTuple} (hl : l ⊆ N s) :
    Covering s N2 (selectAlways l p) := by
  induction l generalizing p with
  | nil => exact h
  | cons nb l ih =>
    obtain ⟨hnb, hl⟩ := List.cons_subset.mp hl
    rw [Mpr.selectAlways, List.foldl_cons]
    refine ih ?_ hl
    split
    · next halways =>
      refine h.select ⟨nb, (mem_N.mp hnb).1, rfl, (mem_N.mp hnb).2, ?_⟩
      rw [beq_iff_eq.mp halways]
      decide
    · exact h

lemma Covering.selectSoleProviders (h : Covering s N2 p)
    (helig : ∀ t ∈ N2, Eligible s t.neighborMainAddr) :
    Covering s N2 (selectSoleProviders p) where
  eligible a ha := by
    rcases Finset.mem_union.mp ha with ha | ha
    · exact h.eligible a ha
    · obtain ⟨t, ht, rfl⟩ := List.mem_map.mp (List.mem_toFinset.mp ha)
      exact helig t (h.left (List.mem_of_mem_filter ht))
  left t ht := h.left (List.mem_of_mem_filter ht)
  covered t ht := by
    rcases h.covered t ht with hleft | hcov
    · by_cases hkept : t ∈ (Mpr.selectSoleProviders p).N2
      · exact Or.inl hkept
      · simp only [Mpr.selectSoleProviders, List.mem_filter, hleft, true_and,
          Bool.not_eq_true', Bool.not_eq_false, List.contains_iff_mem] at hkept
        obtain ⟨t', ht', haddr⟩ := List.mem_map.mp hkept
        obtain ⟨ht', hsole⟩ := List.mem_filter.mp ht'
        refine Or.inr ⟨t', h.left ht', haddr, Finset.mem_union_right _ ?_⟩
        exact List.mem_toFinset.mpr (List.contains_iff_mem.mp hsole)
    · exact Or.inr (hcov.mono Finset.subset_union_left)

/-! ### The greedy rounds -/

lemma reachability_ne_zero {nb : NeighborTuple} :
    reachability N2 nb ≠ 0 ↔ ∃ t ∈ N2, t.neighborMainAddr = nb.neighborMainAddr := by
  simp only [reachability, ne_eq, List.countP_eq_zero, beq_iff_eq, not_forall, not_not,
    exists_prop]
  exact exists_congr fun t => and_congr_right fun _ => eq_comm

/-- Step 4.2 visits the neighbors that reach a 2-hop neighbor which is left. -/
lemma mem_candidates {l : List NeighborTuple} {nb : NeighborTuple} :
    nb ∈ candidates l N2 ↔ nb ∈ l ∧ reachability N2 nb ≠ 0 := by
  simp only [candidates, List.mem_flatMap, List.mem_filter, List.mem_insertionSort,
    List.mem_dedup, List.mem_map, Bool.not_eq_true', beq_eq_false_iff_ne, beq_iff_eq]
  constructor
  · rintro ⟨r, ⟨-, hr⟩, hnb, rfl⟩
    exact ⟨hnb, hr⟩
  · rintro ⟨hnb, hr⟩
    exact ⟨_, ⟨⟨nb, hnb, rfl⟩, hr⟩, hnb, rfl⟩

lemma chooseMax_mem {l : List NeighborTuple} {nb : NeighborTuple}
    (h : chooseMax s l N2 = some nb) : nb ∈ l ∧ reachability N2 nb ≠ 0 :=
  mem_candidates.mp (Lib.mem_of_select h)

/-- As long as a tuple is left, some neighbor is elected: the one that announced the tuple. -/
lemma chooseMax_ne_none (hsub : N2 ⊆ initialN2 mainAddress s) (hN2 : N2 ≠ []) :
    chooseMax s (N s) N2 ≠ none := by
  refine Lib.select_ne_none fun hempty => ?_
  obtain ⟨t, ht⟩ := List.exists_mem_of_ne_nil N2 hN2
  obtain ⟨-, nb, hnb, haddr, -⟩ := mem_initialN2 (hsub ht)
  have hmem : nb ∈ candidates (N s) N2 :=
    mem_candidates.mpr ⟨hnb, reachability_ne_zero.mpr ⟨t, ht, haddr.symm⟩⟩
  simp [hempty] at hmem

/-- **Step lemma.**  A greedy round keeps the invariant and erases at least one tuple. -/
lemma Covering.greedyRound (h : Covering s (initialN2 mainAddress s) p)
    (hcond : greedyCond p = true) :
    Covering s (initialN2 mainAddress s) (greedyRound s (N s) p) ∧
      (Mpr.greedyRound s (N s) p).N2.length < p.N2.length := by
  have hN2 : p.N2 ≠ [] := by simpa [greedyCond] using hcond
  obtain ⟨nb, hnb⟩ := Option.ne_none_iff_exists'.mp (chooseMax_ne_none h.left hN2)
  obtain ⟨-, hreach⟩ := chooseMax_mem hnb
  obtain ⟨t, ht, haddr⟩ := reachability_ne_zero.mp hreach
  rw [Mpr.greedyRound, hnb]
  refine ⟨h.select (haddr ▸ eligible_of_mem_initialN2 (h.left ht)), ?_⟩
  refine List.length_filter_lt_length_iff_exists.mpr ⟨t, ht, ?_⟩
  simp only [Bool.not_eq_true', Bool.not_eq_false, List.contains_iff_mem]
  exact List.mem_map.mpr ⟨t, List.mem_filter.mpr ⟨ht, by simp [haddr]⟩, rfl⟩

lemma covering_beforeGreedy :
    Covering s (initialN2 mainAddress s) (beforeGreedy mainAddress s) :=
  (covering_initial.selectAlways (List.Subset.refl _)).selectSoleProviders
    fun _ ht => eligible_of_mem_initialN2 ht

lemma covering_greedy : Covering s (initialN2 mainAddress s) (greedy mainAddress s) :=
  Lib.whileLoop_inv _ (fun _ h hcond => (h.greedyRound hcond).1) _ covering_beforeGreedy

/-- The loop of step 4 ends within one round for each tuple that is left when it starts. -/
lemma greedyCond_greedy : greedyCond (greedy mainAddress s) = false :=
  Lib.whileLoop_exit _ (fun p => p.N2.length) (fun _ h hcond => h.greedyRound hcond)
    covering_beforeGreedy le_rfl

lemma greedy_covers {t : TwoHopNeighborTuple} (ht : t ∈ initialN2 mainAddress s) :
    CoveredBy (initialN2 mainAddress s) (greedy mainAddress s).mprSet t := by
  have hcond : greedyCond (greedy mainAddress s) = false := greedyCond_greedy
  have hempty : (greedy mainAddress s).N2 = [] := by simpa [greedyCond] using hcond
  rcases covering_greedy.covered t ht with hleft | hcov
  · simp [hempty] at hleft
  · exact hcov

/-! ### The backup relay -/

section Backup

variable {isMalicious : Ipv4Address → Bool} {mprSet : Finset Ipv4Address}

lemma subset_addBackup : mprSet ⊆ addBackup s isMalicious mprSet := by
  rw [addBackup]
  split_ifs
  · exact Finset.Subset.refl _
  · split
    · exact Finset.subset_insert _ _
    · exact Finset.Subset.refl _
  · exact Finset.Subset.refl _

lemma eligible_addBackup (h : ∀ a ∈ mprSet, Eligible s a) :
    ∀ a ∈ addBackup s isMalicious mprSet, Eligible s a := by
  intro a ha
  rw [addBackup] at ha
  split_ifs at ha
  · exact h a ha
  · split at ha
    · next nb hnb =>
      rcases Finset.mem_insert.mp ha with rfl | ha
      · have hok := List.find?_some hnb
        simp only [Bool.and_eq_true, beq_iff_eq, Bool.not_eq_true', beq_eq_false_iff_ne] at hok
        exact ⟨nb, List.mem_of_find?_eq_some hnb, rfl, hok.1.1, hok.2⟩
      · exact h a ha
    · exact h a ha
  · exact h a ha

/-- A neighbor that can be added to an MPR set of suspects. -/
structure CanBackup (s : OlsrState) (isMalicious : Ipv4Address → Bool) (nb : NeighborTuple) :
    Prop where
  mem : nb ∈ s.neighborSet
  sym : nb.status = Status.sym
  willing : nb.willingness ≠ Willingness.never
  trusted : isMalicious nb.neighborMainAddr = false

/-- There is an MPR, and every MPR is a suspect. -/
def AllSuspect (isMalicious : Ipv4Address → Bool) (mprSet : Finset Ipv4Address) : Prop :=
  mprSet ≠ ∅ ∧ ∀ a ∈ mprSet, isMalicious a = true

lemma AllSuspect.notMem (h : AllSuspect isMalicious mprSet) {nb : NeighborTuple}
    (hnb : CanBackup s isMalicious nb) : nb.neighborMainAddr ∉ mprSet := by
  intro hmem
  have hsuspect := h.2 _ hmem
  rw [hnb.trusted] at hsuspect
  exact Bool.false_ne_true hsuspect

lemma addBackup_of_not_allSuspect (h : ¬ AllSuspect isMalicious mprSet) :
    addBackup s isMalicious mprSet = mprSet := by
  rw [addBackup]
  split_ifs with hempty hall
  · rfl
  · refine absurd ⟨hempty, fun a ha => ?_⟩ h
    simpa using Finset.filter_eq_empty_iff.mp hall ha
  · rfl

/-- An MPR set of suspects gets the first neighbor that can be added to it, if there is one. -/
lemma addBackup_of_allSuspect (h : AllSuspect isMalicious mprSet) :
    (∃ nb, CanBackup s isMalicious nb ∧
        addBackup s isMalicious mprSet = insert nb.neighborMainAddr mprSet) ∨
      ((∀ nb, ¬ CanBackup s isMalicious nb) ∧ addBackup s isMalicious mprSet = mprSet) := by
  have hall : (mprSet.filter fun a => !isMalicious a) = ∅ := by
    refine Finset.filter_eq_empty_iff.mpr fun a ha => ?_
    simp [h.2 a ha]
  rw [addBackup, if_neg h.1, if_pos hall]
  split
  · next nb hnb =>
    have hok := List.find?_some hnb
    simp only [Bool.and_eq_true, beq_iff_eq, Bool.not_eq_true', beq_eq_false_iff_ne] at hok
    exact Or.inl ⟨nb, ⟨List.mem_of_find?_eq_some hnb, hok.1.1, hok.2, hok.1.2⟩, rfl⟩
  · next hnone =>
    refine Or.inr ⟨fun nb hnb => List.find?_eq_none.mp hnone nb hnb.mem ?_, rfl⟩
    simp [hnb.sym, hnb.willing, hnb.trusted]

end Backup

/-! ### Distinct main addresses -/

/-- In a neighbor set without duplicate main addresses, the tuple of an address is found. -/
lemma find?_N (hnodup : (s.neighborSet.map NeighborTuple.neighborMainAddr).Nodup)
    {nb : NeighborTuple} (hnb : nb ∈ N s) :
    (N s).find? (fun neigh => neigh.neighborMainAddr == nb.neighborMainAddr) = some nb := by
  have hsub : (N s).Sublist s.neighborSet := List.filter_sublist
  have hinj := List.inj_on_of_nodup_map hnodup
  cases hfind : (N s).find? fun neigh => neigh.neighborMainAddr == nb.neighborMainAddr with
  | none => exact absurd (List.find?_eq_none.mp hfind nb hnb) (by simp)
  | some nb' =>
    have haddr : nb'.neighborMainAddr = nb.neighborMainAddr := by
      simpa using List.find?_some hfind
    rw [hinj (hsub.subset (List.mem_of_find?_eq_some hfind)) (hsub.subset hnb) haddr]

/-- Without duplicate main addresses, the tuples to be covered are all those announced by a
symmetric and willing neighbor that lead beyond the symmetric neighborhood. -/
lemma mem_initialN2_of_nodup
    (hnodup : (s.neighborSet.map NeighborTuple.neighborMainAddr).Nodup)
    {t : TwoHopNeighborTuple} (ht : t ∈ s.twoHopNeighborSet) {nb : NeighborTuple}
    (hnb : nb ∈ N s) (haddr : nb.neighborMainAddr = t.neighborMainAddr)
    (hwilling : nb.willingness ≠ Willingness.never) (hself : t.twoHopNeighborAddr ≠ mainAddress)
    (hfar : ∀ nb' ∈ N s, nb'.neighborMainAddr ≠ t.twoHopNeighborAddr) :
    t ∈ initialN2 mainAddress s := by
  simp only [initialN2, List.mem_filter, ← haddr, find?_N hnodup hnb, Bool.and_eq_true,
    Bool.not_eq_true', beq_eq_false_iff_ne, List.any_eq_false, beq_iff_eq]
  exact ⟨ht, ⟨hself, hwilling⟩, hfar⟩

end Mpr

variable {D : Type} [OlsrDefenseStrategy D]

lemma Node.eligible_mprSet (n : Node D) :
    ∀ a ∈ n.mprComputation.state.mprSet, Mpr.Eligible n.state a := by
  rw [Node.mprComputation_state]
  change ∀ a ∈ n.computedMprSet, _
  simp only [Node.computedMprSet]
  split
  · exact Mpr.eligible_addBackup Mpr.covering_greedy.eligible
  · exact Mpr.covering_greedy.eligible

lemma Node.subset_mprSet (n : Node D) :
    (Mpr.greedy n.mainAddress n.state).mprSet ⊆ n.mprComputation.state.mprSet := by
  rw [Node.mprComputation_state]
  change _ ⊆ n.computedMprSet
  simp only [Node.computedMprSet]
  split
  · exact Mpr.subset_addBackup
  · exact Finset.Subset.refl _

/-- **MPR coverage.**  For a neighbor set without duplicate main addresses and any 2-hop neighbor
set, the greedy loop terminates (within the rounds the model gives it), only symmetric neighbors
of a willingness other than `NEVER` are elected, and every 2-hop neighbor that such a neighbor
announces, other than the node itself and its symmetric neighbors, is announced by an elected
neighbor. -/
theorem mprComputation_covers (n : Node D)
    (hnodup : (n.state.neighborSet.map NeighborTuple.neighborMainAddr).Nodup) :
    (Lib.Terminates Mpr.greedyCond (Mpr.greedyRound n.state (Mpr.N n.state))
        (Mpr.beforeGreedy n.mainAddress n.state) ∧
      Mpr.greedyCond (Mpr.greedy n.mainAddress n.state) = false) ∧
    (∀ a ∈ n.mprComputation.state.mprSet, ∃ nb ∈ n.state.neighborSet,
      nb.neighborMainAddr = a ∧ nb.status = Status.sym ∧ nb.willingness ≠ Willingness.never ∧
      ∀ nb' ∈ n.state.neighborSet, nb'.neighborMainAddr = a → nb' = nb) ∧
    ∀ t ∈ n.state.twoHopNeighborSet,
      (∃ nb ∈ n.state.neighborSet, nb.neighborMainAddr = t.neighborMainAddr ∧
        nb.status = Status.sym ∧ nb.willingness ≠ Willingness.never) →
      t.twoHopNeighborAddr ≠ n.mainAddress →
      (∀ nb ∈ n.state.neighborSet, nb.status = Status.sym →
        nb.neighborMainAddr ≠ t.twoHopNeighborAddr) →
      ∃ t' ∈ n.state.twoHopNeighborSet, t'.twoHopNeighborAddr = t.twoHopNeighborAddr ∧
        t'.neighborMainAddr ∈ n.mprComputation.state.mprSet := by
  refine ⟨⟨⟨_, Mpr.greedyCond_greedy⟩, Mpr.greedyCond_greedy⟩, fun a ha => ?_, ?_⟩
  · obtain ⟨nb, hnb, haddr, hsym, hwilling⟩ := n.eligible_mprSet a ha
    refine ⟨nb, hnb, haddr, hsym, hwilling, fun nb' hnb' haddr' => ?_⟩
    exact List.inj_on_of_nodup_map hnodup hnb' hnb (haddr'.trans haddr.symm)
  · rintro t ht ⟨nb, hnb, haddr, hsym, hwilling⟩ hself hfar
    have hmem := Mpr.mem_initialN2_of_nodup hnodup ht (Mpr.mem_N.mpr ⟨hnb, hsym⟩) haddr hwilling
      hself fun nb' hnb' => hfar nb' (Mpr.mem_N.mp hnb').1 (Mpr.mem_N.mp hnb').2
    obtain ⟨t', ht', haddr', hmpr⟩ := Mpr.greedy_covers hmem
    exact ⟨t', (Mpr.mem_initialN2 ht').1, haddr', n.subset_mprSet hmpr⟩

/-- **A defense only adds to the MPR set.**  For every strategy, and so for every verdict on the
neighbors, the MPR set with the strategy installed is the set without one, or has one more
neighbor.  There is one more if and only if the set without a strategy consists of suspects, of
which there is at least one, and some neighbor can be added to it.  Every 2-hop neighbor that is to
be covered is announced by an MPR, whatever the verdicts are. -/
theorem mprComputation_only_adds (n : Node D) (d : D) :
    let standard := ({ n with defenseStrategy := none } : Node D).mprComputation.state.mprSet
    let defended := ({ n with defenseStrategy := some d } : Node D).mprComputation.state.mprSet
    let isMalicious := OlsrDefenseStrategy.isMalicious d n.now
    (defended = standard ∨
      Mpr.AllSuspect isMalicious standard ∧ ∃ nb, Mpr.CanBackup n.state isMalicious nb ∧
        nb.neighborMainAddr ∉ standard ∧ defended = insert nb.neighborMainAddr standard) ∧
    (defended ≠ standard ↔
      Mpr.AllSuspect isMalicious standard ∧ ∃ nb, Mpr.CanBackup n.state isMalicious nb) ∧
    ∀ t ∈ Mpr.initialN2 n.mainAddress n.state, ∃ t' ∈ n.state.twoHopNeighborSet,
      t'.twoHopNeighborAddr = t.twoHopNeighborAddr ∧ t'.neighborMainAddr ∈ defended := by
  intro standard defended isMalicious
  have hstandard : standard = (Mpr.greedy n.mainAddress n.state).mprSet := rfl
  have hdefended : defended = Mpr.addBackup n.state isMalicious standard := rfl
  refine ⟨?_, ?_, fun t ht => ?_⟩
  · by_cases hall : Mpr.AllSuspect isMalicious standard
    · rcases Mpr.addBackup_of_allSuspect (s := n.state) hall with ⟨nb, hnb, hadd⟩ | ⟨-, hsame⟩
      · exact Or.inr ⟨hall, nb, hnb, hall.notMem hnb, hdefended.trans hadd⟩
      · exact Or.inl (hdefended.trans hsame)
    · exact Or.inl (hdefended.trans (Mpr.addBackup_of_not_allSuspect hall))
  · constructor
    · intro hne
      by_cases hall : Mpr.AllSuspect isMalicious standard
      · rcases Mpr.addBackup_of_allSuspect (s := n.state) hall with ⟨nb, hnb, -⟩ | ⟨-, hsame⟩
        · exact ⟨hall, nb, hnb⟩
        · exact absurd (hdefended.trans hsame) hne
      · exact absurd (hdefended.trans (Mpr.addBackup_of_not_allSuspect hall)) hne
    · rintro ⟨hall, nb, hnb⟩ heq
      rcases Mpr.addBackup_of_allSuspect (s := n.state) hall with ⟨nb', hnb', hadd⟩ | ⟨hno, -⟩
      · have hmem : nb'.neighborMainAddr ∈ standard := by
          rw [← heq, hdefended, hadd]
          exact Finset.mem_insert_self _ _
        exact hall.notMem hnb' hmem
      · exact hno nb hnb
  · obtain ⟨t', ht', haddr, hmpr⟩ := Mpr.greedy_covers ht
    refine ⟨t', (Mpr.mem_initialN2 ht').1, haddr, ?_⟩
    rw [hdefended]
    exact Mpr.subset_addBackup (hstandard ▸ hmpr)

/-- Three symmetric neighbors: 2 reaches 5 alone, 3 and 4 both reach 6, and 4 reaches 7. -/
def threeNeighbors : Node OlsrDefenseNull where
  mainAddress := 1
  interfaces := [{ address := 1 }]
  state :=
    { neighborSet := [⟨2, Status.sym, Willingness.default⟩, ⟨3, Status.sym, Willingness.low⟩,
        ⟨4, Status.sym, Willingness.high⟩]
      twoHopNeighborSet := [⟨2, 5, 0⟩, ⟨3, 6, 0⟩, ⟨4, 6, 0⟩, ⟨3, 7, 0⟩, ⟨4, 7, 0⟩] }

theorem mprComputation_covers_threeNeighbors :
    ∃ t' ∈ threeNeighbors.state.twoHopNeighborSet, t'.twoHopNeighborAddr = 6 ∧
      t'.neighborMainAddr ∈ threeNeighbors.mprComputation.state.mprSet :=
  (mprComputation_covers threeNeighbors (by decide)).2.2 ⟨3, 6, 0⟩ (by decide)
    ⟨⟨3, Status.sym, Willingness.low⟩, by decide⟩ (by decide) (by decide)

example : threeNeighbors.mprComputation.state.mprSet = {2, 4} := by decide +kernel

end ManetOlsr
