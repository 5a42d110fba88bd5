/-
Coverage by the redundant MPR set (`MprComputation` of the FPNT edition).

The loop counts for every 2-hop neighbor how often it is covered, and ends when every count has come
to two or when no neighbor is left that would raise one that has not.  Whichever end it takes, a 2-hop
neighbor is covered twice, or by every neighbor that announces it.
-/
import ManetOlsr.Lib.Coverage
import ManetOlsr.Model.FpntEdition
import ManetOlsr.Properties.MprCoverage

namespace ManetOlsr

namespace Mpr

open Lib TwoHopNeighborTuple

section Loop

variable {N : List NeighborTuple} {N2 : List TwoHopNeighborTuple} {trust : Ipv4Address → ℚ}

/-- A neighbor may be selected: it is always willing, or it reaches a 2-hop neighbor. -/
def Justified (N : List NeighborTuple) (N2 : List TwoHopNeighborTuple) (a : Ipv4Address) : Prop :=
  ∃ nb ∈ N, nb.neighborMainAddr = a ∧
    (nb.willingness = Willingness.always ∨ ∃ t ∈ N2, t.neighborMainAddr = a)

namespace RedundantLoop

variable {x : RedundantLoop}

/-- The invariant of the loop: the counters count the tuples of the selected neighbors, and where
the loop has broken off nobody is left to select. -/
structure Counting (N : List NeighborTuple) (N2 : List TwoHopNeighborTuple) (x : RedundantLoop) :
    Prop where
  justified : ∀ a ∈ x.redundantMprSet, Justified N N2 a
  coverage : ∀ a, x.coverage a =
    Lib.coverage N2 neighborMainAddr twoHopNeighborAddr x.redundantMprSet a
  stuck : x.stuck = true → ∀ nb ∈ N, nb.neighborMainAddr ∉ x.redundantMprSet → x.covered N2 nb = 0

/-- A new neighbor adds its own tuples. -/
lemma Counting.insert (h : Counting N N2 x) (hgoes : x.stuck = false) {a : Ipv4Address}
    (ha : Justified N N2 a) (hnew : a ∉ x.redundantMprSet) : Counting N N2 (x.insert N2 a) where
  justified b hb := by
    rcases Finset.mem_insert.mp hb with rfl | hb
    · exact ha
    · exact h.justified b hb
  coverage b := by
    have hcounted : Lib.coverage N2 neighborMainAddr twoHopNeighborAddr
        (Insert.insert a x.redundantMprSet) b = _ := coverage_insert hnew
    rw [← h.coverage] at hcounted
    exact hcounted.symm
  stuck hstuck := by
    have hsame : (x.insert N2 a).stuck = false := hgoes
    rw [hsame] at hstuck
    exact absurd hstuck Bool.false_ne_true

/-! ### The seed -/

variable (N2) in
lemma counting_seedAlways (hN : (N.map NeighborTuple.neighborMainAddr).Nodup) :
    Counting N N2 (seedAlways N N2) ∧ (seedAlways N N2).stuck = false := by
  -- The neighbors that are still to come are not selected yet.
  have hloop : ∀ (l : List NeighborTuple) (x : RedundantLoop), l ⊆ N →
      (l.map NeighborTuple.neighborMainAddr).Nodup → Counting N N2 x → x.stuck = false →
      (∀ nb ∈ l, nb.neighborMainAddr ∉ x.redundantMprSet) →
      Counting N N2 (l.foldl (fun x nb => if nb.willingness == Willingness.always then
        x.insert N2 nb.neighborMainAddr else x) x) ∧
      (l.foldl (fun x nb => if nb.willingness == Willingness.always then
        x.insert N2 nb.neighborMainAddr else x) x).stuck = false := by
    intro l
    induction l with
    | nil => exact fun x _ _ hx hgoes _ => ⟨hx, hgoes⟩
    | cons nb l ih =>
      intro x hl hnodup hx hgoes hnew
      obtain ⟨hnb, hl⟩ := List.cons_subset.mp hl
      rw [List.map_cons, List.nodup_cons] at hnodup
      have htail := fun nb' h => hnew nb' (List.mem_cons_of_mem nb h)
      rw [List.foldl_cons]
      split
      · next halways =>
        have hjustified : Justified N N2 nb.neighborMainAddr :=
          ⟨nb, hnb, rfl, Or.inl (beq_iff_eq.mp halways)⟩
        refine ih _ hl hnodup.2 (hx.insert hgoes hjustified (hnew nb List.mem_cons_self)) hgoes ?_
        intro nb' hnb' hmem
        rcases Finset.mem_insert.mp hmem with heq | hmem
        · exact hnodup.1 (heq ▸ List.mem_map_of_mem hnb')
        · exact htail nb' hnb' hmem
      · exact ih x hl hnodup.2 hx hgoes htail
  refine hloop N {} (List.Subset.refl N) hN ⟨fun a ha => ?_, fun a => ?_, fun h => ?_⟩ rfl ?_
  · exact absurd ha (Finset.notMem_empty a)
  · exact (coverage_empty (κ := Ipv4Address)).symm
  · exact absurd h Bool.false_ne_true
  · exact fun nb _ => Finset.notMem_empty _

/-! ### One round -/

variable (x N2 trust) in
/-- The scan of the neighbors finds one that raises a count, if there is one. -/
lemma foldl_better (l : List NeighborTuple) (best : Best) :
    (∀ nb, (l.foldl (x.better N2 trust) best).node = some nb → best.node = some nb ∨
      nb ∈ l ∧ nb.neighborMainAddr ∉ x.redundantMprSet ∧ x.covered N2 nb ≠ 0) ∧
    ((l.foldl (x.better N2 trust) best).node = none → best.node = none ∧ (best.covered = 0 →
      ∀ nb ∈ l, nb.neighborMainAddr ∉ x.redundantMprSet → x.covered N2 nb = 0)) := by
  induction l generalizing best with
  | nil => exact ⟨fun nb h => Or.inl h, fun h => ⟨h, fun _ nb hnb => absurd hnb List.not_mem_nil⟩⟩
  | cons nb l ih =>
    rw [List.foldl_cons]
    obtain ⟨hsome, hnone⟩ := ih (x.better N2 trust best nb)
    -- What one step of the scan does.
    have hstep : x.better N2 trust best nb = best ∧
        (nb.neighborMainAddr ∉ x.redundantMprSet → best.covered = 0 → x.covered N2 nb = 0) ∨
        (x.better N2 trust best nb).node = some nb ∧
          nb.neighborMainAddr ∉ x.redundantMprSet ∧ x.covered N2 nb ≠ 0 := by
      rw [better]
      split
      · next hmem => exact Or.inl ⟨rfl, fun hnot => absurd hmem hnot⟩
      · next hmem =>
        dsimp only
        split
        · next hzero => exact Or.inl ⟨rfl, fun _ _ => hzero⟩
        · next hzero =>
          split
          · exact Or.inr ⟨rfl, hmem, hzero⟩
          · next hworse =>
            refine Or.inl ⟨rfl, fun _ hbest => ?_⟩
            push Not at hworse
            omega
    constructor
    · intro nb' hnb'
      rcases hsome nb' hnb' with hbest | ⟨hmem, hnew⟩
      · rcases hstep with ⟨hsame, -⟩ | ⟨hchosen, hnew⟩
        · rw [hsame] at hbest
          exact Or.inl hbest
        · rw [hchosen] at hbest
          rw [← Option.some.inj hbest]
          exact Or.inr ⟨List.mem_cons_self, hnew⟩
      · exact Or.inr ⟨List.mem_cons_of_mem nb hmem, hnew⟩
    · intro hend
      obtain ⟨hnode, hrest⟩ := hnone hend
      rcases hstep with ⟨hsame, huseless⟩ | ⟨hchosen, -⟩
      · rw [hsame] at hnode hrest
        refine ⟨hnode, fun hbest nb' hnb' => ?_⟩
        rcases List.mem_cons.mp hnb' with rfl | hnb'
        · exact fun hnot => huseless hnot hbest
        · exact hrest hbest nb' hnb'
      · -- Whoever has been found is not forgotten.
        rw [hchosen] at hnode
        cases hnode

variable (N N2 trust x) in
/-- A round selects another neighbor that reaches something, or breaks off. -/
lemma round_cases :
    (∃ nb ∈ N, nb.neighborMainAddr ∉ x.redundantMprSet ∧ x.covered N2 nb ≠ 0 ∧
      round N N2 trust x = x.insert N2 nb.neighborMainAddr) ∨
    (∀ nb ∈ N, nb.neighborMainAddr ∉ x.redundantMprSet → x.covered N2 nb = 0) ∧
      round N N2 trust x = { x with stuck := true } := by
  obtain ⟨hsome, hnone⟩ := foldl_better N2 trust x N {}
  rw [round]
  split
  · next nb hnb =>
    rcases hsome nb hnb with hbest | ⟨hmem, hnew, hcovered⟩
    · cases hbest
    · exact Or.inl ⟨nb, hmem, hnew, hcovered, rfl⟩
  · next hend => exact Or.inr ⟨(hnone hend).2 rfl, rfl⟩

lemma Counting.round (h : Counting N N2 x) (hgoes : goesOn N2 x = true) :
    Counting N N2 (round N N2 trust x) := by
  rw [goesOn, Bool.and_eq_true, Bool.not_eq_true'] at hgoes
  rcases round_cases N N2 trust x with
    ⟨nb, hnb, hnew, hcovered, heq⟩ | ⟨hnobody, heq⟩
  · rw [heq]
    refine h.insert hgoes.1 ⟨nb, hnb, rfl, Or.inr ?_⟩ hnew
    obtain ⟨t, ht, hcounts⟩ := List.countP_pos_iff.mp (Nat.pos_of_ne_zero hcovered)
    rw [Bool.and_eq_true] at hcounts
    exact ⟨t, ht, beq_iff_eq.mp hcounts.1⟩
  · rw [heq]
    exact ⟨h.justified, h.coverage, fun _ => hnobody⟩

/-- The number of rounds that are left: one for every neighbor that is not selected, and one to
notice that nobody is. -/
def left (N : List NeighborTuple) (x : RedundantLoop) : ℕ :=
  if x.stuck then 0
  else ((N.map NeighborTuple.neighborMainAddr).toFinset \ x.redundantMprSet).card + 1

/-- Every round leaves fewer. -/
lemma left_round_lt (hgoes : goesOn N2 x = true) :
    left N (RedundantLoop.round N N2 trust x) < left N x := by
  rw [goesOn, Bool.and_eq_true, Bool.not_eq_true'] at hgoes
  have hleft : left N x =
      ((N.map NeighborTuple.neighborMainAddr).toFinset \ x.redundantMprSet).card + 1 := by
    rw [left, hgoes.1]
    rfl
  rcases round_cases N N2 trust x with ⟨nb, hnb, hnew, -, heq⟩ | ⟨-, heq⟩
  · have hfewer : left N (x.insert N2 nb.neighborMainAddr) =
        ((N.map NeighborTuple.neighborMainAddr).toFinset \
          Insert.insert nb.neighborMainAddr x.redundantMprSet).card + 1 := by
      have hsame : (x.insert N2 nb.neighborMainAddr).stuck = false := hgoes.1
      rw [left, hsame]
      rfl
    rw [heq, hleft, hfewer, Nat.add_lt_add_iff_right]
    apply Finset.card_lt_card
    rw [Finset.ssubset_iff_of_subset
      (Finset.sdiff_subset_sdiff (Finset.Subset.refl _) (Finset.subset_insert _ _))]
    refine ⟨nb.neighborMainAddr, ?_, ?_⟩
    · rw [Finset.mem_sdiff, List.mem_toFinset]
      exact ⟨List.mem_map_of_mem hnb, hnew⟩
    · rw [Finset.mem_sdiff]
      exact fun h => h.2 (Finset.mem_insert_self _ _)
  · rw [heq, hleft]
    exact Nat.succ_pos _

end RedundantLoop

/-! ### The loop -/

/-- The loop as `redundantMprSet` runs it. -/
def redundantLoop (N : List NeighborTuple) (N2 : List TwoHopNeighborTuple)
    (trust : Ipv4Address → ℚ) : RedundantLoop :=
  whileLoop (RedundantLoop.goesOn N2) (RedundantLoop.round N N2 trust) (N.length + 1)
    (seedAlways N N2)

variable (N2 trust) in
lemma redundantLoop_spec (hN : (N.map NeighborTuple.neighborMainAddr).Nodup) :
    RedundantLoop.goesOn N2 (redundantLoop N N2 trust) = false ∧
      (redundantLoop N N2 trust).Counting N N2 := by
  obtain ⟨hseed, hgoes⟩ := RedundantLoop.counting_seedAlways N2 hN
  constructor
  · refine whileLoop_exit (fun _ => True) (RedundantLoop.left N)
      (fun x _ hgoes => ⟨trivial, RedundantLoop.left_round_lt hgoes⟩) trivial ?_
    rw [RedundantLoop.left, hgoes, if_neg Bool.false_ne_true, Nat.add_le_add_iff_right]
    calc ((N.map NeighborTuple.neighborMainAddr).toFinset \ _).card
        ≤ (N.map NeighborTuple.neighborMainAddr).toFinset.card :=
          Finset.card_le_card Finset.sdiff_subset
      _ ≤ N.length := by
          rw [← List.length_map NeighborTuple.neighborMainAddr]
          exact List.toFinset_card_le _
  · exact whileLoop_inv _ (fun x hx hgoes => hx.round hgoes) _ hseed

variable (trust) in
/-- A 2-hop neighbor is covered twice, or as often as it can be. -/
lemma min_le_card_redundantMprSet (hN : (N.map NeighborTuple.neighborMainAddr).Nodup)
    (hN2 : (N2.map fun t => (t.neighborMainAddr, t.twoHopNeighborAddr)).Nodup)
    (hproviders : ∀ t ∈ N2, ∃ nb ∈ N, nb.neighborMainAddr = t.neighborMainAddr)
    {t : TwoHopNeighborTuple} (ht : t ∈ N2) :
    min redundancy (providersOf N2 neighborMainAddr twoHopNeighborAddr t.twoHopNeighborAddr).card ≤
      (redundantMprSet N N2 trust ∩
        providersOf N2 neighborMainAddr twoHopNeighborAddr t.twoHopNeighborAddr).card := by
  obtain ⟨hend, hcounting⟩ := redundantLoop_spec N2 trust hN
  refine min_card_le_coverage hN2 fun hlow a ha => ?_
  -- The loop has ended with this counter low, so it has broken off.
  have hlow' : (redundantLoop N N2 trust).coverage t.twoHopNeighborAddr < redundancy := by
    rw [hcounting.coverage]
    exact hlow
  have hstuck : (redundantLoop N N2 trust).stuck = true := by
    rw [RedundantLoop.goesOn, Bool.and_eq_false_iff, Bool.not_eq_false'] at hend
    rcases hend with hstuck | hall
    · exact hstuck
    · rw [List.any_eq_false] at hall
      exact absurd (decide_eq_true hlow') (hall t ht)
  -- Then no neighbor that announces it is left out.
  obtain ⟨t', ht', haddr, rfl⟩ := mem_providersOf.mp ha
  obtain ⟨nb, hnb, hmain⟩ := hproviders t' ht'
  by_contra hnot
  have hzero := hcounting.stuck hstuck nb hnb (by rwa [hmain])
  rw [RedundantLoop.covered, List.countP_eq_zero] at hzero
  refine hzero t' ht' ?_
  rw [Bool.and_eq_true, beq_iff_eq, decide_eq_true_eq, haddr]
  exact ⟨hmain.symm, hlow'⟩

end Loop

/-! ### The neighbors that announce a 2-hop neighbor -/

/-- A tuple of the 2-hop neighbor set. -/
def announces (s : OlsrState) (m a : Ipv4Address) : Bool :=
  s.twoHopNeighborSet.any fun t => t.neighborMainAddr == m && t.twoHopNeighborAddr == a

/-- The willing symmetric neighbors that announce an address. -/
def willingAnnouncers (s : OlsrState) (a : Ipv4Address) : List NeighborTuple :=
  (N s).filter fun nb =>
    !(nb.willingness == Willingness.never) && announces s nb.neighborMainAddr a

section Announcers

variable {s : OlsrState} {mainAddress : Ipv4Address}

lemma announces_iff {m a : Ipv4Address} : announces s m a = true ↔
    ∃ t ∈ s.twoHopNeighborSet, t.neighborMainAddr = m ∧ t.twoHopNeighborAddr = a := by
  simp [announces]

lemma nodup_N (hneighbors : (s.neighborSet.map NeighborTuple.neighborMainAddr).Nodup) :
    ((N s).map NeighborTuple.neighborMainAddr).Nodup :=
  hneighbors.sublist (List.filter_sublist.map _)

/-- The tuples to be covered, where no neighbor comes twice. -/
lemma mem_initialN2_iff (hN : ((N s).map NeighborTuple.neighborMainAddr).Nodup)
    {t : TwoHopNeighborTuple} : t ∈ initialN2 mainAddress s ↔ t ∈ s.twoHopNeighborSet ∧
      (∃ nb ∈ N s, nb.neighborMainAddr = t.neighborMainAddr ∧
        nb.willingness ≠ Willingness.never) ∧
      t.twoHopNeighborAddr ≠ mainAddress ∧
      ∀ nb ∈ N s, nb.neighborMainAddr ≠ t.twoHopNeighborAddr := by
  constructor
  · intro ht
    obtain ⟨hmem, hwilling⟩ := mem_initialN2 ht
    simp only [initialN2, List.mem_filter, Bool.and_eq_true] at ht
    obtain ⟨-, ⟨hself, -⟩, hneighbor⟩ := ht
    exact ⟨hmem, hwilling, by simpa using hself, by simpa using hneighbor⟩
  · rintro ⟨hmem, ⟨nb, hnb, hmain, hwilling⟩, hself, hneighbor⟩
    have hfind : (N s).find? (fun neigh => neigh.neighborMainAddr == t.neighborMainAddr) =
        some nb := by
      cases hfind : (N s).find? fun neigh => neigh.neighborMainAddr == t.neighborMainAddr with
      | none =>
        have hnot := List.find?_eq_none.mp hfind nb hnb
        exact absurd (beq_iff_eq.mpr hmain) hnot
      | some nb' =>
        have hmain' : nb'.neighborMainAddr = t.neighborMainAddr := by
          simpa using List.find?_some hfind
        rw [List.inj_on_of_nodup_map hN (List.mem_of_find?_eq_some hfind) hnb
          (hmain'.trans hmain.symm)]
    simp only [initialN2, List.mem_filter, Bool.and_eq_true, hfind]
    exact ⟨hmem, ⟨by simpa using hself, by simpa using hwilling⟩, by simpa using hneighbor⟩

/-- All the willing announcers of a 2-hop neighbor have tuples to be covered. -/
lemma providersOf_initialN2 (hN : ((N s).map NeighborTuple.neighborMainAddr).Nodup)
    {t : TwoHopNeighborTuple} (ht : t ∈ initialN2 mainAddress s) :
    providersOf (initialN2 mainAddress s) neighborMainAddr twoHopNeighborAddr
        t.twoHopNeighborAddr =
      ((willingAnnouncers s t.twoHopNeighborAddr).map NeighborTuple.neighborMainAddr).toFinset := by
  obtain ⟨-, -, hself, hneighbor⟩ := (mem_initialN2_iff hN).mp ht
  ext a
  rw [mem_providersOf, List.mem_toFinset, List.mem_map]
  constructor
  · rintro ⟨t', ht', haddr, rfl⟩
    obtain ⟨hmem, ⟨nb, hnb, hmain, hwilling⟩, -⟩ := (mem_initialN2_iff hN).mp ht'
    refine ⟨nb, ?_, hmain⟩
    rw [willingAnnouncers, List.mem_filter, Bool.and_eq_true, announces_iff]
    exact ⟨hnb, by simpa using hwilling, t', hmem, hmain.symm, haddr⟩
  · rintro ⟨nb, hnb, rfl⟩
    rw [willingAnnouncers, List.mem_filter, Bool.and_eq_true, announces_iff] at hnb
    obtain ⟨hnb, hwilling, t', ht', hmain, haddr⟩ := hnb
    refine ⟨t', (mem_initialN2_iff hN).mpr ⟨ht', ⟨nb, hnb, hmain.symm, by simpa using hwilling⟩,
      ?_, ?_⟩, haddr, hmain⟩
    · rwa [haddr]
    · rwa [haddr]

end Announcers

end Mpr

/-! ### The node -/

namespace Node

open Mpr

variable {n : Node OlsrDefenseFpnt}

/-- With trust routing nobody is left out. -/
lemma fpntMprSet_of_isTrustRoutingEnabled (htrust : n.isTrustRoutingEnabled = true) :
    ∃ trust, n.getNodeTrust = some trust ∧ n.fpntMprSet true =
      redundantMprSet (N n.state) (initialN2 n.mainAddress n.state) trust := by
  have hnobody : n.fpntExcluded = fun _ => false := by
    funext a
    rw [fpntExcluded, htrust, Bool.not_true, Bool.and_false]
  have hN : NWithout n.state (fun _ => false) = N n.state :=
    List.filter_eq_self.mpr fun _ _ => rfl
  have hN2 : N2Without n.mainAddress n.state (fun _ => false) =
      initialN2 n.mainAddress n.state := by
    simp only [N2Without, hN, Bool.not_false, Bool.true_and]
    rfl
  cases hd : n.getNodeTrust with
  | none =>
    rw [getNodeTrust, Option.map_eq_none_iff] at hd
    rw [isTrustRoutingEnabled, hd] at htrust
    cases htrust
  | some trust =>
    refine ⟨trust, rfl, ?_⟩
    rw [fpntMprSet, hd, htrust, hnobody, hN, hN2]
    rfl

/-- **Redundant coverage.**  The loop ends, selects nobody without reason, and covers each 2-hop
neighbor twice, or by every willing neighbor that announces it. -/
theorem redundant_coverage (n : Node OlsrDefenseFpnt) (htrust : n.isTrustRoutingEnabled = true)
    (hneighbors : (n.state.neighborSet.map NeighborTuple.neighborMainAddr).Nodup)
    (htwoHop : (n.state.twoHopNeighborSet.map fun t =>
      (t.neighborMainAddr, t.twoHopNeighborAddr)).Nodup) :
    (∃ trust, n.getNodeTrust = some trust ∧
      RedundantLoop.goesOn (initialN2 n.mainAddress n.state)
        (redundantLoop (N n.state) (initialN2 n.mainAddress n.state) trust) = false ∧
      n.fpntMprSet true = (redundantLoop (N n.state) (initialN2 n.mainAddress n.state)
        trust).redundantMprSet) ∧
    (∀ a ∈ n.fpntMprSet true, Justified (N n.state) (initialN2 n.mainAddress n.state) a) ∧
    ∀ t ∈ initialN2 n.mainAddress n.state,
      min 2 (willingAnnouncers n.state t.twoHopNeighborAddr).length ≤
        ((n.fpntMprSet true).filter fun m => announces n.state m t.twoHopNeighborAddr).card := by
  have hN := nodup_N hneighbors
  have hN2 : ((initialN2 n.mainAddress n.state).map fun t =>
      (t.neighborMainAddr, t.twoHopNeighborAddr)).Nodup :=
    htwoHop.sublist (List.filter_sublist.map _)
  obtain ⟨trust, hsome, heq⟩ := fpntMprSet_of_isTrustRoutingEnabled htrust
  obtain ⟨hend, hcounting⟩ :=
    redundantLoop_spec (initialN2 n.mainAddress n.state) trust hN
  refine ⟨⟨trust, hsome, hend, heq⟩, ?_, fun t ht => ?_⟩
  · rw [heq]
    exact hcounting.justified
  · have hcovered := min_le_card_redundantMprSet trust hN hN2 (fun t ht => by
      obtain ⟨-, ⟨nb, hnb, hmain, -⟩, -⟩ := (mem_initialN2_iff hN).mp ht
      exact ⟨nb, hnb, hmain⟩) ht
    have hnodup : ((willingAnnouncers n.state t.twoHopNeighborAddr).map
        NeighborTuple.neighborMainAddr).Nodup := hN.sublist (List.filter_sublist.map _)
    have hlength : (Lib.providersOf (initialN2 n.mainAddress n.state)
        TwoHopNeighborTuple.neighborMainAddr TwoHopNeighborTuple.twoHopNeighborAddr
          t.twoHopNeighborAddr).card =
        (willingAnnouncers n.state t.twoHopNeighborAddr).length := by
      rw [providersOf_initialN2 hN ht, List.toFinset_card_of_nodup hnodup, List.length_map]
    rw [hlength, ← heq] at hcovered
    refine hcovered.trans (Finset.card_le_card fun m hm => ?_)
    obtain ⟨hmpr, hprovider⟩ := Finset.mem_inter.mp hm
    obtain ⟨t', ht', haddr, rfl⟩ := Lib.mem_providersOf.mp hprovider
    rw [Finset.mem_filter, announces_iff]
    exact ⟨hmpr, t', ((mem_initialN2_iff hN).mp ht').1, rfl, haddr⟩

/-- Three neighbors announce the node 9. -/
def threeAnnouncers : Node OlsrDefenseFpnt where
  mainAddress := 1
  interfaces := []
  defenseStrategy := some {}
  state :=
    { neighborSet := [⟨2, .sym, .default⟩, ⟨3, .sym, .always⟩, ⟨4, .sym, .default⟩]
      twoHopNeighborSet := [⟨2, 9, 0⟩, ⟨3, 9, 0⟩, ⟨4, 9, 0⟩] }

theorem threeAnnouncers_redundant_coverage :
    2 ≤ ((threeAnnouncers.fpntMprSet true).filter fun m => announces threeAnnouncers.state m 9).card :=
  (redundant_coverage threeAnnouncers rfl (by decide) (by decide)).2.2 ⟨2, 9, 0⟩ (by decide)

end Node

end ManetOlsr
