/-
The choice of the greedy rounds (step 4 of `MprComputation`).

A round elects the first symmetric neighbor of the highest willingness and, among these, of the largest
number of 2-hop nodes that are not covered yet.  `Degree`, which should break the ties that are left,
is zero for every neighbor, since it counts the tuples whose neighbor is not in the neighbor set.
-/
import ManetOlsr.Properties.MprCoverage
import Mathlib.Data.Prod.Lex

namespace ManetOlsr

namespace Mpr

open Lib

section Ranking

variable (mainAddress : Ipv4Address) (s : OlsrState) (mprSet : Finset Ipv4Address)

/-- An elected neighbor reaches the 2-hop node. -/
def covered (a : Ipv4Address) : Bool :=
  (initialN2 mainAddress s).any fun t =>
    t.twoHopNeighborAddr == a && decide (t.neighborMainAddr ∈ mprSet)

/-- The 2-hop nodes that a neighbor reaches and that are not covered. -/
def reach (y : NeighborTuple) : Finset Ipv4Address :=
  (((initialN2 mainAddress s).filter fun t => t.neighborMainAddr == y.neighborMainAddr &&
    !covered mainAddress s mprSet t.twoHopNeighborAddr).map
      TwoHopNeighborTuple.twoHopNeighborAddr).toFinset

/-- `D(y)` is the number of these: the nodes that a neighbor announces, other than this node and its
symmetric neighbors. -/
def announcedBeyond (y : NeighborTuple) : Finset Ipv4Address :=
  ((s.twoHopNeighborSet.filter fun t => t.neighborMainAddr == y.neighborMainAddr &&
    !(t.twoHopNeighborAddr == mainAddress) &&
    !(N s).any fun nb => nb.neighborMainAddr == t.twoHopNeighborAddr).map
      TwoHopNeighborTuple.twoHopNeighborAddr).toFinset

/-- The first two criteria. -/
def score (y : NeighborTuple) : ℕ ×ₗ ℕ :=
  toLex (y.willingness.toNat, (reach mainAddress s mprSet y).card)

/-- The three criteria, in the order of their weight. -/
def rank (y : NeighborTuple) : ℕ ×ₗ ℕ ×ₗ ℕ :=
  toLex (y.willingness.toNat,
    toLex ((reach mainAddress s mprSet y).card, (announcedBeyond mainAddress s y).card))

/-- Of the symmetric neighbors that reach a node which is not covered, the neighbor ranks highest. -/
structure IsGreedyChoice (y : NeighborTuple) : Prop where
  mem : y ∈ N s
  reaches : reach mainAddress s mprSet y ≠ ∅
  greatest : ∀ z ∈ N s, reach mainAddress s mprSet z ≠ ∅ →
    rank mainAddress s mprSet z ≤ rank mainAddress s mprSet y

/-- Nobody beats the neighbor by the first two criteria. -/
def leads (y : NeighborTuple) : Bool :=
  decide (reach mainAddress s mprSet y ≠ ∅) && (N s).all fun z =>
    decide (reach mainAddress s mprSet z ≠ ∅ → score mainAddress s mprSet z ≤ score mainAddress s mprSet y)

end Ranking

variable {mainAddress : Ipv4Address} {s : OlsrState} {mprSet : Finset Ipv4Address}
  {N2 : List TwoHopNeighborTuple} {p : Progress} {y z : NeighborTuple}

lemma leads_iff : leads mainAddress s mprSet y = true ↔ reach mainAddress s mprSet y ≠ ∅ ∧
    ∀ z ∈ N s, reach mainAddress s mprSet z ≠ ∅ →
      score mainAddress s mprSet z ≤ score mainAddress s mprSet y := by
  rw [leads, Bool.and_eq_true, decide_eq_true_eq, List.all_eq_true]
  simp only [decide_eq_true_eq]

/-- The third criterion decides where the first two do not. -/
lemma rank_le_iff : rank mainAddress s mprSet z ≤ rank mainAddress s mprSet y ↔
    score mainAddress s mprSet z < score mainAddress s mprSet y ∨
    score mainAddress s mprSet z = score mainAddress s mprSet y ∧
      (announcedBeyond mainAddress s z).card ≤ (announcedBeyond mainAddress s y).card := by
  simp only [rank, score, Prod.Lex.toLex_le_toLex, Prod.Lex.toLex_lt_toLex, toLex_inj,
    Prod.mk.injEq]
  omega

/-- A neighbor that leads ranks highest if it leads by the third criterion too. -/
lemma isGreedyChoice_iff (hy : y ∈ N s) (hleads : leads mainAddress s mprSet y = true) :
    IsGreedyChoice mainAddress s mprSet y ↔ ∀ z ∈ N s, leads mainAddress s mprSet z = true →
      (announcedBeyond mainAddress s z).card ≤ (announcedBeyond mainAddress s y).card := by
  obtain ⟨hreach, htop⟩ := leads_iff.mp hleads
  constructor
  · intro h z hz hzleads
    obtain ⟨hzreach, hztop⟩ := leads_iff.mp hzleads
    rcases rank_le_iff.mp (h.greatest z hz hzreach) with hlt | ⟨-, hle⟩
    · exact absurd (hztop y hy hreach) hlt.not_ge
    · exact hle
  · intro h
    refine ⟨hy, hreach, fun z hz hzreach => rank_le_iff.mpr ?_⟩
    rcases (htop z hz hzreach).lt_or_eq with hlt | heq
    · exact Or.inl hlt
    · refine Or.inr ⟨heq, h z hz (leads_iff.mpr ⟨hzreach, ?_⟩)⟩
      rwa [heq]

/-! ### The tuples that are left -/

/-- The tuples that are left are those of the 2-hop nodes that no elected neighbor reaches. -/
structure Remaining (N2 : List TwoHopNeighborTuple) (p : Progress) : Prop where
  sublist : p.N2.Sublist N2
  left_iff : ∀ t ∈ N2, t ∈ p.N2 ↔ ¬ CoveredBy N2 p.mprSet t

/-- More neighbors are elected, and what they reach is erased. -/
lemma Remaining.elect (h : Remaining N2 p) {q : Progress} (elected : Finset Ipv4Address)
    (hmpr : ∀ a, a ∈ q.mprSet ↔ a ∈ p.mprSet ∨ a ∈ elected) (hsub : q.N2.Sublist p.N2)
    (hleft : ∀ t ∈ p.N2, t ∈ q.N2 ↔ ∀ t' ∈ p.N2, t'.neighborMainAddr ∈ elected →
      t'.twoHopNeighborAddr ≠ t.twoHopNeighborAddr) : Remaining N2 q where
  sublist := hsub.trans h.sublist
  left_iff t ht := by
    constructor
    · rintro hq ⟨t', ht', haddr, hmem⟩
      have hp := hsub.subset hq
      have hnot := (h.left_iff t ht).mp hp
      rcases (hmpr _).mp hmem with hold | hnew
      · exact hnot ⟨t', ht', haddr, hold⟩
      · -- The tuples of one 2-hop node go together.
        have hp' : t' ∈ p.N2 := by
          rw [h.left_iff t' ht']
          rintro ⟨t'', ht'', haddr'', hmem''⟩
          exact hnot ⟨t'', ht'', haddr''.trans haddr, hmem''⟩
        exact (hleft t hp).mp hq t' hp' hnew haddr
    · intro hnot
      have hp : t ∈ p.N2 := by
        rw [h.left_iff t ht]
        rintro ⟨t', ht', haddr, hmem⟩
        exact hnot ⟨t', ht', haddr, (hmpr _).mpr (Or.inl hmem)⟩
      rw [hleft t hp]
      intro t' ht' hnew haddr
      exact hnot ⟨t', h.sublist.subset ht', haddr, (hmpr _).mpr (Or.inr hnew)⟩

lemma Remaining.select (h : Remaining N2 p) (a : Ipv4Address) : Remaining N2 (p.select a) := by
  refine h.elect {a} (fun b => ?_) List.filter_sublist fun t ht => ?_
  · rw [Progress.select, Finset.mem_insert, Finset.mem_singleton, or_comm]
  · simp only [Progress.select, mem_coverTwoHopNeighbors, ht, true_and, Finset.mem_singleton]

lemma Remaining.selectAlways (h : Remaining N2 p) (l : List NeighborTuple) :
    Remaining N2 (selectAlways l p) := by
  induction l generalizing p with
  | nil => exact h
  | cons nb l ih =>
    rw [Mpr.selectAlways, List.foldl_cons]
    refine ih ?_
    split
    · exact h.select nb.neighborMainAddr
    · exact h

lemma Remaining.selectSoleProviders (h : Remaining N2 p) : Remaining N2 (selectSoleProviders p) := by
  refine h.elect _ (fun b => Finset.mem_union) List.filter_sublist fun t ht => ?_
  simp only [Mpr.selectSoleProviders, List.mem_filter, ht, true_and, Bool.not_eq_true',
    ← Bool.not_eq_true, List.contains_iff_mem, List.mem_map, List.mem_toFinset, not_exists, not_and,
    and_imp, forall_exists_index]

lemma remaining_beforeGreedy :
    Remaining (initialN2 mainAddress s) (beforeGreedy mainAddress s) := by
  have hinitial : Remaining (initialN2 mainAddress s) ⟨∅, initialN2 mainAddress s⟩ := by
    refine ⟨List.Sublist.refl _, fun t ht => iff_of_true ht ?_⟩
    rintro ⟨t', -, -, hmem⟩
    exact Finset.notMem_empty _ hmem
  exact (hinitial.selectAlways (N s)).selectSoleProviders

lemma Remaining.greedyRound (h : Remaining N2 p) (s : OlsrState) (l : List NeighborTuple) :
    Remaining N2 (greedyRound s l p) := by
  rw [Mpr.greedyRound]
  split
  · exact h.select _
  · exact h

/-- Without duplicate keys, the tuples that are left count the nodes that are not covered. -/
lemma Remaining.reachability_eq (h : Remaining (initialN2 mainAddress s) p)
    (htwoHop : (s.twoHopNeighborSet.map TwoHopNeighborTuple.key).Nodup) (y : NeighborTuple) :
    reachability p.N2 y = (reach mainAddress s p.mprSet y).card := by
  have hkeys : ((p.N2.filter fun t => y.neighborMainAddr == t.neighborMainAddr).map
      TwoHopNeighborTuple.twoHopNeighborAddr).Nodup := by
    have hsub : (p.N2.filter fun t => y.neighborMainAddr == t.neighborMainAddr).Sublist
        s.twoHopNeighborSet := (List.filter_sublist.trans h.sublist).trans List.filter_sublist
    refine List.Nodup.map_on ?_ (List.Nodup.of_map _ (htwoHop.sublist (hsub.map _)))
    intro t ht t' ht' heq
    have hmain := beq_iff_eq.mp (List.mem_filter.mp ht).2
    have hmain' := beq_iff_eq.mp (List.mem_filter.mp ht').2
    exact List.inj_on_of_nodup_map htwoHop (hsub.subset ht) (hsub.subset ht')
      (Prod.ext (hmain.symm.trans hmain') heq)
  have hreach : reach mainAddress s p.mprSet y =
      ((p.N2.filter fun t => y.neighborMainAddr == t.neighborMainAddr).map
        TwoHopNeighborTuple.twoHopNeighborAddr).toFinset := by
    have hleft : ∀ t, t ∈ p.N2 ↔ t ∈ initialN2 mainAddress s ∧
        covered mainAddress s p.mprSet t.twoHopNeighborAddr = false := by
      intro t
      have hcovered : covered mainAddress s p.mprSet t.twoHopNeighborAddr = true ↔
          CoveredBy (initialN2 mainAddress s) p.mprSet t := by
        simp only [covered, List.any_eq_true, Bool.and_eq_true, beq_iff_eq, decide_eq_true_eq,
          CoveredBy]
      rw [← Bool.not_eq_true, hcovered]
      constructor
      · intro ht
        have hmem := h.sublist.subset ht
        exact ⟨hmem, (h.left_iff t hmem).mp ht⟩
      · rintro ⟨hmem, hnot⟩
        exact (h.left_iff t hmem).mpr hnot
    ext a
    simp only [reach, List.mem_toFinset, List.mem_map, List.mem_filter, Bool.and_eq_true,
      Bool.not_eq_true', beq_iff_eq, hleft, and_assoc]
    refine exists_congr fun t => and_congr_right fun _ => ?_
    constructor
    · rintro ⟨hmain, hnot, haddr⟩
      exact ⟨hnot, hmain.symm, haddr⟩
    · rintro ⟨hnot, hmain, haddr⟩
      exact ⟨hmain.symm, hnot, haddr⟩
  rw [hreach, List.toFinset_card_of_nodup hkeys, List.length_map, reachability,
    List.countP_eq_length_filter]

/-! ### The choice of a round -/

/-- No neighbor has a degree. -/
lemma degree_eq_zero (hy : y ∈ N s) : degree s y = 0 := by
  rw [degree, List.countP_eq_zero]
  intro t _ hcounts
  rw [Bool.and_eq_true, beq_iff_eq, Option.isNone_iff_eq_none] at hcounts
  have hfind : s.neighborSet.find? _ = none := hcounts.2
  have hnot := List.find?_eq_none.mp hfind y (mem_N.mp hy).1
  exact hnot (beq_iff_eq.mpr hcounts.1.symm)

/-- Among neighbors, the comparison is that of the first two criteria. -/
lemma isBetter_iff (hreach : ∀ y, reachability N2 y = (reach mainAddress s mprSet y).card)
    (hy : y ∈ N s) (hz : z ∈ N s) :
    isBetter s N2 y z = true ↔ score mainAddress s mprSet z < score mainAddress s mprSet y := by
  rw [isBetter, degree_eq_zero hy, degree_eq_zero hz, hreach, hreach, score, score,
    Prod.Lex.toLex_lt_toLex]
  simp only [gt_iff_lt, UInt8.lt_iff_toNat_lt, ← UInt8.toNat_inj, lt_irrefl, decide_false]
  split_ifs <;> simp <;> omega

/-- A round elects the first neighbor that leads by the first two criteria. -/
lemma Remaining.chooseMax_eq (h : Remaining (initialN2 mainAddress s) p)
    (htwoHop : (s.twoHopNeighborSet.map TwoHopNeighborTuple.key).Nodup) :
    chooseMax s (N s) p.N2 = (N s).find? (leads mainAddress s p.mprSet) := by
  have hreach := h.reachability_eq htwoHop
  have hne : ∀ y, reachability p.N2 y ≠ 0 ↔ reach mainAddress s p.mprSet y ≠ ∅ := by
    intro y
    rw [hreach, ne_eq, Finset.card_eq_zero]
  have hbetter : ∀ a, a ∈ N s → ∀ b, b ∈ N s → (isBetter s p.N2 a b = true ↔
      score mainAddress s p.mprSet b < score mainAddress s p.mprSet a) :=
    fun a ha b hb => isBetter_iff hreach ha hb
  rw [chooseMax, select_eq_find? hbetter fun a ha => (mem_candidates.mp ha).1]
  have hleads : ∀ y ∈ candidates (N s) p.N2, (decide (∀ z ∈ candidates (N s) p.N2,
      score mainAddress s p.mprSet z ≤ score mainAddress s p.mprSet y)) =
        leads mainAddress s p.mprSet y := by
    intro y hy
    have hyreach := (hne y).mp (mem_candidates.mp hy).2
    rw [Bool.eq_iff_iff, decide_eq_true_eq, leads_iff, and_iff_right hyreach]
    simp only [mem_candidates, and_imp, hne]
  rw [List.find?_congr hleads, candidates]
  refine find?_buckets (fun a ha hal b hb hbl => ?_) fun a ha hal => ?_
  · obtain ⟨hareach, hatop⟩ := leads_iff.mp hal
    obtain ⟨hbreach, hbtop⟩ := leads_iff.mp hbl
    have heq := (hbtop a ha hareach).antisymm (hatop b hb hbreach)
    rw [hreach, hreach]
    exact congrArg (fun x => (ofLex x).2) heq
  · have hnonzero := (hne a).mpr (leads_iff.mp hal).1
    simp only [List.mem_filter, List.mem_insertionSort, List.mem_dedup, List.mem_map,
      Bool.not_eq_true', beq_eq_false_iff_ne]
    exact ⟨⟨a, ha, rfl⟩, hnonzero⟩

/-- Every neighbor that step 4 elects ranks highest, if and only if whenever a round begins the first
of the neighbors that lead by the first two criteria leads them by the third. -/
theorem greedyChoice_iff (mainAddress : Ipv4Address) (s : OlsrState)
    (htwoHop : (s.twoHopNeighborSet.map TwoHopNeighborTuple.key).Nodup) :
    (∀ p, RoundBegins greedyCond (greedyRound s (N s)) (beforeGreedy mainAddress s) p →
      ∃ y, chooseMax s (N s) p.N2 = some y ∧ IsGreedyChoice mainAddress s p.mprSet y) ↔
    ∀ p, RoundBegins greedyCond (greedyRound s (N s)) (beforeGreedy mainAddress s) p →
      ∀ y, (N s).find? (leads mainAddress s p.mprSet) = some y →
        ∀ z ∈ N s, leads mainAddress s p.mprSet z = true →
          (announcedBeyond mainAddress s z).card ≤ (announcedBeyond mainAddress s y).card := by
  refine forall_congr' fun p => imp_congr_right fun hbegins => ?_
  have hremaining : Remaining (initialN2 mainAddress s) p :=
    hbegins.inv _ (fun q hq _ => hq.greedyRound s (N s)) remaining_beforeGreedy
  have hN2 : p.N2 ≠ [] := by
    have hcond := hbegins.cond_eq_true
    rintro hempty
    rw [greedyCond, hempty] at hcond
    exact Bool.false_ne_true hcond
  -- While a tuple is left, somebody is elected.
  obtain ⟨y, hy⟩ := Option.ne_none_iff_exists'.mp (chooseMax_ne_none hremaining.sublist.subset hN2)
  have hfind := hy
  rw [hremaining.chooseMax_eq htwoHop] at hfind
  have hchoice := isGreedyChoice_iff (List.mem_of_find?_eq_some hfind) (List.find?_some hfind)
  constructor
  · rintro ⟨y', hy', hgreedy⟩ y'' hy''
    obtain rfl : y = y' := Option.some.inj (hy.symm.trans hy')
    obtain rfl : y = y'' := Option.some.inj (hfind.symm.trans hy'')
    exact hchoice.mp hgreedy
  · intro h
    exact ⟨y, hy, hchoice.mpr (h y hfind)⟩

/-- The neighbors 2 and 3 both reach the node 5, and 3 announces the node 6 as well, which the
neighbor 4 covers. -/
def tiedRelays : OlsrState where
  neighborSet := [⟨2, .sym, .default⟩, ⟨3, .sym, .default⟩, ⟨4, .sym, .always⟩]
  twoHopNeighborSet := [⟨2, 5, 0⟩, ⟨3, 5, 0⟩, ⟨3, 6, 0⟩, ⟨4, 6, 0⟩]

theorem tiedRelays_greedyChoice_iff :
    (∀ p, RoundBegins greedyCond (greedyRound tiedRelays (N tiedRelays))
        (beforeGreedy 1 tiedRelays) p →
      ∃ y, chooseMax tiedRelays (N tiedRelays) p.N2 = some y ∧
        IsGreedyChoice 1 tiedRelays p.mprSet y) ↔
    ∀ p, RoundBegins greedyCond (greedyRound tiedRelays (N tiedRelays))
        (beforeGreedy 1 tiedRelays) p →
      ∀ y, (N tiedRelays).find? (leads 1 tiedRelays p.mprSet) = some y →
        ∀ z ∈ N tiedRelays, leads 1 tiedRelays p.mprSet z = true →
          (announcedBeyond 1 tiedRelays z).card ≤ (announcedBeyond 1 tiedRelays y).card :=
  greedyChoice_iff 1 tiedRelays (by decide)

/-- The neighbor 2 is elected, although 3 has the greater degree. -/
theorem tiedRelays_not_greedyChoice :
    ¬ ∀ p, RoundBegins greedyCond (greedyRound tiedRelays (N tiedRelays))
        (beforeGreedy 1 tiedRelays) p →
      ∃ y, chooseMax tiedRelays (N tiedRelays) p.N2 = some y ∧
        IsGreedyChoice 1 tiedRelays p.mprSet y := by
  intro h
  obtain ⟨y, hy, hgreedy⟩ := h _ (.first (by decide +kernel))
  have hsecond : chooseMax tiedRelays (N tiedRelays) (beforeGreedy 1 tiedRelays).N2 =
      some ⟨2, .sym, .default⟩ := by decide +kernel
  obtain rfl := Option.some.inj (hsecond.symm.trans hy)
  have hrank := hgreedy.greatest ⟨3, .sym, .default⟩ (by decide) (by decide +kernel)
  exact absurd hrank (by decide +kernel)

end Mpr

end ManetOlsr
