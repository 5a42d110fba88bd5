/-
The addresses that an attacker claims as neighbors.

What the scan returns is the beginning of one list, that of the different addresses known and not
excluded, in the order in which they come.
-/
import ManetOlsr.Model.SpoofTargets
import Mathlib.Data.Set.Card

namespace ManetOlsr

namespace Node

variable {D : Type} (n : Node D)

/-- An address that may be claimed: one that is known, and neither the node nor a neighbor has. -/
structure IsSpoofCandidate (a : Ipv4Address) : Prop where
  ne_main : a ≠ n.mainAddress
  not_own : ∀ i ∈ n.interfaces, a ∉ i.addresses
  not_neighbor : ∀ nei ∈ n.state.neighborSet, a ≠ nei.neighborMainAddr
  not_linked : ∀ l ∈ n.state.linkSet, a ≠ l.neighborIfaceAddr
  known : (∃ th ∈ n.state.twoHopNeighborSet, a = th.twoHopNeighborAddr) ∨
    ∃ tp ∈ n.state.topologySet, a = tp.destAddr ∨ a = tp.lastAddr

end Node

/-! ### Different addresses that are not excluded -/

section Admitted

variable (excluded : List Ipv4Address)

def admitted (l : List Ipv4Address) : List Ipv4Address :=
  (l.filter fun a => !excluded.contains a).eraseDups

variable {excluded}

lemma mem_admitted {l : List Ipv4Address} {a : Ipv4Address} :
    a ∈ admitted excluded l ↔ a ∈ l ∧ a ∉ excluded := by
  rw [admitted, List.mem_eraseDups, List.mem_filter, Bool.not_eq_true', List.contains_eq_mem,
    decide_eq_false_iff_not]

lemma admitted_concat (l : List Ipv4Address) (a : Ipv4Address) :
    admitted excluded (l ++ [a]) =
      if a ∉ excluded ∧ a ∉ admitted excluded l then admitted excluded l ++ [a]
      else admitted excluded l := by
  by_cases hex : a ∈ excluded
  · rw [if_neg fun h => h.1 hex, admitted, List.filter_append, List.filter_singleton,
      List.contains_eq_mem, decide_eq_true hex]
    exact congrArg List.eraseDups (List.append_nil _)
  · rw [admitted, List.filter_append, List.filter_singleton, List.contains_eq_mem,
      decide_eq_false hex, Bool.not_false, cond_true, List.eraseDups_append, List.removeAll,
      List.filter_singleton, ← admitted]
    have hmem : List.elem a (l.filter fun a => !excluded.contains a) =
        decide (a ∈ admitted excluded l) := by
      rw [List.elem_eq_mem, admitted]
      exact decide_eq_decide.mpr List.mem_eraseDups.symm
    by_cases hadm : a ∈ admitted excluded l
    · rw [if_neg fun h => h.2 hadm, hmem, decide_eq_true hadm]
      exact List.append_nil _
    · rw [if_pos ⟨hex, hadm⟩, hmem, decide_eq_false hadm]
      rfl

lemma nodup_admitted (l : List Ipv4Address) : (admitted excluded l).Nodup := by
  induction l using List.reverseRecOn with
  | nil => exact List.nodup_nil
  | append_singleton l a ih =>
    rw [admitted_concat]
    split
    · rename_i h
      rw [List.nodup_append]
      refine ⟨ih, List.nodup_singleton a, ?_⟩
      rintro b hb c hc rfl
      rw [List.mem_singleton] at hc
      exact h.2 (hc ▸ hb)
    · exact ih

end Admitted

/-! ### What the scan finds -/

section Scan

variable {excluded : List Ipv4Address} {k : ℕ}

/-- The scan when it has come through the addresses `l`. -/
structure SpoofScan.Scanned (excluded : List Ipv4Address) (k : ℕ) (l : List Ipv4Address)
    (s : SpoofScan) : Prop where
  result : s.result = (admitted excluded l).take k
  seen : ∀ a, a ∈ s.seen ↔ a ∈ s.result
  returned : s.returned = true ↔ k ≤ (admitted excluded l).length

namespace SpoofScan

variable {l : List Ipv4Address} {s : SpoofScan}

lemma Scanned.offer (hs : Scanned excluded k l s) (addr : Ipv4Address) :
    Scanned excluded k (l ++ [addr]) (s.offer excluded k addr) := by
  cases hret : s.returned with
  | true =>
    -- the list is long enough, and nothing is appended any more
    have hlong := hs.returned.mp hret
    have hgrown : ∃ t, admitted excluded (l ++ [addr]) = admitted excluded l ++ t := by
      rw [admitted_concat]
      split
      · exact ⟨[addr], rfl⟩
      · exact ⟨[], (List.append_nil _).symm⟩
    obtain ⟨t, ht⟩ := hgrown
    rw [SpoofScan.offer, if_pos hret]
    refine ⟨?_, hs.seen, ?_⟩
    · rw [ht, List.take_append_of_le_length hlong]
      exact hs.result
    · rw [ht, List.length_append]
      exact iff_of_true hret (by omega)
  | false =>
    have hshort : (admitted excluded l).length < k := by
      by_contra h
      rw [hs.returned.mpr (not_lt.mp h)] at hret
      cases hret
    have hresult : s.result = admitted excluded l := by
      rw [hs.result, List.take_of_length_le hshort.le]
    have hseen : ∀ a, a ∈ s.seen ↔ a ∈ admitted excluded l := fun a => by
      rw [hs.seen, hresult]
    rw [SpoofScan.offer, if_neg (Bool.eq_false_iff.mp hret)]
    by_cases hnew : addr ∉ excluded ∧ addr ∉ s.seen
    · have hadmitted : admitted excluded (l ++ [addr]) = admitted excluded l ++ [addr] := by
        rw [admitted_concat, if_pos ⟨hnew.1, fun h => hnew.2 ((hseen addr).mpr h)⟩]
      rw [if_pos hnew]
      refine ⟨?_, fun a => ?_, ?_⟩
      · rw [hadmitted, List.take_of_length_le (by rw [List.length_append]; exact hshort), hresult]
      · rw [List.mem_cons, hs.seen, List.mem_append, List.mem_singleton, or_comm]
      · rw [hadmitted, List.length_append, hresult, decide_eq_true_iff]
        exact Iff.rfl
    · have hadmitted : admitted excluded (l ++ [addr]) = admitted excluded l := by
        rw [admitted_concat, if_neg fun h => hnew ⟨h.1, fun hs' => h.2 ((hseen addr).mp hs')⟩]
      rw [if_neg hnew]
      rw [← hadmitted] at hshort
      exact ⟨by rw [hadmitted]; exact hs.result, hs.seen, by rw [hadmitted]; exact hs.returned⟩

lemma Scanned.foldl (hs : Scanned excluded k l s) (l' : List Ipv4Address) :
    Scanned excluded k (l ++ l') (l'.foldl (SpoofScan.offer excluded k) s) := by
  induction l' generalizing l s with
  | nil =>
    rw [List.append_nil]
    exact hs
  | cons addr l' ih =>
    have := ih (hs.offer addr)
    rwa [List.append_assoc, List.singleton_append] at this

variable (excluded) in
lemma scanned_nil (hk : k ≠ 0) : Scanned excluded k [] {} where
  result := List.take_nil.symm
  seen := fun _ => Iff.rfl
  returned := iff_of_false Bool.false_ne_true fun h => hk (Nat.le_zero.mp h)

end SpoofScan

end Scan

namespace Node

variable {D : Type} (n : Node D)

/-! ### The targets of a node -/

/-- The addresses that are looked at, in their order. -/
def knownAddresses : List Ipv4Address :=
  n.state.twoHopNeighborSet.map TwoHopNeighborTuple.twoHopNeighborAddr ++
    n.state.topologySet.flatMap fun t => [t.destAddr, t.lastAddr]

variable {n}

/-- The scan returns the first of the addresses that are admitted. -/
lemma scanSpoofTargets_eq (k : ℕ) :
    n.scanSpoofTargets k = (admitted n.spoofExcluded n.knownAddresses).take k := by
  rw [scanSpoofTargets]
  split
  · rename_i hk
    rw [hk, List.take_zero]
  · rename_i hk
    have hscan := (SpoofScan.scanned_nil n.spoofExcluded hk).foldl n.knownAddresses
    rw [List.nil_append, knownAddresses, List.foldl_append, List.foldl_map,
      List.foldl_flatMap] at hscan
    exact hscan.result

lemma buildSpoofTargets_eq_scan (k : ℕ) : n.buildSpoofTargets k = n.scanSpoofTargets k := by
  rw [scanSpoofTargets_eq]
  rfl

lemma mem_knownAddresses {a : Ipv4Address} : a ∈ n.knownAddresses ↔
    (∃ th ∈ n.state.twoHopNeighborSet, a = th.twoHopNeighborAddr) ∨
      ∃ tp ∈ n.state.topologySet, a = tp.destAddr ∨ a = tp.lastAddr := by
  simp only [knownAddresses, List.mem_append, List.mem_map, List.mem_flatMap, List.mem_cons,
    List.not_mem_nil, or_false, eq_comm]

lemma mem_admitted_iff_isSpoofCandidate {a : Ipv4Address} :
    a ∈ admitted n.spoofExcluded n.knownAddresses ↔ n.IsSpoofCandidate a := by
  rw [mem_admitted, mem_knownAddresses]
  constructor
  · rintro ⟨hknown, hexcluded⟩
    simp only [spoofExcluded, List.mem_cons, List.mem_append, List.mem_flatMap, List.mem_map,
      not_or] at hexcluded
    obtain ⟨hmain, ⟨hown, hneighbor⟩, hlink⟩ := hexcluded
    exact ⟨hmain, fun i hi ha => hown ⟨i, hi, ha⟩, fun nei hnei ha => hneighbor ⟨nei, hnei, ha.symm⟩,
      fun l hl ha => hlink ⟨l, hl, ha.symm⟩, hknown⟩
  · intro h
    refine ⟨h.known, ?_⟩
    simp only [spoofExcluded, List.mem_cons, List.mem_append, List.mem_flatMap, List.mem_map]
    rintro (rfl | (⟨i, hi, ha⟩ | ⟨nei, hnei, rfl⟩) | ⟨l, hl, rfl⟩)
    · exact h.ne_main rfl
    · exact h.not_own i hi ha
    · exact h.not_neighbor nei hnei rfl
    · exact h.not_linked l hl rfl

lemma ncard_isSpoofCandidate : {a | n.IsSpoofCandidate a}.ncard =
    (admitted n.spoofExcluded n.knownAddresses).length := by
  have hset : {a | n.IsSpoofCandidate a} =
      ((admitted n.spoofExcluded n.knownAddresses).toFinset : Set Ipv4Address) := by
    ext a
    rw [List.coe_toFinset]
    exact mem_admitted_iff_isSpoofCandidate.symm
  rw [hset, Set.ncard_coe_finset, List.toFinset_card_of_nodup (nodup_admitted _)]

/-! ### HELLO and TC messages -/

lemma mem_foldl_pushNew {addrs new : List Ipv4Address} {a : Ipv4Address} :
    a ∈ new.foldl pushNew addrs ↔ a ∈ addrs ∨ a ∈ new := by
  induction new generalizing addrs with
  | nil => simp only [List.foldl_nil, List.not_mem_nil, or_false]
  | cons b new ih =>
    rw [List.foldl_cons, ih, pushNew, List.mem_cons]
    split
    · rename_i h
      rw [List.contains_eq_mem, decide_eq_true_iff] at h
      constructor
      · rintro (ha | ha)
        · exact Or.inl ha
        · exact Or.inr (Or.inr ha)
      · rintro (ha | rfl | ha)
        · exact Or.inl ha
        · exact Or.inl h
        · exact Or.inr ha
    · rw [List.mem_append, List.mem_singleton, or_assoc]

section Messages

variable [OlsrDefenseStrategy D] (hmalicious : n.isMalicious = true)
  (hcount : 0 < n.spoofedLinksCount)

include hmalicious hcount

omit [OlsrDefenseStrategy D] in
lemma spoofTargets_eq_scan : n.spoofTargets = n.scanSpoofTargets n.spoofedLinksCount := by
  rw [spoofTargets, hmalicious, Bool.true_and, if_pos (decide_eq_true hcount),
    buildSpoofTargets_eq_scan]

lemma mem_helloLinkMessages_scan (hne : n.scanSpoofTargets n.spoofedLinksCount ≠ []) :
    ⟨symLinkCode, n.scanSpoofTargets n.spoofedLinksCount⟩ ∈ n.helloLinkMessages := by
  rw [helloLinkMessages, spoofTargets_eq_scan hmalicious hcount,
    if_neg (mt List.isEmpty_iff.mp hne)]
  exact List.mem_append_left _ (List.mem_append_right _ (List.mem_singleton_self _))

lemma mem_tcAddresses_scan {a : Ipv4Address} : a ∈ n.tcAddresses ↔
    (∃ m ∈ n.state.mprSelectorSet, m.mainAddr = a) ∨
      a ∈ n.scanSpoofTargets n.spoofedLinksCount := by
  rw [tcAddresses, mem_foldl_pushNew, spoofTargets_eq_scan hmalicious hcount,
    injectsFictitiousNode, hmalicious, Bool.not_true, Bool.false_and, if_neg Bool.false_ne_true,
    List.mem_map]

end Messages

/-- **The spoof targets.** -/
theorem scanSpoofTargets_spec [OlsrDefenseStrategy D] (n : Node D) (k : ℕ) :
    (n.scanSpoofTargets k).Nodup ∧ (∀ a ∈ n.scanSpoofTargets k, n.IsSpoofCandidate a) ∧
      (n.scanSpoofTargets k).length = min k {a | n.IsSpoofCandidate a}.ncard ∧
      n.scanSpoofTargets k <+: n.scanSpoofTargets (k + 1) ∧
      (n.isMalicious = true → 0 < n.spoofedLinksCount →
        (n.scanSpoofTargets n.spoofedLinksCount ≠ [] →
          ⟨symLinkCode, n.scanSpoofTargets n.spoofedLinksCount⟩ ∈ n.helloLinkMessages) ∧
        ∀ a, a ∈ n.tcAddresses ↔ (∃ m ∈ n.state.mprSelectorSet, m.mainAddr = a) ∨
          a ∈ n.scanSpoofTargets n.spoofedLinksCount) := by
  refine ⟨?_, ?_, ?_, ?_, ?_⟩
  · rw [scanSpoofTargets_eq]
    exact (nodup_admitted _).sublist (List.take_sublist _ _)
  · intro a ha
    rw [scanSpoofTargets_eq] at ha
    exact mem_admitted_iff_isSpoofCandidate.mp (List.mem_of_mem_take ha)
  · rw [scanSpoofTargets_eq, List.length_take, ncard_isSpoofCandidate]
  · rw [scanSpoofTargets_eq, scanSpoofTargets_eq]
    exact List.take_prefix_take_left (Nat.le_succ k)
  · intro hmalicious hcount
    exact ⟨mem_helloLinkMessages_scan hmalicious hcount,
      fun a => mem_tcAddresses_scan hmalicious hcount⟩

/-- An attacker that claims two neighbors.  The second one is in the middle of a tuple. -/
def liar : Node OlsrDefenseNull where
  mainAddress := 1
  interfaces := [{ address := 1 }]
  isMalicious := true
  spoofedLinksCount := 2
  state := {
    twoHopNeighborSet := [⟨2, 3, 0⟩, ⟨4, 3, 0⟩]
    topologySet := [⟨3, 2, 1, 0⟩, ⟨5, 6, 1, 0⟩]
    neighborSet := [⟨2, .sym, .default⟩] }

example : liar.scanSpoofTargets 2 = [3, 5] := by decide

theorem scanSpoofTargets_spec_liar :
    ⟨symLinkCode, liar.scanSpoofTargets liar.spoofedLinksCount⟩ ∈ liar.helloLinkMessages :=
  ((scanSpoofTargets_spec liar 2).2.2.2.2 rfl (by decide)).1 (by decide)

end Node

end ManetOlsr
