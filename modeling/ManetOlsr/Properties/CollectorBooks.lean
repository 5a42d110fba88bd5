/-
The bookkeeping of the feature collector.

Three groups of counters are kept apart: the kinds of frames, the sources of the IPv4 frames, and the
TC messages.  What has been parsed since `Reset` says what the last ones have to be.
-/
import ManetOlsr.Properties.CollectorParsing
import Mathlib.Algebra.BigOperators.Ring.Finset
import Mathlib.Algebra.BigOperators.Ring.List

namespace ManetOlsr

open Lib

/-! ### The books -/

/-- The originator and the sequence number of a TC message. -/
def tcPair (m : MessageHeader) : Option (UInt32 × UInt16) :=
  match m.body with
  | .tc _ => some (m.originatorAddress, m.messageSequenceNumber)
  | _ => none

namespace FeatureCollector

lemma toNat_tcKey (orig : UInt32) (messageSequenceNumber : UInt16) :
    (tcKey orig messageSequenceNumber).toNat =
      orig.toNat * 2 ^ 16 + messageSequenceNumber.toNat := by
  have horig := orig.toNat_lt
  have hseq := messageSequenceNumber.toNat_lt
  have hshift : (orig.toUInt64 <<< 16).toNat = orig.toNat <<< 16 := by
    rw [UInt64.toNat_shiftLeft, UInt32.toNat_toUInt64]
    refine Nat.mod_eq_of_lt ?_
    rw [Nat.shiftLeft_eq]
    show orig.toNat * 2 ^ 16 < 2 ^ 64
    omega
  rw [tcKey, UInt64.toNat_or, hshift, UInt16.toNat_toUInt64,
    ← Nat.shiftLeft_add_eq_or_of_lt hseq, Nat.shiftLeft_eq]

/-- Different pairs have different keys. -/
lemma tcKey_injective : Function.Injective fun p : UInt32 × UInt16 => tcKey p.1 p.2 := by
  rintro ⟨orig, seq⟩ ⟨orig', seq'⟩ h
  have hseq := seq.toNat_lt
  have hseq' := seq'.toNat_lt
  have hkey := congrArg UInt64.toNat h
  simp only [toNat_tcKey] at hkey
  refine Prod.ext (UInt32.toNat_inj.mp ?_) (UInt16.toNat_inj.mp ?_)
  · show orig.toNat = orig'.toNat
    omega
  · show seq.toNat = seq'.toNat
    omega

/-- Every kind of frame is part of the one before. -/
structure Nested (c : FeatureCollector) : Prop where
  olsrFrames_le : c.olsrFrames ≤ c.dataFrames
  dataFrames_le : c.dataFrames ≤ c.frames
  olsrBytes_le : c.olsrBytes ≤ c.dataBytes
  dataBytes_le : c.dataBytes ≤ c.bytes

/-- The IPv4 frames are split up by their sources. -/
structure BySource (c : FeatureCollector) : Prop where
  ordered : Ordered Ipv4Address.lt (c.bytesBySource.map Prod.fst)
  frames_keys : c.framesBySource.map Prod.fst = c.bytesBySource.map Prod.fst
  firstSeen_keys : c.firstSeenBySource.map Prod.fst = c.bytesBySource.map Prod.fst
  lastSeen_keys : c.lastSeenBySource.map Prod.fst = c.bytesBySource.map Prod.fst
  sum_bytes : (c.bytesBySource.map Prod.snd).sum = c.dataBytes
  sum_frames : (c.framesBySource.map Prod.snd).sum = c.dataFrames
  first_le_last : ∀ srcKey first last, mapFind c.firstSeenBySource srcKey = some first →
    mapFind c.lastSeenBySource srcKey = some last → first ≤ last

/-- The TC messages among the parsed ones are counted, and those that differ in their pairs. -/
structure TcCounted (c : FeatureCollector) (messages : List MessageHeader) : Prop where
  tcCount_eq : c.tcCount = (messages.filterMap tcPair).length
  tcSeen_eq : c.tcSeen = (messages.filterMap tcPair).toFinset.image fun p => tcKey p.1 p.2
  tcUniqueCount_eq : c.tcUniqueCount = (messages.filterMap tcPair).toFinset.card

/-- What the counters say of one another and of the messages that have been parsed. -/
structure Consistent (c : FeatureCollector) (messages : List MessageHeader) : Prop extends
  c.Nested, c.BySource, c.TcCounted messages

variable {c : FeatureCollector} {messages : List MessageHeader}

lemma TcCounted.tcUniqueCount_le (h : c.TcCounted messages) : c.tcUniqueCount ≤ c.tcCount := by
  rw [h.tcUniqueCount_eq, h.tcCount_eq]
  exact List.toFinset_card_le _

/-! #### Messages -/

lemma Nested.countMessage (h : c.Nested) (m : MessageHeader) : (c.countMessage m).Nested := by
  rw [FeatureCollector.countMessage]
  split <;> exact ⟨h.1, h.2, h.3, h.4⟩

lemma BySource.countMessage (h : c.BySource) (m : MessageHeader) :
    (c.countMessage m).BySource := by
  rw [FeatureCollector.countMessage]
  split <;> exact ⟨h.1, h.2, h.3, h.4, h.5, h.6, h.7⟩

/-- A TC message is counted, and once more if its pair has not been seen. -/
lemma TcCounted.countTc (h : c.TcCounted messages) (m : MessageHeader) (tc : Tc)
    (hbody : m.body = .tc tc) : (c.countTc m tc).TcCounted (messages ++ [m]) := by
  obtain ⟨pair, hpair⟩ : ∃ pair, pair = (m.originatorAddress, m.messageSequenceNumber) := ⟨_, rfl⟩
  have hpairs : (messages ++ [m]).filterMap tcPair = messages.filterMap tcPair ++ [pair] := by
    rw [List.filterMap_append, hpair]
    simp only [List.filterMap_cons, tcPair, hbody, List.filterMap_nil]
  have hinsert : ((messages ++ [m]).filterMap tcPair).toFinset =
      insert pair (messages.filterMap tcPair).toFinset := by
    rw [hpairs, List.toFinset_append, Finset.union_comm]
    rfl
  have hseen : tcKey m.originatorAddress m.messageSequenceNumber ∈ c.tcSeen ↔
      pair ∈ (messages.filterMap tcPair).toFinset := by
    rw [h.tcSeen_eq, hpair]
    exact tcKey_injective.mem_finset_image (a := (m.originatorAddress, m.messageSequenceNumber))
  constructor
  · rw [hpairs, List.length_append, List.length_singleton, ← h.tcCount_eq]
    rfl
  · rw [hinsert, Finset.image_insert, ← h.tcSeen_eq, hpair]
    rfl
  · rw [hinsert, FeatureCollector.countTc]
    dsimp only
    split
    · next hnew => rw [Finset.card_insert_of_notMem (mt hseen.mpr hnew), h.tcUniqueCount_eq]
    · next hold =>
      rw [Finset.insert_eq_of_mem (hseen.mp (not_not.mp hold)), h.tcUniqueCount_eq]

lemma TcCounted.countMessage (h : c.TcCounted messages) (m : MessageHeader) :
    (c.countMessage m).TcCounted (messages ++ [m]) := by
  have hother (hnone : tcPair m = none) : c.TcCounted (messages ++ [m]) := by
    have hpairs : (messages ++ [m]).filterMap tcPair = messages.filterMap tcPair := by
      rw [List.filterMap_append, List.filterMap_cons, hnone, List.filterMap_nil, List.append_nil]
    exact ⟨hpairs ▸ h.tcCount_eq, hpairs ▸ h.tcSeen_eq, hpairs ▸ h.tcUniqueCount_eq⟩
  rw [FeatureCollector.countMessage]
  split
  · next hbody =>
    have hkeep := hother (by rw [tcPair, hbody])
    exact ⟨hkeep.1, hkeep.2, hkeep.3⟩
  · next tc hbody => exact h.countTc m tc hbody
  · next hbody =>
    have hkeep := hother (by rw [tcPair, hbody])
    exact ⟨hkeep.1, hkeep.2, hkeep.3⟩
  · next hbody =>
    have hkeep := hother (by rw [tcPair, hbody])
    exact ⟨hkeep.1, hkeep.2, hkeep.3⟩

/-- The messages of a packet are counted one after another. -/
lemma Consistent.foldl_countMessage (h : c.Consistent messages) (l : List MessageHeader) :
    (l.foldl FeatureCollector.countMessage c).Consistent (messages ++ l) := by
  induction l generalizing c messages with
  | nil =>
    rw [List.append_nil]
    exact h
  | cons m l ih =>
    rw [List.append_cons]
    exact ih ⟨h.toNested.countMessage m, h.toBySource.countMessage m, h.toTcCounted.countMessage m⟩

/-! #### Frames -/

variable {nowS : ℚ} (frameBytes : ℕ) (srcKey : UInt32)

lemma Nested.countFrame (h : c.Nested) : (c.countFrame frameBytes).Nested :=
  ⟨h.1, Nat.le_succ_of_le h.2, h.3, Nat.le_add_right_of_le h.4⟩

lemma Nested.countIpv4 (h : c.Nested) :
    ((c.countFrame frameBytes).countIpv4 frameBytes srcKey nowS).Nested :=
  ⟨Nat.le_succ_of_le h.1, Nat.succ_le_succ h.2, Nat.le_add_right_of_le h.3,
    Nat.add_le_add_right h.4 _⟩

lemma Nested.countOlsr (h : c.Nested) :
    (((c.countFrame frameBytes).countIpv4 frameBytes srcKey nowS).countOlsr frameBytes).Nested :=
  ⟨Nat.succ_le_succ h.1, Nat.succ_le_succ h.2, Nat.add_le_add_right h.3 _,
    Nat.add_le_add_right h.4 _⟩

/-- No source has been seen later. -/
def SeenBy (c : FeatureCollector) (t : ℚ) : Prop :=
  ∀ srcKey last, mapFind c.lastSeenBySource srcKey = some last → last ≤ t

lemma mapFind_lastSeenBySource_countIpv4 (k : UInt32) :
    mapFind (c.countIpv4 frameBytes srcKey nowS).lastSeenBySource k =
      if k = srcKey then some nowS else mapFind c.lastSeenBySource k :=
  Ipv4Address.comparesKeys.mapFind_mapSet srcKey k nowS c.lastSeenBySource

/-- `emplace` keeps what is there. -/
lemma mapFind_firstSeenBySource_countIpv4 (k : UInt32) :
    mapFind (c.countIpv4 frameBytes srcKey nowS).firstSeenBySource k =
      if k = srcKey then some ((mapFind c.firstSeenBySource srcKey).getD nowS)
      else mapFind c.firstSeenBySource k := by
  rw [FeatureCollector.countIpv4]
  dsimp only
  cases hfind : mapFind c.firstSeenBySource srcKey with
  | none =>
    rw [if_pos rfl, Ipv4Address.comparesKeys.mapFind_mapSet]
    rfl
  | some first =>
    rw [if_neg (Option.some_ne_none first)]
    split
    · next hk => rw [hk, hfind, Option.getD_some]
    · rfl

lemma SeenBy.countIpv4 (h : c.SeenBy nowS) : (c.countIpv4 frameBytes srcKey nowS).SeenBy nowS := by
  intro k last hlast
  rw [mapFind_lastSeenBySource_countIpv4] at hlast
  split at hlast
  · exact (Option.some.inj hlast).ge
  · exact h k last hlast

lemma lastSeenBySource_foldl_countMessage (l : List MessageHeader) :
    (l.foldl countMessage c).lastSeenBySource = c.lastSeenBySource := by
  induction l generalizing c with
  | nil => rfl
  | cons m l ih =>
    rw [List.foldl_cons, ih, countMessage]
    split <;> rfl

/-- The source is a key of all four maps, or becomes one. -/
lemma BySource.countIpv4 (h : c.BySource) (hseen : c.SeenBy nowS) :
    (c.countIpv4 frameBytes srcKey nowS).BySource := by
  have hkeys := Ipv4Address.comparesKeys
  have hframes : Ordered Ipv4Address.lt (c.framesBySource.map Prod.fst) := h.frames_keys ▸ h.ordered
  refine ⟨hkeys.ordered_mapSet h.ordered, ?_, ?_, ?_, ?_, ?_, ?_⟩
  · show (mapSet _ _ _ _).map _ = (mapSet _ _ _ _).map _
    rw [hkeys.map_fst_mapSet, hkeys.map_fst_mapSet, h.frames_keys]
  · show (if _ then _ else _ : List (UInt32 × ℚ)).map _ = (mapSet _ _ _ _).map _
    rw [hkeys.map_fst_mapSet]
    split
    · rw [hkeys.map_fst_mapSet, h.firstSeen_keys]
    · next hfind =>
      have hmem : srcKey ∈ c.bytesBySource.map Prod.fst := by
        rw [← h.firstSeen_keys]
        exact not_not.mp (mt mapFind_eq_none_iff.mpr hfind)
      rw [h.firstSeen_keys, hkeys.setInsert_of_mem h.ordered hmem]
  · show (mapSet _ _ _ _).map _ = (mapSet _ _ _ _).map _
    rw [hkeys.map_fst_mapSet, hkeys.map_fst_mapSet, h.lastSeen_keys]
  · show ((mapSet _ _ _ _).map _).sum = c.dataBytes + frameBytes
    rw [hkeys.sum_mapSet_add srcKey frameBytes h.ordered, h.sum_bytes]
  · show ((mapSet _ _ _ _).map _).sum = c.dataFrames + 1
    rw [hkeys.sum_mapSet_add srcKey 1 hframes, h.sum_frames]
  · intro k first last hfirst hlast
    rw [mapFind_firstSeenBySource_countIpv4] at hfirst
    rw [mapFind_lastSeenBySource_countIpv4] at hlast
    by_cases hk : k = srcKey
    · rw [if_pos hk] at hfirst hlast
      rw [← Option.some.inj hfirst, ← Option.some.inj hlast]
      cases hold : mapFind c.firstSeenBySource srcKey with
      | none => exact le_rfl
      | some first =>
        -- a source that has been seen before was last seen before now
        have hmem : srcKey ∈ c.lastSeenBySource.map Prod.fst := by
          rw [h.lastSeen_keys, ← h.firstSeen_keys]
          exact List.mem_map_of_mem (mem_of_mapFind hold)
        obtain ⟨last, hlast⟩ := Option.ne_none_iff_exists'.mp fun hnone =>
          mapFind_eq_none_iff.mp hnone hmem
        exact (h.first_le_last srcKey first last hold hlast).trans (hseen srcKey last hlast)
    · rw [if_neg hk] at hfirst hlast
      exact h.first_le_last k first last hfirst hlast

/-- A frame is accounted for. -/
lemma Consistent.account (h : c.Consistent messages) (hseen : c.SeenBy nowS) (s : Sniffed) :
    (c.account frameBytes nowS s).Consistent (messages ++ s.messages) := by
  have hkeep : (c.countFrame frameBytes).BySource :=
    ⟨h.ordered, h.frames_keys, h.firstSeen_keys, h.lastSeen_keys, h.sum_bytes, h.sum_frames,
      h.first_le_last⟩
  cases s with
  | frame =>
    rw [Sniffed.messages, List.append_nil]
    exact ⟨h.toNested.countFrame frameBytes, hkeep, ⟨h.tcCount_eq, h.tcSeen_eq, h.tcUniqueCount_eq⟩⟩
  | ipv4 srcKey =>
    rw [Sniffed.messages, List.append_nil]
    exact ⟨h.toNested.countIpv4 frameBytes srcKey, hkeep.countIpv4 frameBytes srcKey hseen,
      ⟨h.tcCount_eq, h.tcSeen_eq, h.tcUniqueCount_eq⟩⟩
  | olsr srcKey l =>
    have hsource := hkeep.countIpv4 frameBytes srcKey hseen
    exact Consistent.foldl_countMessage ⟨h.toNested.countOlsr frameBytes srcKey,
      ⟨hsource.1, hsource.2, hsource.3, hsource.4, hsource.5, hsource.6, hsource.7⟩,
      ⟨h.tcCount_eq, h.tcSeen_eq, h.tcUniqueCount_eq⟩⟩ l

lemma SeenBy.account (h : c.SeenBy nowS) (s : Sniffed) :
    (c.account frameBytes nowS s).SeenBy nowS := by
  cases s with
  | frame => exact h
  | ipv4 srcKey => exact SeenBy.countIpv4 (c := c.countFrame frameBytes) frameBytes srcKey h
  | olsr srcKey l =>
    rw [SeenBy, FeatureCollector.account, lastSeenBySource_foldl_countMessage]
    exact SeenBy.countIpv4 (c := c.countFrame frameBytes) frameBytes srcKey h

end FeatureCollector

/-! ### Runs -/

/-- The messages of a frame. -/
def frameMessages (headers : FrameHeaders) (packet : Option (List UInt8)) : List MessageHeader :=
  ((packet.bind (sniff headers)).map Sniffed.messages).getD []

namespace FeatureCollector

variable {headers : FrameHeaders} {c c' : FeatureCollector} {messages : List MessageHeader}
  {nowS : ℚ} {packet : Option (List UInt8)}

/-- One call keeps the books. -/
lemma Consistent.observe (h : c.Consistent messages) (hseen : c.SeenBy nowS)
    (hstep : c.observeSniffedFrame headers nowS packet = some c') :
    c'.Consistent (messages ++ frameMessages headers packet) ∧ c'.SeenBy nowS := by
  rw [observeSniffedFrame_eq] at hstep
  cases packet with
  | none =>
    cases hstep
    refine ⟨?_, hseen⟩
    show c.Consistent (messages ++ [])
    rw [List.append_nil]
    exact h
  | some frame =>
    obtain ⟨s, hsniff, rfl⟩ := Option.map_eq_some_iff.mp hstep
    refine ⟨?_, hseen.account frame.length s⟩
    rw [frameMessages, Option.bind_some, hsniff]
    exact h.account frame.length hseen s

lemma consistent_reset (tStart : ℚ) : (c.reset tStart).Consistent [] where
  olsrFrames_le := le_rfl
  dataFrames_le := le_rfl
  olsrBytes_le := le_rfl
  dataBytes_le := le_rfl
  ordered := List.Pairwise.nil
  frames_keys := rfl
  firstSeen_keys := rfl
  lastSeen_keys := rfl
  sum_bytes := rfl
  sum_frames := rfl
  first_le_last := by rintro _ _ _ ⟨⟩
  tcCount_eq := rfl
  tcSeen_eq := rfl
  tcUniqueCount_eq := rfl

/-- Frames observed one after another, each with the time of the clock. -/
def observeAll (c : FeatureCollector) (headers : FrameHeaders)
    (frames : List (ℚ × Option (List UInt8))) : Option FeatureCollector :=
  frames.foldlM (fun c x => c.observeSniffedFrame headers x.1 x.2) c

/-- The books are kept as long as the clock does not go back. -/
lemma Consistent.observeAll {frames : List (ℚ × Option (List UInt8))}
    (h : c.Consistent messages) (hseen : ∀ x ∈ frames, c.SeenBy x.1)
    (hclock : frames.Pairwise fun x y => x.1 ≤ y.1)
    (hrun : c.observeAll headers frames = some c') :
    c'.Consistent (messages ++ frames.flatMap fun x => frameMessages headers x.2) := by
  induction frames generalizing c messages with
  | nil =>
    cases hrun
    rw [List.flatMap_nil, List.append_nil]
    exact h
  | cons x frames ih =>
    rw [FeatureCollector.observeAll, List.foldlM_cons] at hrun
    obtain ⟨c₁, hstep, hrun⟩ := Option.bind_eq_some_iff.mp hrun
    obtain ⟨hbefore, hclock⟩ := List.pairwise_cons.mp hclock
    obtain ⟨h₁, hseen₁⟩ := h.observe (hseen x List.mem_cons_self) hstep
    rw [List.flatMap_cons, ← List.append_assoc]
    refine ih h₁ (fun y hy k last hlast => ?_) hclock hrun
    exact (hseen₁ k last hlast).trans (hbefore y hy)

/-! ### What the features say -/

variable (sqrt : ℚ → ℚ) (tEnd : ℚ)

lemma ratio_mem {a b : ℕ} (h : a ≤ b) : 0 ≤ ratio a b ∧ ratio a b ≤ 1 := by
  rw [ratio]
  split
  · next hb =>
    have hpos : (0 : ℚ) < b := Nat.cast_pos.mpr hb
    exact ⟨by positivity, (div_le_one hpos).mpr (Nat.cast_le.mpr h)⟩
  · exact ⟨le_rfl, zero_le_one⟩

lemma sum_map_snd_cast (m : List (UInt32 × ℕ)) :
    (m.map fun kv => (kv.2 : ℚ)).sum = ((m.map Prod.snd).sum : ℕ) := by
  rw [Nat.cast_list_sum, List.map_map]
  rfl

/-- A total over the number of the sources is the mean of what the sources have. -/
lemma ratio_eq_mean (m : List (UInt32 × ℕ)) :
    ratio (m.map Prod.snd).sum m.length = mean (m.map fun kv => (kv.2 : ℚ)) := by
  rw [ratio, mean, sum_map_snd_cast, List.length_map]
  cases m with
  | nil => rfl
  | cons kv m =>
    have hlength : 0 < (kv :: m).length := Nat.succ_pos m.length
    have hne : ((kv :: m).map fun kv => (kv.2 : ℚ)) ≠ [] := List.cons_ne_nil _ _
    rw [if_pos hlength, if_neg hne]

lemma mean_map_mul_div (m : List (UInt32 × ℕ)) (a b : ℚ) :
    mean (m.map fun kv => (kv.2 : ℚ) * a / b) = mean (m.map fun kv => (kv.2 : ℚ)) * a / b := by
  cases m with
  | nil => simp [mean]
  | cons kv m =>
    have hscale : ((kv :: m).map fun kv => (kv.2 : ℚ) * a / b) =
        (kv :: m).map fun kv => (kv.2 : ℚ) * (a / b) :=
      List.map_congr_left fun kv _ => mul_div_assoc _ _ _
    rw [hscale, mean, mean, if_neg (by simp), if_neg (by simp), List.sum_map_mul_right,
      List.length_map, List.length_map, mul_div_right_comm, mul_div_assoc]

/-- The shares and the means among the features. -/
structure FeaturesSound (c : FeatureCollector) (tEnd : ℚ) (f : Features) : Prop where
  routingOverheadBytesRatio : 0 ≤ f.routingOverheadBytesRatio ∧ f.routingOverheadBytesRatio ≤ 1
  normalizedRoutingLoad : ∀ x, f.normalizedRoutingLoad = some x → 0 ≤ x ∧ x ≤ 1
  avgFlowThroughput : f.avgFlowThroughput = mean (c.srcRates tEnd)
  avgTxBytesPerFlow : f.avgTxBytesPerFlow = mean (c.bytesBySource.map fun kv => (kv.2 : ℚ))
  avgTxPktsPerFlow : f.avgTxPktsPerFlow = mean (c.framesBySource.map fun kv => (kv.2 : ℚ))

lemma Consistent.featuresSound (h : c.Consistent messages) :
    c.FeaturesSound tEnd (c.emitFeatureCsv sqrt tEnd).2 where
  routingOverheadBytesRatio := ratio_mem h.olsrBytes_le
  normalizedRoutingLoad := by
    intro x hx
    by_cases hpos : 0 < c.dataFrames
    · rw [emitFeatureCsv, if_pos hpos, Option.some.injEq] at hx
      have hshare := ratio_mem h.olsrFrames_le
      rw [ratio, if_pos hpos, hx] at hshare
      exact hshare
    · rw [emitFeatureCsv, if_neg hpos] at hx
      cases hx
  avgFlowThroughput := by
    rw [srcRates, mean_map_mul_div, ← ratio_eq_mean, h.sum_bytes]
    rfl
  avgTxBytesPerFlow := by
    rw [← ratio_eq_mean, h.sum_bytes]
    rfl
  avgTxPktsPerFlow := by
    rw [← ratio_eq_mean, h.sum_frames]
    rfl

/-- **The books are kept.**  After `Reset` and any frames that are observed in the order of the clock
without an abort, the counters agree with one another and with the messages that have been parsed,
and the features that are shares and means are. -/
theorem observeAll_consistent (c : FeatureCollector) (tStart : ℚ)
    {frames : List (ℚ × Option (List UInt8))} (hclock : frames.Pairwise fun x y => x.1 ≤ y.1)
    (hrun : (c.reset tStart).observeAll headers frames = some c') :
    c'.Consistent (frames.flatMap fun x => frameMessages headers x.2) ∧
      c'.tcUniqueCount ≤ c'.tcCount ∧
      ∀ sqrt tEnd, c'.FeaturesSound tEnd (c'.emitFeatureCsv sqrt tEnd).2 := by
  have hseen : ∀ x ∈ frames, (c.reset tStart).SeenBy x.1 := by
    rintro _ _ _ _ ⟨⟩
  have hbooks := (c.consistent_reset tStart).observeAll hseen hclock hrun
  rw [List.nil_append] at hbooks
  exact ⟨hbooks, hbooks.tcUniqueCount_le, fun sqrt tEnd => hbooks.featuresSound sqrt tEnd⟩

end FeatureCollector

/-- A TC message, of which two copies are heard. -/
def sampleTc : MessageHeader where
  vTime := 0x86
  originatorAddress := 0x0a000001
  timeToLive := 254
  hopCount := 1
  messageSequenceNumber := 7
  body := .tc ⟨[0x0a000002, 0x0a000003], 1⟩

def sampleFields : FrameHeaders.AdhocFields where
  durationLow := 0
  durationHigh := 0
  addr1 := Vector.replicate 6 0xff
  addr2ToSequence := Vector.replicate 14 0
  llc := Vector.replicate 6 0xaa
  tosToTtl := Vector.replicate 8 0
  ipv4Checksum := Vector.replicate 2 0
  destination := 0xffffffff
  sourcePort := 698
  payloadSize := 36
  udpChecksum := 0

/-- A frame with a packet of one message, which ends in four bytes of padding. -/
def sampleSniffed (srcKey : UInt32) (m : MessageHeader) : List UInt8 :=
  sampleFields.frame srcKey (addPacketHeader ([m].flatMap MessageHeader.serialize) 1 ++ [0, 0, 0, 0])

def sampleRun : List (ℚ × Option (List UInt8)) :=
  [(1, none), (1, some (sampleSniffed 0x0a000002 sampleTc)),
    (2, some (sampleSniffed 0x0a000003 sampleTc)),
    (3, some (sampleSniffed 0x0a000002 MessageHeader.sampleHello))]

/-- What is left of the run. -/
def sampleCollected : FeatureCollector :=
  (((({} : FeatureCollector).reset 0).account 92 1 (.olsr 0x0a000002 [sampleTc])).account
    92 2 (.olsr 0x0a000003 [sampleTc])).account
    100 3 (.olsr 0x0a000002 [MessageHeader.sampleHello])

theorem sampleCollected_consistent :
    sampleCollected.tcCount = 2 ∧ sampleCollected.tcUniqueCount = 1 ∧
    sampleCollected.bytesBySource = [(0x0a000002, 192), (0x0a000003, 92)] ∧
    sampleCollected.Consistent
      (sampleRun.flatMap fun x => frameMessages FrameHeaders.ns3 x.2) := by
  have htc (srcKey : UInt32) : sniff FrameHeaders.ns3 (sampleSniffed srcKey sampleTc) =
      some (.olsr srcKey [sampleTc]) :=
    sniff_ns3_frame (by decide) sampleFields srcKey 1 [0, 0, 0, 0]
  have hhello (srcKey : UInt32) :
      sniff FrameHeaders.ns3 (sampleSniffed srcKey MessageHeader.sampleHello) =
        some (.olsr srcKey [MessageHeader.sampleHello]) :=
    sniff_ns3_frame (by decide) sampleFields srcKey 1 [0, 0, 0, 0]
  have hrun : (({} : FeatureCollector).reset 0).observeAll FrameHeaders.ns3 sampleRun =
      some sampleCollected := by
    have hlength (srcKey : UInt32) (m : MessageHeader) :
        (sampleSniffed srcKey m).length = 68 + m.getSerializedSize := by
      rw [sampleSniffed, FrameHeaders.AdhocFields.length_frame, List.flatMap_singleton,
        List.length_append, length_addPacketHeader, m.length_serialize, olsrPktHeaderSize]
      show 60 + (4 + m.getSerializedSize + 4) = _
      omega
    rw [FeatureCollector.observeAll, sampleRun]
    simp only [List.foldlM_cons, FeatureCollector.observeSniffedFrame_eq, Option.elim_some,
      Option.elim_none, htc, hhello, hlength, Option.map_some, Option.bind_eq_bind, Option.bind_some]
    rfl
  refine ⟨by decide, by decide, by decide, ?_⟩
  exact (FeatureCollector.observeAll_consistent {} 0 (by decide) hrun).1

end ManetOlsr
