/-
The round trip of TC messages with evaluation vectors.

The writer and the size agree where the writer puts the vectors or where there are none, and the
round trip holds there and nowhere else.
-/
import ManetOlsr.Model.FpntTc
import ManetOlsr.Properties.MessageCodec

namespace ManetOlsr

open Lib Lib.Reader

namespace EvaluationVector

lemma length_serialize (ev : EvaluationVector) : ev.serialize.length = 4 := rfl

lemma reads (ev : EvaluationVector) : Reads EvaluationVector.deserialize ev.serialize ev :=
  (Reads.u8 _).bind ((Reads.u8 _).bind ((Reads.u8 _).bind (Reads.u8 0).last))

end EvaluationVector

namespace FpntTc

variable (tc : FpntTc)

/-- As many bytes are written as the size tells, and they are read back, whatever comes after
them: the number and the addresses in any case, and the vectors if there are as many. -/
structure RoundTrips : Prop where
  length_eq : tc.serialize.length = tc.getSerializedSize
  reads_eq : ∀ suffix, ∃ tc',
    (FpntTc.deserialize (UInt32.ofNat tc.getSerializedSize)).run (tc.serialize ++ suffix) =
      some ((tc', tc.getSerializedSize), suffix) ∧
    tc'.ansn = tc.ansn ∧ tc'.neighborAddresses = tc.neighborAddresses ∧
    (tc.evaluationVectors.length = tc.neighborAddresses.length →
      tc'.evaluationVectors = tc.evaluationVectors)

variable {tc}

lemma emitEvs_iff :
    tc.emitEvs = true ↔
      tc.evaluationVectors ≠ [] ∧ tc.evaluationVectors.length = tc.neighborAddresses.length := by
  simp [emitEvs]

lemma length_serialize :
    tc.serialize.length =
      4 + 4 * tc.neighborAddresses.length +
        if tc.emitEvs then 4 * tc.evaluationVectors.length else 0 := by
  have haddresses := length_flatMap_const length_writeHtonU32 tc.neighborAddresses
  have hvectors := length_flatMap_const EvaluationVector.length_serialize tc.evaluationVectors
  rw [serialize]
  simp only [List.length_append, length_writeHtonU16, haddresses]
  split
  · rw [hvectors]
    omega
  · rw [List.length_nil]
    omega

/-- Vectors that are not written are counted all the same. -/
lemma length_serialize_lt (hne : tc.evaluationVectors ≠ [])
    (hlength : tc.evaluationVectors.length ≠ tc.neighborAddresses.length) :
    tc.serialize.length < tc.getSerializedSize := by
  have hemit : ¬ tc.emitEvs = true := fun h => hlength (emitEvs_iff.mp h).2
  have hpos : 0 < tc.evaluationVectors.length := List.length_pos_iff.mpr hne
  rw [length_serialize, if_neg hemit, getSerializedSize, if_neg (by simpa using hne),
    ipv4AddressSize]
  omega

variable {messageSize : UInt32}

/-- The layout with vectors. -/
lemma reads_of_emitEvs (hemit : tc.emitEvs = true)
    (h : messageSize.toNat = 4 + 8 * tc.neighborAddresses.length) :
    Reads (FpntTc.deserialize messageSize) tc.serialize (tc, messageSize.toNat) := by
  have hlength := (emitEvs_iff.mp hemit).2
  have hfour : 4 ≤ messageSize := by
    rw [UInt32.le_iff_toNat_le, h]
    exact Nat.le_add_right 4 _
  have hmod : ¬ (messageSize.toNat - 4) % 8 ≠ 0 := by omega
  have hdiv : (messageSize.toNat - 4) / 8 = tc.neighborAddresses.length := by omega
  have haddresses := Reads.many (w := writeHtonU32) Reads.u32 tc.neighborAddresses
  have hvectors := Reads.many (w := EvaluationVector.serialize) EvaluationVector.reads
    tc.evaluationVectors
  rw [← hdiv] at haddresses
  rw [hlength, ← hdiv] at hvectors
  rw [serialize, if_pos hemit, if_pos hemit]
  refine Reads.assert hfour ((Reads.u16 _).bind ((Reads.u16 _).bind ?_))
  simp only [if_true, if_neg hmod]
  exact haddresses.bind hvectors.last

/-- The layout of RFC 3626. -/
lemma reads_of_not_emitEvs (hemit : ¬ tc.emitEvs = true)
    (h : messageSize.toNat = 4 + 4 * tc.neighborAddresses.length) :
    Reads (FpntTc.deserialize messageSize) tc.serialize
      (⟨tc.neighborAddresses, tc.ansn, []⟩, messageSize.toNat) := by
  have hfour : 4 ≤ messageSize := by
    rw [UInt32.le_iff_toNat_le, h]
    exact Nat.le_add_right 4 _
  have hmod : ¬ (messageSize.toNat - 4) % ipv4AddressSize ≠ 0 := by
    rw [ipv4AddressSize]
    omega
  have hdiv : (messageSize.toNat - 4) / ipv4AddressSize = tc.neighborAddresses.length := by
    rw [ipv4AddressSize]
    omega
  have hmagic : (0 : UInt16) ≠ magic := by decide
  have haddresses := Reads.many (w := writeHtonU32) Reads.u32 tc.neighborAddresses
  rw [← hdiv] at haddresses
  rw [serialize, if_neg hemit, if_neg hemit, List.append_nil]
  refine Reads.assert hfour ((Reads.u16 _).bind ((Reads.u16 _).bind ?_))
  simp only [if_neg hmagic, if_neg hmod]
  exact haddresses.last

/-- **The round trip**, for TC messages of less than 64 KiB: it holds exactly if there are no
vectors, or as many as addresses. -/
theorem roundTrips_iff (tc : FpntTc) (h : tc.getSerializedSize < 2 ^ 16) :
    tc.RoundTrips ↔ tc.evaluationVectors = [] ∨
      tc.evaluationVectors.length = tc.neighborAddresses.length := by
  have hsize : (UInt32.ofNat tc.getSerializedSize).toNat = tc.getSerializedSize := by
    rw [UInt32.toNat_ofNat']
    omega
  constructor
  · intro hround
    by_contra hnot
    rw [not_or] at hnot
    have hlt := length_serialize_lt hnot.1 hnot.2
    have heq := hround.length_eq
    omega
  · intro hlayout
    by_cases hemit : tc.emitEvs = true
    · obtain ⟨hne, hlength⟩ := emitEvs_iff.mp hemit
      have htotal : tc.getSerializedSize = 4 + 8 * tc.neighborAddresses.length := by
        rw [getSerializedSize, if_neg (by simpa using hne), hlength, ipv4AddressSize]
        omega
      refine ⟨?_, fun suffix => ⟨tc, ?_, rfl, rfl, fun _ => rfl⟩⟩
      · rw [length_serialize, if_pos hemit, hlength, htotal]
        omega
      · have hreads := reads_of_emitEvs hemit (hsize.trans htotal) suffix
        rwa [hsize] at hreads
    · -- Without vectors on the wire there are none, or the lists are both empty.
      have hnil : tc.evaluationVectors = [] := by
        rcases hlayout with hnil | hlength
        · exact hnil
        · by_contra hne
          exact hemit (emitEvs_iff.mpr ⟨hne, hlength⟩)
      have htotal : tc.getSerializedSize = 4 + 4 * tc.neighborAddresses.length := by
        rw [getSerializedSize, if_pos (by simpa using hnil), ipv4AddressSize]
        omega
      refine ⟨?_, fun suffix =>
        ⟨⟨tc.neighborAddresses, tc.ansn, []⟩, ?_, rfl, rfl, fun _ => hnil.symm⟩⟩
      · rw [length_serialize, if_neg hemit, htotal, Nat.add_zero]
      · have hreads := reads_of_not_emitEvs hemit (hsize.trans htotal) suffix
        rwa [hsize] at hreads

/-- Two addresses with a vector for each. -/
def evaluatedTc : FpntTc := ⟨[2, 3], 7, [⟨255, 0, 0⟩, ⟨0, 0, 255⟩]⟩

theorem evaluatedTc_roundTrips : evaluatedTc.RoundTrips :=
  (roundTrips_iff evaluatedTc (by decide)).mpr (Or.inr rfl)

/-- **A vector that is counted and not written**: the two addresses have one vector between them, and
12 of the 16 bytes that the size tells are written. -/
theorem lonelyVector_not_roundTrips :
    FpntTc.getSerializedSize ⟨[2, 3], 7, [⟨255, 0, 0⟩]⟩ < 2 ^ 16 ∧
      ¬ FpntTc.RoundTrips ⟨[2, 3], 7, [⟨255, 0, 0⟩]⟩ :=
  ⟨by decide, fun h => absurd h.length_eq (by decide)⟩

end FpntTc

end ManetOlsr
