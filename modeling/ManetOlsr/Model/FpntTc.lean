/-
TC messages with evaluation vectors, from the variant of `olsr-header.cc` for the FPNT defense.

The writer puts the vectors behind the addresses, and a magic number into the reserved field, if
there are vectors and as many as addresses.  The size counts them whenever there are any.
-/
import ManetOlsr.Model.FpntDefense
import ManetOlsr.Model.Wire

namespace ManetOlsr

open Lib Lib.Reader

/-- `MessageHeader::Tc`, with the evaluation vectors. -/
structure FpntTc where
  neighborAddresses : List Ipv4Address
  ansn : UInt16
  evaluationVectors : List EvaluationVector
deriving DecidableEq, Repr

namespace EvaluationVector

def serialize (ev : EvaluationVector) : List UInt8 :=
  writeU8 ev.trust ++ writeU8 ev.distrust ++ writeU8 ev.uncertain ++ writeU8 0

def deserialize : Reader EvaluationVector := do
  let trust ← readU8
  let distrust ← readU8
  let uncertain ← readU8
  let _ ← readU8
  pure ⟨trust, distrust, uncertain⟩

end EvaluationVector

namespace FpntTc

/-- `FPNT_TC_MAGIC`. -/
def magic : UInt16 := 0xfae0

variable (tc : FpntTc)

def getSerializedSize : ℕ :=
  4 + tc.neighborAddresses.length * ipv4AddressSize +
    if tc.evaluationVectors.isEmpty then 0 else tc.evaluationVectors.length * 4

def emitEvs : Bool :=
  !tc.evaluationVectors.isEmpty && tc.evaluationVectors.length == tc.neighborAddresses.length

def serialize : List UInt8 :=
  writeHtonU16 tc.ansn ++ (writeHtonU16 (if tc.emitEvs then magic else 0) ++
    (tc.neighborAddresses.flatMap writeHtonU32 ++
      if tc.emitEvs then tc.evaluationVectors.flatMap EvaluationVector.serialize else []))

/-- `Deserialize`, which gives the lists up where the size does not fit the layout. -/
def deserialize (messageSize : UInt32) : Reader (FpntTc × ℕ) := do
  assert (4 ≤ messageSize)
  let ansn ← readNtohU16
  let reserved ← readNtohU16
  let payloadSize := messageSize.toNat - 4
  if reserved = magic then
    if payloadSize % 8 ≠ 0 then pure (⟨[], ansn, []⟩, messageSize.toNat)
    else do
      let neighborAddresses ← readMany readNtohU32 (payloadSize / 8)
      let evaluationVectors ← readMany EvaluationVector.deserialize (payloadSize / 8)
      pure (⟨neighborAddresses, ansn, evaluationVectors⟩, messageSize.toNat)
  else if payloadSize % ipv4AddressSize ≠ 0 then pure (⟨[], ansn, []⟩, messageSize.toNat)
  else do
    let neighborAddresses ← readMany readNtohU32 (payloadSize / ipv4AddressSize)
    pure (⟨neighborAddresses, ansn, []⟩, messageSize.toNat)

end FpntTc

end ManetOlsr
