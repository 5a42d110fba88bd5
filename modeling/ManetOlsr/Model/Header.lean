/-
OLSR messages (`olsr-header.h`, `olsr-header.cc`) as they are after parsing.

A message header carries its validity time as one byte in the mantissa/exponent
format of RFC 3626; `getVTime` decodes it to nanoseconds, which is exact because the
smallest unit of the format, 1/256 s, is a whole number of nanoseconds.
-/
import ManetOlsr.Lib.WhileLoop
import ManetOlsr.Model.Repositories
import Mathlib.Data.Rat.Floor

namespace ManetOlsr

/-! ### Validity times -/

/-- The loop of `SecondsToEmf`: the first `b` from `1` on with `x < 2^b`, where `x = T/C`.
The mantissa/exponent format has exponents below 16, so 32 rounds are never exceeded by a
value the format can hold. -/
def emfExponent (x : ℚ) : ℕ → ℕ → ℕ
  | 0, b => b
  | fuel + 1, b => if x ≥ (2 : ℚ) ^ b then emfExponent x fuel (b + 1) else b

/-- `SecondsToEmf`, in exact arithmetic. -/
def secondsToEmf (seconds : ℚ) : UInt8 :=
  let x := seconds * 16
  let b := emfExponent x 32 1 - 1
  let a := ⌈16 * (x / 2 ^ b - 1) - 1 / 2⌉
  if a = 16 then UInt8.ofNat (b + 1) else UInt8.ofNat (a.toNat * 16 + b)

/-- `OLSR_C`. -/
def olsrC : ℚ := 1 / 16

/-- `SecondsToEmf` with its assertions; the loop is followed as long as an `int` holds `1 << b`. -/
def assertedSecondsToEmf (seconds : ℚ) : Option UInt8 := do
  guard (seconds ≥ olsrC)
  let b := Lib.whileLoop (fun b : ℕ => decide (seconds / olsrC ≥ 2 ^ b)) (· + 1) 29 1
  guard (seconds / olsrC < 2 ^ b)
  let b := b - 1
  guard (seconds / olsrC ≥ 2 ^ b)
  let tmp := 16 * (seconds / (olsrC * 2 ^ b) - 1)
  let a := ⌈tmp - 1 / 2⌉
  let (a, b) := if a = 16 then (0, b + 1) else (a, b)
  guard (0 ≤ a ∧ a < 16)
  guard (b < 16)
  return UInt8.ofNat (a.toNat * 16 + b)

/-- `EmfToSeconds`, in exact arithmetic. -/
def emfToSeconds (olsrFormat : UInt8) : ℚ :=
  1 / 16 * (1 + (olsrFormat.toNat / 16 : ℕ) / 16) * 2 ^ (olsrFormat.toNat % 16)

/-- `MessageHeader::GetVTime`: the decoded validity time. -/
def getVTime (vTime : UInt8) : Time :=
  (16 + (vTime.toNat / 16 : ℕ)) * 2 ^ (vTime.toNat % 16) * 3906250

def setVTime (time : Time) : UInt8 := secondsToEmf (time / 1000000000)

/-- `LinkSensing` asserts that the validity time is strictly positive; every byte decodes so. -/
lemma getVTime_pos (v : UInt8) : 0 < getVTime v := by
  rw [getVTime]
  positivity

/-! ### Link codes -/

inductive LinkType where
  | unspecLink
  | asymLink
  | symLink
  | lostLink
deriving DecidableEq, Repr

namespace LinkType

/-- The number of a link type. -/
def toNat : LinkType → ℕ
  | unspecLink => 0
  | asymLink => 1
  | symLink => 2
  | lostLink => 3

/-- `LinkType(linkCode & 0x03)`. -/
def ofLinkCode (linkCode : UInt8) : LinkType :=
  match linkCode.toNat % 4 with
  | 0 => unspecLink
  | 1 => asymLink
  | 2 => symLink
  | _ => lostLink

end LinkType

/-- `NeighborType`, with the fourth value that two bits can hold. -/
inductive NeighborType where
  | notNeigh
  | symNeigh
  | mprNeigh
  | unknown
deriving DecidableEq, Repr

namespace NeighborType

/-- The number of a neighbor type. -/
def toNat : NeighborType → ℕ
  | notNeigh => 0
  | symNeigh => 1
  | mprNeigh => 2
  | unknown => 3

/-- `NeighborType((linkCode >> 2) & 0x03)`. -/
def ofLinkCode (linkCode : UInt8) : NeighborType :=
  match linkCode.toNat / 4 % 4 with
  | 0 => notNeigh
  | 1 => symNeigh
  | 2 => mprNeigh
  | _ => unknown

end NeighborType

/-- The link code `SendHello` writes: `(linkType & 0x03) | ((neighborType << 2) & 0x0f)`. -/
def makeLinkCode (linkType : LinkType) (neighborType : NeighborType) : UInt8 :=
  UInt8.ofNat (linkType.toNat + 4 * neighborType.toNat)

@[simp] lemma ofLinkCode_makeLinkCode (l : LinkType) (nt : NeighborType) :
    LinkType.ofLinkCode (makeLinkCode l nt) = l ∧
      NeighborType.ofLinkCode (makeLinkCode l nt) = nt := by
  cases l <;> cases nt <;> decide

/-- A link code determines the two types it is made of. -/
lemma makeLinkCode_inj {l l' : LinkType} {nt nt' : NeighborType}
    (h : makeLinkCode l nt = makeLinkCode l' nt') : l = l' ∧ nt = nt' := by
  obtain ⟨hl, hnt⟩ := ofLinkCode_makeLinkCode l nt
  obtain ⟨hl', hnt'⟩ := ofLinkCode_makeLinkCode l' nt'
  rw [h] at hl hnt
  exact ⟨hl.symm.trans hl', hnt.symm.trans hnt'⟩

/-! ### Messages -/

/-- `MessageHeader::Hello::LinkMessage`. -/
structure LinkMessage where
  linkCode : UInt8
  neighborInterfaceAddresses : List Ipv4Address
deriving DecidableEq, Repr

structure Hello where
  hTime : UInt8
  willingness : Willingness
  linkMessages : List LinkMessage
deriving DecidableEq, Repr

structure Tc where
  neighborAddresses : List Ipv4Address
  ansn : UInt16
deriving DecidableEq, Repr

structure Mid where
  interfaceAddresses : List Ipv4Address
deriving DecidableEq, Repr

structure Hna where
  associations : List Association
deriving DecidableEq, Repr

/-- The content of a message, of one of the four types `Deserialize` asserts. -/
inductive MessageBody where
  | hello (hello : Hello)
  | tc (tc : Tc)
  | mid (mid : Mid)
  | hna (hna : Hna)
deriving DecidableEq, Repr

structure MessageHeader where
  vTime : UInt8
  originatorAddress : Ipv4Address
  timeToLive : UInt8
  hopCount : UInt8
  messageSequenceNumber : UInt16
  body : MessageBody
deriving DecidableEq, Repr

end ManetOlsr
