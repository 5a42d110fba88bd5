/-
The bytes of OLSR packets (`olsr-header.cc`).

A buffer is a list of bytes, and `Deserialize` reads it through an iterator; where the source passes
an iterator on by value, the bytes behind it are read once only, so that the readers below go on
where the inner one has stopped.  An assertion that does not hold, and a read past the end of the
buffer, make a reader fail.  Sizes are natural numbers where the source adds them up, since no
buffer is longer than `uint32_t` tells; a size that is read off the wire keeps its width.

`Deserialize` answers the number of bytes that the caller removes, and stores the size that it has
read, which comes back beside the message.
-/
import ManetOlsr.Lib.Wire
import ManetOlsr.Model.Header

namespace ManetOlsr

open Lib Lib.Reader

/-- `IPV4_ADDRESS_SIZE`, `OLSR_MSG_HEADER_SIZE` and `OLSR_PKT_HEADER_SIZE`. -/
def ipv4AddressSize : ℕ := 4

def olsrMsgHeaderSize : ℕ := 12

def olsrPktHeaderSize : ℕ := 4

/-! ### MID messages -/

namespace Mid

def getSerializedSize (mid : Mid) : ℕ := mid.interfaceAddresses.length * ipv4AddressSize

def serialize (mid : Mid) : List UInt8 := mid.interfaceAddresses.flatMap writeHtonU32

def deserialize (messageSize : UInt32) : Reader (Mid × ℕ) := do
  assert (messageSize.toNat % ipv4AddressSize = 0)
  let interfaceAddresses ← readMany readNtohU32 (messageSize.toNat / ipv4AddressSize)
  pure (⟨interfaceAddresses⟩, Mid.getSerializedSize ⟨interfaceAddresses⟩)

end Mid

/-! ### HELLO messages -/

namespace LinkMessage

def getSerializedSize (lm : LinkMessage) : ℕ :=
  4 + ipv4AddressSize * lm.neighborInterfaceAddresses.length

def serialize (lm : LinkMessage) : List UInt8 :=
  writeU8 lm.linkCode ++ writeU8 0 ++ writeHtonU16 (UInt16.ofNat lm.getSerializedSize) ++
    lm.neighborInterfaceAddresses.flatMap writeHtonU32

/-- The body of the loop, which answers the size of the link message as well.  A size below 4 makes
the loop over the addresses run past the end of the buffer. -/
def deserialize : Reader (LinkMessage × UInt16) := do
  let linkCode ← readU8
  let _ ← readU8
  let lmSize ← readNtohU16
  assert (4 ≤ lmSize.toNat)
  assert ((lmSize.toNat - 4) % ipv4AddressSize = 0)
  let addresses ← readMany readNtohU32 ((lmSize.toNat - 4) / ipv4AddressSize)
  pure (⟨linkCode, addresses⟩, lmSize)

/-- The body of the loop with the count of the addresses as it is written, an `int` that is -1 for a
size of zero; every address that it reads takes bytes, so that there are rounds enough. -/
def deserializeCounting : Reader (LinkMessage × UInt16) := do
  let linkCode ← readU8
  let _ ← readU8
  let lmSize ← readNtohU16
  assert (((lmSize.toNat : ℤ) - 4).tmod ipv4AddressSize = 0)
  let bytes ← get
  let addresses ← readCountdown readNtohU32 bytes.length
    (((lmSize.toNat : ℤ) - 4).tdiv ipv4AddressSize)
  pure (⟨linkCode, addresses⟩, lmSize)

/-- A size below 4 is not divisible, or it makes the count negative. -/
lemma deserializeCounting_eq : deserializeCounting = deserialize := by
  rw [deserializeCounting, deserialize]
  refine bind_congr fun linkCode => bind_congr fun _ => bind_congr fun lmSize => ?_
  generalize hn : lmSize.toNat = n
  funext bytes
  by_cases hfour : 4 ≤ n
  · obtain ⟨m, rfl⟩ := Nat.exists_eq_add_of_le hfour
    have hcast : ((4 + m : ℕ) : ℤ) - 4 = (m : ℕ) := by omega
    have hmod : ((m : ℕ) : ℤ).tmod ipv4AddressSize = 0 ↔ m % ipv4AddressSize = 0 := by
      rw [← Int.ofNat_tmod, Int.natCast_eq_zero]
    rw [hcast, Nat.add_sub_cancel_left, ← Int.ofNat_tdiv]
    by_cases hdivides : m % ipv4AddressSize = 0
    · have hcount := Takes.countdown_run (n := m / ipv4AddressSize) Takes.u32 (by decide)
        (le_refl bytes.length)
      rw [assert, assert, assert, if_pos (hmod.mpr hdivides), if_pos hfour, if_pos hdivides]
      show ((readCountdown readNtohU32 bytes.length _).run bytes).bind _ = _
      rw [hcount]
      rfl
    · rw [assert, assert, assert, if_neg (fun h => hdivides (hmod.mp h)), if_pos hfour,
        if_neg hdivides]
      rfl
  · rw [assert, assert, if_neg hfour]
    by_cases hdivides : ((n : ℤ) - 4).tmod ipv4AddressSize = 0
    · -- Of the sizes below 4, only zero gets here.
      have hzero : n = 0 := by
        have hcases : n = 0 ∨ n = 1 ∨ n = 2 ∨ n = 3 := by omega
        rcases hcases with h | rfl | rfl | rfl
        · exact h
        · exact absurd hdivides (by decide)
        · exact absurd hdivides (by decide)
        · exact absurd hdivides (by decide)
      subst hzero
      have hnever := Takes.countdown_neg (r := readNtohU32)
        (n := ((0 : ℕ) - 4 : ℤ).tdiv ipv4AddressSize) (by decide) bytes.length bytes
      rw [if_pos hdivides]
      show ((readCountdown readNtohU32 bytes.length _).run bytes).bind _ = none
      rw [hnever]
      rfl
    · rw [if_neg hdivides]
      rfl

end LinkMessage

namespace Hello

def getSerializedSize (hello : Hello) : ℕ :=
  4 + (hello.linkMessages.map LinkMessage.getSerializedSize).sum

def serialize (hello : Hello) : List UInt8 :=
  writeHtonU16 0 ++ writeU8 hello.hTime ++ writeU8 hello.willingness ++
    hello.linkMessages.flatMap LinkMessage.serialize

/-- `while (helloSizeLeft)`, for a number of rounds; every round reads four bytes at least. -/
def readLinkMessages : ℕ → UInt16 → Reader (List LinkMessage)
  | 0, helloSizeLeft => do
    assert (helloSizeLeft = 0)
    pure []
  | rounds + 1, helloSizeLeft =>
    if helloSizeLeft = 0 then pure []
    else do
      assert (4 ≤ helloSizeLeft)
      let (lm, lmSize) ← LinkMessage.deserialize
      let linkMessages ← readLinkMessages rounds (helloSizeLeft - lmSize)
      pure (lm :: linkMessages)

def deserialize (messageSize : UInt32) : Reader (Hello × ℕ) := do
  assert (4 ≤ messageSize)
  let _ ← readNtohU16
  let hTime ← readU8
  let willingness ← readU8
  let bytes ← get
  let linkMessages ← readLinkMessages bytes.length (messageSize.toUInt16 - 4)
  pure (⟨hTime, willingness, linkMessages⟩, messageSize.toNat)

end Hello

/-! ### TC messages -/

namespace Tc

def getSerializedSize (tc : Tc) : ℕ := 4 + tc.neighborAddresses.length * ipv4AddressSize

def serialize (tc : Tc) : List UInt8 :=
  writeHtonU16 tc.ansn ++ writeHtonU16 0 ++ tc.neighborAddresses.flatMap writeHtonU32

def deserialize (messageSize : UInt32) : Reader (Tc × ℕ) := do
  assert (4 ≤ messageSize)
  let ansn ← readNtohU16
  let _ ← readNtohU16
  assert ((messageSize.toNat - 4) % ipv4AddressSize = 0)
  let neighborAddresses ← readMany readNtohU32 ((messageSize.toNat - 4) / ipv4AddressSize)
  pure (⟨neighborAddresses, ansn⟩, messageSize.toNat)

end Tc

/-! ### HNA messages -/

/-- An association, as two addresses. -/
def Association.serialize (a : Association) : List UInt8 :=
  writeHtonU32 a.networkAddr ++ writeHtonU32 a.netmask

def Association.deserialize : Reader Association := do
  let address ← readNtohU32
  let mask ← readNtohU32
  pure ⟨address, mask⟩

namespace Hna

def getSerializedSize (hna : Hna) : ℕ := 2 * hna.associations.length * ipv4AddressSize

def serialize (hna : Hna) : List UInt8 := hna.associations.flatMap Association.serialize

def deserialize (messageSize : UInt32) : Reader (Hna × ℕ) := do
  assert (messageSize.toNat % (ipv4AddressSize * 2) = 0)
  let associations ← readMany Association.deserialize (messageSize.toNat / ipv4AddressSize / 2)
  pure (⟨associations⟩, messageSize.toNat)

end Hna

/-! ### Messages -/

namespace MessageBody

/-- `MessageType`. -/
def messageType : MessageBody → UInt8
  | hello _ => 1
  | tc _ => 2
  | mid _ => 3
  | hna _ => 4

def getSerializedSize : MessageBody → ℕ
  | .hello h => h.getSerializedSize
  | .tc t => t.getSerializedSize
  | .mid m => m.getSerializedSize
  | .hna h => h.getSerializedSize

def serialize : MessageBody → List UInt8
  | .hello h => h.serialize
  | .tc t => t.serialize
  | .mid m => m.serialize
  | .hna h => h.serialize

/-- The body of a message of this type, and its size. -/
def deserialize (messageType : UInt8) (messageSize : UInt32) : Reader (MessageBody × ℕ) :=
  if messageType = 1 then do
    let (h, size) ← Hello.deserialize messageSize
    pure (.hello h, size)
  else if messageType = 2 then do
    let (t, size) ← Tc.deserialize messageSize
    pure (.tc t, size)
  else if messageType = 3 then do
    let (m, size) ← Mid.deserialize messageSize
    pure (.mid m, size)
  else if messageType = 4 then do
    let (h, size) ← Hna.deserialize messageSize
    pure (.hna h, size)
  else failure

end MessageBody

namespace MessageHeader

variable (m : MessageHeader)

def getSerializedSize : ℕ := olsrMsgHeaderSize + m.body.getSerializedSize

def serialize : List UInt8 :=
  writeU8 m.body.messageType ++ writeU8 m.vTime ++
    writeHtonU16 (UInt16.ofNat m.getSerializedSize) ++ writeHtonU32 m.originatorAddress ++
    writeU8 m.timeToLive ++ writeU8 m.hopCount ++ writeHtonU16 m.messageSequenceNumber ++
    m.body.serialize

end MessageHeader

/-- What `MessageHeader::Deserialize` leaves: the message with its stored size, and the number of
bytes that it answers. -/
structure Deserialized where
  messageSize : UInt16
  message : MessageHeader
  size : ℕ
deriving DecidableEq, Repr

def MessageHeader.deserialize : Reader Deserialized := do
  let messageType ← readU8
  let vTime ← readU8
  let messageSize ← readNtohU16
  let originatorAddress ← readNtohU32
  let timeToLive ← readU8
  let hopCount ← readU8
  let messageSequenceNumber ← readNtohU16
  let (body, size) ←
    MessageBody.deserialize messageType
      (UInt32.ofNat messageSize.toNat - UInt32.ofNat olsrMsgHeaderSize)
  pure ⟨messageSize,
    ⟨vTime, originatorAddress, timeToLive, hopCount, messageSequenceNumber, body⟩,
    olsrMsgHeaderSize + size⟩

end ManetOlsr
