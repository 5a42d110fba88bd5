/-
The round trip of OLSR messages.

Each of the four formats reads back what it has written, if the size it is told is the size of what
was written.  The message header tells that size in a field of two bytes, so that messages of less
than 64 KiB come back as they were, with nothing after them touched.
-/
import ManetOlsr.Model.Wire

namespace ManetOlsr

open Lib Lib.Reader

/-! ### Sizes -/

lemma Mid.length_serialize (mid : Mid) : mid.serialize.length = mid.getSerializedSize := by
  rw [Mid.serialize, length_flatMap_const length_writeHtonU32, Mid.getSerializedSize,
    ipv4AddressSize, Nat.mul_comm]

lemma LinkMessage.length_serialize (lm : LinkMessage) :
    lm.serialize.length = lm.getSerializedSize := by
  simp only [LinkMessage.serialize, List.length_append, length_writeU8, length_writeHtonU16,
    length_flatMap_const length_writeHtonU32, LinkMessage.getSerializedSize, ipv4AddressSize]

lemma Hello.length_serialize (hello : Hello) :
    hello.serialize.length = hello.getSerializedSize := by
  have hlinks : (hello.linkMessages.flatMap LinkMessage.serialize).length =
      (hello.linkMessages.map LinkMessage.getSerializedSize).sum := by
    rw [List.length_flatMap]
    exact congrArg List.sum (List.map_congr_left fun lm _ => lm.length_serialize)
  simp only [Hello.serialize, List.length_append, length_writeU8, length_writeHtonU16, hlinks,
    Hello.getSerializedSize]

lemma Tc.length_serialize (tc : Tc) : tc.serialize.length = tc.getSerializedSize := by
  simp only [Tc.serialize, List.length_append, length_writeHtonU16,
    length_flatMap_const length_writeHtonU32, Tc.getSerializedSize, ipv4AddressSize]
  omega

lemma Hna.length_serialize (hna : Hna) : hna.serialize.length = hna.getSerializedSize := by
  rw [Hna.serialize, length_flatMap_const (k := 8) fun _ => rfl, Hna.getSerializedSize,
    ipv4AddressSize]
  omega

lemma MessageBody.length_serialize (body : MessageBody) :
    body.serialize.length = body.getSerializedSize := by
  cases body with
  | hello h => exact h.length_serialize
  | tc t => exact t.length_serialize
  | mid m => exact m.length_serialize
  | hna h => exact h.length_serialize

lemma MessageHeader.length_serialize (m : MessageHeader) :
    m.serialize.length = m.getSerializedSize := by
  simp only [MessageHeader.serialize, List.length_append, length_writeU8, length_writeHtonU16,
    length_writeHtonU32, m.body.length_serialize, MessageHeader.getSerializedSize, olsrMsgHeaderSize]

/-! ### Reading back -/

lemma Mid.reads (mid : Mid) {messageSize : UInt32}
    (h : messageSize.toNat = mid.getSerializedSize) :
    Reads (Mid.deserialize messageSize) mid.serialize (mid, mid.getSerializedSize) := by
  have hmod : messageSize.toNat % ipv4AddressSize = 0 := by
    rw [h, Mid.getSerializedSize, Nat.mul_mod_left]
  have hdiv : messageSize.toNat / ipv4AddressSize = mid.interfaceAddresses.length := by
    rw [h, Mid.getSerializedSize, Nat.mul_div_cancel _ (by decide)]
  have haddresses := Reads.many (w := writeHtonU32) Reads.u32 mid.interfaceAddresses
  rw [← hdiv] at haddresses
  exact Reads.assert hmod haddresses.last

/-- A size of less than 64 KiB is written and read without loss. -/
lemma toNat_ofNat_size {size : ℕ} (h : size < 2 ^ 16) : (UInt16.ofNat size).toNat = size := by
  rw [UInt16.toNat_ofNat']
  exact Nat.mod_eq_of_lt h

lemma LinkMessage.reads (lm : LinkMessage) (h : lm.getSerializedSize < 2 ^ 16) :
    Reads LinkMessage.deserialize lm.serialize (lm, UInt16.ofNat lm.getSerializedSize) := by
  have hsize : (UInt16.ofNat lm.getSerializedSize).toNat =
      4 + 4 * lm.neighborInterfaceAddresses.length := toNat_ofNat_size h
  have hdiv : ((UInt16.ofNat lm.getSerializedSize).toNat - 4) / ipv4AddressSize =
      lm.neighborInterfaceAddresses.length := by
    rw [hsize, ipv4AddressSize]
    omega
  have haddresses := Reads.many (w := writeHtonU32) Reads.u32 lm.neighborInterfaceAddresses
  rw [← hdiv] at haddresses
  rw [LinkMessage.serialize, List.append_assoc, List.append_assoc]
  refine (Reads.u8 _).bind ((Reads.u8 _).bind ((Reads.u16 _).bind ?_))
  refine Reads.assert ?_ (Reads.assert ?_ haddresses.last)
  · rw [hsize]
    omega
  · rw [hsize, ipv4AddressSize]
    omega

/-- The loop reads the link messages whose sizes make up what is left. -/
lemma Hello.reads_linkMessages (linkMessages : List LinkMessage) {rounds : ℕ}
    (hrounds : linkMessages.length ≤ rounds) {helloSizeLeft : UInt16}
    (h : helloSizeLeft.toNat = (linkMessages.map LinkMessage.getSerializedSize).sum) :
    Reads (Hello.readLinkMessages rounds helloSizeLeft)
      (linkMessages.flatMap LinkMessage.serialize) linkMessages := by
  induction linkMessages generalizing rounds helloSizeLeft with
  | nil =>
    have hzero : helloSizeLeft = 0 := UInt16.toNat_inj.mp h
    cases rounds with
    | zero => exact Reads.assert hzero (Reads.pure [])
    | succ rounds =>
      rw [Hello.readLinkMessages, if_pos hzero]
      exact Reads.pure []
  | cons lm linkMessages ih =>
    obtain ⟨rounds, rfl⟩ : ∃ k, rounds = k + 1 := Nat.exists_eq_add_one.mpr (by
      rw [List.length_cons] at hrounds
      omega)
    rw [List.map_cons, List.sum_cons] at h
    have hlt := helloSizeLeft.toNat_lt
    have hfour : 4 ≤ lm.getSerializedSize := Nat.le_add_right 4 _
    have hsize : (UInt16.ofNat lm.getSerializedSize).toNat = lm.getSerializedSize :=
      toNat_ofNat_size (by omega)
    have hle : UInt16.ofNat lm.getSerializedSize ≤ helloSizeLeft := by
      rw [UInt16.le_iff_toNat_le, hsize]
      omega
    have hne : helloSizeLeft ≠ 0 := by
      rintro rfl
      rw [UInt16.toNat_zero] at h
      omega
    have hrest : (helloSizeLeft - UInt16.ofNat lm.getSerializedSize).toNat =
        (linkMessages.map LinkMessage.getSerializedSize).sum := by
      rw [UInt16.toNat_sub_of_le _ _ hle, hsize]
      omega
    rw [Hello.readLinkMessages, if_neg hne, List.flatMap_cons]
    refine Reads.assert ?_ ((lm.reads (by omega)).bind (ih ?_ hrest).last)
    · rw [UInt16.le_iff_toNat_le]
      show 4 ≤ helloSizeLeft.toNat
      omega
    · rw [List.length_cons] at hrounds
      omega

lemma Hello.reads (hello : Hello) (hsize : hello.getSerializedSize < 2 ^ 16) {messageSize : UInt32}
    (h : messageSize.toNat = hello.getSerializedSize) :
    Reads (Hello.deserialize messageSize) hello.serialize (hello, hello.getSerializedSize) := by
  have hfour : 4 ≤ messageSize := by
    rw [UInt32.le_iff_toNat_le, h]
    exact Nat.le_add_right 4 _
  have hlow : messageSize.toUInt16.toNat = hello.getSerializedSize := by
    rw [UInt32.toNat_toUInt16, h, Nat.mod_eq_of_lt hsize]
  have hleft : (messageSize.toUInt16 - 4).toNat =
      (hello.linkMessages.map LinkMessage.getSerializedSize).sum := by
    have hle : (4 : UInt16) ≤ messageSize.toUInt16 := by
      rw [UInt16.le_iff_toNat_le, hlow]
      exact Nat.le_add_right 4 _
    rw [UInt16.toNat_sub_of_le _ _ hle, hlow, Hello.getSerializedSize]
    exact Nat.add_sub_cancel_left 4 _
  -- There is a byte at least for every link message, so that there are rounds enough.
  have hrounds : ∀ rest, hello.linkMessages.length ≤
      (hello.linkMessages.flatMap LinkMessage.serialize ++ rest).length := by
    intro rest
    rw [List.length_append]
    refine Nat.le_add_right_of_le ?_
    induction hello.linkMessages with
    | nil => exact le_rfl
    | cons lm l ih =>
      have hpos : 4 ≤ lm.serialize.length := by
        rw [lm.length_serialize]
        exact Nat.le_add_right 4 _
      rw [List.flatMap_cons, List.length_append, List.length_cons]
      omega
  rw [Hello.serialize, List.append_assoc, List.append_assoc, ← h]
  refine Reads.assert hfour ((Reads.u16 _).bind ((Reads.u8 _).bind ((Reads.u8 _).bind ?_)))
  intro rest
  have hloop := Hello.reads_linkMessages hello.linkMessages (hrounds rest) hleft rest
  show Option.bind (StateT.run (Hello.readLinkMessages _ _) _) _ = _
  rw [hloop]
  rfl

lemma Tc.reads (tc : Tc) {messageSize : UInt32} (h : messageSize.toNat = tc.getSerializedSize) :
    Reads (Tc.deserialize messageSize) tc.serialize (tc, tc.getSerializedSize) := by
  have hfour : 4 ≤ messageSize := by
    rw [UInt32.le_iff_toNat_le, h]
    exact Nat.le_add_right 4 _
  have hleft : messageSize.toNat - 4 = tc.neighborAddresses.length * ipv4AddressSize := by
    rw [h, Tc.getSerializedSize]
    omega
  have hmod : (messageSize.toNat - 4) % ipv4AddressSize = 0 := by rw [hleft, Nat.mul_mod_left]
  have hdiv : (messageSize.toNat - 4) / ipv4AddressSize = tc.neighborAddresses.length := by
    rw [hleft, Nat.mul_div_cancel _ (by decide)]
  have haddresses := Reads.many (w := writeHtonU32) Reads.u32 tc.neighborAddresses
  rw [← hdiv] at haddresses
  rw [Tc.serialize, List.append_assoc, ← h]
  exact Reads.assert hfour ((Reads.u16 _).bind ((Reads.u16 _).bind
    (Reads.assert hmod haddresses.last)))

lemma Association.reads (a : Association) : Reads Association.deserialize a.serialize a :=
  (Reads.u32 _).bind (Reads.u32 _).last

lemma Hna.reads (hna : Hna) {messageSize : UInt32} (h : messageSize.toNat = hna.getSerializedSize) :
    Reads (Hna.deserialize messageSize) hna.serialize (hna, hna.getSerializedSize) := by
  have hsize : messageSize.toNat = hna.associations.length * (ipv4AddressSize * 2) := by
    rw [h, Hna.getSerializedSize, ipv4AddressSize]
    omega
  have hmod : messageSize.toNat % (ipv4AddressSize * 2) = 0 := by rw [hsize, Nat.mul_mod_left]
  have hdiv : messageSize.toNat / ipv4AddressSize / 2 = hna.associations.length := by
    rw [Nat.div_div_eq_div_mul, hsize, Nat.mul_div_cancel _ (by decide)]
  have hassociations := Reads.many (w := Association.serialize) Association.reads hna.associations
  rw [← hdiv] at hassociations
  rw [← h]
  exact Reads.assert hmod hassociations.last

lemma MessageBody.reads (body : MessageBody) (hsize : body.getSerializedSize < 2 ^ 16)
    {messageSize : UInt32} (h : messageSize.toNat = body.getSerializedSize) :
    Reads (MessageBody.deserialize body.messageType messageSize) body.serialize
      (body, body.getSerializedSize) := by
  cases body with
  | hello hello => exact (hello.reads hsize h).last
  | tc tc => exact (tc.reads h).last
  | mid mid => exact (mid.reads h).last
  | hna hna => exact (hna.reads h).last

/-! ### Messages -/

namespace MessageHeader

variable (m : MessageHeader)

lemma reads (h : m.getSerializedSize < 2 ^ 16) :
    Reads MessageHeader.deserialize m.serialize
      ⟨UInt16.ofNat m.getSerializedSize, m, m.getSerializedSize⟩ := by
  have hstored : (UInt16.ofNat m.getSerializedSize).toNat = 12 + m.body.getSerializedSize :=
    toNat_ofNat_size h
  have hbody : m.body.getSerializedSize < 2 ^ 16 := lt_of_le_of_lt (Nat.le_add_left _ _) h
  have hleft : (UInt32.ofNat (UInt16.ofNat m.getSerializedSize).toNat -
      UInt32.ofNat olsrMsgHeaderSize).toNat = m.body.getSerializedSize := by
    have hsize : (UInt32.ofNat (UInt16.ofNat m.getSerializedSize).toNat).toNat =
        12 + m.body.getSerializedSize := by
      rw [UInt32.toNat_ofNat', hstored]
      omega
    have hle : UInt32.ofNat olsrMsgHeaderSize ≤
        UInt32.ofNat (UInt16.ofNat m.getSerializedSize).toNat := by
      rw [UInt32.le_iff_toNat_le, hsize]
      exact Nat.le_add_right 12 _
    rw [UInt32.toNat_sub_of_le _ _ hle, hsize]
    exact Nat.add_sub_cancel_left 12 _
  simp only [serialize, List.append_assoc]
  exact (Reads.u8 _).bind ((Reads.u8 _).bind ((Reads.u16 _).bind ((Reads.u32 _).bind
    ((Reads.u8 _).bind ((Reads.u8 _).bind ((Reads.u16 _).bind
      (m.body.reads hbody hleft).last))))))

/-- **The round trip.**  A message of less than 64 KiB is written in as many bytes as
`GetSerializedSize` tells, and is read back from them, whatever comes after them, with this size
stored and reported. -/
theorem deserialize_serialize (h : m.getSerializedSize < 2 ^ 16) :
    m.serialize.length = m.getSerializedSize ∧
    ∀ suffix, MessageHeader.deserialize.run (m.serialize ++ suffix) =
      some (⟨UInt16.ofNat m.getSerializedSize, m, m.getSerializedSize⟩, suffix) :=
  ⟨m.length_serialize, m.reads h⟩

/-- A HELLO message with an empty link message, and one that lists two addresses. -/
def sampleHello : MessageHeader where
  vTime := 0x86
  originatorAddress := 0x0a000001
  timeToLive := 1
  hopCount := 0
  messageSequenceNumber := 7
  body := .hello ⟨0x05, Willingness.default, [⟨0x06, []⟩, ⟨0x01, [0x0a000002, 0x0a000003]⟩]⟩

theorem sampleHello_deserialize_serialize :
    sampleHello.serialize.length = 32 ∧
    ∀ suffix, MessageHeader.deserialize.run (sampleHello.serialize ++ suffix) =
      some (⟨32, sampleHello, 32⟩, suffix) :=
  sampleHello.deserialize_serialize (by decide)

end MessageHeader

end ManetOlsr
