/-
The collector and the protocol on the same packet.

`RecvOlsr` counts down the length that the packet header tells by the sizes of the messages; the
collector counts it down by the bytes that the messages have taken, and looks at the first byte of
each.  What `SendQueuedMessages` has put into a packet they find alike, and the collector does not
mind what follows the packet.
-/
import ManetOlsr.Model.FeatureCollector
import ManetOlsr.Properties.PacketBatching

namespace ManetOlsr

open Lib

/-! ### Messages -/

/-- The first byte is the type of the message. -/
lemma head?_serialize (m : MessageHeader) (rest : List UInt8) :
    (m.serialize ++ rest).head? = some m.body.messageType := rfl

lemma messageType_mem (body : MessageBody) : ¬ (body.messageType < 1 ∨ body.messageType > 4) := by
  cases body <;> simp only [MessageBody.messageType] <;> decide

lemma totalSize_cons (m : MessageHeader) (l : List MessageHeader) :
    totalSize (m :: l) = m.getSerializedSize + totalSize l := by
  rw [totalSize, List.map_cons, List.sum_cons, totalSize]

/-- The loop of the collector takes off the messages, and stops before what follows them. -/
lemma parsedMessages_serialize (l : List MessageHeader) (hfits : totalSize l < 2 ^ 16)
    (padding : List UInt8) :
    parsedMessages (totalSize l) (l.flatMap MessageHeader.serialize ++ padding) = some l := by
  induction l with
  | nil =>
    have hzero : totalSize [] = 0 := rfl
    rw [parsedMessages, if_pos hzero]
  | cons m l ih =>
    rw [totalSize_cons] at hfits ⊢
    have hm : 12 ≤ m.getSerializedSize := Nat.le_add_right 12 _
    rw [List.flatMap_cons, List.append_assoc, parsedMessages, if_neg (by omega), head?_serialize]
    dsimp only
    rw [if_neg (messageType_mem m.body),
      removeHeader_serialize (by omega)]
    dsimp only
    generalize hrest : l.flatMap MessageHeader.serialize ++ padding = rest at ih ⊢
    have hlength : (m.serialize ++ rest).length = m.getSerializedSize + rest.length := by
      rw [List.length_append, m.length_serialize]
    have hconsumed : (if (m.serialize ++ rest).length ≥ rest.length then
        (m.serialize ++ rest).length - rest.length else 0) = m.getSerializedSize := by
      rw [hlength, if_pos (Nat.le_add_left _ _), Nat.add_sub_cancel]
    rw [hconsumed, if_neg (by omega), Nat.add_sub_cancel_left, ih (by omega), Option.map_some]

lemma length_addPacketHeader (bytes : List UInt8) (packetSequenceNumber : UInt16) :
    (addPacketHeader bytes packetSequenceNumber).length = olsrPktHeaderSize + bytes.length := by
  rw [addPacketHeader, List.length_append]
  rfl

/-- The messages of a datagram are found, whatever follows it. -/
lemma packetMessages_addPacketHeader {l : List MessageHeader}
    (hfits : olsrPktHeaderSize + totalSize l < 2 ^ 16) (packetSequenceNumber : UInt16)
    (padding : List UInt8) :
    packetMessages (addPacketHeader (l.flatMap MessageHeader.serialize) packetSequenceNumber ++
      padding) = some l := by
  have hstored : (UInt16.ofNat (olsrPktHeaderSize + totalSize l)).toNat =
      olsrPktHeaderSize + totalSize l := toNat_ofNat_size hfits
  generalize hbytes : l.flatMap MessageHeader.serialize = bytes
  have hlength : bytes.length = totalSize l := by rw [← hbytes, length_flatMap_serialize]
  have hlong : ¬ (addPacketHeader bytes packetSequenceNumber ++ padding).length <
      olsrPktHeaderSize := by
    rw [List.length_append, length_addPacketHeader]
    omega
  have hread : PacketHeader.deserialize.run (addPacketHeader bytes packetSequenceNumber ++
      padding) = some (⟨UInt16.ofNat (olsrPktHeaderSize + totalSize l), packetSequenceNumber⟩,
        bytes ++ padding) := by
    rw [addPacketHeader, hlength, List.append_assoc]
    exact PacketHeader.reads _ _
  -- the length that the header tells is at most what is there
  have hremaining : (if (if olsrPktHeaderSize + totalSize l > olsrPktHeaderSize then
      olsrPktHeaderSize + totalSize l - olsrPktHeaderSize else 0) > (bytes ++ padding).length then
      (bytes ++ padding).length else
      if olsrPktHeaderSize + totalSize l > olsrPktHeaderSize then
        olsrPktHeaderSize + totalSize l - olsrPktHeaderSize else 0) = totalSize l := by
    rw [List.length_append, hlength]
    split_ifs <;> omega
  rw [packetMessages, if_neg hlong, hread]
  dsimp only
  rw [hstored, hremaining, ← hbytes]
  rw [olsrPktHeaderSize] at hfits
  exact parsedMessages_serialize l (by omega) padding

/-! ### Frames -/

section Frames

variable {headers : FrameHeaders} {frame payload llcSnap ipv4 udp : List UInt8} {srcKey : UInt32}

/-- Behind the headers of a data frame to port 698 the payload is read as a packet. -/
lemma sniff_carries (h : headers.Carries frame srcKey payload llcSnap ipv4 udp) :
    sniff headers frame = (packetMessages payload).map (Sniffed.olsr srcKey) := by
  have hudp : sniffUdp headers srcKey udp =
      (packetMessages payload).map (Sniffed.olsr srcKey) := by
    rw [sniffUdp, if_neg (not_lt.mpr h.udp_size), h.udp]
    rfl
  have hipv4 : sniffIpv4 headers ipv4 = (packetMessages payload).map (Sniffed.olsr srcKey) := by
    rw [sniffIpv4, if_neg (not_lt.mpr h.ipv4_size), h.ipv4, ← hudp]
    rfl
  rw [sniff, if_neg (not_lt.mpr h.wifiMac_size), h.wifiMac]
  dsimp only
  rw [if_neg (by decide), if_neg (not_lt.mpr h.llcSnap_size), h.llcSnap, ← hipv4]
  rfl

variable {l : List MessageHeader} (hfits : olsrPktHeaderSize + totalSize l < 2 ^ 16)
include hfits

/-- A frame around a datagram and some padding has the messages of the datagram. -/
lemma sniff_datagram {packetSequenceNumber : UInt16} {padding : List UInt8}
    (h : headers.Carries frame srcKey (addPacketHeader (l.flatMap MessageHeader.serialize)
      packetSequenceNumber ++ padding) llcSnap ipv4 udp) :
    sniff headers frame = some (.olsr srcKey l) := by
  rw [sniff_carries h, packetMessages_addPacketHeader hfits, Option.map_some]

/-- The same for the headers of the simulator. -/
lemma sniff_ns3_frame (x : FrameHeaders.AdhocFields) (srcKey : UInt32)
    (packetSequenceNumber : UInt16) (padding : List UInt8) :
    sniff FrameHeaders.ns3 (x.frame srcKey (addPacketHeader (l.flatMap MessageHeader.serialize)
      packetSequenceNumber ++ padding)) = some (.olsr srcKey l) :=
  sniff_datagram hfits (FrameHeaders.ns3_carries x srcKey _)

end Frames

/-! ### Counters -/

/-- The counters of the message types rise by the numbers of the messages. -/
structure FeatureCollector.Rises (c : FeatureCollector) (l : List MessageHeader)
    (c' : FeatureCollector) : Prop where
  helloCount : c'.helloCount = c.helloCount + l.countP fun m => m.body.messageType = 1
  tcCount : c'.tcCount = c.tcCount + l.countP fun m => m.body.messageType = 2
  midCount : c'.midCount = c.midCount + l.countP fun m => m.body.messageType = 3
  hnaCount : c'.hnaCount = c.hnaCount + l.countP fun m => m.body.messageType = 4

namespace FeatureCollector

lemma rises_countMessage (c : FeatureCollector) (m : MessageHeader) :
    c.Rises [m] (c.countMessage m) := by
  rw [countMessage]
  cases hbody : m.body <;>
    exact ⟨by simp [hbody, MessageBody.messageType, countTc],
      by simp [hbody, MessageBody.messageType, countTc],
      by simp [hbody, MessageBody.messageType, countTc],
      by simp [hbody, MessageBody.messageType, countTc]⟩

lemma Rises.trans {c c' c'' : FeatureCollector} {l l' : List MessageHeader} (h : c.Rises l c')
    (h' : c'.Rises l' c'') : c.Rises (l ++ l') c'' where
  helloCount := by rw [h'.helloCount, h.helloCount, List.countP_append, Nat.add_assoc]
  tcCount := by rw [h'.tcCount, h.tcCount, List.countP_append, Nat.add_assoc]
  midCount := by rw [h'.midCount, h.midCount, List.countP_append, Nat.add_assoc]
  hnaCount := by rw [h'.hnaCount, h.hnaCount, List.countP_append, Nat.add_assoc]

lemma rises_foldl (c : FeatureCollector) (l : List MessageHeader) :
    c.Rises l (l.foldl countMessage c) := by
  induction l generalizing c with
  | nil => exact ⟨rfl, rfl, rfl, rfl⟩
  | cons m l ih => exact (c.rises_countMessage m).trans (ih (c.countMessage m))

/-- The headers below leave these counters alone. -/
lemma rises_account (c : FeatureCollector) (frameBytes : ℕ) (nowS : ℚ) (srcKey : UInt32)
    (l : List MessageHeader) : c.Rises l (c.account frameBytes nowS (.olsr srcKey l)) := by
  have h := rises_foldl
    (((c.countFrame frameBytes).countIpv4 frameBytes srcKey nowS).countOlsr frameBytes) l
  exact ⟨h.helloCount, h.tcCount, h.midCount, h.hnaCount⟩

end FeatureCollector

/-! ### Agreement -/

/-- Both find the messages `b` in the datagram `d`; the collector does so whatever the headers in
front and the padding behind, and counts these messages in their order. -/
structure ReadAlike (headers : FrameHeaders) (d : List UInt8) (b : List MessageHeader) : Prop where
  recvOlsr : parsePacket d = some b
  sniffed : ∀ frame srcKey padding llcSnap ipv4 udp,
    headers.Carries frame srcKey (d ++ padding) llcSnap ipv4 udp →
      sniff headers frame = some (.olsr srcKey b)
  observed : ∀ (c : FeatureCollector) nowS frame srcKey padding llcSnap ipv4 udp,
    headers.Carries frame srcKey (d ++ padding) llcSnap ipv4 udp →
      ∃ c', c.observeSniffedFrame headers nowS (some frame) = some c' ∧
        c' = c.account frame.length nowS (.olsr srcKey b) ∧ c.Rises b c'

lemma readAlike_addPacketHeader (headers : FrameHeaders) {l : List MessageHeader}
    (hfits : olsrPktHeaderSize + totalSize l < 2 ^ 16) (packetSequenceNumber : UInt16) :
    ReadAlike headers (addPacketHeader (l.flatMap MessageHeader.serialize) packetSequenceNumber)
      l where
  recvOlsr := parsePacket_addPacketHeader hfits packetSequenceNumber
  sniffed := fun _ _ _ _ _ _ h => sniff_datagram hfits h
  observed := by
    intro c nowS frame srcKey padding llcSnap ipv4 udp h
    refine ⟨_, ?_, rfl, c.rises_account frame.length nowS srcKey l⟩
    rw [FeatureCollector.observeSniffedFrame_eq, Option.elim_some, sniff_datagram hfits h,
      Option.map_some]

/-- **The collector agrees with the protocol** on every packet that `SendQueuedMessages` builds and
whose length its header can tell. -/
theorem sendQueuedMessages_readAlike {D : Type} (n : Node D) (headers : FrameHeaders) :
    ∃ bs : List (List MessageHeader), bs.flatten = n.queuedMessages ∧
      List.Forall₂ (fun d b => olsrPktHeaderSize + totalSize b < 2 ^ 16 → ReadAlike headers d b)
        n.sendQueuedMessagesLoop.datagrams bs := by
  obtain ⟨x, hnil, hbatched, hloop⟩ := sendQueuedMessagesLoop_batched n
  refine ⟨n.queuedMessages.toChunks olsrMaxMsgs, ?_, ?_⟩
  · have hprocessed := hbatched.processed_eq
    rwa [hnil, List.append_nil] at hprocessed
  · rw [hloop]
    refine hbatched.datagrams.imp ?_
    rintro d b ⟨packetSequenceNumber, rfl⟩ hfits
    exact readAlike_addPacketHeader headers hfits packetSequenceNumber

end ManetOlsr
