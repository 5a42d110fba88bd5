/-
The way of the queued messages through packets.

The batches of the loop of `SendQueuedMessages` are the chunks that `Node.sendQueuedMessages` sends,
and `RecvOlsr` reads every batch back.
-/
import ManetOlsr.Model.PacketBatching
import ManetOlsr.Properties.MessageCodec

namespace ManetOlsr

open Lib Lib.Reader

/-! ### Messages off a packet -/

namespace PacketHeader

lemma reads (h : PacketHeader) : Reads PacketHeader.deserialize h.serialize h :=
  (Reads.u16 _).bind (Reads.u16 _).last

end PacketHeader

/-- The bytes of a list of messages. -/
def totalSize (l : List MessageHeader) : ℕ := (l.map MessageHeader.getSerializedSize).sum

lemma length_flatMap_serialize (l : List MessageHeader) :
    (l.flatMap MessageHeader.serialize).length = totalSize l := by
  rw [List.length_flatMap, totalSize]
  exact congrArg List.sum (List.map_congr_left fun m _ => m.length_serialize)

/-- Every message has a header. -/
lemma length_le_totalSize (l : List MessageHeader) : 12 * l.length ≤ totalSize l := by
  induction l with
  | nil => exact le_rfl
  | cons m l ih =>
    have hm : 12 ≤ m.getSerializedSize := Nat.le_add_right 12 _
    rw [totalSize] at ih ⊢
    rw [List.map_cons, List.sum_cons, List.length_cons]
    omega

lemma removeHeader_serialize {m : MessageHeader} (h : m.getSerializedSize < 2 ^ 16)
    (rest : List UInt8) : removeHeader (m.serialize ++ rest) = some (m, rest) := by
  rw [removeHeader, m.reads h rest]
  have hmod : m.getSerializedSize % 2 ^ 32 = m.serialize.length := by
    rw [m.length_serialize]
    omega
  simp only [hmod, List.drop_left]

/-- The loop takes off the messages whose sizes make up what is left. -/
lemma parseMessages_serialize (l : List MessageHeader) {rounds : ℕ} (hrounds : l.length ≤ rounds)
    (hfits : totalSize l < 2 ^ 16) {sizeLeft : UInt32} (h : sizeLeft.toNat = totalSize l) :
    parseMessages rounds sizeLeft (l.flatMap MessageHeader.serialize) = some l := by
  induction l generalizing rounds sizeLeft with
  | nil =>
    have hzero : sizeLeft = 0 := UInt32.toNat_inj.mp h
    cases rounds with
    | zero => rw [parseMessages, if_pos hzero]
    | succ rounds => rw [parseMessages, if_pos hzero]
  | cons m l ih =>
    obtain ⟨rounds, rfl⟩ : ∃ k, rounds = k + 1 := Nat.exists_eq_add_one.mpr (by
      rw [List.length_cons] at hrounds
      omega)
    have htotal : totalSize (m :: l) = m.getSerializedSize + totalSize l := by
      rw [totalSize, List.map_cons, List.sum_cons, totalSize]
    rw [htotal] at h hfits
    have hm : 12 ≤ m.getSerializedSize := Nat.le_add_right 12 _
    have hsize : (UInt32.ofNat m.getSerializedSize).toNat = m.getSerializedSize := by
      rw [UInt32.toNat_ofNat']
      omega
    have hne : sizeLeft ≠ 0 := by
      rintro rfl
      rw [UInt32.toNat_zero] at h
      omega
    have hrest : (sizeLeft - UInt32.ofNat m.getSerializedSize).toNat = totalSize l := by
      have hle : UInt32.ofNat m.getSerializedSize ≤ sizeLeft := by
        rw [UInt32.le_iff_toNat_le, hsize, h]
        exact Nat.le_add_right _ _
      rw [UInt32.toNat_sub_of_le _ _ hle, hsize, h]
      exact Nat.add_sub_cancel_left _ _
    have hlength : l.length ≤ rounds := by
      rw [List.length_cons] at hrounds
      omega
    rw [parseMessages, if_neg hne, List.flatMap_cons, removeHeader_serialize (by omega)]
    simp only [ih hlength (by omega) hrest, Option.map_some]

/-- The messages of a packet are read back. -/
lemma parsePacket_addPacketHeader {l : List MessageHeader}
    (hfits : olsrPktHeaderSize + totalSize l < 2 ^ 16) (packetSequenceNumber : UInt16) :
    parsePacket (addPacketHeader (l.flatMap MessageHeader.serialize) packetSequenceNumber) =
      some l := by
  have hlength := length_flatMap_serialize l
  have hstored : (UInt16.ofNat (olsrPktHeaderSize + totalSize l)).toNat =
      4 + totalSize l := toNat_ofNat_size hfits
  rw [olsrPktHeaderSize] at hfits
  have hleft : (UInt32.ofNat (UInt16.ofNat (olsrPktHeaderSize + totalSize l)).toNat -
      UInt32.ofNat olsrPktHeaderSize).toNat = totalSize l := by
    have hsize : (UInt32.ofNat (UInt16.ofNat (olsrPktHeaderSize + totalSize l)).toNat).toNat =
        4 + totalSize l := by
      rw [UInt32.toNat_ofNat', hstored]
      omega
    have hle : UInt32.ofNat olsrPktHeaderSize ≤
        UInt32.ofNat (UInt16.ofNat (olsrPktHeaderSize + totalSize l)).toNat := by
      rw [UInt32.le_iff_toNat_le, hsize]
      exact Nat.le_add_right 4 _
    rw [UInt32.toNat_sub_of_le _ _ hle, hsize]
    exact Nat.add_sub_cancel_left 4 _
  have hasserted : olsrPktHeaderSize ≤
      (UInt16.ofNat (olsrPktHeaderSize + totalSize l)).toNat := by
    rw [hstored]
    exact Nat.le_add_right 4 _
  have hrounds : l.length ≤ (l.flatMap MessageHeader.serialize).length := by
    have htotal := length_le_totalSize l
    omega
  rw [addPacketHeader, hlength, parsePacket, (PacketHeader.reads _) _]
  simp only [if_pos hasserted]
  exact parseMessages_serialize l hrounds (by omega) hleft

/-! ### The batches -/

variable {D : Type} {n : Node D}

/-- What the loop has done with the messages `processed`: the batches `bs` have been sent. -/
structure Batched (n : Node D) (processed : List MessageHeader) (bs : List (List MessageHeader))
    (x : SendLoop D) : Prop where
  processed_eq : bs.flatten ++ x.msglist = processed
  node_eq : x.node = bs.foldl Node.sendPacket n
  datagrams : List.Forall₂ (fun d b => ∃ packetSequenceNumber,
    d = addPacketHeader (b.flatMap MessageHeader.serialize) packetSequenceNumber) x.datagrams bs
  packet_eq : x.packet = x.msglist.flatMap MessageHeader.serialize
  numMessages_eq : x.numMessages = x.msglist.length
  batch_length : ∀ b ∈ bs, b ≠ [] ∧ b.length ≤ olsrMaxMsgs

namespace Batched

variable {processed : List MessageHeader} {bs : List (List MessageHeader)} {x : SendLoop D}

lemma start : Batched n [] [] { node := n } :=
  ⟨rfl, rfl, List.Forall₂.nil, rfl, rfl, by simp⟩

lemma sendPacket (h : Batched n processed bs x) (hne : x.msglist ≠ [])
    (hle : x.msglist.length ≤ olsrMaxMsgs) :
    Batched n processed (bs ++ [x.msglist]) x.sendPacket := by
  refine ⟨?_, ?_, ?_, rfl, rfl, ?_⟩
  · rw [List.flatten_append, List.flatten_singleton]
    show _ ++ [] = _
    rw [List.append_nil, h.processed_eq]
  · rw [List.foldl_append, ← h.node_eq]
    rfl
  · refine List.rel_append h.datagrams
      (List.Forall₂.cons ⟨x.node.packetSequenceNumber + 1, ?_⟩ List.Forall₂.nil)
    rw [h.packet_eq]
  · intro b hb
    rcases List.mem_append.mp hb with hb | hb
    · exact h.batch_length b hb
    · rw [List.mem_singleton.mp hb]
      exact ⟨hne, hle⟩

/-- The body of the loop sends the batch as soon as it is full. -/
lemma add (h : Batched n processed bs x) (hfew : x.msglist.length < olsrMaxMsgs)
    (m : MessageHeader) :
    (x.add m).msglist = x.msglist ++ [m] ∧ (x.add m).msglist.length < olsrMaxMsgs ∧
      Batched n (processed ++ [m]) bs (x.add m) ∨
    (x.add m).msglist = [] ∧ (x.msglist ++ [m]).length = olsrMaxMsgs ∧
      Batched n (processed ++ [m]) (bs ++ [x.msglist ++ [m]]) (x.add m) := by
  obtain ⟨x₁, hx₁⟩ : ∃ x₁ : SendLoop D, { x with
      packet := x.packet ++ m.serialize
      msglist := x.msglist ++ [m]
      numMessages := x.numMessages + 1 } = x₁ := ⟨_, rfl⟩
  have hlist : x₁.msglist = x.msglist ++ [m] := by rw [← hx₁]
  have hlength : x₁.msglist.length = x.msglist.length + 1 := by
    rw [hlist, List.length_append, List.length_singleton]
  have hx : Batched n (processed ++ [m]) bs x₁ := by
    refine ⟨?_, ?_, ?_, ?_, ?_, h.batch_length⟩
    · rw [hlist, ← List.append_assoc, h.processed_eq]
    · rw [← hx₁]
      exact h.node_eq
    · rw [← hx₁]
      exact h.datagrams
    · rw [hlist, List.flatMap_append, List.flatMap_singleton, ← h.packet_eq, ← hx₁]
    · rw [hlength, ← h.numMessages_eq, ← hx₁]
  have hadd : x.add m = if x₁.numMessages = olsrMaxMsgs then x₁.sendPacket else x₁ := by
    rw [← hx₁]
    rfl
  rw [hadd, hx.numMessages_eq]
  split
  · next hfull =>
    have hne : x₁.msglist ≠ [] := by
      rw [hlist]
      simp
    have hsent := hx.sendPacket hne hfull.le
    rw [← hlist]
    exact Or.inr ⟨rfl, hfull, hsent⟩
  · next hnot =>
    refine Or.inl ⟨hlist, ?_, hx⟩
    omega

end Batched

/-- The accumulators of `List.toChunks.go` beside the batches sent and the one under way: a full
chunk is stored only when the next message comes, while the loop has sent it already. -/
def Abreast (chunk : Array MessageHeader) (chunks : Array (List MessageHeader))
    (bs : List (List MessageHeader)) (msglist : List MessageHeader) : Prop :=
  chunk.toList = msglist ∧ msglist ≠ [] ∧ chunks.toList = bs ∨
    chunk.size = olsrMaxMsgs ∧ msglist = [] ∧ chunks.toList ++ [chunk.toList] = bs

namespace Batched

variable {processed : List MessageHeader} {bs : List (List MessageHeader)} {x : SendLoop D}

lemma packet_length_eq_zero_iff (h : Batched n processed bs x) :
    x.packet.length = 0 ↔ x.msglist = [] := by
  have htotal := length_le_totalSize x.msglist
  rw [h.packet_eq, length_flatMap_serialize]
  constructor
  · intro hzero
    exact List.length_eq_zero_iff.mp (by omega)
  · intro hnil
    rw [hnil]
    rfl

/-- After the last packet the chunks have been sent. -/
lemma finish {chunk : Array MessageHeader} {chunks : Array (List MessageHeader)}
    (h : Batched n processed bs x) (hfew : x.msglist.length < olsrMaxMsgs)
    (habreast : Abreast chunk chunks bs x.msglist) :
    x.finish.msglist = [] ∧ Batched n processed (chunks.push chunk.toList).toList x.finish := by
  rw [SendLoop.finish, Array.toList_push]
  rcases habreast with ⟨hchunk, hne, hchunks⟩ | ⟨-, hnil, hchunks⟩
  · rw [if_pos (mt h.packet_length_eq_zero_iff.mp hne), hchunk, hchunks]
    exact ⟨rfl, h.sendPacket hne hfew.le⟩
  · rw [if_neg (not_not.mpr (h.packet_length_eq_zero_iff.mpr hnil)), hchunks]
    exact ⟨hnil, h⟩

/-- The rest of the loop sends the chunks of `List.toChunks.go`. -/
lemma foldl_add (l : List MessageHeader) {chunk : Array MessageHeader}
    {chunks : Array (List MessageHeader)} (h : Batched n processed bs x)
    (hfew : x.msglist.length < olsrMaxMsgs) (habreast : Abreast chunk chunks bs x.msglist) :
    (l.foldl SendLoop.add x).finish.msglist = [] ∧
      Batched n (processed ++ l) (List.toChunks.go olsrMaxMsgs l chunk chunks)
        (l.foldl SendLoop.add x).finish := by
  induction l generalizing processed bs x chunk chunks with
  | nil =>
    rw [List.append_nil, List.toChunks.go]
    exact h.finish hfew habreast
  | cons m l ih =>
    rw [List.append_cons, List.toChunks.go, List.foldl_cons]
    rcases habreast with ⟨hchunk, hne, hchunks⟩ | ⟨hsize, hnil, hchunks⟩
    · have hsize : chunk.size ≠ olsrMaxMsgs := by
        rw [← Array.length_toList, hchunk]
        exact hfew.ne
      have hpush : (chunk.push m).toList = x.msglist ++ [m] := by rw [Array.toList_push, hchunk]
      rw [if_neg (by simpa using hsize)]
      rcases h.add hfew m with ⟨hlist, hfew', hadd⟩ | ⟨hlist, hfull, hadd⟩
      · refine ih hadd hfew' (Or.inl ⟨?_, ?_, hchunks⟩)
        · rw [hpush, hlist]
        · rw [hlist]
          simp
      · refine ih hadd ?_ (Or.inr ⟨?_, hlist, ?_⟩)
        · rw [hlist]
          decide
        · rw [← Array.length_toList, hpush, hfull]
        · rw [hpush, hchunks]
    · rw [if_pos (by simpa using hsize)]
      have hlist : x.msglist ++ [m] = [m] := by rw [hnil, List.nil_append]
      have hchunks' : (chunks.push chunk.toList).toList = bs := by rw [Array.toList_push, hchunks]
      rcases h.add hfew m with ⟨hone, hfew', hadd⟩ | ⟨-, hfull, -⟩
      · refine ih hadd hfew' (Or.inl ⟨?_, ?_, hchunks'⟩)
        · rw [hone, hlist]
          rfl
        · rw [hone, hlist]
          exact List.cons_ne_nil _ _
      · rw [hlist] at hfull
        exact absurd hfull (show 1 ≠ 64 by decide)

end Batched

variable (n) in
/-- The loop of a node sends the chunks of its queue. -/
lemma sendQueuedMessagesLoop_batched :
    ∃ x : SendLoop D, x.msglist = [] ∧
      Batched n n.queuedMessages (n.queuedMessages.toChunks olsrMaxMsgs) x ∧
      n.sendQueuedMessagesLoop = { x with node := { x.node with queuedMessages := [] } } := by
  refine ⟨(n.queuedMessages.foldl SendLoop.add { node := n }).finish, ?_⟩
  rw [← and_assoc]
  refine ⟨?_, rfl⟩
  have hstart : Batched n [] [] { node := n } := Batched.start
  cases hqueue : n.queuedMessages with
  | nil => exact ⟨rfl, hstart⟩
  | cons m l =>
    rcases hstart.add (show 0 < olsrMaxMsgs by decide) m with ⟨hlist, hfew, hadd⟩ | ⟨-, hfull, -⟩
    · refine hadd.foldl_add l hfew (Or.inl ⟨?_, ?_, rfl⟩)
      · rw [hlist]
        rfl
      · rw [hlist]
        exact List.cons_ne_nil _ _
    · exact absurd hfull (show 1 ≠ 64 by decide)

/-- Packets that fit are read back one after another. -/
lemma map_parsePacket {ds : List (List UInt8)} {bs : List (List MessageHeader)}
    (h : List.Forall₂ (fun d b => ∃ packetSequenceNumber,
      d = addPacketHeader (b.flatMap MessageHeader.serialize) packetSequenceNumber) ds bs)
    (hfits : ∀ b ∈ bs, olsrPktHeaderSize + totalSize b < 2 ^ 16) :
    ds.map parsePacket = bs.map some := by
  induction h with
  | nil => rfl
  | cons hd _ ih =>
    obtain ⟨packetSequenceNumber, rfl⟩ := hd
    rw [List.forall_mem_cons] at hfits
    rw [List.map_cons, List.map_cons, ih hfits.2, parsePacket_addPacketHeader hfits.1]

/-- **Nothing is lost on the way.**  If every run of up to `OLSR_MAX_MSGS` consecutive messages of
the queue fits a packet, the packets that are sent, read one after another, hold the messages of the
queue in order, none of them is empty, and the queue is empty afterwards. -/
theorem sendQueuedMessages_parse (n : Node D)
    (hfits : ∀ b, b <:+: n.queuedMessages → b.length ≤ olsrMaxMsgs →
      olsrPktHeaderSize + totalSize b < 2 ^ 16) :
    n.sendQueuedMessagesLoop.node.queuedMessages = [] ∧
    ∃ bs : List (List MessageHeader),
      n.sendQueuedMessagesLoop.datagrams.map parsePacket = bs.map some ∧
      bs.flatten = n.queuedMessages ∧ ∀ b ∈ bs, b ≠ [] := by
  obtain ⟨x, hnil, hbatched, hloop⟩ := sendQueuedMessagesLoop_batched n
  have hall : (n.queuedMessages.toChunks olsrMaxMsgs).flatten = n.queuedMessages := by
    have hprocessed := hbatched.processed_eq
    rwa [hnil, List.append_nil] at hprocessed
  rw [hloop]
  refine ⟨rfl, n.queuedMessages.toChunks olsrMaxMsgs, ?_, hall,
    fun b hb => (hbatched.batch_length b hb).1⟩
  apply map_parsePacket hbatched.datagrams
  intro b hb
  have hinfix : b <:+: n.queuedMessages := by
    rw [← hall]
    exact List.infix_of_mem_flatten hb
  exact hfits b hinfix (hbatched.batch_length b hb).2

/-- A node with one message more in its queue than a packet holds. -/
def sampleQueue : Node Unit where
  mainAddress := 0x0a000001
  interfaces := []
  queuedMessages := List.replicate 65 MessageHeader.sampleHello

theorem sampleQueue_sendQueuedMessages_parse :
    sampleQueue.sendQueuedMessagesLoop.node.queuedMessages = [] ∧
    ∃ bs : List (List MessageHeader),
      sampleQueue.sendQueuedMessagesLoop.datagrams.map parsePacket = bs.map some ∧
      bs.flatten = List.replicate 65 MessageHeader.sampleHello ∧ ∀ b ∈ bs, b ≠ [] := by
  refine sendQueuedMessages_parse sampleQueue ?_
  intro b hb hlength
  obtain ⟨k, -, rfl⟩ := List.sublist_replicate_iff.mp hb.sublist
  have htotal : totalSize (List.replicate k MessageHeader.sampleHello) = k * 32 := by
    rw [totalSize, List.map_replicate, List.sum_replicate]
    rfl
  rw [List.length_replicate] at hlength
  have hmax : olsrMaxMsgs = 64 := rfl
  have hheader : olsrPktHeaderSize = 4 := rfl
  omega

end ManetOlsr
