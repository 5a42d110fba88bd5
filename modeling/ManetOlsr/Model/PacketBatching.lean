/-
The messages of a packet (`SendQueuedMessages`, `RecvOlsr`).

`SendQueuedMessages` serializes the messages one after another and sends a packet whenever it holds
`OLSR_MAX_MSGS` of them; `RecvOlsr` takes messages off a packet until the sizes of the messages make
up the length that the packet header tells.

What a socket sends is a list of bytes, without the headers of the layers below.
-/
import ManetOlsr.Model.Emission
import ManetOlsr.Model.Wire

namespace ManetOlsr

open Lib Lib.Reader

/-! ### Packets -/

structure PacketHeader where
  packetLength : UInt16
  packetSequenceNumber : UInt16
deriving DecidableEq, Repr

namespace PacketHeader

def serialize (h : PacketHeader) : List UInt8 :=
  writeHtonU16 h.packetLength ++ writeHtonU16 h.packetSequenceNumber

def deserialize : Reader PacketHeader := do
  let packetLength ← readNtohU16
  let packetSequenceNumber ← readNtohU16
  pure ⟨packetLength, packetSequenceNumber⟩

end PacketHeader

/-! ### Sending -/

/-- `OLSR_MAX_MSGS`. -/
def olsrMaxMsgs : ℕ := 64

/-- The variables of `SendQueuedMessages`, with what the sockets have sent. -/
structure SendLoop (D : Type) where
  node : Node D
  datagrams : List (List UInt8) := []
  packet : List UInt8 := []
  numMessages : ℕ := 0
  msglist : List MessageHeader := []

/-- A packet with its header. -/
def addPacketHeader (packet : List UInt8) (packetSequenceNumber : UInt16) : List UInt8 :=
  PacketHeader.serialize ⟨UInt16.ofNat (olsrPktHeaderSize + packet.length), packetSequenceNumber⟩ ++
    packet

namespace SendLoop

variable {D : Type} (x : SendLoop D)

/-- `SendPacket`, after which the variables are reset. -/
def sendPacket : SendLoop D where
  node := x.node.sendPacket x.msglist
  datagrams := x.datagrams ++ [addPacketHeader x.packet (x.node.packetSequenceNumber + 1)]

/-- The body of the loop. -/
def add (message : MessageHeader) : SendLoop D :=
  let x₁ : SendLoop D :=
    { x with
      packet := x.packet ++ message.serialize
      msglist := x.msglist ++ [message]
      numMessages := x.numMessages + 1 }
  if x₁.numMessages = olsrMaxMsgs then x₁.sendPacket else x₁

/-- After the loop. -/
def finish : SendLoop D := if x.packet.length ≠ 0 then x.sendPacket else x

end SendLoop

/-- `SendQueuedMessages`. -/
def Node.sendQueuedMessagesLoop {D : Type} (n : Node D) : SendLoop D :=
  let x := (n.queuedMessages.foldl SendLoop.add { node := n }).finish
  { x with node := { x.node with queuedMessages := [] } }

/-! ### Receiving -/

/-- `packet->RemoveHeader(messageHeader)`: the size that the message answers is a `uint32_t`, and what
goes past the end of the packet empties it.  There is no result where it aborts. -/
def removeHeader (packet : List UInt8) : Option (MessageHeader × List UInt8) :=
  match MessageHeader.deserialize.run packet with
  | some (d, _) => some (d.message, packet.drop (d.size % 2 ^ 32))
  | none => none

/-- `while (sizeLeft)`, for a number of rounds; every round removes a header. -/
def parseMessages : ℕ → UInt32 → List UInt8 → Option (List MessageHeader)
  | 0, sizeLeft, _ => if sizeLeft = 0 then some [] else none
  | rounds + 1, sizeLeft, packet =>
    if sizeLeft = 0 then some []
    else
      match removeHeader packet with
      | some (messageHeader, packet) =>
        (parseMessages rounds (sizeLeft - UInt32.ofNat messageHeader.getSerializedSize)
          packet).map (messageHeader :: ·)
      | none => none

/-- The messages that `RecvOlsr` finds in a packet. -/
def parsePacket (packet : List UInt8) : Option (List MessageHeader) :=
  match PacketHeader.deserialize.run packet with
  | some (olsrPacketHeader, packet) =>
    if olsrPktHeaderSize ≤ olsrPacketHeader.packetLength.toNat then
      parseMessages packet.length
        (UInt32.ofNat olsrPacketHeader.packetLength.toNat - UInt32.ofNat olsrPktHeaderSize) packet
    else none
  | none => none

end ManetOlsr
