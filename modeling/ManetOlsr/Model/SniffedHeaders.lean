/-
The headers below OLSR, as the listening node takes them off a frame.

The collector asks each header one or two things only.  `FrameHeaders` collects what it uses of them,
and `FrameHeaders.ns3` are the headers of the simulator.
-/
import ManetOlsr.Lib.Wire
import ManetOlsr.Model.Repositories

namespace ManetOlsr

open Lib Lib.Reader

/-- The sizes that the collector waits for, and what `RemoveHeader` makes of the bytes of a packet.
There is no result where it aborts. -/
structure FrameHeaders where
  wifiMacSize : ℕ
  llcSnapSize : ℕ
  ipv4Size : ℕ
  udpSize : ℕ
  /-- `IsData`. -/
  removeWifiMac : List UInt8 → Option (Bool × List UInt8)
  /-- `GetType`. -/
  removeLlcSnap : List UInt8 → Option (UInt16 × List UInt8)
  /-- `GetSource` and `GetProtocol`. -/
  removeIpv4 : List UInt8 → Option ((Ipv4Address × UInt8) × List UInt8)
  /-- `GetDestinationPort`. -/
  removeUdp : List UInt8 → Option (UInt16 × List UInt8)

namespace FrameHeaders

/-! ### The headers of the simulator -/

def readLsbtohU16 : Reader UInt16 := do
  let b₁ ← readU8
  let b₂ ← readU8
  pure (UInt16.ofNat (b₂.toNat * 256 + b₁.toNat))

/-- Bytes that the collector does not ask for. -/
def skip (k : ℕ) : Reader (List UInt8) := readMany readU8 k

/-- What `WifiMacHeader::Deserialize` reads behind the first address. -/
def wifiMacRest (ctrlType ctrlSubtype ctrlToDs ctrlFromDs : UInt16) : ℕ :=
  if ctrlType = 0 then 6 + 6 + 2
  else if ctrlType = 1 then
    -- `PSPOLL`, `RTS`, `TRIGGER`, `BACKREQ`, `BACKRESP`, `END` and `END_ACK`
    if ctrlSubtype ∈ [10, 11, 2, 8, 9, 14, 15] then 6 else 0
  else if ctrlType = 2 then
    6 + 6 + 2 + (if ctrlToDs ≠ 0 ∧ ctrlFromDs ≠ 0 then 6 else 0) +
      if ctrlSubtype &&& 8 ≠ 0 then 2 else 0
  else 0

def deserializeWifiMac : Reader Bool := do
  let ctrl ← readLsbtohU16
  let ctrlType := ctrl >>> 2 &&& 3
  let _duration ← readLsbtohU16
  let _addr1 ← skip 6
  let _rest ← skip
    (wifiMacRest ctrlType (ctrl >>> 4 &&& 15) (ctrl >>> 8 &&& 1) (ctrl >>> 9 &&& 1))
  pure (ctrlType == 2)

def deserializeLlcSnap : Reader UInt16 := do
  let _next ← skip 6
  readNtohU16

/-- The fields of an IPv4 header behind the first byte. -/
def readIpv4Fields : Reader (Ipv4Address × UInt8) := do
  let _tosToTtl ← skip 8
  let protocol ← readU8
  let _checksum ← skip 2
  let source ← readNtohU32
  let _destination ← readNtohU32
  pure (source, protocol)

/-- The options go with the header.  What is no IPv4 header stays on the packet, and the members of
the header keep the values that its constructor gives them. -/
def removeIpv4Header (p : List UInt8) : Option ((Ipv4Address × UInt8) × List UInt8) :=
  match readU8.run p with
  | none => none
  | some (verIhl, rest) =>
    if verIhl >>> 4 ≠ 4 then some ((unsetAddress, 0), p)
    else (readIpv4Fields.run rest).map fun x => (x.1, p.drop (4 * (verIhl &&& 15).toNat))

def deserializeUdp : Reader UInt16 := do
  let _sourcePort ← readNtohU16
  let destinationPort ← readNtohU16
  let _payloadSize ← readNtohU16
  let _checksum ← readNtohU16
  pure destinationPort

/-- The sizes are those of headers that have just been constructed. -/
def ns3 : FrameHeaders where
  wifiMacSize := 24
  llcSnapSize := 8
  ipv4Size := 20
  udpSize := 8
  removeWifiMac := deserializeWifiMac.run
  removeLlcSnap := deserializeLlcSnap.run
  removeIpv4 := removeIpv4Header
  removeUdp := deserializeUdp.run

/-! ### Frames to the port of OLSR -/

/-- The headers take a data frame to UDP port 698 down to its payload. -/
structure Carries (headers : FrameHeaders) (frame : List UInt8) (srcKey : Ipv4Address)
    (payload llcSnap ipv4 udp : List UInt8) : Prop where
  wifiMac_size : headers.wifiMacSize ≤ frame.length
  wifiMac : headers.removeWifiMac frame = some (true, llcSnap)
  llcSnap_size : headers.llcSnapSize ≤ llcSnap.length
  llcSnap : headers.removeLlcSnap llcSnap = some (0x0800, ipv4)
  ipv4_size : headers.ipv4Size ≤ ipv4.length
  ipv4 : headers.removeIpv4 ipv4 = some ((srcKey, 17), udp)
  udp_size : headers.udpSize ≤ udp.length
  udp : headers.removeUdp udp = some (698, payload)

/-- What the collector does not ask for in a data frame of an ad hoc network without QoS, whose IPv4
header has no options. -/
structure AdhocFields where
  durationLow : UInt8
  durationHigh : UInt8
  addr1 : Vector UInt8 6
  addr2ToSequence : Vector UInt8 14
  llc : Vector UInt8 6
  tosToTtl : Vector UInt8 8
  ipv4Checksum : Vector UInt8 2
  destination : Ipv4Address
  sourcePort : UInt16
  payloadSize : UInt16
  udpChecksum : UInt16

namespace AdhocFields

variable (x : AdhocFields) (srcKey : Ipv4Address) (payload : List UInt8)

def wifiMac : List UInt8 :=
  [0x08, 0x00] ++ ([x.durationLow, x.durationHigh] ++ (x.addr1.toList ++ x.addr2ToSequence.toList))

def llcSnap : List UInt8 := x.llc.toList ++ writeHtonU16 0x0800

def ipv4 : List UInt8 :=
  [0x45] ++ (x.tosToTtl.toList ++ (writeU8 17 ++ (x.ipv4Checksum.toList ++
    (writeHtonU32 srcKey ++ writeHtonU32 x.destination))))

def udp : List UInt8 :=
  writeHtonU16 x.sourcePort ++ (writeHtonU16 698 ++
    (writeHtonU16 x.payloadSize ++ writeHtonU16 x.udpChecksum))

def frame : List UInt8 :=
  x.wifiMac ++ (x.llcSnap ++ (x.ipv4 srcKey ++ (x.udp ++ payload)))

lemma length_wifiMac : x.wifiMac.length = 24 := by simp [wifiMac]

lemma length_llcSnap : x.llcSnap.length = 8 := by simp [llcSnap]

lemma length_ipv4 : (x.ipv4 srcKey).length = 20 := by simp [ipv4]

lemma length_udp : x.udp.length = 8 := by simp [udp]

lemma length_frame : (x.frame srcKey payload).length = 60 + payload.length := by
  rw [frame, List.length_append, List.length_append, List.length_append, List.length_append,
    length_wifiMac, length_llcSnap, length_ipv4, length_udp]
  omega

end AdhocFields

lemma reads_skip {k : ℕ} (bytes : Vector UInt8 k) :
    Reads (skip k) bytes.toList bytes.toList := by
  have hread := Reads.many Reads.u8 bytes.toList
  have hbytes : bytes.toList.flatMap writeU8 = bytes.toList := List.flatMap_singleton' _
  rwa [hbytes, Vector.length_toList] at hread

lemma reads_readLsbtohU16 (b₁ b₂ : UInt8) :
    Reads readLsbtohU16 [b₁, b₂] (UInt16.ofNat (b₂.toNat * 256 + b₁.toNat)) := fun _ => rfl

section Adhoc

variable (x : AdhocFields)

lemma reads_wifiMac : Reads deserializeWifiMac x.wifiMac true := by
  refine (reads_readLsbtohU16 0x08 0x00).bind ((reads_readLsbtohU16 _ _).bind ?_)
  exact (reads_skip x.addr1).bind (reads_skip x.addr2ToSequence).last

lemma reads_llcSnap : Reads deserializeLlcSnap x.llcSnap 0x0800 :=
  (reads_skip x.llc).bind (Reads.u16 0x0800)

lemma reads_udp : Reads deserializeUdp x.udp 698 :=
  (Reads.u16 _).bind ((Reads.u16 698).bind ((Reads.u16 _).bind (Reads.u16 _).last))

lemma removeIpv4Header_ipv4 (srcKey : Ipv4Address) (payload : List UInt8) :
    removeIpv4Header (x.ipv4 srcKey ++ payload) = some ((srcKey, 17), payload) := by
  have hfields : Reads readIpv4Fields (x.tosToTtl.toList ++ (writeU8 17 ++
      (x.ipv4Checksum.toList ++ (writeHtonU32 srcKey ++ writeHtonU32 x.destination))))
      (srcKey, 17) :=
    (reads_skip x.tosToTtl).bind ((Reads.u8 17).bind ((reads_skip x.ipv4Checksum).bind
      ((Reads.u32 srcKey).bind (Reads.u32 x.destination).last)))
  have hbyte : readU8.run (x.ipv4 srcKey ++ payload) = some (0x45, (x.tosToTtl.toList ++
      (writeU8 17 ++ (x.ipv4Checksum.toList ++ (writeHtonU32 srcKey ++
        writeHtonU32 x.destination)))) ++ payload) := rfl
  have hversion : ¬ (0x45 : UInt8) >>> 4 ≠ 4 := by decide
  have hihl : 4 * ((0x45 : UInt8) &&& 15).toNat = (x.ipv4 srcKey).length := by
    rw [x.length_ipv4]
    rfl
  rw [removeIpv4Header, hbyte]
  simp only [if_neg hversion]
  rw [hfields, hihl, List.drop_left, Option.map_some]

/-- The headers of such a frame are taken off. -/
lemma ns3_carries (srcKey : Ipv4Address) (payload : List UInt8) :
    ns3.Carries (x.frame srcKey payload) srcKey payload
      (x.llcSnap ++ (x.ipv4 srcKey ++ (x.udp ++ payload)))
      (x.ipv4 srcKey ++ (x.udp ++ payload)) (x.udp ++ payload) where
  wifiMac_size := by
    rw [x.length_frame]
    exact Nat.le_add_right_of_le (show 24 ≤ 60 by decide)
  wifiMac := reads_wifiMac x _
  llcSnap_size := by
    rw [List.length_append]
    exact Nat.le_add_right_of_le x.length_llcSnap.ge
  llcSnap := reads_llcSnap x _
  ipv4_size := by
    rw [List.length_append]
    exact Nat.le_add_right_of_le (x.length_ipv4 srcKey).ge
  ipv4 := removeIpv4Header_ipv4 x srcKey _
  udp_size := by
    rw [List.length_append]
    exact Nat.le_add_right_of_le x.length_udp.ge
  udp := reads_udp x _

end Adhoc

end FrameHeaders

end ManetOlsr
