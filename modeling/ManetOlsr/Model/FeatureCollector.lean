/-
The feature collector of the listening node (`olsr_window_features.h`).

Nothing is assumed of the headers below OLSR.  The OLSR packet and its messages are read as
`RecvOlsr` reads them.  A frame that aborts ends the run.

What a frame leaves behind depends on how far it gets: it is counted, it is counted as IPv4 and
attributed to its source, or it is counted as OLSR and its messages are counted one by one.

The counters are natural numbers, and times and features rational ones; the square root of the
standard deviations is a parameter.
-/
import ManetOlsr.Model.PacketBatching
import ManetOlsr.Model.SniffedHeaders
import Mathlib.Algebra.Order.Field.Rat
import Mathlib.Data.Finset.Card

namespace ManetOlsr

open Lib Lib.Reader

/-! ### The state -/

structure FeatureCollector where
  winStart : ℚ := 0
  winEnd : ℚ := 0
  frames : ℕ := 0
  bytes : ℕ := 0
  dataFrames : ℕ := 0
  dataBytes : ℕ := 0
  olsrFrames : ℕ := 0
  olsrBytes : ℕ := 0
  tcCount : ℕ := 0
  tcRows : ℕ := 0
  tcHopSum : ℕ := 0
  tcSeen : Finset UInt64 := ∅
  tcUniqueCount : ℕ := 0
  tcUniqueRows : ℕ := 0
  helloCount : ℕ := 0
  midCount : ℕ := 0
  hnaCount : ℕ := 0
  advByOriginator : List (UInt32 × ℕ) := []
  addrsSeen : Finset UInt32 := ∅
  bytesBySource : List (UInt32 × ℕ) := []
  framesBySource : List (UInt32 × ℕ) := []
  firstSeenBySource : List (UInt32 × ℚ) := []
  lastSeenBySource : List (UInt32 × ℚ) := []

namespace FeatureCollector

/-- `Reset`, which sets every field. -/
def reset (_ : FeatureCollector) (tStart : ℚ) : FeatureCollector :=
  { winStart := tStart, winEnd := tStart }

variable (c : FeatureCollector)

/-! ### Messages -/

def tcKey (orig : UInt32) (messageSequenceNumber : UInt16) : UInt64 :=
  orig.toUInt64 <<< 16 ||| messageSequenceNumber.toUInt64

/-- `case TC_MESSAGE`. -/
def countTc (msg : MessageHeader) (tc : Tc) : FeatureCollector :=
  let adv := tc.neighborAddresses.length
  let orig := msg.originatorAddress
  let key := tcKey orig msg.messageSequenceNumber
  { c with
    tcCount := c.tcCount + 1
    tcRows := c.tcRows + adv
    advByOriginator := mapSet Ipv4Address.lt orig adv c.advByOriginator
    tcHopSum := c.tcHopSum + msg.hopCount.toNat
    tcSeen := insert key c.tcSeen
    tcUniqueCount := if key ∉ c.tcSeen then c.tcUniqueCount + 1 else c.tcUniqueCount
    tcUniqueRows := if key ∉ c.tcSeen then c.tcUniqueRows + adv else c.tcUniqueRows
    addrsSeen := insert orig c.addrsSeen ∪ tc.neighborAddresses.toFinset }

/-- The `switch` over the type of a message. -/
def countMessage (msg : MessageHeader) : FeatureCollector :=
  match msg.body with
  | .hello _ => { c with helloCount := c.helloCount + 1 }
  | .tc tc => c.countTc msg tc
  | .mid _ => { c with midCount := c.midCount + 1 }
  | .hna _ => { c with hnaCount := c.hnaCount + 1 }

/-- `while (remaining > 0)`.  There is no result where `RemoveHeader` aborts. -/
def readMessages (c : FeatureCollector) (remaining : ℕ) (p : List UInt8) :
    Option FeatureCollector :=
  if remaining = 0 then some c
  else
    match p.head? with
    | none => some c
    | some firstByte =>
      if firstByte < 1 ∨ firstByte > 4 then some c
      else
        match removeHeader p with
        | none => none
        | some (msg, p') =>
          let consumed := if p.length ≥ p'.length then p.length - p'.length else 0
          if consumed = 0 ∨ consumed > remaining then some c
          else readMessages (c.countMessage msg) (remaining - consumed) p'
termination_by remaining
decreasing_by omega

end FeatureCollector

/-! ### Frames -/

namespace FeatureCollector

variable (c : FeatureCollector)

/-- What is counted before any filtering. -/
def countFrame (frameBytes : ℕ) : FeatureCollector :=
  { c with frames := c.frames + 1, bytes := c.bytes + frameBytes }

/-- What is counted behind the IPv4 header. -/
def countIpv4 (frameBytes : ℕ) (srcKey : UInt32) (nowS : ℚ) : FeatureCollector :=
  { c with
    dataFrames := c.dataFrames + 1
    dataBytes := c.dataBytes + frameBytes
    bytesBySource := mapSet Ipv4Address.lt srcKey
      ((mapFind c.bytesBySource srcKey).getD 0 + frameBytes) c.bytesBySource
    framesBySource := mapSet Ipv4Address.lt srcKey
      ((mapFind c.framesBySource srcKey).getD 0 + 1) c.framesBySource
    firstSeenBySource :=
      if mapFind c.firstSeenBySource srcKey = none then
        mapSet Ipv4Address.lt srcKey nowS c.firstSeenBySource
      else c.firstSeenBySource
    lastSeenBySource := mapSet Ipv4Address.lt srcKey nowS c.lastSeenBySource }

/-- What is counted behind the UDP header. -/
def countOlsr (frameBytes : ℕ) : FeatureCollector :=
  { c with olsrFrames := c.olsrFrames + 1, olsrBytes := c.olsrBytes + frameBytes }

/-- `ObserveSniffedFrame` behind the UDP header of a frame to port 698. -/
def readPacket (p : List UInt8) : Option FeatureCollector :=
  if p.length < olsrPktHeaderSize then some c
  else
    match PacketHeader.deserialize.run p with
    | none => none
    | some (olsrHeader, p) =>
      let remaining := if olsrHeader.packetLength.toNat > olsrPktHeaderSize then
        olsrHeader.packetLength.toNat - olsrPktHeaderSize else 0
      c.readMessages (if remaining > p.length then p.length else remaining) p

variable (headers : FrameHeaders) (nowS : ℚ) (frameBytes : ℕ)

/-- `ObserveSniffedFrame` from the UDP header on. -/
def observeUdp (p : List UInt8) : Option FeatureCollector :=
  if p.length < headers.udpSize then some c
  else
    match headers.removeUdp p with
    | none => none
    | some (destinationPort, p) =>
      if destinationPort ≠ 698 then some c else (c.countOlsr frameBytes).readPacket p

/-- `ObserveSniffedFrame` from the IPv4 header on. -/
def observeIpv4 (p : List UInt8) : Option FeatureCollector :=
  if p.length < headers.ipv4Size then some c
  else
    match headers.removeIpv4 p with
    | none => none
    | some ((srcKey, protocol), p) =>
      let c := c.countIpv4 frameBytes srcKey nowS
      if protocol ≠ 17 then some c else c.observeUdp headers frameBytes p

/-- `ObserveSniffedFrame`. -/
def observeSniffedFrame (packet : Option (List UInt8)) : Option FeatureCollector :=
  match packet with
  | none => some c
  | some frame =>
    let c := c.countFrame frame.length
    if frame.length < headers.wifiMacSize then some c
    else
      match headers.removeWifiMac frame with
      | none => none
      | some (isData, p) =>
        if !isData then some c
        else if p.length < headers.llcSnapSize then some c
        else
          match headers.removeLlcSnap p with
          | none => none
          | some (llcType, p) =>
            if llcType ≠ 0x0800 then some c else c.observeIpv4 headers nowS frame.length p

end FeatureCollector

/-! ### The features -/

def mean (v : List ℚ) : ℚ := if v = [] then 0 else v.sum / v.length

def std (sqrt : ℚ → ℚ) (v : List ℚ) : ℚ :=
  if v = [] then 0 else sqrt ((v.map fun x => (x - mean v) * (x - mean v)).sum / v.length)

/-- The columns.  `normalizedRoutingLoad` is not a number where there is none. -/
structure Features where
  tcMessageRate : ℚ
  avgAdvLinksPerTc : ℚ
  avgMprCount : ℚ
  avgHopCount : ℚ
  midMessageRate : ℚ
  hnaMessageRate : ℚ
  routingOverheadBytesRatio : ℚ
  normalizedRoutingLoad : Option ℚ
  dataPacketRate : ℚ
  throughput : ℚ
  avgTxPacketSize : ℚ
  avgFlowDuration : ℚ
  flowDurationStd : ℚ
  avgFlowThroughput : ℚ
  flowThroughputStd : ℚ
  avgTxBytesPerFlow : ℚ
  avgTxPktsPerFlow : ℚ

namespace FeatureCollector

variable (c : FeatureCollector) (sqrt : ℚ → ℚ) (tEnd : ℚ)

def dur : ℚ := max (1 / 1000000) (tEnd - c.winStart)

def srcDurations : List ℚ :=
  c.firstSeenBySource.filterMap fun kv => (mapFind c.lastSeenBySource kv.1).map (· - kv.2)

def srcRates : List ℚ := c.bytesBySource.map fun kv => (kv.2 : ℚ) * 8 / c.dur tEnd

/-- A quotient that is only computed where its denominator is positive. -/
def ratio (a b : ℕ) : ℚ := if 0 < b then (a : ℚ) / b else 0

/-- `EmitFeatureCsv`. -/
def emitFeatureCsv : FeatureCollector × Features :=
  ({ c with winEnd := tEnd },
    { tcMessageRate := c.tcUniqueCount / c.dur tEnd
      avgAdvLinksPerTc := ratio c.tcRows c.tcCount
      avgMprCount := ratio (c.advByOriginator.map Prod.snd).sum c.addrsSeen.card
      avgHopCount := ratio c.tcHopSum c.tcCount
      midMessageRate := c.midCount / c.dur tEnd
      hnaMessageRate := c.hnaCount / c.dur tEnd
      routingOverheadBytesRatio := ratio c.olsrBytes c.dataBytes
      normalizedRoutingLoad :=
        if 0 < c.dataFrames then some ((c.olsrFrames : ℚ) / c.dataFrames) else none
      dataPacketRate := c.frames / c.dur tEnd
      throughput := c.dataBytes * 8 / c.dur tEnd
      avgTxPacketSize := ratio c.bytes c.frames
      avgFlowDuration := mean c.srcDurations
      flowDurationStd := std sqrt c.srcDurations
      avgFlowThroughput := ratio c.dataBytes c.bytesBySource.length * 8 / c.dur tEnd
      flowThroughputStd := std sqrt (c.srcRates tEnd)
      avgTxBytesPerFlow := ratio c.dataBytes c.bytesBySource.length
      avgTxPktsPerFlow := ratio c.dataFrames c.framesBySource.length })

end FeatureCollector

/-! ### What is sniffed

A frame is first made sense of and then accounted for. -/

/-- How far a frame gets. -/
inductive Sniffed where
  | frame
  | ipv4 (srcKey : UInt32)
  | olsr (srcKey : UInt32) (messages : List MessageHeader)

def Sniffed.messages : Sniffed → List MessageHeader
  | .frame => []
  | .ipv4 _ => []
  | .olsr _ messages => messages

/-- The messages that `readMessages` counts. -/
def parsedMessages (remaining : ℕ) (p : List UInt8) : Option (List MessageHeader) :=
  if remaining = 0 then some []
  else
    match p.head? with
    | none => some []
    | some firstByte =>
      if firstByte < 1 ∨ firstByte > 4 then some []
      else
        match removeHeader p with
        | none => none
        | some (msg, p') =>
          let consumed := if p.length ≥ p'.length then p.length - p'.length else 0
          if consumed = 0 ∨ consumed > remaining then some []
          else (parsedMessages (remaining - consumed) p').map (msg :: ·)
termination_by remaining
decreasing_by omega

/-- The messages that `readPacket` counts. -/
def packetMessages (p : List UInt8) : Option (List MessageHeader) :=
  if p.length < olsrPktHeaderSize then some []
  else
    match PacketHeader.deserialize.run p with
    | none => none
    | some (olsrHeader, p) =>
      let remaining := if olsrHeader.packetLength.toNat > olsrPktHeaderSize then
        olsrHeader.packetLength.toNat - olsrPktHeaderSize else 0
      parsedMessages (if remaining > p.length then p.length else remaining) p

variable (headers : FrameHeaders)

def sniffUdp (srcKey : UInt32) (p : List UInt8) : Option Sniffed :=
  if p.length < headers.udpSize then some (.ipv4 srcKey)
  else
    match headers.removeUdp p with
    | none => none
    | some (destinationPort, p) =>
      if destinationPort ≠ 698 then some (.ipv4 srcKey)
      else (packetMessages p).map (.olsr srcKey)

def sniffIpv4 (p : List UInt8) : Option Sniffed :=
  if p.length < headers.ipv4Size then some .frame
  else
    match headers.removeIpv4 p with
    | none => none
    | some ((srcKey, protocol), p) =>
      if protocol ≠ 17 then some (.ipv4 srcKey) else sniffUdp headers srcKey p

/-- What a frame is. -/
def sniff (frame : List UInt8) : Option Sniffed :=
  if frame.length < headers.wifiMacSize then some .frame
  else
    match headers.removeWifiMac frame with
    | none => none
    | some (isData, p) =>
      if !isData then some .frame
      else if p.length < headers.llcSnapSize then some .frame
      else
        match headers.removeLlcSnap p with
        | none => none
        | some (llcType, p) =>
          if llcType ≠ 0x0800 then some .frame else sniffIpv4 headers p

namespace FeatureCollector

variable (c : FeatureCollector) (frameBytes : ℕ) (nowS : ℚ)

/-- What a frame leaves behind. -/
def account : Sniffed → FeatureCollector
  | .frame => c.countFrame frameBytes
  | .ipv4 srcKey => (c.countFrame frameBytes).countIpv4 frameBytes srcKey nowS
  | .olsr srcKey messages => messages.foldl countMessage
      (((c.countFrame frameBytes).countIpv4 frameBytes srcKey nowS).countOlsr frameBytes)

lemma readMessages_eq (remaining : ℕ) (p : List UInt8) :
    c.readMessages remaining p = (parsedMessages remaining p).map (·.foldl countMessage c) := by
  induction remaining using Nat.strong_induction_on generalizing c p with
  | _ remaining ih =>
    rw [readMessages, parsedMessages]
    split
    · rfl
    · cases p.head? with
      | none => rfl
      | some firstByte =>
        dsimp only
        split
        · rfl
        · cases removeHeader p with
          | none => rfl
          | some x =>
            dsimp only
            generalize (if p.length ≥ x.2.length then p.length - x.2.length else 0) = consumed
            by_cases hstop : consumed = 0 ∨ consumed > remaining
            · rw [if_pos hstop, if_pos hstop]
              rfl
            · rw [if_neg hstop, if_neg hstop, ih _ (by omega), Option.map_map]
              rfl

lemma readPacket_eq (p : List UInt8) :
    c.readPacket p = (packetMessages p).map (·.foldl countMessage c) := by
  rw [readPacket, packetMessages]
  split
  · rfl
  · cases PacketHeader.deserialize.run p with
    | none => rfl
    | some x => exact c.readMessages_eq _ _

lemma observeUdp_eq (srcKey : UInt32) (p : List UInt8) :
    ((c.countFrame frameBytes).countIpv4 frameBytes srcKey nowS).observeUdp headers frameBytes p =
      (sniffUdp headers srcKey p).map (c.account frameBytes nowS) := by
  rw [observeUdp, sniffUdp]
  split
  · rfl
  · cases headers.removeUdp p with
    | none => rfl
    | some udp =>
      dsimp only
      split
      · rfl
      · rw [readPacket_eq, Option.map_map]
        rfl

lemma observeIpv4_eq (p : List UInt8) :
    (c.countFrame frameBytes).observeIpv4 headers nowS frameBytes p =
      (sniffIpv4 headers p).map (c.account frameBytes nowS) := by
  rw [observeIpv4, sniffIpv4]
  split
  · rfl
  · cases headers.removeIpv4 p with
    | none => rfl
    | some ipv4 =>
      dsimp only
      split
      · rfl
      · exact observeUdp_eq headers c frameBytes nowS ipv4.1.1 ipv4.2

/-- Every frame is accounted for as what it is. -/
lemma observeSniffedFrame_eq (packet : Option (List UInt8)) :
    c.observeSniffedFrame headers nowS packet =
      packet.elim (some c) fun frame =>
        (sniff headers frame).map (c.account frame.length nowS) := by
  cases packet with
  | none => rfl
  | some frame =>
    rw [observeSniffedFrame, Option.elim_some, sniff]
    split
    · rfl
    · cases headers.removeWifiMac frame with
      | none => rfl
      | some mac =>
        dsimp only
        split
        · rfl
        · split
          · rfl
          · cases headers.removeLlcSnap mac.2 with
            | none => rfl
            | some llc =>
              dsimp only
              split
              · rfl
              · exact observeIpv4_eq headers c frame.length nowS llc.2

end FeatureCollector

end ManetOlsr
