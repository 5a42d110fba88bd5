/-
Building blocks for concrete runs: a node of address 1 with one interface, and the messages its
neighbors send it.  Their validity time is two seconds unless it is given.
-/
import ManetOlsr.Model.FpntEdition
import ManetOlsr.Model.WatchdogRuns

namespace ManetOlsr.Scenario

variable {D : Type}

/-- A node with main address 1 and one interface. -/
def single : Config D where
  mainAddress := 1
  interfaces := [{ address := 1 }]

/-- The same, with emission intervals so long that nothing is sent for a while. -/
def quiet : Config D where
  mainAddress := 1
  interfaces := [{ address := 1 }]
  helloInterval := Seconds 100
  tcInterval := Seconds 100
  midInterval := Seconds 100
  hnaInterval := Seconds 100

lemma single_isJitter : (single : Config D).node.IsJitter 0 :=
  ⟨le_refl 0, by simp [single, Config.node, Seconds]⟩

lemma quiet_isJitter : (quiet : Config D).node.IsJitter 0 :=
  ⟨le_refl 0, by simp [quiet, Config.node, Seconds]⟩

/-- The quiet node with a watchdog. -/
def quietWatchdog : Config OlsrWatchdogDefense where
  mainAddress := 1
  interfaces := [{ address := 1 }]
  helloInterval := Seconds 100
  tcInterval := Seconds 100
  midInterval := Seconds 100
  hnaInterval := Seconds 100
  defenseStrategy := some {}

lemma quietWatchdog_installed : quietWatchdog.defenseStrategy = some {} := rfl

lemma quietWatchdog_fresh :
    ({} : OlsrWatchdogDefense).checks = [] ∧ ({} : OlsrWatchdogDefense).rotations = [] :=
  ⟨rfl, rfl⟩

lemma quietWatchdog_isJitter : quietWatchdog.node.IsJitter 0 :=
  ⟨le_refl 0, by simp [quietWatchdog, Config.node, Seconds]⟩

/-- The quiet node with the FPNT defense. -/
def quietFpnt : Config OlsrDefenseFpnt where
  mainAddress := 1
  interfaces := [{ address := 1 }]
  helloInterval := Seconds 100
  tcInterval := Seconds 100
  midInterval := Seconds 100
  hnaInterval := Seconds 100
  defenseStrategy := some {}

lemma quietFpnt_installed : quietFpnt.defenseStrategy = some {} := rfl

lemma quietFpnt_isJitter : quietFpnt.node.IsJitter 0 :=
  ⟨le_refl 0, by simp [quietFpnt, Config.node, Seconds]⟩

/-- An IP layer that forwards everything. -/
def forwardingIpv4 : Ipv4L3Protocol where
  isDestinationAddress _ _ := false
  sourceAddressSelection _ _ := 1
  isForwarding _ := true

/-- The code of two seconds. -/
def twoSeconds : UInt8 := 0x05

/-- A HELLO message. -/
def hello (originator : Ipv4Address) (linkMessages : List LinkMessage)
    (vTime : UInt8 := twoSeconds) : MessageHeader where
  vTime := vTime
  originatorAddress := originator
  timeToLive := 1
  hopCount := 0
  messageSequenceNumber := 0
  body := .hello ⟨twoSeconds, Willingness.default, linkMessages⟩

/-- A message that is flooded; its sequence number tells it from others of its originator. -/
def flooded (originator : Ipv4Address) (messageSequenceNumber : UInt16) (body : MessageBody)
    (vTime : UInt8 := twoSeconds) : MessageHeader where
  vTime := vTime
  originatorAddress := originator
  timeToLive := 255
  hopCount := 0
  messageSequenceNumber := messageSequenceNumber
  body := body

/-- Symmetric links to symmetric neighbors. -/
def symLinks (addrs : List Ipv4Address) : LinkMessage := ⟨Node.symLinkCode, addrs⟩

/-- Symmetric links to neighbors that are MPRs. -/
def mprLinks (addrs : List Ipv4Address) : LinkMessage :=
  ⟨makeLinkCode LinkType.symLink NeighborType.mprNeigh, addrs⟩

/-- Lost links. -/
def lostLinks (addrs : List Ipv4Address) : LinkMessage :=
  ⟨makeLinkCode LinkType.lostLink NeighborType.notNeigh, addrs⟩

/-- The reception of a message on the first interface. -/
def recv (t : Time) (senderIface : Ipv4Address) (msg : MessageHeader) : Label D :=
  Label.recvOlsr t 0 senderIface [msg] 0

end ManetOlsr.Scenario
