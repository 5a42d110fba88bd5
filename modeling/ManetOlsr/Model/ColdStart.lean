/-
The cold start of a defense, and the calls of the contradiction rules.
-/
import ManetOlsr.Model.FpntCalls
import ManetOlsr.Model.Gcop
import ManetOlsr.Model.WatchdogCalls

namespace ManetOlsr

namespace OlsrWatchdogDefense

/-- The defense as the harness starts a measurement: `SetEnabled` of the opposite value, and then of
the value itself. -/
def coldStart (d : OlsrWatchdogDefense) (now : Time) : OlsrWatchdogDefense :=
  (d.setEnabled now !d.enabled).setEnabled now d.enabled

end OlsrWatchdogDefense

namespace OlsrDefenseFpnt

def coldStart (d : OlsrDefenseFpnt) : OlsrDefenseFpnt :=
  (d.setEnabled !d.enabled).setEnabled d.enabled

end OlsrDefenseFpnt

namespace OlsrDefenseGcop

/-- The functions that change the defense. -/
inductive Hook where
  | setup (nodeAddress : Ipv4Address)
  | setEnabled (enabled : Bool)
  | onRecvHello (senderAddress : Ipv4Address)

/-- A call, with the repositories of the node. -/
structure Call where
  state : OlsrState := {}
  hook : Hook

def call (d : OlsrDefenseGcop) (c : Call) : OlsrDefenseGcop :=
  match c.hook with
  | .setup nodeAddress => d.setup nodeAddress
  | .setEnabled enabled => d.setEnabled enabled
  | .onRecvHello senderAddress => d.onRecvHello c.state senderAddress

/-- The defense after some calls. -/
abbrev runCalls (d : OlsrDefenseGcop) (cs : List Call) : OlsrDefenseGcop := Lib.run call d cs

def coldStart (d : OlsrDefenseGcop) : OlsrDefenseGcop :=
  (d.setEnabled !d.enabled).setEnabled d.enabled

end OlsrDefenseGcop

end ManetOlsr
