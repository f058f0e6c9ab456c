/-
The protocols of a TURN listener: their names, the transport under each, and which of them need a
certificate.
-/
import RelayFleet.Fault
import RelayFleet.Text.Ascii

namespace RelayFleet

/-- The transport under a protocol. Listeners over the same transport cannot share a port. -/
inductive Transport where
  | udp
  | tcp
deriving DecidableEq, Inhabited

namespace Transport

/-- The name of a transport in a service's port. -/
def text : Transport → String
  | udp => "UDP"
  | tcp => "TCP"

end Transport

/-- The protocol of a listener. -/
inductive Protocol where
  | turnUdp
  | turnTcp
  | turnTls
  | turnDtls
deriving DecidableEq, Inhabited

namespace Protocol

/-- The name of a protocol. -/
def text : Protocol → String
  | turnUdp => "TURN-UDP"
  | turnTcp => "TURN-TCP"
  | turnTls => "TURN-TLS"
  | turnDtls => "TURN-DTLS"

/-- The protocol of a name. -/
def ofText? (s : String) : Option Protocol :=
  if s = "TURN-UDP" then some turnUdp
  else if s = "TURN-TCP" then some turnTcp
  else if s = "TURN-TLS" then some turnTls
  else if s = "TURN-DTLS" then some turnDtls
  else none

/-- The protocol of a name as a gateway writes it: in either case, with or without what comes
before the transport. -/
def parse? (s : String) : Option Protocol :=
  let name := Ascii.upper s
  if name = "TURN-UDP" ∨ name = "UDP" then some turnUdp
  else if name = "TURN-TCP" ∨ name = "TCP" then some turnTcp
  else if name = "TURN-TLS" ∨ name = "TLS" then some turnTls
  else if name = "TURN-DTLS" ∨ name = "DTLS" then some turnDtls
  else none

/-- The protocol of a name, or the fault of not being one. -/
def parse (s : String) : Except Fault Protocol :=
  match parse? s with
  | some p => .ok p
  | none => .error (.validation Fault.unknown ("unsupported protocol: " ++ s))

/-- The transport under a protocol. -/
def transport : Protocol → Transport
  | turnUdp => .udp
  | turnDtls => .udp
  | turnTcp => .tcp
  | turnTls => .tcp

/-- Whether a listener of this protocol ends TLS. -/
def requiresCertificate : Protocol → Bool
  | turnTls => true
  | turnDtls => true
  | _ => false

/-- The place of a protocol in the order of protocols. -/
def rank : Protocol → Nat
  | turnUdp => 0
  | turnTcp => 1
  | turnTls => 2
  | turnDtls => 3

theorem eq_of_rank {p q : Protocol} (h : p.rank = q.rank) : p = q := by
  cases p <;> cases q <;> first | rfl | cases h

end Protocol

end RelayFleet
