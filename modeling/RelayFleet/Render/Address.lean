/-
The public address of a gateway: the first one it asks for; else the one that the load balancer of
its service reports; else, if the service opens ports on the nodes, an external address of a node.
In the last case clients use the node's port for a listener's port.
-/
import RelayFleet.Store.Snapshot
import RelayFleet.Document.Basic
import RelayFleet.Text.IpAddress

namespace RelayFleet

/-- A number of 32 bits as a number of 16 bits, if it is one. -/
def word16OfInt32? (n : Int32) : Option UInt16 :=
  if 0 ≤ n.toInt ∧ n.toInt ≤ 0xFFFF then some (UInt16.ofNat n.toInt.toNat) else none

/-- Where clients reach a gateway, and what they use for the ports of its service. -/
structure PublicAddress where
  value : String
  type : String
  /-- The node port for a transport's name and a port; of several the last holds. -/
  nodePorts : List ((String × UInt16) × UInt16) := []
deriving DecidableEq, Inhabited

namespace PublicAddress

/-- The type of an address in numbers. -/
def ipAddress : String := "IPAddress"

/-- The type of an address by name. -/
def hostname : String := "Hostname"

/-- The address that a gateway asks for; its type shows in the text where it is not given. -/
def ofRequested (a : GatewayAddress) : PublicAddress where
  value := a.value
  type := a.type.getD (if IpAddress.isAddress a.value then ipAddress else hostname)

/-- The port that clients use for a listener. -/
def publicPort (a : PublicAddress) (protocol : Protocol) (port : UInt16) : UInt16 :=
  ((a.nodePorts.reverse.find? (·.1 = (protocol.transport.text, port))).map (·.2)).getD port

/-- The address as a gateway's status shows it. -/
def reported (a : PublicAddress) : GatewayAddress := ⟨some a.type, a.value⟩

/-! ## Where to look -/

/-- An address of a load balancer: in numbers where it has one, else by name. -/
def ofIngress? (i : Ingress) : Option PublicAddress :=
  match i.ip.filter (· ≠ ""), i.hostname.filter (· ≠ "") with
  | some ip, _ => some { value := ip, type := ipAddress }
  | none, some host => some { value := host, type := hostname }
  | none, none => none

/-- An external address of a node. -/
def ofNode? (n : Node) : Option PublicAddress :=
  (n.addresses.find? fun a => a.type = "ExternalIP" ∧ a.address ≠ "").map fun a =>
    { value := a.address, type := ipAddress }

/-- The ports that a service opens on the nodes. -/
def nodePortsOf (s : Service) : List ((String × UInt16) × UInt16) :=
  s.ports.filterMap fun p => do
    let port ← word16OfInt32? p.port
    let nodePort ← word16OfInt32? (← p.nodePort)
    return ((p.protocol.getD "TCP", port), nodePort)

/-- The public address that a service has. -/
def ofService? (s : Snapshot) (service : Service) : Option PublicAddress :=
  match service.ingress.findSome? ofIngress? with
  | some a => some a
  | none =>
    if service.hasType "NodePort" then
      (s.nodes.findSome? ofNode?).map fun a => { a with nodePorts := nodePortsOf service }
    else none

/-- The public address of a gateway, if it has one yet. Its service carries its name. -/
def ofGateway? (s : Snapshot) (key : ObjectKey) (g : Gateway) : Option PublicAddress :=
  match g.spec.addresses.find? (·.value ≠ "") with
  | some a => some (ofRequested a)
  | none => (s.service? key).bind (ofService? s)

end PublicAddress

end RelayFleet
