/-
The listeners of a gateway after validation. Of several listeners of one name only the first is
planned, and it is in conflict; so are accepted listeners that share a port over one transport.
-/
import RelayFleet.Store.Snapshot
import RelayFleet.Document.Basic
import RelayFleet.Render.Address

namespace RelayFleet

/-- A condition on something rendered from an object of this generation. -/
def Condition.of (generation : Option Int64) (type : String) (status : ConditionStatus)
    (reason message : String) : Condition :=
  { type, status, reason, message, observedGeneration := generation }

/-- A listener after validation. -/
structure ListenerPlan where
  name : String
  protocol : Option Protocol
  /-- The port, if it is one that can be used. -/
  port : Option UInt16
  admitted : FromNamespaces
  supportedKinds : List RouteGroupKind
  accepted : Condition
  resolvedRefs : Condition
  conflicted : Condition
deriving DecidableEq, Inhabited

namespace ListenerPlan

/-- Whether the listener is served: accepted, with all references, and in no conflict. -/
def isReady (p : ListenerPlan) : Bool :=
  p.accepted.isTrue && p.resolvedRefs.isTrue && !p.conflicted.isTrue

/-- Whether a route of a namespace may attach to a listener of a gateway in another. -/
def admits (p : ListenerPlan) (gatewayNamespace routeNamespace : String) : Bool :=
  !p.supportedKinds.isEmpty &&
    match p.admitted with
    | .all => true
    | .same => gatewayNamespace == routeNamespace
    | .selector => false

/-- Port and transport of an accepted listener. -/
def slot? (p : ListenerPlan) : Option (UInt16 × Transport) :=
  if p.accepted.isTrue then
    p.protocol.bind fun protocol => p.port.map fun port => (port, protocol.transport)
  else none

/-! ## One listener by itself -/

section

variable (generation : Option Int64)

/-- Whether protocol and port can be served. -/
def acceptance (l : Listener) (protocol : Option Protocol) (port : Option UInt16) : Condition :=
  let condition := Condition.of generation ConditionType.accepted
  match protocol, port with
  | none, _ =>
    condition .false Reason.unsupportedProtocol ("protocol " ++ l.protocol ++ " is not supported")
  | _, none =>
    condition .false Reason.portUnavailable
      ("port " ++ toString l.port.toInt ++ " is not usable")
  | _, _ => condition .true Reason.accepted "listener accepted"

/-- What is wrong with a reference to a certificate. -/
def certificateFlaw? (s : Snapshot) (ns : String) (r : SecretReference) : Option String :=
  if r.isSecret then
    if (s.secret? (r.key ns)).isSome then none
    else some ("certificate secret " ++ (r.key ns).text ++ " not found")
  else some ("certificate reference " ++ r.name ++ " is not a Secret")

/-- What is wrong with the certificates of a listener that needs one. -/
def certificatesFlaw? (s : Snapshot) (ns : String) (l : Listener) : Option String :=
  if l.certificateRefs.isEmpty then some (l.protocol ++ " listener requires a certificate")
  else l.certificateRefs.findSome? (certificateFlaw? s ns)

/-- The kinds of route that a listener takes: the supported one, unless it asks only for others. -/
def kindsOf (l : Listener) : List RouteGroupKind :=
  if l.requestedKinds.isEmpty || l.requestedKinds.any (·.isUdpRoute) then
    [RouteGroupKind.udpRoute]
  else []

/-- Whether the references of a listener lead somewhere. -/
def resolution (s : Snapshot) (ns : String) (l : Listener) (protocol : Option Protocol) :
    Condition :=
  let condition := Condition.of generation ConditionType.resolvedRefs
  let needsCertificate := protocol.any (·.requiresCertificate)
  if (kindsOf l).isEmpty then
    condition .false Reason.invalidRouteKinds
      "no supported route kind allowed, only UDPRoute is supported"
  else
    match if needsCertificate then certificatesFlaw? s ns l else none with
    | some message => condition .false Reason.invalidCertificateRef message
    | none => condition .true Reason.resolvedRefs "all references resolved"

/-- A listener by itself, without regard to the others. -/
def ofListener (s : Snapshot) (ns : String) (l : Listener) : ListenerPlan :=
  let protocol := Protocol.parse? l.protocol
  let port := (word16OfInt32? l.port).filter (· ≠ 0)
  { name := l.name
    protocol
    port
    admitted := l.admittedNamespaces
    supportedKinds := kindsOf l
    accepted := acceptance generation l protocol port
    resolvedRefs := resolution generation s ns l protocol
    conflicted :=
      Condition.of generation ConditionType.conflicted .false Reason.noConflicts "no conflicts" }

/-! ## Conflicts -/

/-- Marks a listener that shares its port over one transport with others. -/
def markShared (plans : List ListenerPlan) (p : ListenerPlan) : ListenerPlan :=
  match p.slot? with
  | none => p
  | some slot =>
    let sharing := plans.filter (·.slot? = some slot)
    if sharing.length ≤ 1 then p
    else
      { p with
        conflicted := Condition.of generation ConditionType.conflicted .true
          Reason.protocolConflict
          ("port " ++ toString slot.1.toNat ++ " is shared by listeners " ++
            ", ".intercalate (sharing.map (·.name))) }

/-- Marks a listener whose name is used by others too. -/
def markRepeated (names : List String) (p : ListenerPlan) : ListenerPlan :=
  let uses := names.count p.name
  if uses ≤ 1 then p
  else
    { p with
      conflicted := Condition.of generation ConditionType.conflicted .true
        Reason.listenerNameConflict
        ("listener name " ++ p.name ++ " is used by " ++ toString uses ++
          " listeners, only the first is reported") }

end

/-! ## All listeners -/

/-- The first listener of every name. -/
def firstOfName : List Listener → List Listener
  | [] => []
  | l :: rest => l :: (firstOfName rest).filter (·.name ≠ l.name)

/-- The planned listeners of a gateway. -/
def ofGateway (s : Snapshot) (key : ObjectKey) (g : Gateway) : List ListenerPlan :=
  let generation := g.metadata.generation
  let plans := (firstOfName g.spec.listeners).map (ofListener generation s key.namespaceText)
  let names := g.spec.listeners.map (·.name)
  plans.map fun p => markRepeated generation names (markShared generation plans p)

/-- What is reported about a listener with this many routes. -/
def status (p : ListenerPlan) (attachedRoutes : Nat) : ListenerStatus where
  name := p.name
  attachedRoutes := Int32.ofNat attachedRoutes
  supportedKinds := p.supportedKinds
  conditions := [p.accepted, p.resolvedRefs, p.conflicted]

/-- What is reported about the listeners of a gateway that is not served. -/
def pendingStatuses (g : Gateway) (message : String) : List ListenerStatus :=
  (firstOfName g.spec.listeners).map fun l => {
    name := l.name
    attachedRoutes := 0
    supportedKinds := [RouteGroupKind.udpRoute]
    conditions := [Condition.of g.metadata.generation ConditionType.accepted .unknown
      Reason.pending message] }

end ListenerPlan

end RelayFleet
