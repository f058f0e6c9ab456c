/-
Gateways: the listeners that clients reach and what was last reported about them. Only the members
that the control plane reads are kept.
-/
import RelayFleet.Resource.GatewayClass

namespace RelayFleet

/-! ## Route kinds -/

/-- The group and kind of a route. -/
structure RouteGroupKind where
  group : Option String := none
  kind : String
deriving DecidableEq, Inhabited

namespace RouteGroupKind

/-- The kind of route that listeners support. -/
def udpRoute : RouteGroupKind := ⟨some gatewayGroup, "UDPRoute"⟩

/-- Whether this names the supported kind of route; the group may be left out. -/
def isUdpRoute (k : RouteGroupKind) : Bool :=
  k.kind == "UDPRoute" && k.group.all (· == gatewayGroup)

/-- Reads a route kind. -/
def ofJson? (j : Json) : Option RouteGroupKind := do
  let [group, kind] ← j.strict? ["group", "kind"] | none
  return { group := ← Json.optional Json.text? group, kind := ← Json.needed Json.text? kind }

/-- Writes a route kind. -/
def toJson (k : RouteGroupKind) : Json :=
  .present [("group", k.group.map .str), ("kind", some (.str k.kind))]

end RouteGroupKind

/-! ## Listeners -/

/-- A reference to the secret with a certificate. -/
structure SecretReference where
  group : Option String := none
  kind : Option String := none
  name : String
  inNamespace : Option String := none
deriving DecidableEq, Inhabited

namespace SecretReference

/-- Whether a secret is meant; group and kind may be left out. -/
def isSecret (r : SecretReference) : Bool :=
  r.group.all (· == "") && r.kind.all (· == "Secret")

/-- The secret meant, in the given namespace unless the reference names one. -/
def key (r : SecretReference) (ns : String) : ObjectKey :=
  .namespaced (r.inNamespace.getD ns) r.name

/-- Reads a reference. -/
def ofJson? (j : Json) : Option SecretReference := do
  let [group, kind, name, ns] ← j.strict? ["group", "kind", "name", "namespace"] | none
  return {
    group := ← Json.optional Json.text? group
    kind := ← Json.optional Json.text? kind
    name := ← Json.needed Json.text? name
    inNamespace := ← Json.optional Json.text? ns }

/-- Writes a reference. -/
def toJson (r : SecretReference) : Json :=
  .present [("group", r.group.map .str), ("kind", r.kind.map .str), ("name", some (.str r.name)),
    ("namespace", r.inNamespace.map .str)]

end SecretReference

/-- How a listener ends TLS. -/
structure TlsConfig where
  mode : Option String := none
  certificateRefs : List SecretReference := []
deriving DecidableEq, Inhabited

namespace TlsConfig

/-- Reads a TLS configuration. -/
def ofJson? (j : Json) : Option TlsConfig := do
  let [mode, refs] ← j.strict? ["mode", "certificateRefs"] | none
  return {
    mode := ← Json.optional Json.text? mode
    certificateRefs := ← Json.defaulted (Json.list? SecretReference.ofJson?) [] refs }

/-- Writes a TLS configuration. -/
def toJson (t : TlsConfig) : Json :=
  .present [("mode", t.mode.map .str),
    ("certificateRefs", some (.arr (t.certificateRefs.map (·.toJson))))]

end TlsConfig

/-- The namespaces that routes may come from. -/
inductive FromNamespaces where
  | all
  | same
  | selector
deriving DecidableEq, Inhabited

namespace FromNamespaces

/-- The name of a choice. -/
def text : FromNamespaces → String
  | all => "All"
  | same => "Same"
  | selector => "Selector"

/-- The choice of a name. -/
def ofText? (s : String) : Option FromNamespaces :=
  if s = "All" then some all
  else if s = "Same" then some same
  else if s = "Selector" then some selector
  else none

end FromNamespaces

/-- The namespace rule of a listener. -/
structure RouteNamespaces where
  admitted : Option FromNamespaces := none
deriving DecidableEq, Inhabited

namespace RouteNamespaces

/-- Reads a namespace rule. -/
def ofJson? (how : Json.Reading) (j : Json) : Option RouteNamespaces := do
  let [admitted] ← j.strict? ["from"] | none
  return { admitted := ← Json.optional (Json.choice? how FromNamespaces.ofText?) admitted }

/-- Writes a namespace rule. -/
def toJson (r : RouteNamespaces) : Json := .present [("from", r.admitted.map (.str ·.text))]

end RouteNamespaces

/-- The routes that a listener admits. -/
structure AllowedRoutes where
  namespaces : Option RouteNamespaces := none
  kinds : List RouteGroupKind := []
deriving DecidableEq, Inhabited

namespace AllowedRoutes

/-- Reads an admission rule. -/
def ofJson? (how : Json.Reading) (j : Json) : Option AllowedRoutes := do
  let [namespaces, kinds] ← j.strict? ["namespaces", "kinds"] | none
  return {
    namespaces := ← Json.optional (RouteNamespaces.ofJson? how) namespaces
    kinds := ← Json.defaulted (Json.list? RouteGroupKind.ofJson?) [] kinds }

/-- Writes an admission rule. -/
def toJson (a : AllowedRoutes) : Json :=
  .present [("namespaces", a.namespaces.map (·.toJson)),
    ("kinds", if a.kinds.isEmpty then none else some (.arr (a.kinds.map (·.toJson))))]

end AllowedRoutes

/-- A listener of a gateway. -/
structure Listener where
  name : String
  protocol : String
  port : Int32
  hostname : Option String := none
  tls : Option TlsConfig := none
  allowedRoutes : Option AllowedRoutes := none
deriving DecidableEq, Inhabited

namespace Listener

/-- The certificates of a listener. -/
def certificateRefs (l : Listener) : List SecretReference := (l.tls.map (·.certificateRefs)).getD []

/-- The namespaces a listener admits routes from; its own, if it does not say. -/
def admittedNamespaces (l : Listener) : FromNamespaces :=
  (((l.allowedRoutes.bind (·.namespaces)).bind (·.admitted))).getD .same

/-- The kinds of route that a listener asks for. -/
def requestedKinds (l : Listener) : List RouteGroupKind := (l.allowedRoutes.map (·.kinds)).getD []

/-- Reads a listener. -/
def ofJson? (how : Json.Reading) (j : Json) : Option Listener := do
  let [name, protocol, port, hostname, tls, allowed] ← j.strict?
    ["name", "protocol", "port", "hostname", "tls", "allowedRoutes"] | none
  return {
    name := ← Json.needed Json.text? name
    protocol := ← Json.needed Json.text? protocol
    port := ← Json.needed Json.int32? port
    hostname := ← Json.optional Json.text? hostname
    tls := ← Json.optional TlsConfig.ofJson? tls
    allowedRoutes := ← Json.optional (AllowedRoutes.ofJson? how) allowed }

/-- Writes a listener. -/
def toJson (l : Listener) : Json :=
  .present [
    ("name", some (.str l.name)),
    ("protocol", some (.str l.protocol)),
    ("port", some (.int l.port.toInt)),
    ("hostname", l.hostname.map .str),
    ("tls", l.tls.map (·.toJson)),
    ("allowedRoutes", l.allowedRoutes.map (·.toJson))]

end Listener

/-! ## Addresses -/

/-- An address that is asked for or reported. -/
structure GatewayAddress where
  type : Option String := none
  value : String
deriving DecidableEq, Inhabited

namespace GatewayAddress

/-- Reads an address. -/
def ofJson? (j : Json) : Option GatewayAddress := do
  let [type, value] ← j.strict? ["type", "value"] | none
  return { type := ← Json.optional Json.text? type, value := ← Json.needed Json.text? value }

/-- Writes an address. -/
def toJson (a : GatewayAddress) : Json :=
  .present [("type", a.type.map .str), ("value", some (.str a.value))]

end GatewayAddress

/-! ## Gateways -/

/-- What a gateway asks for. -/
structure GatewaySpec where
  gatewayClassName : String
  listeners : List Listener := []
  addresses : List GatewayAddress := []
deriving DecidableEq, Inhabited

namespace GatewaySpec

/-- Reads the specification of a gateway. -/
def ofJson? (how : Json.Reading) (j : Json) : Option GatewaySpec := do
  let [className, listeners, addresses] ←
    j.strict? ["gatewayClassName", "listeners", "addresses"] | none
  return {
    gatewayClassName := ← Json.needed Json.text? className
    listeners := ← Json.defaulted (Json.list? (Listener.ofJson? how)) [] listeners
    addresses := ← Json.defaulted (Json.list? GatewayAddress.ofJson?) [] addresses }

/-- Writes the specification of a gateway. -/
def toJson (s : GatewaySpec) : Json :=
  .present [
    ("gatewayClassName", some (.str s.gatewayClassName)),
    ("listeners", some (.arr (s.listeners.map (·.toJson)))),
    ("addresses", if s.addresses.isEmpty then none else some (.arr (s.addresses.map (·.toJson))))]

end GatewaySpec

/-- What was last reported about a listener. -/
structure ListenerStatus where
  name : String
  attachedRoutes : Int32
  supportedKinds : List RouteGroupKind := []
  conditions : List Condition := []
deriving DecidableEq, Inhabited

namespace ListenerStatus

/-- Reads the status of a listener. -/
def ofJson? (how : Json.Reading) (j : Json) : Option ListenerStatus := do
  let [name, attached, kinds, conditions] ←
    j.strict? ["name", "attachedRoutes", "supportedKinds", "conditions"] | none
  return {
    name := ← Json.needed Json.text? name
    attachedRoutes := ← Json.needed Json.int32? attached
    supportedKinds := ← Json.defaulted (Json.list? RouteGroupKind.ofJson?) [] kinds
    conditions := ← Json.defaulted (Condition.listOfJson? how) [] conditions }

/-- Writes the status of a listener. -/
def toJson (s : ListenerStatus) : Json :=
  .obj [
    ("name", .str s.name),
    ("attachedRoutes", .int s.attachedRoutes.toInt),
    ("supportedKinds", .arr (s.supportedKinds.map (·.toJson))),
    ("conditions", Condition.listToJson s.conditions)]

end ListenerStatus

/-- What was last reported about a gateway. -/
structure GatewayStatus where
  addresses : List GatewayAddress := []
  conditions : List Condition := []
  listeners : List ListenerStatus := []
deriving DecidableEq, Inhabited

namespace GatewayStatus

/-- Reads the status of a gateway. -/
def ofJson? (how : Json.Reading) (j : Json) : Option GatewayStatus := do
  let [addresses, conditions, listeners] ←
    j.strict? ["addresses", "conditions", "listeners"] | none
  return {
    addresses := ← Json.defaulted (Json.list? GatewayAddress.ofJson?) [] addresses
    conditions := ← Json.defaulted (Condition.listOfJson? how) [] conditions
    listeners := ← Json.defaulted (Json.list? (ListenerStatus.ofJson? how)) [] listeners }

/-- Writes the status of a gateway. -/
def toJson (s : GatewayStatus) : Json :=
  .obj [
    ("addresses", .arr (s.addresses.map (·.toJson))),
    ("conditions", Condition.listToJson s.conditions),
    ("listeners", .arr (s.listeners.map (·.toJson)))]

end GatewayStatus

/-- A gateway. -/
structure Gateway where
  metadata : Metadata
  spec : GatewaySpec
  status : Option GatewayStatus := none
deriving DecidableEq, Inhabited

namespace Gateway

/-- Reads a gateway. -/
def ofJson? (how : Json.Reading) (j : Json) : Option Gateway := do
  let [metadata, spec, status] ← j.strict? ["metadata", "spec", "status"] 3 | none
  return {
    metadata := ← Json.needed Metadata.ofJson? metadata
    spec := ← Json.needed (GatewaySpec.ofJson? how) spec
    status := ← Json.optional (GatewayStatus.ofJson? how) status }

/-- Writes a gateway. -/
def toJson (g : Gateway) : Json :=
  manifestJson (gatewayGroup ++ "/v1") "Gateway" g.metadata
    [("spec", some g.spec.toJson), ("status", g.status.map (·.toJson))]

end Gateway

end RelayFleet
