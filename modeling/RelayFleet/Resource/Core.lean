/-
The core objects that rendering looks at: services with their endpoint slices, secrets and nodes.
-/
import RelayFleet.Resource.GatewayClass
import RelayFleet.Schema.Manifest

namespace RelayFleet

/-- Reads the metadata and some other members of a core object, which as a whole has to have its
shape, and holds what else there is. -/
def coreManifest? (how : Json.Reading) (shape : Shape) (names : List String) (j : Json) :
    Option (Metadata × List (Option Json) × List (String × Json)) := do
  guard (shape.admits how j)
  let metadata :: rest ← j.lenient? ("metadata" :: names) | none
  return (← Json.defaulted Metadata.ofJson? {} metadata, rest,
    shape.others (["apiVersion", "kind", "metadata"] ++ names) j)

/-! ## Services -/

/-- The port of a pod that a service's port leads to, by number or by name. -/
inductive TargetPort where
  | number (port : Int32)
  | named (name : String)
deriving DecidableEq, Inhabited

namespace TargetPort

/-- Reads a target port. -/
def ofJson? : Json → Option TargetPort
  | .str name => some (.named name)
  | j => j.int32?.map .number

/-- Writes a target port. -/
def toJson : TargetPort → Json
  | .number port => .int port.toInt
  | .named name => .str name

end TargetPort

/-- A port of a service. -/
structure ServicePort where
  name : Option String := none
  port : Int32 := 0
  nodePort : Option Int32 := none
  protocol : Option String := none
  targetPort : Option TargetPort := none
  /-- Members that nothing looks at, as they are held. -/
  others : List (String × Json) := []
deriving DecidableEq, Inhabited

namespace ServicePort

/-- Reads a port. -/
def ofJson? (j : Json) : Option ServicePort := do
  let names := ["name", "port", "nodePort", "protocol", "targetPort"]
  let [name, port, nodePort, protocol, target] ← j.lenient? names | none
  return {
    name := ← Json.optional Json.text? name
    port := ← Json.defaulted Json.int32? 0 port
    nodePort := ← Json.optional Json.int32? nodePort
    protocol := ← Json.optional Json.text? protocol
    targetPort := ← Json.optional TargetPort.ofJson? target
    others := Shape.servicePort.others names j }

/-- Writes a port. -/
def toJson (p : ServicePort) : Json :=
  (Json.present [
    ("name", p.name.map .str),
    ("nodePort", p.nodePort.map (.int ·.toInt)),
    ("port", some (.int p.port.toInt)),
    ("protocol", p.protocol.map .str),
    ("targetPort", p.targetPort.map (·.toJson))]).extended (Shape.servicePort.written p.others)

end ServicePort

/-- What a service asks for. -/
structure ServiceSpec where
  clusterIp : Option String := none
  externalName : Option String := none
  ports : Option (List ServicePort) := none
  selector : Option Labels := none
  type : Option String := none
  /-- Members that nothing looks at, as they are held. -/
  others : List (String × Json) := []
deriving DecidableEq, Inhabited

namespace ServiceSpec

/-- Reads the specification of a service. -/
def ofJson? (j : Json) : Option ServiceSpec := do
  let names := ["clusterIP", "externalName", "ports", "selector", "type"]
  let [clusterIp, externalName, ports, selector, type] ← j.lenient? names | none
  return {
    clusterIp := ← Json.optional Json.text? clusterIp
    externalName := ← Json.optional Json.text? externalName
    ports := ← Json.optional (Json.list? ServicePort.ofJson?) ports
    selector := ← Json.optional Labels.ofJson? selector
    type := ← Json.optional Json.text? type
    others := Shape.serviceSpec.others names j }

/-- Writes the specification of a service. -/
def toJson (s : ServiceSpec) : Json :=
  (Json.present [
    ("clusterIP", s.clusterIp.map .str),
    ("externalName", s.externalName.map .str),
    ("ports", s.ports.map fun l => .arr (l.map (·.toJson))),
    ("selector", s.selector.map Labels.toJson),
    ("type", s.type.map .str)]).extended (Shape.serviceSpec.written s.others)

end ServiceSpec

/-- An address that a load balancer reports. -/
structure Ingress where
  hostname : Option String := none
  ip : Option String := none
  /-- Members that nothing looks at, as they are held. -/
  others : List (String × Json) := []
deriving DecidableEq, Inhabited

namespace Ingress

/-- Reads a load balancer's address. -/
def ofJson? (j : Json) : Option Ingress := do
  let names := ["hostname", "ip"]
  let [hostname, ip] ← j.lenient? names | none
  return {
    hostname := ← Json.optional Json.text? hostname
    ip := ← Json.optional Json.text? ip
    others := Shape.ingress.others names j }

/-- Writes a load balancer's address. -/
def toJson (i : Ingress) : Json :=
  (Json.present [("hostname", i.hostname.map .str), ("ip", i.ip.map .str)]).extended
    (Shape.ingress.written i.others)

end Ingress

/-- The load balancer of a service. -/
structure LoadBalancer where
  ingress : Option (List Ingress) := none
deriving DecidableEq, Inhabited

namespace LoadBalancer

/-- Reads a load balancer. -/
def ofJson? (j : Json) : Option LoadBalancer := do
  let [ingress] ← j.lenient? ["ingress"] | none
  return { ingress := ← Json.optional (Json.list? Ingress.ofJson?) ingress }

/-- Writes a load balancer. -/
def toJson (b : LoadBalancer) : Json :=
  .present [("ingress", b.ingress.map fun l => .arr (l.map (·.toJson)))]

end LoadBalancer

/-- What was last reported about a service. -/
structure ServiceStatus where
  loadBalancer : Option LoadBalancer := none
  /-- Members that nothing looks at, as they are held. -/
  others : List (String × Json) := []
deriving DecidableEq, Inhabited

namespace ServiceStatus

/-- Reads the status of a service. -/
def ofJson? (j : Json) : Option ServiceStatus := do
  let [balancer] ← j.lenient? ["loadBalancer"] | none
  return {
    loadBalancer := ← Json.optional LoadBalancer.ofJson? balancer
    others := Shape.serviceStatus.others ["loadBalancer"] j }

/-- Writes the status of a service. -/
def toJson (s : ServiceStatus) : Json :=
  (Json.present [("loadBalancer", s.loadBalancer.map (·.toJson))]).extended
    (Shape.serviceStatus.written s.others)

end ServiceStatus

/-- A service. -/
structure Service where
  metadata : Metadata := {}
  spec : Option ServiceSpec := none
  status : Option ServiceStatus := none
deriving DecidableEq, Inhabited

namespace Service

/-- The ports of a service. -/
def ports (s : Service) : List ServicePort := (s.spec.bind (·.ports)).getD []

/-- Whether the service has this type. -/
def hasType (s : Service) (type : String) : Bool := s.spec.bind (·.type) == some type

/-- The addresses that the service's load balancer reports. -/
def ingress (s : Service) : List Ingress :=
  (((s.status.bind (·.loadBalancer))).bind (·.ingress)).getD []

/-- Reads a service. -/
def ofJson? (j : Json) : Option Service := do
  let (metadata, [spec, status], _) ← coreManifest? .direct .service ["spec", "status"] j | none
  return {
    metadata
    spec := ← Json.optional ServiceSpec.ofJson? spec
    status := ← Json.optional ServiceStatus.ofJson? status }

/-- Writes a service. -/
def toJson (s : Service) : Json :=
  manifestJson "v1" "Service" s.metadata
    [("spec", s.spec.map (·.toJson)), ("status", s.status.map (·.toJson))]

end Service

/-! ## Endpoint slices -/

/-- The state of an endpoint. -/
structure EndpointConditions where
  ready : Option Bool := none
  serving : Option Bool := none
  terminating : Option Bool := none
deriving DecidableEq, Inhabited

namespace EndpointConditions

/-- Reads the state of an endpoint. -/
def ofJson? (j : Json) : Option EndpointConditions := do
  let [ready, serving, terminating] ← j.lenient? ["ready", "serving", "terminating"] | none
  return {
    ready := ← Json.optional Json.flag? ready
    serving := ← Json.optional Json.flag? serving
    terminating := ← Json.optional Json.flag? terminating }

/-- Writes the state of an endpoint. -/
def toJson (c : EndpointConditions) : Json :=
  .present [("ready", c.ready.map .bool), ("serving", c.serving.map .bool),
    ("terminating", c.terminating.map .bool)]

end EndpointConditions

/-- An endpoint of a service. -/
structure Endpoint where
  addresses : List String := []
  conditions : Option EndpointConditions := none
  /-- Members that nothing looks at, as they are held. -/
  others : List (String × Json) := []
deriving DecidableEq, Inhabited

namespace Endpoint

/-- Whether an endpoint takes traffic; one that does not say does. -/
def isReady (e : Endpoint) : Bool := (e.conditions.bind (·.ready)).getD true

/-- Reads an endpoint. -/
def ofJson? (j : Json) : Option Endpoint := do
  let names := ["addresses", "conditions"]
  let [addresses, conditions] ← j.lenient? names | none
  return {
    addresses := ← Json.defaulted (Json.list? Json.text?) [] addresses
    conditions := ← Json.optional EndpointConditions.ofJson? conditions
    others := Shape.endpoint.others names j }

/-- Writes an endpoint. -/
def toJson (e : Endpoint) : Json :=
  (Json.present [("addresses", some (.arr (e.addresses.map .str))),
    ("conditions", e.conditions.map (·.toJson))]).extended (Shape.endpoint.written e.others)

end Endpoint

/-- Some of the endpoints of a service. -/
structure EndpointSlice where
  metadata : Metadata := {}
  addressType : String := ""
  endpoints : List Endpoint := []
  /-- Members that nothing looks at, as they are held. -/
  others : List (String × Json) := []
deriving DecidableEq, Inhabited

namespace EndpointSlice

/-- The label that links a slice to its service. -/
def serviceLabel : String := "kubernetes.io/service-name"

/-- The service a slice belongs to, if it is in a namespace and carries the label. -/
def service? (s : EndpointSlice) : Option ObjectKey :=
  s.metadata.inNamespace.bind fun ns =>
    (s.metadata.label? serviceLabel).map fun name => .namespaced ns name

/-- Reads a slice. -/
def ofJson? (j : Json) : Option EndpointSlice := do
  let (metadata, [addressType, endpoints], others) ←
    coreManifest? .direct .endpointSlice ["addressType", "endpoints"] j | none
  return {
    metadata
    others
    addressType := ← Json.defaulted Json.text? "" addressType
    endpoints := ← Json.defaulted (Json.list? Endpoint.ofJson?) [] endpoints }

/-- Writes a slice. -/
def toJson (s : EndpointSlice) : Json :=
  (manifestJson "discovery.k8s.io/v1" "EndpointSlice" s.metadata
    [("addressType", some (.str s.addressType)),
      ("endpoints", some (.arr (s.endpoints.map (·.toJson))))]).extended
    (Shape.endpointSlice.written s.others)

end EndpointSlice

/-! ## Secrets -/

/-- A secret. Only its presence matters here. -/
structure Secret where
  metadata : Metadata := {}
  stringData : Option Labels := none
  type : Option String := none
  /-- Members that nothing looks at, as they are held. -/
  others : List (String × Json) := []
deriving DecidableEq, Inhabited

namespace Secret

/-- Reads a secret. -/
def ofJson? (how : Json.Reading) (j : Json) : Option Secret := do
  let (metadata, [stringData, type], others) ←
    coreManifest? how .secret ["stringData", "type"] j | none
  return {
    metadata
    others
    stringData := ← Json.optional Labels.ofJson? stringData
    type := ← Json.optional Json.text? type }

/-- Writes a secret. -/
def toJson (s : Secret) : Json :=
  (manifestJson "v1" "Secret" s.metadata
    [("stringData", s.stringData.map Labels.toJson), ("type", s.type.map .str)]).extended
    (Shape.secret.written s.others)

end Secret

/-! ## Nodes -/

/-- An address of a node. -/
structure NodeAddress where
  address : String := ""
  type : String := ""
deriving DecidableEq, Inhabited

namespace NodeAddress

/-- Reads an address of a node. -/
def ofJson? (j : Json) : Option NodeAddress := do
  let [address, type] ← j.lenient? ["address", "type"] | none
  return {
    address := ← Json.defaulted Json.text? "" address
    type := ← Json.defaulted Json.text? "" type }

/-- Writes an address of a node. -/
def toJson (a : NodeAddress) : Json := .obj [("address", .str a.address), ("type", .str a.type)]

end NodeAddress

/-- What was last reported about a node. -/
structure NodeStatus where
  addresses : Option (List NodeAddress) := none
  /-- Members that nothing looks at, as they are held. -/
  others : List (String × Json) := []
deriving DecidableEq, Inhabited

namespace NodeStatus

/-- Reads the status of a node. -/
def ofJson? (j : Json) : Option NodeStatus := do
  let [addresses] ← j.lenient? ["addresses"] | none
  return {
    addresses := ← Json.optional (Json.list? NodeAddress.ofJson?) addresses
    others := Shape.nodeStatus.others ["addresses"] j }

/-- Writes the status of a node. -/
def toJson (s : NodeStatus) : Json :=
  (Json.present
    [("addresses", s.addresses.map fun l => .arr (l.map (·.toJson)))]).extended
    (Shape.nodeStatus.written s.others)

end NodeStatus

/-- A node. -/
structure Node where
  metadata : Metadata := {}
  status : Option NodeStatus := none
  /-- Members that nothing looks at, as they are held. -/
  others : List (String × Json) := []
deriving DecidableEq, Inhabited

namespace Node

/-- The addresses of a node. -/
def addresses (n : Node) : List NodeAddress := (n.status.bind (·.addresses)).getD []

/-- Reads a node. -/
def ofJson? (j : Json) : Option Node := do
  let (metadata, [status], others) ← coreManifest? .direct .node ["status"] j | none
  return { metadata, status := ← Json.optional NodeStatus.ofJson? status, others }

/-- Writes a node. -/
def toJson (n : Node) : Json :=
  (manifestJson "v1" "Node" n.metadata [("status", n.status.map (·.toJson))]).extended
    (Shape.node.written n.others)

end Node

end RelayFleet
