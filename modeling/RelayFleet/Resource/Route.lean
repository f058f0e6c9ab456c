/-
Routes: which gateways a route attaches to and which services its traffic is relayed to.
-/
import RelayFleet.Resource.GatewayClass

namespace RelayFleet

/-! ## References -/

/-- A reference from a route to a gateway, or to one listener of it. -/
structure ParentReference where
  group : Option String := none
  kind : Option String := none
  inNamespace : Option String := none
  name : String
  sectionName : Option String := none
  port : Option Int32 := none
deriving DecidableEq, Inhabited

namespace ParentReference

/-- Whether a gateway is meant; group and kind may be left out. -/
def isGateway (r : ParentReference) : Bool :=
  r.group.all (· == gatewayGroup) && r.kind.all (· == "Gateway")

/-- The gateway meant, in the route's namespace unless the reference names one. -/
def gatewayKey (r : ParentReference) (routeNamespace : String) : ObjectKey :=
  .namespaced (r.inNamespace.getD routeNamespace) r.name

/-- Order of references: by their members in turn, an absent one first. -/
def order : ParentReference → ParentReference → Ordering :=
  compareLex (compareOn group) <| compareLex (compareOn kind) <|
    compareLex (compareOn inNamespace) <| compareLex (compareOn name) <|
    compareLex (compareOn sectionName) (compareOn fun r => r.port.map Int32.toInt)

/-- Reads a reference. -/
def ofJson? (j : Json) : Option ParentReference := do
  let [group, kind, ns, name, section?, port] ←
    j.strict? ["group", "kind", "namespace", "name", "sectionName", "port"] | none
  return {
    group := ← Json.optional Json.text? group
    kind := ← Json.optional Json.text? kind
    inNamespace := ← Json.optional Json.text? ns
    name := ← Json.needed Json.text? name
    sectionName := ← Json.optional Json.text? section?
    port := ← Json.optional Json.int32? port }

/-- Writes a reference. -/
def toJson (r : ParentReference) : Json :=
  .present [
    ("group", r.group.map .str),
    ("kind", r.kind.map .str),
    ("namespace", r.inNamespace.map .str),
    ("name", some (.str r.name)),
    ("sectionName", r.sectionName.map .str),
    ("port", r.port.map (.int ·.toInt))]

end ParentReference

/-- A reference from a route to a service. -/
structure BackendRef where
  group : Option String := none
  kind : Option String := none
  name : String
  inNamespace : Option String := none
  port : Option Int32 := none
  weight : Option Int32 := none
deriving DecidableEq, Inhabited

namespace BackendRef

/-- Whether a core service is meant; group and kind may be left out. -/
def isService (r : BackendRef) : Bool :=
  r.group.all (· == "") && r.kind.all (· == "Service")

/-- The service meant, in the route's namespace unless the reference names one. -/
def serviceKey (r : BackendRef) (routeNamespace : String) : ObjectKey :=
  .namespaced (r.inNamespace.getD routeNamespace) r.name

/-- Reads a reference. -/
def ofJson? (j : Json) : Option BackendRef := do
  let [group, kind, name, ns, port, weight] ←
    j.strict? ["group", "kind", "name", "namespace", "port", "weight"] | none
  return {
    group := ← Json.optional Json.text? group
    kind := ← Json.optional Json.text? kind
    name := ← Json.needed Json.text? name
    inNamespace := ← Json.optional Json.text? ns
    port := ← Json.optional Json.int32? port
    weight := ← Json.optional Json.int32? weight }

/-- Writes a reference. -/
def toJson (r : BackendRef) : Json :=
  .present [
    ("group", r.group.map .str),
    ("kind", r.kind.map .str),
    ("name", some (.str r.name)),
    ("namespace", r.inNamespace.map .str),
    ("port", r.port.map (.int ·.toInt)),
    ("weight", r.weight.map (.int ·.toInt))]

end BackendRef

/-! ## Specification -/

/-- A rule of a route. -/
structure UdpRouteRule where
  backendRefs : List BackendRef := []
deriving DecidableEq, Inhabited

namespace UdpRouteRule

/-- Reads a rule. -/
def ofJson? (j : Json) : Option UdpRouteRule := do
  let [refs] ← j.strict? ["backendRefs"] | none
  return { backendRefs := ← Json.defaulted (Json.list? BackendRef.ofJson?) [] refs }

/-- Writes a rule. -/
def toJson (r : UdpRouteRule) : Json :=
  .obj [("backendRefs", .arr (r.backendRefs.map (·.toJson)))]

end UdpRouteRule

/-- What a route asks for. -/
structure UdpRouteSpec where
  parentRefs : List ParentReference := []
  rules : List UdpRouteRule := []
deriving DecidableEq, Inhabited

namespace UdpRouteSpec

/-- Reads the specification of a route. -/
def ofJson? (j : Json) : Option UdpRouteSpec := do
  let [parents, rules] ← j.strict? ["parentRefs", "rules"] | none
  return {
    parentRefs := ← Json.defaulted (Json.list? ParentReference.ofJson?) [] parents
    rules := ← Json.defaulted (Json.list? UdpRouteRule.ofJson?) [] rules }

/-- Writes the specification of a route. -/
def toJson (s : UdpRouteSpec) : Json :=
  .obj [("parentRefs", .arr (s.parentRefs.map (·.toJson))),
    ("rules", .arr (s.rules.map (·.toJson)))]

end UdpRouteSpec

/-! ## Status -/

/-- What a controller reported about a route and one of its parents. -/
structure RouteParentStatus where
  parentRef : ParentReference
  controllerName : String
  conditions : List Condition := []
deriving DecidableEq, Inhabited

namespace RouteParentStatus

/-- Reads a report about one parent. -/
def ofJson? (how : Json.Reading) (j : Json) : Option RouteParentStatus := do
  let [parent, controller, conditions] ←
    j.strict? ["parentRef", "controllerName", "conditions"] | none
  return {
    parentRef := ← Json.needed ParentReference.ofJson? parent
    controllerName := ← Json.needed Json.text? controller
    conditions := ← Json.defaulted (Condition.listOfJson? how) [] conditions }

/-- Writes a report about one parent. -/
def toJson (s : RouteParentStatus) : Json :=
  .obj [("parentRef", s.parentRef.toJson), ("controllerName", .str s.controllerName),
    ("conditions", Condition.listToJson s.conditions)]

end RouteParentStatus

/-- What was last reported about a route. -/
structure RouteStatus where
  parents : List RouteParentStatus := []
deriving DecidableEq, Inhabited

namespace RouteStatus

/-- Reads the status of a route. -/
def ofJson? (how : Json.Reading) (j : Json) : Option RouteStatus := do
  let [parents] ← j.strict? ["parents"] | none
  return { parents := ← Json.defaulted (Json.list? (RouteParentStatus.ofJson? how)) [] parents }

/-- Writes the status of a route. -/
def toJson (s : RouteStatus) : Json := .obj [("parents", .arr (s.parents.map (·.toJson)))]

end RouteStatus

/-! ## Routes -/

/-- A route. -/
structure UdpRoute where
  metadata : Metadata
  spec : UdpRouteSpec
  status : Option RouteStatus := none
deriving DecidableEq, Inhabited

namespace UdpRoute

/-- The gateways that a route refers to, in the order of its references. -/
def parentGateways (r : UdpRoute) : List ObjectKey :=
  (r.spec.parentRefs.filter (·.isGateway)).map (·.gatewayKey (r.metadata.inNamespace.getD ""))

/-- The services that a route refers to, in the order of its rules. -/
def backendRefs (r : UdpRoute) : List BackendRef := r.spec.rules.flatMap (·.backendRefs)

/-- Reads a route. -/
def ofJson? (how : Json.Reading) (j : Json) : Option UdpRoute := do
  let [metadata, spec, status] ← j.strict? ["metadata", "spec", "status"] 3 | none
  return {
    metadata := ← Json.needed Metadata.ofJson? metadata
    spec := ← Json.needed UdpRouteSpec.ofJson? spec
    status := ← Json.optional (RouteStatus.ofJson? how) status }

/-- Writes a route. -/
def toJson (r : UdpRoute) : Json :=
  manifestJson (gatewayGroup ++ "/v1alpha2") "UDPRoute" r.metadata
    [("spec", some r.spec.toJson), ("status", r.status.map (·.toJson))]

end UdpRoute

end RelayFleet
