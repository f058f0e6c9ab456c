/-
Gateway classes and the settings object a class refers to. A class names the controller in charge of
its gateways and a `GatewayConfig` with what those gateways share.
-/
import RelayFleet.Resource.Metadata

namespace RelayFleet

/-- The API group of gateways, their classes and their routes. -/
def gatewayGroup : String := "gateway.networking.k8s.io"

/-- The API group of settings objects and relay templates. -/
def relayGroup : String := "turngate.dev"

/-! ## Manifests -/

/-- Writes an object under its API version and kind, with the members that are present. -/
def manifestJson (apiVersion kind : String) (metadata : Metadata)
    (members : List (String × Option Json)) : Json :=
  .present ([("apiVersion", some (.str apiVersion)), ("kind", some (.str kind)),
    ("metadata", some metadata.toJson)] ++ members)

/-! ## Classes -/

/-- A reference from a class to its settings. -/
structure ParametersReference where
  group : String
  kind : String
  name : String
  inNamespace : Option String := none
deriving DecidableEq, Inhabited

namespace ParametersReference

/-- Reads a reference. -/
def ofJson? (j : Json) : Option ParametersReference := do
  let [group, kind, name, ns] ← j.strict? ["group", "kind", "name", "namespace"] | none
  return {
    group := ← Json.needed Json.text? group
    kind := ← Json.needed Json.text? kind
    name := ← Json.needed Json.text? name
    inNamespace := ← Json.optional Json.text? ns }

/-- Writes a reference. -/
def toJson (r : ParametersReference) : Json :=
  .present [("group", some (.str r.group)), ("kind", some (.str r.kind)),
    ("name", some (.str r.name)), ("namespace", r.inNamespace.map .str)]

end ParametersReference

/-- What a class asks for. -/
structure GatewayClassSpec where
  controllerName : String
  parametersRef : Option ParametersReference := none
  description : Option String := none
deriving DecidableEq, Inhabited

namespace GatewayClassSpec

/-- Reads the specification of a class. -/
def ofJson? (j : Json) : Option GatewayClassSpec := do
  let [controller, parameters, description] ←
    j.strict? ["controllerName", "parametersRef", "description"] | none
  return {
    controllerName := ← Json.needed Json.text? controller
    parametersRef := ← Json.optional ParametersReference.ofJson? parameters
    description := ← Json.optional Json.text? description }

/-- Writes the specification of a class. -/
def toJson (s : GatewayClassSpec) : Json :=
  .present [("controllerName", some (.str s.controllerName)),
    ("parametersRef", s.parametersRef.map (·.toJson)), ("description", s.description.map .str)]

end GatewayClassSpec

/-- What was last reported about a class. -/
structure GatewayClassStatus where
  conditions : List Condition := []
deriving DecidableEq, Inhabited

namespace GatewayClassStatus

/-- Reads the status of a class. -/
def ofJson? (how : Json.Reading) (j : Json) : Option GatewayClassStatus := do
  let [conditions] ← j.strict? ["conditions"] | none
  return { conditions := ← Json.defaulted (Condition.listOfJson? how) [] conditions }

/-- Writes the status of a class. -/
def toJson (s : GatewayClassStatus) : Json :=
  .obj [("conditions", Condition.listToJson s.conditions)]

end GatewayClassStatus

/-- A gateway class. -/
structure GatewayClass where
  metadata : Metadata
  spec : GatewayClassSpec
  status : Option GatewayClassStatus := none
deriving DecidableEq, Inhabited

namespace GatewayClass

/-- Reads a class. -/
def ofJson? (how : Json.Reading) (j : Json) : Option GatewayClass := do
  let [metadata, spec, status] ← j.strict? ["metadata", "spec", "status"] 3 | none
  return {
    metadata := ← Json.needed Metadata.ofJson? metadata
    spec := ← Json.needed GatewayClassSpec.ofJson? spec
    status := ← Json.optional (GatewayClassStatus.ofJson? how) status }

/-- Writes a class. -/
def toJson (c : GatewayClass) : Json :=
  manifestJson (gatewayGroup ++ "/v1") "GatewayClass" c.metadata
    [("spec", some c.spec.toJson), ("status", c.status.map (·.toJson))]

end GatewayClass

/-! ## Settings of a class -/

/-- What the gateways of a class share. -/
structure GatewayConfigSpec where
  realm : Option String := none
  dataplane : Option String := none
  endpointDiscovery : Option Bool := none
  relayToClusterIp : Option Bool := none
  configName : Option String := none
  serviceType : Option String := none
deriving DecidableEq, Inhabited

namespace GatewayConfigSpec

/-- Reads the settings of a class. -/
def ofJson? (j : Json) : Option GatewayConfigSpec := do
  let [realm, dataplane, discovery, relay, configName, serviceType] ← j.strict?
    ["realm", "dataplane", "endpointDiscovery", "relayToClusterIp", "configName", "serviceType"]
    | none
  return {
    realm := ← Json.optional Json.text? realm
    dataplane := ← Json.optional Json.text? dataplane
    endpointDiscovery := ← Json.optional Json.flag? discovery
    relayToClusterIp := ← Json.optional Json.flag? relay
    configName := ← Json.optional Json.text? configName
    serviceType := ← Json.optional Json.text? serviceType }

/-- Writes the settings of a class. -/
def toJson (s : GatewayConfigSpec) : Json :=
  .present [
    ("realm", s.realm.map .str),
    ("dataplane", s.dataplane.map .str),
    ("endpointDiscovery", s.endpointDiscovery.map .bool),
    ("relayToClusterIp", s.relayToClusterIp.map .bool),
    ("configName", s.configName.map .str),
    ("serviceType", s.serviceType.map .str)]

end GatewayConfigSpec

/-- A settings object. -/
structure GatewayConfig where
  metadata : Metadata
  spec : GatewayConfigSpec
deriving DecidableEq, Inhabited

namespace GatewayConfig

/-- Reads a settings object. -/
def ofJson? (j : Json) : Option GatewayConfig := do
  let [metadata, spec] ← j.strict? ["metadata", "spec"] | none
  return {
    metadata := ← Json.needed Metadata.ofJson? metadata
    spec := ← Json.needed GatewayConfigSpec.ofJson? spec }

/-- Writes a settings object. -/
def toJson (c : GatewayConfig) : Json :=
  manifestJson (relayGroup ++ "/v1") "GatewayConfig" c.metadata [("spec", some c.spec.toJson)]

end GatewayConfig

end RelayFleet
