/-
Workloads as JSON: how they are written into logs and read back from them.
-/
import RelayFleet.Workload.Basic

namespace RelayFleet

namespace GatewayOwner

/-- Reads an owner. -/
def ofJson? (j : Json) : Option GatewayOwner := do
  let [name, uid] ← j.lenient? ["name", "uid"] | none
  return { name := ← Json.needed Json.text? name, uid := ← Json.needed Json.text? uid }

/-- Writes an owner. -/
def toJson (o : GatewayOwner) : Json := .obj [("name", .str o.name), ("uid", .str o.uid)]

end GatewayOwner

namespace WorkloadPort

/-- Reads a port; one without a name gets the name of its transport and number. -/
def ofJson? (j : Json) : Option WorkloadPort := do
  let [protocol, port, name] ← j.lenient? ["protocol", "port", "name"] | none
  let named := WorkloadPort.of (← Json.needed (Json.choice? .direct Protocol.ofText?) protocol)
    (← Json.needed Json.word16? port)
  return { named with name := ← Json.defaulted Json.text? named.name name }

/-- Writes a port. -/
def toJson (p : WorkloadPort) : Json :=
  .obj [("protocol", .str p.protocol.text), ("port", .nat p.port.toNat), ("name", .str p.name)]

end WorkloadPort

namespace Workload

/-- Reads a workload. -/
def ofJson? (j : Json) : Option Workload := do
  let [gateway, owner, dataplane, spec, ports, serviceType, configName, realm] ← j.lenient?
    ["gateway", "owner", "dataplane", "spec", "ports", "serviceType", "configName", "realm"] | none
  return {
    gateway := ← Json.needed ObjectKey.ofJson? gateway
    owner := ← Json.optional GatewayOwner.ofJson? owner
    dataplane := ← Json.needed Json.text? dataplane
    spec := ← Json.needed DataplaneSpec.ofJson? spec
    ports := ← Json.defaulted (Json.list? WorkloadPort.ofJson?) [] ports
    serviceType := ← Json.needed Json.text? serviceType
    configName := ← Json.needed Json.text? configName
    realm := ← Json.optional Json.text? realm }

/-- Writes a workload. -/
def toJson (w : Workload) : Json :=
  .obj [("gateway", w.gateway.toJson), ("owner", .orNull GatewayOwner.toJson w.owner),
    ("dataplane", .str w.dataplane), ("spec", w.spec.toJson),
    ("ports", .list WorkloadPort.toJson w.ports), ("serviceType", .str w.serviceType),
    ("configName", .str w.configName), ("realm", .ofText? w.realm)]

end Workload

end RelayFleet
