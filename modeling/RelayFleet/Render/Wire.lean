/-
Renders and sweeps as JSON: how they are written into logs and read back from them.
-/
import RelayFleet.Render.Sweep
import RelayFleet.Workload.Wire
import RelayFleet.Document.Wire

namespace RelayFleet

namespace GatewayRender

/-- Reads a render. -/
def ofJson? (j : Json) : Option GatewayRender := do
  let [gateway, state, config, target, workload, hasFinalizer, owner] ← j.lenient?
    ["gateway", "state", "config", "target", "workload", "hasFinalizer", "owner"] | none
  return {
    gateway := ← Json.needed ObjectKey.ofJson? gateway
    state := ← Json.needed (·.text?.bind GatewayState.ofText?) state
    config := ← Json.optional Document.ofJson? config
    target := ← Json.optional ObjectKey.ofJson? target
    workload := ← Json.optional Workload.ofJson? workload
    hasFinalizer := ← Json.defaulted Json.flag? false hasFinalizer
    owner := ← Json.optional GatewayOwner.ofJson? owner }

/-- Writes a render. -/
def toJson (r : GatewayRender) : Json :=
  .obj [("gateway", r.gateway.toJson), ("state", .str r.state.text),
    ("config", .orNull Document.toJson r.config), ("target", .orNull ObjectKey.toJson r.target),
    ("workload", .orNull Workload.toJson r.workload), ("hasFinalizer", .bool r.hasFinalizer),
    ("owner", .orNull GatewayOwner.toJson r.owner)]

end GatewayRender

namespace GatewayOutput

/-- Writes a rendered gateway. -/
def toJson (o : GatewayOutput) : Json :=
  .obj [("render", o.render.toJson), ("status", o.status.toJson),
    ("routeParents", .list (fun (route, parent) =>
      .obj [("route", ObjectKey.toJson route), ("parent", RouteParentStatus.toJson parent)])
      o.routeParents)]

end GatewayOutput

namespace Sweep

/-- Reads a failure. -/
def failureOfJson? (j : Json) : Option (ObjectKey × String) := do
  let [gateway, message] ← j.lenient? ["gateway", "message"] | none
  return (← Json.needed ObjectKey.ofJson? gateway, ← Json.needed Json.text? message)

/-- Reads a sweep without statuses. -/
def ofJson? (j : Json) : Option Sweep := do
  let [generation, gateways, failures] ← j.lenient? ["generation", "gateways", "failures"] | none
  let gateways ← Json.defaulted (Json.list? GatewayRender.ofJson?) [] gateways
  return {
    generation := ← Json.defaulted Json.word64? 0 generation
    gateways := .ofList (gateways.map fun r => (r.gateway, r))
    failures := .ofList (← Json.defaulted (Json.list? failureOfJson?) [] failures) }

/-- Writes a sweep. -/
def toJson (s : Sweep) : Json :=
  .obj [("generation", .nat s.generation),
    ("gateways", .list GatewayRender.toJson s.gateways.values),
    ("statuses", .list (fun (resource, status) =>
      .obj [("resource", .str (ResourceKey.text resource)), ("status", status.toJson)])
      s.statuses.toList),
    ("failures", .list (fun (key, message) =>
      .obj [("gateway", ObjectKey.toJson key), ("message", .str message)]) s.failures.toList)]

end Sweep

end RelayFleet
