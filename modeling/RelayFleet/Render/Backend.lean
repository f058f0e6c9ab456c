/-
The backends of a route as one cluster. Services outside of the cluster make a cluster of host
names; other services contribute their addresses. A route cannot have both, and the services outside
are left out then.
-/
import RelayFleet.Store.Snapshot
import RelayFleet.Document.Basic
import RelayFleet.Settings
import RelayFleet.Render.Listener

namespace RelayFleet

/-- What one reference of a route comes to. -/
inductive Backend where
  /-- It leads nowhere, for a reason. -/
  | unresolved (reason message : String)
  /-- A service outside of the cluster, with its host name. -/
  | external (service : ObjectKey) (host : String)
  /-- A service with addresses. -/
  | internal (addresses : List String)
deriving DecidableEq

namespace Backend

/-- The cluster address of a service. -/
def clusterIp? (s : Service) : Option String :=
  (s.spec.bind (·.clusterIp)).filter fun ip => ip ≠ "" ∧ ip ≠ "None"

/-- The addresses of a service's endpoints that take traffic. -/
def readyAddresses (s : Snapshot) (service : ObjectKey) : List String :=
  ((s.slicesForService service).flatMap (·.endpoints)).filter (·.isReady) |>.flatMap (·.addresses)

/-- The addresses of a service under a policy. -/
def addresses (s : Snapshot) (policy : EndpointPolicy) (key : ObjectKey) (service : Service) :
    List String :=
  (if policy.relayToClusterIp then (clusterIp? service).toList else []) ++
    (if policy.discovery then readyAddresses s key else [])

/-- What a reference comes to. -/
def resolve (s : Snapshot) (policy : EndpointPolicy) (ns : String) (r : BackendRef) : Backend :=
  if r.isService then
    let key := r.serviceKey ns
    match s.service? key with
    | none => unresolved Reason.backendNotFound ("backend service " ++ key.text ++ " not found")
    | some service =>
      if service.hasType "ExternalName" then
        match (service.spec.bind (·.externalName)).filter (· ≠ "") with
        | some host => external key host
        | none =>
          unresolved Reason.backendNotFound
            ("ExternalName service " ++ key.text ++ " has no externalName")
      else internal (addresses s policy key service)
  else
    unresolved Reason.invalidKind
      ("backend " ++ r.name ++ " has unsupported kind " ++ r.kind.getD "Service")

/-- Reason and message of a reference that leads nowhere. -/
def failure? : Backend → Option (String × String)
  | unresolved reason message => some (reason, message)
  | _ => none

/-- Service and host of a reference that leads outside of the cluster. -/
def external? : Backend → Option (ObjectKey × String)
  | external service host => some (service, host)
  | _ => none

/-- The addresses of a reference to a service with addresses. -/
def internal? : Backend → Option (List String)
  | internal addresses => some addresses
  | _ => none

/-- Reason and message of a reference that leads outside of the cluster next to others that do
not. -/
def mixed (service : ObjectKey) : String × String :=
  (Reason.unsupportedValue,
    "ExternalName backend " ++ service.text ++ " cannot be mixed with other backends")

end Backend

/-- The cluster of a route, and whether all of its references lead somewhere. -/
structure ResolvedBackends where
  cluster : ClusterConfig
  resolvedRefs : Condition
deriving DecidableEq

namespace ResolvedBackends

/-- The condition for the references that lead nowhere. -/
def condition (generation : Option Int64) : List (String × String) → Condition
  | [] =>
    Condition.of generation ConditionType.resolvedRefs .true Reason.resolvedRefs
      "all backends resolved"
  | first :: rest =>
    Condition.of generation ConditionType.resolvedRefs .false first.1
      ("; ".intercalate ((first :: rest).map (·.2)))

/-- The backends of a route under a policy. The cluster carries the route's name. -/
def ofRoute (s : Snapshot) (policy : EndpointPolicy) (key : ObjectKey) (r : UdpRoute) :
    ResolvedBackends :=
  let backends := r.backendRefs.map (Backend.resolve s policy key.namespaceText)
  let failures := backends.filterMap Backend.failure?
  let externals := backends.filterMap Backend.external?
  let internals := backends.filterMap Backend.internal?
  let generation := r.metadata.generation
  if internals.isEmpty ∧ ¬ externals.isEmpty then
    { cluster := {
        name := key.text
        type := .strictDns
        endpoints := .ofList (externals.map (·.2)) }
      resolvedRefs := condition generation failures }
  else
    { cluster := { name := key.text, type := .static, endpoints := .ofList internals.flatten }
      resolvedRefs := condition generation
        (failures ++ externals.map fun e => Backend.mixed e.1) }

end ResolvedBackends

end RelayFleet
