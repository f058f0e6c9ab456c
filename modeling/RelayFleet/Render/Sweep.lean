/-
A sweep: the rendering of a whole snapshot. It holds every gateway in our charge, the status that
every class, gateway and route should carry, and the gateways that could not be rendered. What is
reported about a route is put together from all of its gateways.
-/
import RelayFleet.Render.Gateway
import RelayFleet.Status

namespace RelayFleet

/-- The rendering of a snapshot. -/
structure Sweep where
  generation : Nat := 0
  gateways : SortedMap ObjectKey GatewayRender := ∅
  statuses : SortedMap ResourceKey ResourceStatus := ∅
  /-- The gateways that could not be rendered, and why. -/
  failures : SortedMap ObjectKey String := ∅
deriving DecidableEq, Inhabited

namespace Sweep

variable (settings : Settings) (s : Snapshot)

/-- The statuses of the classes in our charge. -/
def classStatuses : List (ResourceKey × ResourceStatus) :=
  (s.gatewayClasses.filter settings.owns).map fun c =>
    (.gatewayClass (c.metadata.name.getD ""),
      .gatewayClass { conditions := [(ClassCheck.ofClass s c).accepted] })

/-- The gateways of a snapshot, as far as they could be rendered. -/
def outputs : List (ObjectKey × GatewayOutput) :=
  s.gateways.filterMap fun (key, _) =>
    match renderGateway settings s key with
    | .ok (some output) => some (key, output)
    | _ => none

/-- The gateways of a snapshot that could not be rendered. -/
def failed : List (ObjectKey × String) :=
  s.gateways.filterMap fun (key, _) =>
    match renderGateway settings s key with
    | .error f => some (key, f.text)
    | .ok _ => none

/-- What is reported about a route and gateways of it that do not exist, for each reference once. -/
def missingParents (key : ObjectKey) (r : UdpRoute) : List RouteParentStatus :=
  let missing := r.spec.parentRefs.filter fun p =>
    p.isGateway && (s.gateway? (p.gatewayKey key.namespaceText)).isNone
  (distinct missing).map (.missing settings.controllerName r.metadata.generation)

/-- The status of a route: what its rendered gateways report, and its missing gateways. Nothing for
a route that we neither report on nor have reported on, or of which a gateway could not be
rendered. -/
def routeStatus? (outputs : List (ObjectKey × GatewayOutput)) (failed : List (ObjectKey × String))
    (key : ObjectKey) (r : UdpRoute) : Option RouteStatus :=
  if r.parentGateways.any fun g => (failed.map (·.1)).contains g then none
  else
    let ours := (outputs.flatMap (·.2.routeParents)).filter (·.1 = key) |>.map (·.2)
    let reportedBefore := (r.status.map (·.parents)).getD [] |>.any
      (·.controllerName = settings.controllerName)
    if ours.isEmpty ∧ ¬ reportedBefore then none
    else some { parents := ours ++ missingParents settings s key r }

/-- The statuses of the routes. -/
def routeStatuses (outputs : List (ObjectKey × GatewayOutput))
    (failed : List (ObjectKey × String)) : List (ResourceKey × ResourceStatus) :=
  s.routes.filterMap fun (key, r) =>
    (routeStatus? settings s outputs failed key r).map fun status =>
      (.udpRoute key, .udpRoute status)

/-- Renders a snapshot. -/
def ofSnapshot : Sweep :=
  let outputs := outputs settings s
  let failed := failed settings s
  { generation := s.generation
    gateways := .ofList (outputs.map fun o => (o.1, o.2.render))
    statuses := .ofList (classStatuses settings s ++
      outputs.map (fun o => (.gateway o.1, .gateway o.2.status)) ++
      routeStatuses settings s outputs failed)
    failures := .ofList failed }

end Sweep

end RelayFleet
