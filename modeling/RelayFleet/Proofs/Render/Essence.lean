/-
The essence of an object is what it is apart from the status that it carries and the version it
carries it in. Rendering looks at essences only (`renderGateway_essence`, `outputs_essence`), but
for the question whether a route has been reported on before.
-/
import RelayFleet.Proofs.Render.Sweep
import RelayFleet.Proofs.Store.Mapped

namespace RelayFleet

/-! ## Essences -/

/-- A class without its status and version. -/
def GatewayClass.essence (c : GatewayClass) : GatewayClass :=
  { c with metadata := { c.metadata with resourceVersion := none }, status := none }

/-- A gateway without its status and version. -/
def Gateway.essence (g : Gateway) : Gateway :=
  { g with metadata := { g.metadata with resourceVersion := none }, status := none }

/-- A route without its status and version. -/
def UdpRoute.essence (r : UdpRoute) : UdpRoute :=
  { r with metadata := { r.metadata with resourceVersion := none }, status := none }

/-- An object without its status and version, if it is of a kind of which statuses are reported. -/
def Object.essence : Object → Object
  | .gatewayClass c => .gatewayClass c.essence
  | .gateway g => .gateway g.essence
  | .udpRoute r => .udpRoute r.essence
  | o => o

namespace Snapshot

/-- The snapshot of the essences. -/
def essence (s : Snapshot) : Snapshot := { s with objects := s.objects.map Object.essence }

variable (s : Snapshot)

/-! ## Look-ups -/

theorem essence_eq : s.essence = s.mapObjects Object.essence := rfl

theorem gatewayConfig?_essence : s.essence.gatewayConfig? = s.gatewayConfig? :=
  funext fun _ => s.bind_get?_mapObjects (f := Object.essence) (fun o => by cases o <;> rfl) _

theorem service?_essence : s.essence.service? = s.service? :=
  funext fun _ => s.bind_get?_mapObjects (f := Object.essence) (fun o => by cases o <;> rfl) _

theorem secret?_essence : s.essence.secret? = s.secret? :=
  funext fun _ => s.bind_get?_mapObjects (f := Object.essence) (fun o => by cases o <;> rfl) _

theorem dataplane?_essence : s.essence.dataplane? = s.dataplane? :=
  funext fun _ => s.bind_get?_mapObjects (f := Object.essence) (fun o => by cases o <;> rfl) _

theorem slicesForService_essence : s.essence.slicesForService = s.slicesForService := by
  funext service
  exact List.filterMap_congr fun k _ =>
    s.bind_get?_mapObjects (f := Object.essence) (fun o => by cases o <;> rfl) _

theorem gatewayClass?_essence (name : String) :
    s.essence.gatewayClass? name = (s.gatewayClass? name).map GatewayClass.essence :=
  s.bind_get?_mapObjects_map (f := Object.essence) (fun o => by cases o <;> rfl) _

theorem gateway?_essence (key : ObjectKey) :
    s.essence.gateway? key = (s.gateway? key).map Gateway.essence :=
  s.bind_get?_mapObjects_map (f := Object.essence) (fun o => by cases o <;> rfl) _

theorem route?_essence (key : ObjectKey) :
    s.essence.route? key = (s.route? key).map UdpRoute.essence :=
  s.bind_get?_mapObjects_map (f := Object.essence) (fun o => by cases o <;> rfl) _

/-- The routes of snapshots with the same essence are the same in essence. -/
theorem route?_of_essence {s t : Snapshot} (h : t.essence = s.essence) {k : ObjectKey} {r : UdpRoute}
    (hr : t.route? k = some r) : ∃ r', s.route? k = some r' ∧ r'.essence = r.essence := by
  have hlooked : (t.route? k).map UdpRoute.essence = (s.route? k).map UdpRoute.essence := by
    rw [← route?_essence, h, route?_essence]
  rw [hr] at hlooked
  exact Option.map_eq_some_iff.1 hlooked.symm

/-! ## Listings -/

theorem list_essence (kind : ObjectKind) :
    s.essence.list kind = (s.list kind).map Object.essence := s.list_mapObjects Object.essence kind

theorem nodes_essence : s.essence.nodes = s.nodes := by
  unfold nodes
  rw [list_essence, List.filterMap_map]
  exact List.filterMap_congr fun o _ => by cases o <;> rfl

theorem gatewayClasses_essence :
    s.essence.gatewayClasses = s.gatewayClasses.map GatewayClass.essence := by
  unfold gatewayClasses
  rw [list_essence, List.filterMap_map, List.map_filterMap]
  exact List.filterMap_congr fun o _ => by cases o <;> rfl

theorem gateways_essence :
    s.essence.gateways = s.gateways.map fun b => (b.1, b.2.essence) := by
  unfold gateways
  rw [essence_eq, ofKind_mapObjects, List.filterMap_map, List.map_filterMap]
  exact List.filterMap_congr fun ⟨_, o⟩ _ => by cases o <;> rfl

theorem routesForGateway_essence (gateway : ObjectKey) :
    s.essence.routesForGateway gateway =
      (s.routesForGateway gateway).map fun b => (b.1, b.2.essence) := by
  unfold routesForGateway
  rw [List.map_filterMap]
  refine List.filterMap_congr fun k _ => ?_
  rw [route?_essence]
  cases s.route? k <;> rfl

end Snapshot

/-! ## The parts of a rendering -/

section

variable (s : Snapshot) (key : ObjectKey)

theorem ListenerPlan.ofGateway_essence (g : Gateway) :
    ofGateway s.essence key g.essence = ofGateway s key g := by
  unfold ofGateway ofListener resolution certificatesFlaw? certificateFlaw?
  rw [s.secret?_essence]
  rfl

theorem ResolvedBackends.ofRoute_essence (policy : EndpointPolicy) (r : UdpRoute) :
    ofRoute s.essence policy key r.essence = ofRoute s policy key r := by
  unfold ofRoute Backend.resolve Backend.addresses Backend.readyAddresses
  rw [s.service?_essence, s.slicesForService_essence]
  rfl

theorem PublicAddress.ofGateway?_essence (g : Gateway) :
    ofGateway? s.essence key g.essence = ofGateway? s key g := by
  unfold ofGateway? ofService?
  rw [s.service?_essence, s.nodes_essence]
  rfl

variable (policy : EndpointPolicy) (controller : String)

theorem RouteAttachment.ofGateway_essence (plans : List ListenerPlan) :
    ofGateway s.essence policy controller key plans = ofGateway s policy controller key plans := by
  unfold ofGateway
  rw [s.routesForGateway_essence, List.map_map]
  refine List.map_congr_left fun b _ => ?_
  unfold ofRoute
  rw [Function.comp_apply, ResolvedBackends.ofRoute_essence]
  rfl

theorem rejectedParents_essence (rejection : Rejection) (keepBackends : Bool) :
    rejectedParents s.essence policy controller key rejection keepBackends =
      rejectedParents s policy controller key rejection keepBackends := by
  unfold rejectedParents
  rw [s.routesForGateway_essence, List.flatMap_map]
  refine List.flatMap_congr fun b _ => ?_
  dsimp only
  rw [ResolvedBackends.ofRoute_essence]
  rfl

end

theorem ClassCheck.ofClass_essence (s : Snapshot) (c : GatewayClass) :
    ofClass s.essence c.essence = ofClass s c := by
  unfold ofClass
  rw [s.gatewayConfig?_essence]
  rfl

/-! ## Renderings -/

section

variable (settings : Settings) (s : Snapshot) (key : ObjectKey)

namespace GatewayOutput

variable (g : Gateway)

theorem active_essence (params : GatewayConfig) :
    active settings s.essence key g.essence params = active settings s key g params := by
  unfold active
  dsimp only
  rw [ListenerPlan.ofGateway_essence, RouteAttachment.ofGateway_essence,
    PublicAddress.ofGateway?_essence, s.dataplane?_essence]
  rfl

theorem invalid_essence (message : String) :
    invalid settings s.essence key g.essence message = invalid settings s key g message := by
  unfold invalid
  rw [rejectedParents_essence]
  rfl

theorem terminating_essence (policy : EndpointPolicy) :
    terminating settings s.essence key g.essence policy = terminating settings s key g policy := by
  unfold terminating
  dsimp only
  rw [rejectedParents_essence]
  rfl

theorem ofChecked_essence (check : Option ClassCheck) :
    ofChecked settings s.essence key g.essence check = ofChecked settings s key g check := by
  unfold ofChecked
  simp only [active_essence, invalid_essence, terminating_essence]
  rfl

end GatewayOutput

/-- A gateway is rendered from the essences of a snapshot. -/
theorem renderGateway_essence :
    renderGateway settings s.essence key = renderGateway settings s key := by
  unfold renderGateway
  rw [s.gateway?_essence]
  rcases s.gateway? key with - | g
  · rfl
  · dsimp only [Option.map_some]
    rw [show g.essence.spec = g.spec from rfl, s.gatewayClass?_essence]
    rcases s.gatewayClass? g.spec.gatewayClassName with - | c
    · dsimp only [Option.map_none]
      rw [GatewayOutput.ofChecked_essence]
      rfl
    · dsimp only [Option.map_some]
      rw [GatewayOutput.ofChecked_essence, ClassCheck.ofClass_essence]
      rfl

namespace Sweep

theorem classStatuses_essence : classStatuses settings s.essence = classStatuses settings s := by
  unfold classStatuses
  rw [s.gatewayClasses_essence, List.filter_map, List.map_map]
  refine List.map_congr_left fun c _ => ?_
  rw [Function.comp_apply, ClassCheck.ofClass_essence]
  rfl

theorem outputs_essence : outputs settings s.essence = outputs settings s := by
  unfold outputs
  rw [s.gateways_essence, List.filterMap_map]
  refine List.filterMap_congr fun b _ => ?_
  rw [Function.comp_apply]
  dsimp only
  rw [renderGateway_essence]

theorem failed_essence : failed settings s.essence = failed settings s := by
  unfold failed
  rw [s.gateways_essence, List.filterMap_map]
  refine List.filterMap_congr fun b _ => ?_
  rw [Function.comp_apply]
  dsimp only
  rw [renderGateway_essence]

theorem missingParents_essence (r : UdpRoute) :
    missingParents settings s.essence key r.essence = missingParents settings s key r := by
  unfold missingParents
  simp only [s.gateway?_essence, Option.isNone_map]
  rfl

end Sweep

end

end RelayFleet
