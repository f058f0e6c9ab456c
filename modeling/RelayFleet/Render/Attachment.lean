/-
The attachment of routes to the listeners of a gateway: which listeners a reference picks, why it
picks none, and what is reported about each reference.
-/
import RelayFleet.Render.Backend

namespace RelayFleet

/-- Keeps the first of several equal items. -/
def distinct {α : Type} [DecidableEq α] : List α → List α
  | [] => []
  | a :: rest => a :: (distinct rest).filter (· ≠ a)

/-- Why a reference is not accepted. -/
structure Rejection where
  reason : String
  message : String
deriving DecidableEq

namespace ParentReference

/-- Whether a route's reference means a gateway. -/
def targets (r : ParentReference) (routeNamespace : String) (gateway : ObjectKey) : Bool :=
  r.isGateway && r.gatewayKey routeNamespace = gateway

/-- The references of a route to a gateway, each once. -/
def targeting (r : UdpRoute) (routeNamespace : String) (gateway : ObjectKey) :
    List ParentReference :=
  distinct (r.spec.parentRefs.filter (·.targets routeNamespace gateway))

/-- Whether a reference picks a listener out by name and port. -/
def picks (r : ParentReference) (p : ListenerPlan) : Bool :=
  r.sectionName.all (· == p.name) &&
    r.port.all fun port => p.port.map (fun n => (n.toNat : Int)) == some port.toInt

/-- What is missing where a reference picks no listener. -/
def unpicked (r : ParentReference) : String :=
  match r.sectionName, r.port with
  | some name, _ => "gateway has no listener named " ++ name
  | none, some port => "gateway has no listener on port " ++ toString port.toInt
  | none, none => "gateway has no listeners"

/-- The listeners that a reference attaches to: picked, open to the route, and served. -/
def attach (r : ParentReference) (plans : List ListenerPlan)
    (gatewayNamespace routeNamespace : String) : Except Rejection (List ListenerPlan) :=
  let picked := plans.filter r.picks
  let admitting := picked.filter (·.admits gatewayNamespace routeNamespace)
  let ready := admitting.filter (·.isReady)
  if picked.isEmpty then .error ⟨Reason.noMatchingParent, r.unpicked⟩
  else if admitting.isEmpty then
    .error ⟨Reason.notAllowedByListeners,
      "no listener admits UDPRoutes from namespace " ++ routeNamespace⟩
  else if ready.isEmpty then .error ⟨Reason.noMatchingParent, "no matching listener is ready"⟩
  else .ok ready

end ParentReference

/-! ## Reports -/

namespace RouteParentStatus

/-- What is reported about a reference: the acceptance, and where the backends lead. -/
def report (controller : String) (generation : Option Int64) (parent : ParentReference)
    (status : ConditionStatus) (reason message : String) (resolvedRefs : Condition) :
    RouteParentStatus where
  parentRef := parent
  controllerName := controller
  conditions :=
    [Condition.of generation ConditionType.accepted status reason message, resolvedRefs]

/-- The report about an accepted reference. -/
def accepted (controller : String) (generation : Option Int64) (parent : ParentReference)
    (resolvedRefs : Condition) : RouteParentStatus :=
  report controller generation parent .true Reason.accepted "route accepted" resolvedRefs

/-- The report about a reference that was not accepted. What is said about the backends is the
rejection over again. -/
def rejected (controller : String) (generation : Option Int64) (parent : ParentReference)
    (r : Rejection) : RouteParentStatus :=
  report controller generation parent .false r.reason r.message
    (Condition.of generation ConditionType.resolvedRefs .false r.reason r.message)

/-- The report about a reference to a gateway that does not exist. -/
def missing (controller : String) (generation : Option Int64) (parent : ParentReference) :
    RouteParentStatus :=
  rejected controller generation parent
    ⟨Reason.noMatchingParent, "gateway " ++ parent.name ++ " not found"⟩

end RouteParentStatus

/-! ## Routes of a gateway -/

/-- A route of a gateway: its backends, what is reported about its references, and the names of the
listeners it is attached to. -/
structure RouteAttachment where
  route : ObjectKey
  backends : ResolvedBackends
  parents : List RouteParentStatus
  listeners : List String
deriving DecidableEq

namespace RouteAttachment

/-- The attachment of a route to the planned listeners of a gateway. -/
def ofRoute (s : Snapshot) (policy : EndpointPolicy) (controller : String) (gateway : ObjectKey)
    (plans : List ListenerPlan) (key : ObjectKey) (r : UdpRoute) : RouteAttachment :=
  let backends := ResolvedBackends.ofRoute s policy key r
  let generation := r.metadata.generation
  let outcomes := (ParentReference.targeting r key.namespaceText gateway).map fun parent =>
    (parent, parent.attach plans gateway.namespaceText key.namespaceText)
  { route := key
    backends
    parents := outcomes.map fun (parent, outcome) =>
      match outcome with
      | .ok _ => .accepted controller generation parent backends.resolvedRefs
      | .error rejection => .rejected controller generation parent rejection
    listeners := distinct (outcomes.flatMap fun o =>
      match o.2 with
      | .ok ready => ready.map (·.name)
      | .error _ => []) }

/-- The attachments of all routes that refer to a gateway, by route. -/
def ofGateway (s : Snapshot) (policy : EndpointPolicy) (controller : String) (gateway : ObjectKey)
    (plans : List ListenerPlan) : List RouteAttachment :=
  (s.routesForGateway gateway).map fun r => ofRoute s policy controller gateway plans r.1 r.2

/-- Whether a route is attached to a listener. -/
def isOn (a : RouteAttachment) (listener : String) : Bool := a.listeners.contains listener

end RouteAttachment

/-- What is reported about the routes of a gateway that is not served. What is said about the
backends stays if it is to be kept, and is the rejection over again otherwise. -/
def rejectedParents (s : Snapshot) (policy : EndpointPolicy) (controller : String)
    (gateway : ObjectKey) (rejection : Rejection) (keepBackends : Bool) :
    List (ObjectKey × RouteParentStatus) :=
  (s.routesForGateway gateway).flatMap fun (key, r) =>
    let generation := r.metadata.generation
    let backends := ResolvedBackends.ofRoute s policy key r
    (ParentReference.targeting r key.namespaceText gateway).map fun parent =>
      (key,
        if keepBackends then
          .report controller generation parent .false rejection.reason rejection.message
            backends.resolvedRefs
        else .rejected controller generation parent rejection)

end RelayFleet
