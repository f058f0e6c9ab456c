/-
The status that a resource should carry. A rendered status has no transition times. `stamped` puts
them in, against the status that the resource carries now, and lets the entries of other controllers
on a route be.
-/
import RelayFleet.Resource.Object

namespace RelayFleet

/-- The status of a resource of ours. -/
inductive ResourceStatus where
  | gatewayClass (status : GatewayClassStatus)
  | gateway (status : GatewayStatus)
  | udpRoute (status : RouteStatus)
deriving DecidableEq, Inhabited

namespace ResourceStatus

/-- The kind of resource a status belongs to. -/
def kind : ResourceStatus → ObjectKind
  | gatewayClass _ => .gatewayClass
  | gateway _ => .gateway
  | udpRoute _ => .udpRoute

/-- The conditions of the resource itself; those of a route belong to its parents. -/
def conditions : ResourceStatus → List Condition
  | gatewayClass s => s.conditions
  | gateway s => s.conditions
  | udpRoute _ => []

/-! ## Transition times -/

/-- The conditions that a gateway's status has for a listener. -/
def listenerConditions (previous : List ListenerStatus) (name : String) : List Condition :=
  ((previous.find? (·.name == name)).map (·.conditions)).getD []

/-- The conditions that a controller's entries on a route have for a parent. -/
def parentConditions (previous : List RouteParentStatus) (controller : String)
    (parent : ParentReference) : List Condition :=
  ((previous.find? fun p => p.controllerName = controller ∧ p.parentRef = parent).map
    (·.conditions)).getD []

/-- Stamps the status of a class. -/
def stampedClass (desired : GatewayClassStatus) (previous : Option ResourceStatus)
    (now : Timestamp) : GatewayClassStatus :=
  let before := match previous with
    | some (gatewayClass p) => p.conditions
    | _ => []
  { desired with conditions := Condition.stamp before now desired.conditions }

/-- Stamps the status of a gateway and of its listeners, each against that of its name. -/
def stampedGateway (desired : GatewayStatus) (previous : Option ResourceStatus)
    (now : Timestamp) : GatewayStatus :=
  let before := match previous with
    | some (gateway p) => p
    | _ => {}
  { desired with
    conditions := Condition.stamp before.conditions now desired.conditions
    listeners := desired.listeners.map fun l =>
      { l with
        conditions := Condition.stamp (listenerConditions before.listeners l.name) now
          l.conditions } }

/-- Stamps a controller's entries on a route, after the entries of the others. -/
def stampedRoute (desired : RouteStatus) (previous : Option ResourceStatus) (controller : String)
    (now : Timestamp) : RouteStatus :=
  let before := match previous with
    | some (udpRoute p) => p.parents
    | _ => []
  { parents := before.filter (·.controllerName ≠ controller) ++
      desired.parents.map fun p =>
        { p with
          conditions := Condition.stamp (parentConditions before controller p.parentRef) now
            p.conditions } }

/-- A status with its transition times, against the one the resource carries now. -/
def stamped (desired : ResourceStatus) (previous : Option ResourceStatus) (controller : String)
    (now : Timestamp) : ResourceStatus :=
  match desired with
  | gatewayClass s => gatewayClass (stampedClass s previous now)
  | gateway s => gateway (stampedGateway s previous now)
  | udpRoute s => udpRoute (stampedRoute s previous controller now)

/-! ## JSON -/

/-- Reads the status of a kind of resource that has one. -/
def ofJson? (kind : ObjectKind) (j : Json) : Option ResourceStatus :=
  match kind with
  | .gatewayClass => (GatewayClassStatus.ofJson? .direct j).map gatewayClass
  | .gateway => (GatewayStatus.ofJson? .direct j).map gateway
  | .udpRoute => (RouteStatus.ofJson? .direct j).map udpRoute
  | _ => none

/-- Reads a status that comes with the kind of its resource. -/
def ofKinded? (j : Json) : Option ResourceStatus := do
  let kind ← (j.get? "kind").bind ObjectKind.ofJson?
  (j.get? "status").bind (ofJson? kind)

/-- Writes a status. -/
def toJson : ResourceStatus → Json
  | gatewayClass s => s.toJson
  | gateway s => s.toJson
  | udpRoute s => s.toJson

end ResourceStatus

/-- The status that an object carries. -/
def Object.status? : Object → Option ResourceStatus
  | .gatewayClass o => o.status.map .gatewayClass
  | .gateway o => o.status.map .gateway
  | .udpRoute o => o.status.map .udpRoute
  | _ => none

/-- The object with a status of its kind; a status of another kind changes nothing. -/
def Object.withStatus : Object → Option ResourceStatus → Object
  | .gatewayClass o, some (.gatewayClass s) => .gatewayClass { o with status := some s }
  | .gateway o, some (.gateway s) => .gateway { o with status := some s }
  | .udpRoute o, some (.udpRoute s) => .udpRoute { o with status := some s }
  | .gatewayClass o, none => .gatewayClass { o with status := none }
  | .gateway o, none => .gateway { o with status := none }
  | .udpRoute o, none => .udpRoute { o with status := none }
  | o, _ => o

end RelayFleet
