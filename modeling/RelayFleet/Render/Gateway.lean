/-
The rendering of one gateway: whether it is served, what it contributes to the configuration, the
workload it needs, and what is reported about it and its routes.
-/
import RelayFleet.Render.Attachment
import RelayFleet.Workload.Manifest

namespace RelayFleet

/-- What is to be done about a gateway. -/
inductive GatewayState where
  /-- Its class is accepted: what is derived from it should be there. -/
  | active
  /-- Its class is missing or not accepted: what was derived from it has to go. -/
  | invalid
  /-- Its deletion was requested: what was derived from it has to go, and then the finalizer. -/
  | terminating
deriving DecidableEq, Inhabited

namespace GatewayState

/-- The name of a state. -/
def text : GatewayState → String
  | active => "Active"
  | invalid => "Invalid"
  | terminating => "Terminating"

/-- The state of a name. -/
def ofText? (s : String) : Option GatewayState :=
  if s = "Active" then some active
  else if s = "Invalid" then some invalid
  else if s = "Terminating" then some terminating
  else none

end GatewayState

/-- What has to be known about a gateway to act on it. -/
structure GatewayRender where
  gateway : ObjectKey
  state : GatewayState
  /-- What the gateway contributes, if it is active. -/
  config : Option Document := none
  /-- The artifact that the contribution goes to, if the gateway is active. -/
  target : Option ObjectKey := none
  /-- The workload, if the gateway is active and its relay template exists. -/
  workload : Option Workload := none
  hasFinalizer : Bool := false
  owner : Option GatewayOwner := none
deriving DecidableEq, Inhabited

/-- A rendered gateway. -/
structure GatewayOutput where
  render : GatewayRender
  status : GatewayStatus
  /-- What is reported about the routes that refer to the gateway, by route. -/
  routeParents : List (ObjectKey × RouteParentStatus)
deriving DecidableEq, Inhabited

/-! ## Classes -/

/-- Whether a class is accepted, and its settings if it is. -/
structure ClassCheck where
  accepted : Condition
  params : Option GatewayConfig
deriving DecidableEq

namespace ClassCheck

/-- The settings object that a class refers to, or what is wrong with the reference. -/
def paramsKey (c : GatewayClass) : Except String ObjectKey :=
  match c.spec.parametersRef with
  | none => .error "parametersRef must name a GatewayConfig"
  | some r =>
    if r.group = relayGroup ∧ r.kind = "GatewayConfig" then
      match r.inNamespace.filter (· ≠ "") with
      | none => .error "parametersRef must set a namespace"
      | some ns => .ok (.namespaced ns r.name)
    else
      .error ("parametersRef must point to " ++ relayGroup ++ "/GatewayConfig, got " ++ r.group ++
        "/" ++ r.kind)

/-- Checks a class: its reference has to lead to a settings object. -/
def ofClass (s : Snapshot) (c : GatewayClass) : ClassCheck :=
  let condition := Condition.of c.metadata.generation ConditionType.accepted
  match paramsKey c with
  | .error message => ⟨condition .false Reason.invalidParameters message, none⟩
  | .ok key =>
    match s.gatewayConfig? key with
    | some params => ⟨condition .true Reason.accepted "gateway class accepted", some params⟩
    | none =>
      ⟨condition .false Reason.invalidParameters ("GatewayConfig " ++ key.text ++ " not found"),
        none⟩

end ClassCheck

/-! ## Documents -/

/-- What makes a contribution unfit: a listener that is there twice, or one that names a cluster
that is not there. -/
inductive DocumentFlaw where
  | repeatedListener (name : String)
  | unknownCluster (listener route : String)
deriving DecidableEq

/-- The text of a flaw in the contribution of a gateway. -/
def DocumentFlaw.text (gateway : ObjectKey) : DocumentFlaw → String
  | repeatedListener name => "gateway " ++ gateway.text ++ " rendered listener " ++ name ++ " twice"
  | unknownCluster listener route =>
    "listener " ++ listener ++ " references unknown cluster " ++ route

/-- The first flaw in a list of listeners, after listeners of these names. -/
def listenersFlaw? (clusters : List String) :
    (seen : List String) → List ListenerConfig → Option DocumentFlaw
  | _, [] => none
  | seen, l :: rest =>
    if seen.contains l.name then some (.repeatedListener l.name)
    else
      match l.routes.find? fun r => ! clusters.contains r with
      | some route => some (.unknownCluster l.name route)
      | none => listenersFlaw? clusters (l.name :: seen) rest

/-- The first flaw of a document. -/
def Document.flaw? (d : Document) : Option DocumentFlaw :=
  listenersFlaw? (d.clusters.map (·.name)) [] d.listeners

/-! ## Gateways -/

namespace Settings

/-- Whether a class is in our charge. -/
def owns (settings : Settings) (c : GatewayClass) : Bool :=
  c.spec.controllerName = settings.controllerName

/-- The endpoint policy under the settings object of a class. -/
def policy (settings : Settings) (params : Option GatewayConfig) : EndpointPolicy :=
  settings.endpointPolicy (params.map (·.spec))

end Settings

namespace GatewayOutput

variable (settings : Settings) (s : Snapshot) (key : ObjectKey) (g : Gateway)

/-- What is known about a gateway in any state. -/
def base (state : GatewayState) : GatewayRender where
  gateway := key
  state := state
  hasFinalizer := g.metadata.hasFinalizer settings.finalizer
  owner := GatewayOwner.of? g

/-- The listener of a document for a planned listener that is served. -/
def listenerConfig? (address : Option PublicAddress) (attachments : List RouteAttachment)
    (p : ListenerPlan) : Option ListenerConfig :=
  match p.protocol, p.port with
  | some protocol, some port =>
    some {
      name := key.namespaceText ++ "/" ++ key.name ++ "/" ++ p.name
      protocol
      port
      publicAddress := address.map (·.value)
      publicPort := address.map (·.publicPort protocol port)
      routes := (SortedSet.ofList
        ((attachments.filter (·.isOn p.name)).map (·.backends.cluster.name))).toList }
  | _, _ => none

/-- The document of planned listeners and attached routes. -/
def document (address : Option PublicAddress) (plans : List ListenerPlan)
    (attachments : List RouteAttachment) : Document :=
  Document.normalize {
    listeners := (plans.filter (·.isReady)).filterMap (listenerConfig? key address attachments)
    clusters := (attachments.filter (! ·.listeners.isEmpty)).map (·.backends.cluster) }

/-- The ports of planned listeners that are served. -/
def workloadPorts (plans : List ListenerPlan) : List WorkloadPort :=
  (SortedSet.ofList ((plans.filter (·.isReady)).filterMap fun p =>
    p.protocol.bind fun protocol => p.port.map (WorkloadPort.of protocol))).toList

/-- Whether the configuration of an active gateway reaches relays that clients can reach. -/
def programmed (dataplane : String) (found : Bool) (address : Option PublicAddress) : Condition :=
  let condition := Condition.of g.metadata.generation ConditionType.programmed
  match found, address with
  | false, _ => condition .false Reason.invalid ("dataplane " ++ dataplane ++ " not found")
  | true, none => condition .false Reason.addressNotAssigned "no public address assigned yet"
  | true, some a => condition .true Reason.programmed ("gateway programmed at " ++ a.value)

/-- The rendering of a gateway whose class is accepted. -/
def active (params : GatewayConfig) : Except Fault GatewayOutput :=
  let generation := g.metadata.generation
  let plans := ListenerPlan.ofGateway s key g
  let attachments := RouteAttachment.ofGateway s (settings.policy (some params))
    settings.controllerName key plans
  let address := PublicAddress.ofGateway? s key g
  let config := document key address plans attachments
  match config.flaw? with
  | some flaw => .error (.internal "render" (flaw.text key))
  | none =>
    let target := ObjectKey.namespaced key.namespaceText (params.spec.configName.getD key.name)
    let dataplaneName := params.spec.dataplane.getD settings.defaultDataplane
    let dataplane := s.dataplane? dataplaneName
    let owner := GatewayOwner.of? g
    .ok {
      render := {
        base settings key g .active with
        config := some config
        target := some target
        workload := dataplane.map fun d => {
          gateway := key
          owner
          dataplane := dataplaneName
          spec := d.spec
          ports := workloadPorts plans
          serviceType := params.spec.serviceType.getD Workload.defaultServiceType
          configName := target.name
          realm := params.spec.realm } }
      status := {
        addresses := address.toList.map (·.reported)
        conditions := [
          Condition.of generation ConditionType.accepted .true Reason.accepted "gateway accepted",
          programmed g dataplaneName dataplane.isSome address]
        listeners := plans.map fun p => p.status (attachments.filter (·.isOn p.name)).length }
      routeParents := attachments.flatMap fun a => a.parents.map (a.route, ·) }

/-- The rendering of a gateway whose class is missing or not accepted. -/
def invalid (message : String) : GatewayOutput :=
  let generation := g.metadata.generation
  { render := base settings key g .invalid
    status := {
      conditions := [
        Condition.of generation ConditionType.accepted .false Reason.invalidGatewayClass message,
        Condition.of generation ConditionType.programmed .unknown Reason.pending
          "waiting for a valid gateway class"]
      listeners := ListenerPlan.pendingStatuses g "gateway is not accepted" }
    routeParents := rejectedParents s (settings.policy none) settings.controllerName key
      ⟨Reason.noMatchingParent, message⟩ false }

/-- The rendering of a gateway whose deletion was requested. -/
def terminating (policy : EndpointPolicy) : GatewayOutput :=
  let generation := g.metadata.generation
  let message := "gateway is being deleted"
  { render := base settings key g .terminating
    status := {
      conditions := [
        Condition.of generation ConditionType.accepted .unknown Reason.pending message,
        Condition.of generation ConditionType.programmed .false Reason.pending message]
      listeners := ListenerPlan.pendingStatuses g message }
    routeParents := rejectedParents s policy settings.controllerName key ⟨Reason.pending, message⟩
      true }

/-- The rendering of a gateway with what is known about its class. -/
def ofChecked (check : Option ClassCheck) : Except Fault GatewayOutput :=
  let className := g.spec.gatewayClassName
  if g.metadata.isDeleting then
    .ok (terminating settings s key g (settings.policy (check.bind (·.params))))
  else
    match check with
    | none => .ok (invalid settings s key g ("gateway class " ++ className ++ " not found"))
    | some c =>
      match c.params with
      | some params =>
        if c.accepted.isTrue then active settings s key g params
        else
          .ok (invalid settings s key g
            ("gateway class " ++ className ++ " is not accepted: " ++ c.accepted.message))
      | none =>
        .ok (invalid settings s key g
          ("gateway class " ++ className ++ " is not accepted: " ++ c.accepted.message))

end GatewayOutput

/-- Renders a gateway of a snapshot; nothing for a gateway that is not in our charge. A gateway
whose class is missing is in our charge if it carries our finalizer. -/
def renderGateway (settings : Settings) (s : Snapshot) (key : ObjectKey) :
    Except Fault (Option GatewayOutput) :=
  match s.gateway? key with
  | none => .error (.internal "render" ("gateway " ++ key.text ++ " vanished from snapshot"))
  | some g =>
    match s.gatewayClass? g.spec.gatewayClassName with
    | some c =>
      if settings.owns c then
        (GatewayOutput.ofChecked settings s key g (some (ClassCheck.ofClass s c))).map some
      else .ok none
    | none =>
      if g.metadata.hasFinalizer settings.finalizer then
        (GatewayOutput.ofChecked settings s key g none).map some
      else .ok none

end RelayFleet
