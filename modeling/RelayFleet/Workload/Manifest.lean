/-
The manifests of a workload: a deployment that runs the relays and a service that leads clients to
them. The service carries the gateway's name, so the gateway's public address can be found there.
-/
import RelayFleet.Workload.Basic
import RelayFleet.Resource.Core

namespace RelayFleet

/-- The label with the name of the gateway that an object was derived from. -/
def gatewayLabel : String := "turngate.dev/gateway"

/-- The label with the namespace of the gateway that an object was derived from. -/
def gatewayNamespaceLabel : String := "turngate.dev/gateway-namespace"

/-- The label that says who manages an object, and what it says on ours. -/
def managedByLabel : String × String := ("app.kubernetes.io/managed-by", "turngate")

/-- The member of a config artifact with the document. -/
def documentFile : String := "turngate.conf"

/-! ## Deployments -/

/-- A container of a relay. -/
structure RelayContainer where
  name : String
  image : String
  imagePullPolicy : Option String
  command : List String
  args : List String
  env : List (String × String)
  ports : List WorkloadPort
  resources : Option ResourceRequirements
  /-- The volume that is mounted, and where. -/
  mount : String × String
deriving DecidableEq

namespace RelayContainer

/-- Writes a container. -/
def toJson (c : RelayContainer) : Json :=
  .present [
    ("args", DataplaneSpec.textsJson? c.args),
    ("command", DataplaneSpec.textsJson? c.command),
    ("env", some (.arr (c.env.map fun e => .obj [("name", .str e.1), ("value", .str e.2)]))),
    ("image", some (.str c.image)),
    ("imagePullPolicy", c.imagePullPolicy.map .str),
    ("name", some (.str c.name)),
    ("ports", some (.arr (c.ports.map fun p => .obj [("containerPort", .nat p.port.toNat),
      ("name", .str p.name), ("protocol", .str p.protocol.transport.text)]))),
    ("resources", c.resources.map (·.toJson)),
    ("volumeMounts", some (.arr [.obj [("mountPath", .str c.mount.2), ("name", .str c.mount.1),
      ("readOnly", .bool true)]]))]

end RelayContainer

/-- The deployment of a gateway's relays. -/
structure RelayDeployment where
  metadata : Metadata
  replicas : Int32
  /-- What the pods are recognised by. -/
  selector : Labels
  podLabels : Labels
  container : RelayContainer
  /-- The artifact behind the mounted volume, and the file taken from it. -/
  volume : String × String
  hostNetwork : Bool
deriving DecidableEq

namespace RelayDeployment

/-- Writes a deployment. -/
def toJson (d : RelayDeployment) : Json :=
  manifestJson "apps/v1" "Deployment" d.metadata [("spec", some (.obj [
    ("replicas", .int d.replicas.toInt),
    ("selector", .obj [("matchLabels", Labels.toJson d.selector)]),
    ("template", .obj [
      ("metadata", .obj [("labels", Labels.toJson d.podLabels)]),
      ("spec", .present [
        ("containers", some (.arr [d.container.toJson])),
        ("hostNetwork", if d.hostNetwork then some (.bool true) else none),
        ("volumes", some (.arr [.obj [
          ("configMap", .obj [
            ("items", .arr [.obj [("key", .str d.volume.2), ("path", .str d.volume.2)]]),
            ("name", .str d.volume.1),
            ("optional", .bool true)]),
          ("name", .str d.container.mount.1)]]))])])]))]

end RelayDeployment

/-! ## Manifests -/

namespace Workload

/-- The service type of workloads whose class asks for none. -/
def defaultServiceType : String := "LoadBalancer"

/-- The name of the relay container. -/
def containerName : String := "turngate-relay"

/-- Where relays find their configuration. -/
def configDirectory : String := "/etc/turngate"

/-- The name of the volume with the configuration. -/
def configVolume : String := "turngate-config"

/-- The name of a workload's objects. -/
def name (w : Workload) : String := w.gateway.name

/-- The namespace of a workload's objects. -/
def namespaceText (w : Workload) : String := w.gateway.namespaceText

/-- The labels that a workload's pods are recognised by. -/
def selector (w : Workload) : Labels :=
  .ofList [(gatewayLabel, w.gateway.name), (gatewayNamespaceLabel, w.namespaceText)]

/-- The labels of every object of a workload. -/
def labels (w : Workload) : Labels :=
  (w.selector.insert managedByLabel.1 managedByLabel.2).insert "app.kubernetes.io/name"
    containerName

/-- The metadata of a workload's objects. -/
def metadata (w : Workload) : Metadata where
  name := some w.name
  inNamespace := some w.namespaceText
  labels := some w.labels
  ownerReferences := w.owner.map fun o => [o.reference true]

/-- What relays are told through their environment. -/
def environment (w : Workload) : List (String × String) :=
  ("TURNGATE_CONFIG_FILE", configDirectory ++ "/" ++ documentFile) ::
    (w.realm.map fun realm => ("TURNGATE_REALM", realm)).toList

/-- The deployment of a workload. -/
def deployment (w : Workload) : RelayDeployment where
  metadata := w.metadata
  replicas := w.spec.replicas
  selector := w.selector
  podLabels := w.labels
  container := {
    name := containerName
    image := w.spec.image
    imagePullPolicy := w.spec.imagePullPolicy
    command := w.spec.command
    args := w.spec.args
    env := w.environment
    ports := w.ports
    resources := w.spec.resources
    mount := (configVolume, configDirectory) }
  volume := (w.configName, documentFile)
  hostNetwork := w.spec.hostNetwork

/-- The port of the service for a port of the workload. -/
def servicePort (p : WorkloadPort) : ServicePort where
  name := some p.name
  port := Int32.ofNat p.port.toNat
  protocol := some p.protocol.transport.text
  targetPort := some (.number (Int32.ofNat p.port.toNat))

/-- The service of a workload. -/
def service (w : Workload) : Service where
  metadata := w.metadata
  spec := some {
    ports := some (w.ports.map servicePort)
    selector := some w.selector
    type := some w.serviceType }

end Workload

end RelayFleet
