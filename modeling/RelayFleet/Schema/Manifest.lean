/-
The shapes of the core objects: those that rendering looks at, and those that are derived from
gateways.
-/
import RelayFleet.Schema.Pod

namespace RelayFleet.Shape

/-! ## Derived objects -/

/-- A deployment. -/
def deployment : Shape :=
  .manifest "apps/v1" "Deployment" [
    ("spec", .record (
      each .int32 ["minReadySeconds", "progressDeadlineSeconds", "replicas",
        "revisionHistoryLimit"] ++
      [("paused", .flag), ("selector", labelSelector),
        ("strategy", .record [
          ("rollingUpdate", .record (each .intOrText ["maxSurge", "maxUnavailable"])),
          ("type", .text)]),
        ("template", podTemplate)])),
    ("status", .record (
      each .int32 ["availableReplicas", "collisionCount", "readyReplicas", "replicas",
        "terminatingReplicas", "unavailableReplicas", "updatedReplicas"] ++
      [("conditions", .list (reportedCondition ["lastTransitionTime", "lastUpdateTime"])),
        ("observedGeneration", .int64)]))]

/-- A config map. -/
def configMap : Shape :=
  .manifest "v1" "ConfigMap"
    [("binaryData", .table .bytes), ("data", textTable), ("immutable", .flag)]

/-! ## Services -/

/-- A port of a service. -/
def servicePort : Shape :=
  .record [("appProtocol", .text), ("name", .text), ("nodePort", .int32), ("port", .int32),
    ("protocol", .text), ("targetPort", .intOrText)]

/-- The specification of a service. -/
def serviceSpec : Shape :=
  .record (
    each .text ["clusterIP", "externalName", "externalTrafficPolicy", "internalTrafficPolicy",
      "ipFamilyPolicy", "loadBalancerClass", "loadBalancerIP", "sessionAffinity",
      "trafficDistribution", "type"] ++
    each texts ["clusterIPs", "externalIPs", "ipFamilies", "loadBalancerSourceRanges"] ++
    each .flag ["allocateLoadBalancerNodePorts", "publishNotReadyAddresses"] ++
    [("healthCheckNodePort", .int32), ("ports", .list servicePort), ("selector", textTable),
      ("sessionAffinityConfig", .record [("clientIP", .record [("timeoutSeconds", .int32)])])])

/-- The state of a port of a load balancer. -/
def portStatus : Shape :=
  .record [("error", .text), ("port", .always .int32), ("protocol", .always .text)]

/-- An address that a load balancer reports. -/
def ingress : Shape :=
  .record (each .text ["hostname", "ip", "ipMode"] ++ [("ports", .list portStatus)])

/-- A condition of a service. -/
def serviceCondition : Shape :=
  .record (each (.always .text) ["message", "reason", "status", "type"] ++
    [("lastTransitionTime", .required .moment), ("observedGeneration", .int64)])

/-- What was last reported about a service. -/
def serviceStatus : Shape :=
  .record [("conditions", .list serviceCondition),
    ("loadBalancer", .record [("ingress", .list ingress)])]

/-- A service. -/
def service : Shape :=
  .manifest "v1" "Service" [("spec", serviceSpec), ("status", serviceStatus)]

/-! ## Endpoint slices -/

/-- An object of any kind. -/
def objectReference : Shape :=
  textsNamed ["apiVersion", "fieldPath", "kind", "name", "namespace", "resourceVersion", "uid"]

/-- Where an endpoint is best used. -/
def place : Shape := .record [("name", .always .text)]

/-- An endpoint of a slice. -/
def endpoint : Shape :=
  .record (each .text ["hostname", "nodeName", "zone"] ++
    [("addresses", texts), ("conditions", .record (each .flag ["ready", "serving", "terminating"])),
      ("deprecatedTopology", textTable),
      ("hints", .record (each (.list place) ["forNodes", "forZones"])),
      ("targetRef", objectReference)])

/-- An endpoint slice. -/
def endpointSlice : Shape :=
  .manifest "discovery.k8s.io/v1" "EndpointSlice" [
    ("addressType", .text), ("endpoints", .list endpoint),
    ("ports", records (("port", .int32) :: each .text ["appProtocol", "name", "protocol"]))]

/-! ## Secrets -/

/-- A secret. -/
def secret : Shape :=
  .manifest "v1" "Secret"
    [("data", .table .bytes), ("immutable", .flag), ("stringData", textTable), ("type", .text)]

/-! ## Nodes -/

/-- Where a node's configuration comes from. -/
def nodeConfig : Shape :=
  .record [("configMap",
    .record (each (.always .text) ["kubeletConfigKey", "name", "namespace"] ++
      each .text ["resourceVersion", "uid"]))]

/-- The specification of a node. -/
def nodeSpec : Shape :=
  .record (each .text ["externalID", "podCIDR", "providerID"] ++
    [("configSource", nodeConfig), ("podCIDRs", texts),
      ("taints", records ([("timeAdded", .moment), ("value", .text)] ++
        each (.always .text) ["effect", "key"])),
      ("unschedulable", .flag)])

/-- What a node runs. -/
def nodeInfo : Shape :=
  .record (("swap", .record [("capacity", .int64)]) ::
    each (.always .text) ["architecture", "bootID", "containerRuntimeVersion", "kernelVersion",
      "kubeProxyVersion", "kubeletVersion", "machineID", "operatingSystem", "osImage",
      "systemUUID"])

/-- A way for a node to run containers. -/
def runtimeHandler : Shape :=
  .record [("features", .record (each .flag ["recursiveReadOnlyMounts", "userNamespaces"])),
    ("name", .text)]

/-- What was last reported about a node. -/
def nodeStatus : Shape :=
  .record (each textTable ["allocatable", "capacity"] ++
    [("addresses", .list (textsNamed ["address", "type"])),
      ("conditions", .list (reportedCondition ["lastHeartbeatTime", "lastTransitionTime"])),
      ("config", .record (("error", .text) ::
        each nodeConfig ["active", "assigned", "lastKnownGood"])),
      ("daemonEndpoints", .record [("kubeletEndpoint", .record [("Port", .always .int32)])]),
      ("features", .record [("supplementalGroupsPolicy", .flag)]),
      ("images", records [("names", texts), ("sizeBytes", .int64)]),
      ("nodeInfo", nodeInfo), ("phase", .text), ("runtimeHandlers", .list runtimeHandler),
      ("volumesAttached", records (each (.always .text) ["devicePath", "name"])),
      ("volumesInUse", texts)])

/-- A node. -/
def node : Shape := .manifest "v1" "Node" [("spec", nodeSpec), ("status", nodeStatus)]

end RelayFleet.Shape
