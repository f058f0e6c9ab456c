/-
The shapes of pods and of the containers in them.
-/
import RelayFleet.Schema.Volume

namespace RelayFleet.Shape

/-! ## Containers -/

/-- A key of a config map or of a secret. -/
def keySelector : Shape := .record [("key", .text), ("name", .text), ("optional", .flag)]

/-- A variable of the environment. -/
def envVar : Shape :=
  .record [("name", .text), ("value", .text), ("valueFrom", .record [
    ("configMapKeyRef", keySelector), ("fieldRef", fieldRef),
    ("resourceFieldRef", resourceFieldRef), ("secretKeyRef", keySelector)])]

/-- Variables of the environment, all from one object. -/
def envSource : Shape :=
  let source : Shape := .record [("name", .text), ("optional", .flag)]
  .record [("configMapRef", source), ("prefix", .text), ("secretRef", source)]

/-- The ways to run something in a container or to call it. -/
def actions : List (String × Shape) :=
  [("exec", .record [("command", texts)]),
    ("httpGet", .record [("host", .text), ("httpHeaders", .list nameValue), ("path", .text),
      ("port", .intOrText), ("scheme", .text)]),
    ("tcpSocket", .record [("host", .text), ("port", .intOrText)])]

/-- What is done at a turn of a container's life. -/
def lifecycleHandler : Shape := .record (("sleep", .record [("seconds", .int64)]) :: actions)

/-- What tells how a container is doing. -/
def probe : Shape :=
  .record (("grpc", .record [("port", .int32), ("service", .text)]) ::
    ("terminationGracePeriodSeconds", .int64) ::
    each .int32 ["failureThreshold", "initialDelaySeconds", "periodSeconds", "successThreshold",
      "timeoutSeconds"] ++ actions)

/-- What containers and pods may be confined by. -/
def confinement : List (String × Shape) :=
  [("appArmorProfile", textsNamed ["localhostProfile", "type"]),
    ("runAsGroup", .int64), ("runAsNonRoot", .flag), ("runAsUser", .int64),
    ("seLinuxOptions", textsNamed ["level", "role", "type", "user"]),
    ("seccompProfile", textsNamed ["localhostProfile", "type"]),
    ("windowsOptions", .record (("hostProcess", .flag) ::
      each .text ["gmsaCredentialSpec", "gmsaCredentialSpecName", "runAsUserName"]))]

/-- What a container is confined by. -/
def securityContext : Shape :=
  .record (("capabilities", .record [("add", texts), ("drop", texts)]) :: ("procMount", .text) ::
    each .flag ["allowPrivilegeEscalation", "privileged", "readOnlyRootFilesystem"] ++ confinement)

/-- What a pod is confined by. -/
def podSecurityContext : Shape :=
  .record ([("fsGroup", .int64), ("supplementalGroups", .list .int64), ("sysctls", .list nameValue)]
    ++ each .text ["fsGroupChangePolicy", "seLinuxChangePolicy", "supplementalGroupsPolicy"]
    ++ confinement)

/-- A port of a container. -/
def containerPort : Shape :=
  .record [("containerPort", .int32), ("hostIP", .text), ("hostPort", .int32), ("name", .text),
    ("protocol", .text)]

/-- Where a container finds a volume. -/
def volumeMount : Shape :=
  .record (("readOnly", .flag) :: each .text ["mountPath", "mountPropagation", "name",
    "recursiveReadOnly", "subPath", "subPathExpr"])

/-- The members of a container. -/
def containerMembers : List (String × Shape) :=
  each .text ["image", "imagePullPolicy", "name", "restartPolicy", "terminationMessagePath",
    "terminationMessagePolicy", "workingDir"] ++
  each .flag ["stdin", "stdinOnce", "tty"] ++
  each texts ["args", "command"] ++
  each probe ["livenessProbe", "readinessProbe", "startupProbe"] ++
  [("env", .list envVar), ("envFrom", .list envSource),
    ("lifecycle", .record [("postStart", lifecycleHandler), ("preStop", lifecycleHandler),
      ("stopSignal", .text)]),
    ("ports", .list containerPort),
    ("resizePolicy", .list (textsNamed ["resourceName", "restartPolicy"])),
    ("resources", requirements), ("securityContext", securityContext),
    ("volumeDevices", .list (textsNamed ["devicePath", "name"])),
    ("volumeMounts", .list volumeMount)]

/-! ## Placement -/

/-- Nodes, by their labels and fields. -/
def nodeTerm : Shape :=
  .record (each (.list requirement) ["matchExpressions", "matchFields"])

/-- Pods, by their labels and namespaces. -/
def podTerm : Shape :=
  .record (("topologyKey", .text) :: each labelSelector ["labelSelector", "namespaceSelector"] ++
    each texts ["matchLabelKeys", "mismatchLabelKeys", "namespaces"])

/-- Terms that are wished for, each with a weight, and terms that have to hold. -/
def affinityTo (wish : String × Shape) (required : Shape) : Shape :=
  .record [
    ("preferredDuringSchedulingIgnoredDuringExecution", records [wish, ("weight", .int32)]),
    ("requiredDuringSchedulingIgnoredDuringExecution", required)]

/-- Where a pod is placed. -/
def affinity : Shape :=
  let toPods := affinityTo ("podAffinityTerm", podTerm) (.list podTerm)
  .record [
    ("nodeAffinity", affinityTo ("preference", nodeTerm)
      (.record [("nodeSelectorTerms", .list nodeTerm)])),
    ("podAffinity", toPods), ("podAntiAffinity", toPods)]

/-- A taint that a pod tolerates. -/
def toleration : Shape :=
  .record (("tolerationSeconds", .int64) :: each .text ["effect", "key", "operator", "value"])

/-- How pods are spread. -/
def spread : Shape :=
  .record ([("labelSelector", labelSelector), ("matchLabelKeys", texts), ("maxSkew", .int32),
    ("minDomains", .int32)] ++
    each .text ["nodeAffinityPolicy", "nodeTaintsPolicy", "topologyKey", "whenUnsatisfiable"])

/-! ## Pods -/

/-- The specification of a pod. -/
def podSpec : Shape :=
  .record (
    each .text ["dnsPolicy", "hostname", "nodeName", "preemptionPolicy", "priorityClassName",
      "restartPolicy", "runtimeClassName", "schedulerName", "serviceAccount", "serviceAccountName",
      "subdomain"] ++
    each .flag ["automountServiceAccountToken", "enableServiceLinks", "hostIPC", "hostNetwork",
      "hostPID", "hostUsers", "setHostnameAsFQDN", "shareProcessNamespace"] ++
    each .int64 ["activeDeadlineSeconds", "terminationGracePeriodSeconds"] ++
    each textTable ["nodeSelector", "overhead"] ++
    each (.list (.record containerMembers)) ["containers", "initContainers"] ++
    each (.list localReference) ["imagePullSecrets", "schedulingGates"] ++
    [("affinity", affinity),
      ("dnsConfig", .record [("nameservers", texts), ("options", .list nameValue),
        ("searches", texts)]),
      ("ephemeralContainers", records (("targetContainerName", .text) :: containerMembers)),
      ("hostAliases", records [("hostnames", texts), ("ip", .text)]),
      ("os", localReference), ("priority", .int32),
      ("readinessGates", .list (textsNamed ["conditionType"])),
      ("resourceClaims", .list (textsNamed ["name", "resourceClaimName",
        "resourceClaimTemplateName"])),
      ("resources", requirements), ("securityContext", podSecurityContext),
      ("tolerations", .list toleration), ("topologySpreadConstraints", .list spread),
      ("volumes", .list volume)])

/-- What pods are made from. -/
def podTemplate : Shape := .record [("metadata", metadata), ("spec", podSpec)]

end RelayFleet.Shape
