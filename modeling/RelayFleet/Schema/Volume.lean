/-
The shapes of the volumes of a pod.
-/
import RelayFleet.Schema.Metadata

namespace RelayFleet.Shape

/-- A volume of some plugin: members that are texts, and flags. -/
def plugin (textual : List String) (more : List (String × Shape) := []) : Shape :=
  .record (each .text textual ++ [("readOnly", .flag)] ++ more)

/-- The secret that a plugin needs. -/
def secretRef : String × Shape := ("secretRef", localReference)

/-- Keys with the paths that they are found under. -/
def keyPaths : String × Shape :=
  ("items", records [("key", .text), ("mode", .int32), ("path", .text)])

/-- A field of the pod. -/
def fieldRef : Shape := textsNamed ["apiVersion", "fieldPath"]

/-- A resource of a container. -/
def resourceFieldRef : Shape := textsNamed ["containerName", "divisor", "resource"]

/-- Fields of the pod as files. -/
def fieldFiles : String × Shape :=
  ("items", records [("fieldRef", fieldRef), ("mode", .int32), ("path", .text),
    ("resourceFieldRef", resourceFieldRef)])

/-- A claim on storage. -/
def claimTemplate : Shape :=
  .record [("metadata", metadata), ("spec", .record (
    each .text ["storageClassName", "volumeAttributesClassName", "volumeMode", "volumeName"] ++
    [("accessModes", texts), ("dataSource", textsNamed ["apiGroup", "kind", "name"]),
      ("dataSourceRef", textsNamed ["apiGroup", "kind", "name", "namespace"]),
      ("resources", .record (each textTable ["limits", "requests"])),
      ("selector", labelSelector)]))]

/-- A source of a projected volume. -/
def projection : Shape :=
  .record [
    ("clusterTrustBundle", .record (each .text ["name", "path", "signerName"] ++
      [("labelSelector", labelSelector), ("optional", .flag)])),
    ("configMap", .record [keyPaths, ("name", .text), ("optional", .flag)]),
    ("downwardAPI", .record [fieldFiles]),
    ("secret", .record [keyPaths, ("name", .text), ("optional", .flag)]),
    ("serviceAccountToken", .record [("audience", .text), ("expirationSeconds", .int64),
      ("path", .text)])]

/-- The volumes that are not found on the network. -/
def localVolumes : List (String × Shape) :=
  [("configMap", .record [("defaultMode", .int32), keyPaths, ("name", .text), ("optional", .flag)]),
    ("downwardAPI", .record [("defaultMode", .int32), fieldFiles]),
    ("emptyDir", textsNamed ["medium", "sizeLimit"]),
    ("ephemeral", .record [("volumeClaimTemplate", claimTemplate)]),
    ("gitRepo", textsNamed ["directory", "repository", "revision"]),
    ("hostPath", textsNamed ["path", "type"]),
    ("image", textsNamed ["pullPolicy", "reference"]),
    ("persistentVolumeClaim", plugin ["claimName"]),
    ("projected", .record [("defaultMode", .int32), ("sources", .list projection)]),
    ("secret", .record [("defaultMode", .int32), keyPaths, ("optional", .flag),
      ("secretName", .text)])]

/-- The volumes that a network or a cloud provides. -/
def remoteVolumes : List (String × Shape) :=
  [("awsElasticBlockStore", plugin ["fsType", "volumeID"] [("partition", .int32)]),
    ("azureDisk", plugin ["cachingMode", "diskName", "diskURI", "fsType", "kind"]),
    ("azureFile", plugin ["secretName", "shareName"]),
    ("cephfs", plugin ["path", "secretFile", "user"] [("monitors", texts), secretRef]),
    ("cinder", plugin ["fsType", "volumeID"] [secretRef]),
    ("csi", plugin ["driver", "fsType"]
      [("nodePublishSecretRef", localReference), ("volumeAttributes", textTable)]),
    ("fc", plugin ["fsType"] [("lun", .int32), ("targetWWNs", texts), ("wwids", texts)]),
    ("flexVolume", plugin ["driver", "fsType"] [("options", textTable), secretRef]),
    ("flocker", textsNamed ["datasetName", "datasetUUID"]),
    ("gcePersistentDisk", plugin ["fsType", "pdName"] [("partition", .int32)]),
    ("glusterfs", plugin ["endpoints", "path"]),
    ("iscsi", plugin ["fsType", "initiatorName", "iqn", "iscsiInterface", "targetPortal"]
      [("chapAuthDiscovery", .flag), ("chapAuthSession", .flag), ("lun", .int32),
        ("portals", texts), secretRef]),
    ("nfs", plugin ["path", "server"]),
    ("photonPersistentDisk", textsNamed ["fsType", "pdID"]),
    ("portworxVolume", plugin ["fsType", "volumeID"]),
    ("quobyte", plugin ["group", "registry", "tenant", "user", "volume"]),
    ("rbd", plugin ["fsType", "image", "keyring", "pool", "user"]
      [("monitors", texts), secretRef]),
    ("scaleIO", plugin ["fsType", "gateway", "protectionDomain", "storageMode", "storagePool",
      "system", "volumeName"] [secretRef, ("sslEnabled", .flag)]),
    ("storageos", plugin ["fsType", "volumeName", "volumeNamespace"] [secretRef]),
    ("vsphereVolume", textsNamed ["fsType", "storagePolicyID", "storagePolicyName", "volumePath"])]

/-- A volume: its name, and one of the ways to provide it. -/
def volume : Shape := .record (("name", .text) :: localVolumes ++ remoteVolumes)

end RelayFleet.Shape
