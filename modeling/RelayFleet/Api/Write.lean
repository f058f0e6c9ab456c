/-
The operator's writes as requests to the API server. What is to be deleted may be gone already. A
gateway's finalizers are read and patched in the version they were read in, again if it has changed
meanwhile.
-/
import RelayFleet.Api.Reply
import RelayFleet.Operator.Call

namespace RelayFleet

namespace ApiProgram

/-- Makes a request about an object, or about a part of it, and reads the reply. Faults are about
what the object is called. -/
def send {α : Type} (verb : ApiVerb) (c : ApiCollection) (key : ObjectKey) (called : String)
    (read : ApiReply → Except Fault α) (part : String := "") : ApiProgram (Except Fault α) :=
  match ApiRequest.of? verb c key part with
  | none => .done (.error (.unreachable "the name of an object does not fit into a request"))
  | some request => .ask request fun reply => .done ((read reply).mapError (Fault.about called))

/-- Reads a reply that holds an object of a collection. -/
def readHeld (c : ApiCollection) : ApiReply → Except Fault Unit :=
  ApiReply.read fun j => if c.holds j then some () else none

/-- Reads a reply that holds an object, which may be missing. -/
def readPresent {α : Type} (value? : Json → Option α) (reply : ApiReply) :
    Except Fault (Option α) :=
  match reply.read value? with
  | .ok a => .ok (some a)
  | .error (.refused code message reason) =>
    if reason = "NotFound" then .ok none else .error (.refused code message reason)
  | .error f => .error f

/-- Applies a manifest. -/
def apply (c : ApiCollection) (key : ObjectKey) (called : String) (manifest : Json) :
    ApiProgram (Except Fault Unit) :=
  send (.apply manifest) c key (called ++ " " ++ key.text) (readHeld c)

/-- Deletes an object, if it is there. -/
def delete (c : ApiCollection) (key : ObjectKey) (called : String) :
    ApiProgram (Except Fault Unit) := do
  match ← send .delete c key (called ++ " " ++ key.text) (ApiReply.readDeletion c) with
  | .ok () => pure (.ok ())
  | .error f => pure (if f.isNotFound then .ok () else .error f)

/-- One program after another that has to come out well. -/
def andThen (first second : ApiProgram (Except Fault Unit)) : ApiProgram (Except Fault Unit) := do
  match ← first with
  | .ok () => second
  | .error f => pure (.error f)

end ApiProgram

/-! ## Finalizers -/

/-- A change to the finalizers of a gateway. -/
inductive FinalizerChange where
  | add
  | remove
deriving DecidableEq, Inhabited

namespace FinalizerChange

/-- The finalizers after a change, if it changes anything. -/
def apply (finalizer : String) (present : List String) : FinalizerChange → Option (List String)
  | add => if present.contains finalizer then none else some (present ++ [finalizer])
  | remove => if present.contains finalizer then some (present.filter (· ≠ finalizer)) else none

/-- What a change to a gateway that is gone comes to. -/
def onMissing (gateway : ObjectKey) : FinalizerChange → Except Fault Unit
  | add => .error (.notFound ("gateway " ++ gateway.text))
  | remove => .ok ()

/-- How often a change is tried that keeps meeting newer versions. -/
def attempts : Nat := 5

/-- The collection of gateways. -/
def gateways : ApiCollection := .ofKind .gateway

/-- The patch of a gateway's finalizers in a version. -/
def patch (version : Option String) (finalizers : List String) : Json :=
  .obj [("metadata", .obj [("resourceVersion", .ofText? version),
    ("finalizers", .list .str finalizers)])]

/-- Tries a change once. -/
def attempt (gateway : ObjectKey) (finalizer : String) (change : FinalizerChange) :
    ApiProgram (Except Fault Unit) := do
  match ← ApiProgram.send .get gateways gateway gateway.text
      (ApiProgram.readPresent (Gateway.ofJson? .direct)) with
  | .error f => pure (.error f)
  | .ok none => pure (change.onMissing gateway)
  | .ok (some present) =>
    match change.apply finalizer present.metadata.finalizerList with
    | none => pure (.ok ())
    | some finalizers =>
      ApiProgram.send (.merge (patch present.metadata.resourceVersion finalizers) false) gateways
        gateway gateway.text (ApiProgram.readHeld gateways)

/-- Changes the finalizers of a gateway. -/
def program (gateway : ObjectKey) (finalizer : String) (change : FinalizerChange) :
    ApiProgram (Except Fault Unit) :=
  Retry.onConflict attempts (change.attempt gateway finalizer)

end FinalizerChange

/-! ## Artifacts -/

namespace Artifact

/-- The manifest of an artifact. -/
def manifest (a : Artifact) : Json :=
  manifestJson "v1" "ConfigMap"
    { name := some a.key.name
      inNamespace := some a.key.namespaceText
      labels := some (.ofList [managedByLabel])
      ownerReferences := some (a.owners.map (·.reference false)) }
    [("data", some (.obj [(documentFile, .str a.config.toText)]))]

end Artifact

/-! ## Writes -/

namespace ClusterWrite

/-- The requests that make a write. -/
def program : ClusterWrite → ApiProgram (Except Fault Unit)
  | addFinalizer gateway finalizer => FinalizerChange.add.program gateway finalizer
  | removeFinalizer gateway finalizer => FinalizerChange.remove.program gateway finalizer
  | applyWorkload w =>
    ApiProgram.andThen
      (ApiProgram.apply .deployments w.gateway "deployment" w.deployment.toJson)
      (ApiProgram.apply (.ofKind .service) w.gateway "service" w.service.toJson)
  | deleteWorkload gateway =>
    ApiProgram.andThen
      (ApiProgram.delete .deployments gateway "deployment")
      (ApiProgram.delete (.ofKind .service) gateway "service")
  | applyArtifact a => ApiProgram.apply .configMaps a.key "configmap" a.manifest
  | deleteArtifact key => ApiProgram.delete .configMaps key "configmap"

end ClusterWrite

end RelayFleet
