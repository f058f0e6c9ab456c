/-
Statuses at the API server. A status is read from the object that carries it, and written apart from
the rest of the object, in the version it was made for.
-/
import RelayFleet.Api.Write
import RelayFleet.Updater.Call

namespace RelayFleet

namespace CurrentStatus

/-- Writes a status with its version. -/
def toJson (c : CurrentStatus) : Json :=
  .obj [("resourceVersion", .ofText? c.resourceVersion),
    ("status", .orNull (fun s => .obj [("kind", .str s.kind.text), ("status", s.toJson)]) c.status)]

end CurrentStatus

/-- Whether the statuses of a kind are ours to write. -/
def ObjectKind.carriesStatus : ObjectKind → Bool
  | .gatewayClass => true
  | .gateway => true
  | .udpRoute => true
  | _ => false

namespace ApiProgram

/-- Asks for the status of a resource, which may be no more. -/
def getStatus (resource : ResourceKey) : ApiProgram (Except Fault (Option CurrentStatus)) :=
  if resource.kind.carriesStatus then
    send .get (.ofKind resource.kind) resource.key resource.text
      (readPresent fun j => (Object.ofJson? .direct resource.kind j).map Object.currentStatus)
  else
    .done (.error (.internal "status"
      (resource.kind.text ++ " carries no status managed by turngate")))

/-- The patch of a status in a version. -/
def statusPatch (version : Option String) (status : ResourceStatus) : Json :=
  .obj [("metadata", .obj [("resourceVersion", .ofText? version)]), ("status", status.toJson)]

/-- Writes the status of a resource in a version. The kind is that of the status. -/
def patchStatus (resource : ResourceKey) (version : Option String) (status : ResourceStatus) :
    ApiProgram (Except Fault Unit) :=
  let collection := ApiCollection.ofKind status.kind
  send (.merge (statusPatch version status) true) collection resource.key resource.text
    (readHeld collection) "/status"

end ApiProgram

end RelayFleet
