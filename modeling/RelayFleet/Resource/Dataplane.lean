/-
Dataplanes: the templates of the relays that gateways run.
-/
import RelayFleet.Resource.GatewayClass

namespace RelayFleet

/-! ## Resource requirements -/

/-- A claim on a resource of the pod. -/
structure ResourceClaim where
  name : String := ""
  request : Option String := none
deriving DecidableEq, Inhabited

namespace ResourceClaim

/-- Reads a claim. -/
def ofJson? (j : Json) : Option ResourceClaim := do
  let [name, request] ← j.lenient? ["name", "request"] | none
  return {
    name := ← Json.defaulted Json.text? "" name
    request := ← Json.optional Json.text? request }

/-- Writes a claim. -/
def toJson (c : ResourceClaim) : Json :=
  .present [("name", some (.str c.name)), ("request", c.request.map .str)]

end ResourceClaim

/-- What a relay container may use and has to get; quantities are texts. -/
structure ResourceRequirements where
  claims : Option (List ResourceClaim) := none
  limits : Option Labels := none
  requests : Option Labels := none
deriving DecidableEq, Inhabited

namespace ResourceRequirements

/-- Reads resource requirements. -/
def ofJson? (j : Json) : Option ResourceRequirements := do
  guard (Shape.requirements.admits .direct j)
  let [claims, limits, requests] ← j.lenient? ["claims", "limits", "requests"] | none
  return {
    claims := ← Json.optional (Json.list? ResourceClaim.ofJson?) claims
    limits := ← Json.optional Labels.ofJson? limits
    requests := ← Json.optional Labels.ofJson? requests }

/-- Writes resource requirements. -/
def toJson (r : ResourceRequirements) : Json :=
  .present [
    ("claims", r.claims.map fun l => .arr (l.map (·.toJson))),
    ("limits", r.limits.map Labels.toJson),
    ("requests", r.requests.map Labels.toJson)]

end ResourceRequirements

/-! ## Dataplanes -/

/-- How the relays of a gateway are run. -/
structure DataplaneSpec where
  image : String
  replicas : Int32 := 1
  imagePullPolicy : Option String := none
  command : List String := []
  args : List String := []
  resources : Option ResourceRequirements := none
  hostNetwork : Bool := false
deriving DecidableEq, Inhabited

namespace DataplaneSpec

/-- A list of texts, unless it is empty. -/
def textsJson? (l : List String) : Option Json :=
  if l.isEmpty then none else some (.arr (l.map .str))

/-- Reads a relay template. -/
def ofJson? (j : Json) : Option DataplaneSpec := do
  let [image, replicas, policy, command, args, resources, hostNetwork] ← j.strict?
    ["image", "replicas", "imagePullPolicy", "command", "args", "resources", "hostNetwork"] | none
  return {
    image := ← Json.needed Json.text? image
    replicas := ← Json.defaulted Json.int32? 1 replicas
    imagePullPolicy := ← Json.optional Json.text? policy
    command := ← Json.defaulted (Json.list? Json.text?) [] command
    args := ← Json.defaulted (Json.list? Json.text?) [] args
    resources := ← Json.optional ResourceRequirements.ofJson? resources
    hostNetwork := ← Json.defaulted Json.flag? false hostNetwork }

/-- Writes a relay template. -/
def toJson (s : DataplaneSpec) : Json :=
  .present [
    ("image", some (.str s.image)),
    ("replicas", some (.int s.replicas.toInt)),
    ("imagePullPolicy", s.imagePullPolicy.map .str),
    ("command", textsJson? s.command),
    ("args", textsJson? s.args),
    ("resources", s.resources.map (·.toJson)),
    ("hostNetwork", some (.bool s.hostNetwork))]

end DataplaneSpec

/-- A relay template object. -/
structure Dataplane where
  metadata : Metadata
  spec : DataplaneSpec
deriving DecidableEq, Inhabited

namespace Dataplane

/-- Reads a relay template object. -/
def ofJson? (j : Json) : Option Dataplane := do
  let [metadata, spec] ← j.strict? ["metadata", "spec"] | none
  return {
    metadata := ← Json.needed Metadata.ofJson? metadata
    spec := ← Json.needed DataplaneSpec.ofJson? spec }

/-- Writes a relay template object. -/
def toJson (d : Dataplane) : Json :=
  manifestJson (relayGroup ++ "/v1") "Dataplane" d.metadata [("spec", some d.spec.toJson)]

end Dataplane

end RelayFleet
