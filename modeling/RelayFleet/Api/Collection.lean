/-
The collections of the API server: those of the watched kinds, and those that only derived objects
are in. A collection says under which path its objects are found, and which values are objects of
it.
-/
import RelayFleet.Resource.Definition
import RelayFleet.Resource.Object

namespace RelayFleet

/-- A collection of objects. -/
inductive ApiCollection where
  | ofKind (kind : ObjectKind)
  | deployments
  | configMaps
deriving DecidableEq, Inhabited

namespace ApiCollection

/-! ## Paths -/

/-- The group of a collection, if it is in one, its version and its plural name. -/
def address : ApiCollection → Option String × String × String
  | ofKind kind =>
    match ResourceDefinition.ofKind? kind, kind with
    | some d, _ => (some d.group, d.version, d.plural)
    | none, .endpointSlice => (some "discovery.k8s.io", "v1", "endpointslices")
    | none, kind => (none, "v1", Ascii.lower kind.text ++ "s")
  | deployments => (some "apps", "v1", "deployments")
  | configMaps => (none, "v1", "configmaps")

/-- The plural name of a collection. -/
def plural (c : ApiCollection) : String := c.address.2.2

/-- Whether the objects of a collection are in namespaces. -/
def isNamespaced : ApiCollection → Bool
  | ofKind kind => kind.isNamespaced
  | deployments => true
  | configMaps => true

/-- The path of a collection, in one namespace or in all. -/
def path (c : ApiCollection) (ns : Option String) : String :=
  let (group, version, plural) := c.address
  let root := match group with
    | some group => "/apis/" ++ group
    | none => "/api"
  let scope := match ns with
    | some ns => "namespaces/" ++ ns ++ "/"
    | none => ""
  root ++ "/" ++ version ++ "/" ++ scope ++ plural

/-- The path of an object. A key without a namespace stands for the empty one where objects are in
namespaces. -/
def objectPath (c : ApiCollection) (key : ObjectKey) : String :=
  c.path (if c.isNamespaced then some key.namespaceText else none) ++ "/" ++ key.name

/-! ## Objects -/

/-- Whether a value is an object of a collection. -/
def holds : ApiCollection → Json → Bool
  | ofKind kind, j => (Object.ofJson? .direct kind j).isSome
  | deployments, j => Shape.deployment.admits .direct j
  | configMaps, j => Shape.configMap.admits .direct j

end ApiCollection

end RelayFleet
