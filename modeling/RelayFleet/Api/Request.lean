/-
Requests to the API server about one object, and programs that make them. Derived objects are
applied as a whole under the name of one manager, which takes over what others have set; the parts
of an object that others own are patched. Deleting an object leaves what depends on it to the
server.
-/
import RelayFleet.Api.Collection
import RelayFleet.Program
import RelayFleet.Text.Target

namespace RelayFleet

/-- The name that objects are managed under. -/
def fieldManager : String := "turngate-operator"

/-- What is asked for. -/
inductive ApiVerb where
  | get
  | delete
  /-- The object shall be as in a manifest. -/
  | apply (manifest : Json)
  /-- Some members of the object shall change, perhaps under the name of the manager. -/
  | merge (patch : Json) (managed : Bool)
deriving Inhabited

namespace ApiVerb

/-- The method of a request. -/
def method : ApiVerb → String
  | get => "GET"
  | delete => "DELETE"
  | apply _ => "PATCH"
  | merge .. => "PATCH"

/-- The body of a request and what it is. -/
def body? : ApiVerb → Option (String × Json)
  | get => none
  | delete => some ("application/json", .obj [("propagationPolicy", .str "Background")])
  | apply manifest => some ("application/apply-patch+yaml", manifest)
  | merge patch _ => some ("application/merge-patch+json", patch)

/-- The query of a request, in the order of its names. -/
def query : ApiVerb → List (String × String)
  | apply _ => [("fieldManager", fieldManager), ("force", "true")]
  | merge _ true => [("fieldManager", fieldManager)]
  | _ => []

end ApiVerb

/-- A request, with the parts of its query in their order. -/
structure ApiRequest where
  verb : ApiVerb
  path : String
  query : List String := []
deriving Inhabited

namespace ApiRequest

/-- The query of a request, with the mark in front of it. Reading leaves the mark out. -/
def queryText (verb : ApiVerb) : String :=
  let pairs := verb.query.map fun p => "&" ++ p.1 ++ "=" ++ p.2
  match verb with
  | .get => ""
  | _ => "?" ++ String.join pairs

/-- The request about an object, or about a part of it; there is none about an object without a
name or with one that does not fit into a target. -/
def of? (verb : ApiVerb) (c : ApiCollection) (key : ObjectKey) (part : String := "") :
    Option ApiRequest := do
  guard (key.name ≠ "")
  let target ← Target.ofText? (c.objectPath key ++ part ++ queryText verb)
  let parts := (target.query.splitOn "&").filter (· ≠ "")
  return { verb, path := target.path, query := parts.mergeSort (· ≤ ·) }

/-- The body of a request, or null for none. -/
def body (r : ApiRequest) : Json := .orNull (·.2) r.verb.body?

/-- Writes a request. -/
def toJson (r : ApiRequest) : Json :=
  .obj [("method", .str r.verb.method), ("path", .str r.path),
    ("query", .list .str r.query),
    ("contentType", .ofText? (r.verb.body?.map (·.1))), ("body", r.body)]

end ApiRequest

/-- What comes back for a request. -/
inductive ApiReply where
  /-- Nothing: the connection failed. -/
  | lost
  | answered (status : Nat) (text : String)
deriving DecidableEq, Inhabited

/-- A program that makes requests. -/
abbrev ApiProgram := Program ApiRequest fun _ => ApiReply

end RelayFleet
