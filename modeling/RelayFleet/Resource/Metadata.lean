/-
The metadata that every object carries.
-/
import RelayFleet.Resource.Key
import RelayFleet.Resource.Condition
import RelayFleet.Schema.Metadata
import RelayFleet.Json.Equality
import RelayFleet.SortedMap

namespace RelayFleet

/-- Names with texts: labels or annotations. -/
abbrev Labels := SortedMap String String

namespace Labels

/-- Reads labels; of two labels of one name the later one holds. -/
def ofJson? (j : Json) : Option Labels := (j.pairs? Json.text?).map SortedMap.ofList

/-- Writes labels. -/
def toJson (l : Labels) : Json := .obj (l.toList.map fun b => (b.1, .str b.2))

end Labels

/-- A reference from an object to one that owns it. -/
structure OwnerReference where
  apiVersion : String := ""
  kind : String := ""
  name : String := ""
  uid : String := ""
  controller : Option Bool := none
  blockOwnerDeletion : Option Bool := none
deriving DecidableEq, Inhabited

namespace OwnerReference

/-- Reads a reference to an owner. -/
def ofJson? (j : Json) : Option OwnerReference := do
  let [apiVersion, kind, name, uid, controller, block] ← j.lenient?
    ["apiVersion", "kind", "name", "uid", "controller", "blockOwnerDeletion"] | none
  return {
    apiVersion := ← Json.defaulted Json.text? "" apiVersion
    kind := ← Json.defaulted Json.text? "" kind
    name := ← Json.defaulted Json.text? "" name
    uid := ← Json.defaulted Json.text? "" uid
    controller := ← Json.optional Json.flag? controller
    blockOwnerDeletion := ← Json.optional Json.flag? block }

/-- Writes a reference to an owner. -/
def toJson (r : OwnerReference) : Json :=
  .present [
    ("apiVersion", some (.str r.apiVersion)),
    ("blockOwnerDeletion", r.blockOwnerDeletion.map .bool),
    ("controller", r.controller.map .bool),
    ("kind", some (.str r.kind)),
    ("name", some (.str r.name)),
    ("uid", some (.str r.uid))]

end OwnerReference

/-- The metadata of an object. -/
structure Metadata where
  name : Option String := none
  generateName : Option String := none
  inNamespace : Option String := none
  uid : Option String := none
  generation : Option Int64 := none
  resourceVersion : Option String := none
  labels : Option Labels := none
  annotations : Option Labels := none
  finalizers : Option (List String) := none
  ownerReferences : Option (List OwnerReference) := none
  creationTimestamp : Option Timestamp := none
  deletionTimestamp : Option Timestamp := none
  deletionGracePeriodSeconds : Option Int64 := none
  selfLink : Option String := none
  /-- Members that nothing looks at, as they are held. -/
  others : List (String × Json) := []
deriving DecidableEq, Inhabited

namespace Metadata

/-- The name of an object: its own, else the one its name is to be generated from. -/
def anyName (m : Metadata) : String := (m.name.orElse fun _ => m.generateName).getD ""

/-- The key of an object. -/
def key (m : Metadata) : ObjectKey := ⟨m.inNamespace, m.anyName⟩

/-- The text of a label. -/
def label? (m : Metadata) (name : String) : Option String := m.labels.bind (·.get? name)

/-- The finalizers of an object. -/
def finalizerList (m : Metadata) : List String := m.finalizers.getD []

/-- Whether the object carries a finalizer. -/
def hasFinalizer (m : Metadata) (finalizer : String) : Bool := m.finalizerList.contains finalizer

/-- Whether the deletion of the object was requested. -/
def isDeleting (m : Metadata) : Bool := m.deletionTimestamp.isSome

/-- Metadata as it is compared. -/
def comparable (m : Metadata) : Metadata := { m with others := Json.comparableMembers m.others }

/-! ## JSON -/

/-- How deep the metadata of an object may be nested: the object is one level around it. -/
def maxDepth : Nat := Json.maxDepth - 1

/-- Reads metadata. -/
def ofJson? (j : Json) : Option Metadata := do
  guard (Shape.metadata.admitsWithin .direct maxDepth j)
  let names := ["name", "generateName", "namespace", "uid", "generation", "resourceVersion",
    "labels", "annotations", "finalizers", "ownerReferences", "creationTimestamp",
    "deletionTimestamp", "deletionGracePeriodSeconds", "selfLink"]
  let [name, generateName, ns, uid, generation, version, labels, annotations, finalizers, owners,
    created, deleted, grace, link] ← j.lenient? names | none
  return {
    name := ← Json.optional Json.text? name
    generateName := ← Json.optional Json.text? generateName
    inNamespace := ← Json.optional Json.text? ns
    uid := ← Json.optional Json.text? uid
    generation := ← Json.optional Json.int64? generation
    resourceVersion := ← Json.optional Json.text? version
    labels := ← Json.optional Labels.ofJson? labels
    annotations := ← Json.optional Labels.ofJson? annotations
    finalizers := ← Json.optional (Json.list? Json.text?) finalizers
    ownerReferences := ← Json.optional (Json.list? OwnerReference.ofJson?) owners
    creationTimestamp := ← Json.optional Condition.timeOfJson? created
    deletionTimestamp := ← Json.optional Condition.timeOfJson? deleted
    deletionGracePeriodSeconds := ← Json.optional Json.int64? grace
    selfLink := ← Json.optional Json.text? link
    others := Shape.metadata.others names j }

/-- Writes metadata. -/
def toJson (m : Metadata) : Json :=
  (Json.present [
    ("annotations", m.annotations.map Labels.toJson),
    ("creationTimestamp", m.creationTimestamp.map (.str ·.toSecondsText)),
    ("deletionGracePeriodSeconds", m.deletionGracePeriodSeconds.map (.int ·.toInt)),
    ("deletionTimestamp", m.deletionTimestamp.map (.str ·.toSecondsText)),
    ("finalizers", m.finalizers.map fun l => .arr (l.map .str)),
    ("generateName", m.generateName.map .str),
    ("generation", m.generation.map (.int ·.toInt)),
    ("labels", m.labels.map Labels.toJson),
    ("name", m.name.map .str),
    ("namespace", m.inNamespace.map .str),
    ("ownerReferences", m.ownerReferences.map fun l => .arr (l.map (·.toJson))),
    ("resourceVersion", m.resourceVersion.map .str),
    ("selfLink", m.selfLink.map .str),
    ("uid", m.uid.map .str)]).extended (Shape.metadata.written m.others)

end Metadata

end RelayFleet
