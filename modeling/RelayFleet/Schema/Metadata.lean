/-
The shapes of what objects of all kinds have in common: their metadata, and how they select others.
-/
import RelayFleet.Schema.Shape

namespace RelayFleet.Shape

/-- A reference to an owner. -/
def ownerReference : Shape :=
  .record (each .text ["apiVersion", "kind", "name", "uid"] ++
    each .flag ["blockOwnerDeletion", "controller"])

/-- What one manager has set. -/
def managedFields : Shape :=
  .record (each .text ["apiVersion", "fieldsType", "manager", "operation", "subresource"] ++
    [("fieldsV1", .anything), ("time", .moment)])

/-- Metadata. -/
def metadata : Shape :=
  .record (
    each .text ["generateName", "name", "namespace", "resourceVersion", "selfLink", "uid"] ++
    each .int64 ["deletionGracePeriodSeconds", "generation"] ++
    each .moment ["creationTimestamp", "deletionTimestamp"] ++
    each textTable ["annotations", "labels"] ++
    [("finalizers", texts), ("managedFields", .list managedFields),
      ("ownerReferences", .list ownerReference)])

/-- A requirement: a key, an operator and values. -/
def requirement : Shape :=
  .record [("key", .text), ("operator", .text), ("values", texts)]

/-- A selector of labels. -/
def labelSelector : Shape :=
  .record [("matchExpressions", .list requirement), ("matchLabels", textTable)]

/-- The name of an object of the same namespace. -/
def localReference : Shape := textsNamed ["name"]

/-- A name with a value. -/
def nameValue : Shape := textsNamed ["name", "value"]

/-- A condition that was last reported. -/
def reportedCondition (times : List String) : Shape :=
  .record (each .text ["message", "reason"] ++ each (.always .text) ["status", "type"] ++
    each .moment times)

/-- What is needed and allowed of resources. -/
def requirements : Shape :=
  .record [("claims", .list (textsNamed ["name", "request"])), ("limits", textTable),
    ("requests", textTable)]

/-- An object at the top, with the version and the kind that it has to be of. -/
def manifest (apiVersion kind : String) (members : List (String × Shape)) : Shape :=
  .record ([("apiVersion", .exactly apiVersion), ("kind", .exactly kind), ("metadata", metadata)] ++
    members)

end RelayFleet.Shape
