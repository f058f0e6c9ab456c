/-
What can go wrong in the control plane, by cause. A fault says which resource it concerns where it
concerns one, whether another attempt may help, and how it reads in a log line.
-/
namespace RelayFleet

/-- What went wrong. -/
inductive Fault where
  /-- The API server refused a request, with a code of its own. -/
  | refused (code : Nat) (message reason : String)
  /-- The API server could not be reached, or what it said could not be read. -/
  | unreachable (message : String)
  | validation (resource message : String)
  | serialization (kind : Option String) (message : String)
  | conflict (resource message : String)
  | notFound (resource : String)
  | channelClosed (channel : String)
  | internal (context message : String)
deriving DecidableEq, Inhabited

namespace Fault

/-- The resource or context of a fault that names none. -/
def unknown : String := "unknown"

/-- The fault in words. -/
def text : Fault → String
  | refused _ message reason => "kubernetes error: ApiError: " ++ message ++ ": " ++ reason
  | unreachable message => "kubernetes error: " ++ message
  | validation resource message => "validation error for " ++ resource ++ ": " ++ message
  | serialization _ message => "serialization error: " ++ message
  | conflict resource message => "write conflict on " ++ resource ++ ": " ++ message
  | notFound resource => resource ++ " not found"
  | channelClosed channel => "channel closed: " ++ channel
  | internal context message => "internal error [" ++ context ++ "]: " ++ message

/-- The name of the cause, as it is counted and shown. -/
def label : Fault → String
  | refused .. => "Kube"
  | unreachable _ => "Kube"
  | validation .. => "Validation"
  | serialization .. => "Serialization"
  | conflict .. => "Conflict"
  | notFound _ => "NotFound"
  | channelClosed _ => "ChannelClosed"
  | internal .. => "Internal"

/-- What a refusal means for the resource it concerns: a stale write or a missing resource, or
nothing in particular. -/
def about (resource : String) : Fault → Fault
  | refused code message reason =>
    if code = 409 then .conflict resource message
    else if code = 404 then .notFound resource
    else .refused code message reason
  | f => f

/-- Whether another attempt may help. A request that the server refused as wrong stays wrong. -/
def isRetryable : Fault → Bool
  | refused code _ _ => ¬ (400 ≤ code ∧ code < 500)
  | unreachable _ => true
  | conflict _ _ => true
  | internal _ _ => true
  | validation _ _ => false
  | serialization _ _ => false
  | notFound _ => false
  | channelClosed _ => false

/-- Whether a write was based on a stale version. -/
def isConflict : Fault → Bool
  | conflict _ _ => true
  | _ => false

/-- Whether the resource is gone. -/
def isNotFound : Fault → Bool
  | notFound _ => true
  | refused code _ _ => code = 404
  | _ => false

/-- The resource that a fault concerns. -/
def resource? : Fault → Option String
  | validation resource _ => some resource
  | conflict resource _ => some resource
  | notFound resource => some resource
  | _ => none

end Fault

end RelayFleet
