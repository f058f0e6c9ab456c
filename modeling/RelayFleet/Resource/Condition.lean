/-
Conditions: what a status says about one aspect of a resource. A rendered condition has no
transition time. `stamp` gives it one when the status is written: the time of the condition that is
there already, if that one says the same, and the present otherwise.
-/
import RelayFleet.Json.Record
import RelayFleet.Time.Timestamp

namespace RelayFleet

/-- What a condition says. -/
inductive ConditionStatus where
  | true
  | false
  | unknown
deriving DecidableEq, Inhabited

namespace ConditionStatus

/-- The name of a status. -/
def text : ConditionStatus → String
  | true => "True"
  | false => "False"
  | unknown => "Unknown"

/-- The status of a name. -/
def ofText? (s : String) : Option ConditionStatus :=
  if s = "True" then some .true
  else if s = "False" then some .false
  else if s = "Unknown" then some .unknown
  else none

end ConditionStatus

/-- What a status says about one aspect of a resource. -/
structure Condition where
  type : String
  status : ConditionStatus
  reason : String
  message : String := ""
  observedGeneration : Option Int64 := none
  lastTransitionTime : Option Timestamp := none
deriving DecidableEq, Inhabited

namespace Condition

/-- Whether the condition holds. -/
def isTrue (c : Condition) : Bool := c.status = .true

/-- The first condition of a type. -/
def find? (cs : List Condition) (type : String) : Option Condition := cs.find? (·.type == type)

/-- The transition time that a condition keeps from earlier ones: that of the first one of its type,
if it has the same status. -/
def carriedTime? (previous : List Condition) (c : Condition) : Option Timestamp :=
  ((find? previous c.type).filter (·.status = c.status)).bind (·.lastTransitionTime)

/-- Gives every condition its transition time. -/
def stamp (previous : List Condition) (now : Timestamp) (cs : List Condition) : List Condition :=
  cs.map fun c => { c with lastTransitionTime := some ((carriedTime? previous c).getD now) }

/-! ## JSON -/

/-- Reads a moment. -/
def timeOfJson? (j : Json) : Option Timestamp := j.text?.bind Timestamp.parse?

/-- Reads a condition. -/
def ofJson? (how : Json.Reading) (j : Json) : Option Condition := do
  let [type, status, reason, message, generation, time] ← j.strict?
    ["type", "status", "reason", "message", "observedGeneration", "lastTransitionTime"] | none
  return {
    type := ← Json.needed Json.text? type
    status := ← Json.needed (Json.choice? how ConditionStatus.ofText?) status
    reason := ← Json.needed Json.text? reason
    message := ← Json.defaulted Json.text? "" message
    observedGeneration := ← Json.optional Json.int64? generation
    lastTransitionTime := ← Json.optional timeOfJson? time }

/-- Writes a condition. -/
def toJson (c : Condition) : Json :=
  .present [
    ("type", some (.str c.type)),
    ("status", some (.str c.status.text)),
    ("reason", some (.str c.reason)),
    ("message", some (.str c.message)),
    ("observedGeneration", c.observedGeneration.map (.int ·.toInt)),
    ("lastTransitionTime", c.lastTransitionTime.map (.str ·.toText))]

/-- Reads a list of conditions. -/
def listOfJson? (how : Json.Reading) : Json → Option (List Condition) := Json.list? (ofJson? how)

/-- Writes a list of conditions. -/
def listToJson (cs : List Condition) : Json := .arr (cs.map toJson)

end Condition

/-! ## Vocabulary -/

namespace ConditionType

/-- The resource was taken on by the controller. -/
def accepted : String := "Accepted"

/-- The configuration of a gateway has reached its relays. -/
def programmed : String := "Programmed"

/-- All references of the resource lead somewhere. -/
def resolvedRefs : String := "ResolvedRefs"

/-- A listener is at odds with another one. -/
def conflicted : String := "Conflicted"

end ConditionType

namespace Reason

def accepted : String := "Accepted"
def programmed : String := "Programmed"
def resolvedRefs : String := "ResolvedRefs"
def noConflicts : String := "NoConflicts"
def pending : String := "Pending"
def invalid : String := "Invalid"
def invalidGatewayClass : String := "InvalidGatewayClass"
def invalidParameters : String := "InvalidParameters"
def unsupportedProtocol : String := "UnsupportedProtocol"
def portUnavailable : String := "PortUnavailable"
def protocolConflict : String := "ProtocolConflict"
def listenerNameConflict : String := "ListenerNameConflict"
def invalidCertificateRef : String := "InvalidCertificateRef"
def invalidRouteKinds : String := "InvalidRouteKinds"
def addressNotAssigned : String := "AddressNotAssigned"
def noMatchingParent : String := "NoMatchingParent"
def notAllowedByListeners : String := "NotAllowedByListeners"
def backendNotFound : String := "BackendNotFound"
def invalidKind : String := "InvalidKind"
def unsupportedValue : String := "UnsupportedValue"

end Reason

end RelayFleet
