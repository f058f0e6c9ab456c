/-
How the API server says that it refuses a request.
-/
import RelayFleet.Fault
import RelayFleet.Json.Record

namespace RelayFleet

/-- A refusal. -/
structure ApiRefusal where
  status : String
  message : String
  reason : String
  code : UInt16
deriving DecidableEq, Inhabited

namespace ApiRefusal

/-- Reads a refusal. -/
def ofJson? (j : Json) : Option ApiRefusal := do
  let [status, message, reason, code] ← j.strict? ["status", "message", "reason", "code"] | none
  return {
    status := ← Json.needed Json.text? status
    message := ← Json.defaulted Json.text? "" message
    reason := ← Json.defaulted Json.text? "" reason
    code := ← Json.needed Json.word16? code }

/-- The fault that a refusal is. -/
def fault (r : ApiRefusal) : Fault := .refused r.code.toNat r.message r.reason

end ApiRefusal

end RelayFleet
