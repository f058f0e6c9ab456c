/-
What the API server says. A refusal says in its body what is wrong, with a code of its own; if the
body does not, it is shown as it is, with the code of the reply. Every other reply has to hold what
was asked for.
-/
import RelayFleet.Api.Refusal
import RelayFleet.Api.Request
import RelayFleet.Json.Text
import RelayFleet.Text.Quoted

namespace RelayFleet

/-! ## Deletions -/

/-- What a deletion is answered with instead of the object: whether it worked, and the details. -/
structure DeletionReport where
  status : Option Bool
  code : UInt16
  message : String
  reason : String
deriving DecidableEq, Inhabited

namespace DeletionReport

/-- Reads whether a deletion worked. -/
def outcome? (j : Json) : Option Bool :=
  j.choice? .direct fun name =>
    if name = "Success" then some true else if name = "Failure" then some false else none

/-- Whether a value is a cause. -/
def isCause (j : Json) : Bool :=
  ((j.strict? ["reason", "message", "field"]).bind
    (·.mapM (Json.defaulted Json.text? ""))).isSome

/-- Whether a value says more about what was deleted. -/
def isDetails (j : Json) : Bool := Option.isSome <| do
  let [name, group, kind, uid, causes, retry] ←
    j.strict? ["name", "group", "kind", "uid", "causes", "retryAfterSeconds"] | none
  let _ ← [name, group, kind, uid].mapM (Json.defaulted Json.text? "")
  let causes ← Json.defaulted (Json.list? some) [] causes
  let _ ← Json.defaulted Json.word32? 0 retry
  guard (causes.all isCause)

/-- Reads a report. -/
def ofJson? (j : Json) : Option DeletionReport := do
  let [status, code, message, reason, details] ←
    j.strict? ["status", "code", "message", "reason", "details"] | none
  let _ ← Json.optional (fun d => if isDetails d then some d else none) details
  return {
    status := ← Json.optional outcome? status
    code := ← Json.defaulted Json.word16? 0 code
    message := ← Json.defaulted Json.text? "" message
    reason := ← Json.defaulted Json.text? "" reason }

end DeletionReport

/-! ## Replies -/

namespace ApiReply

/-- Reads a reply. -/
def read {α : Type} (value? : Json → Option α) : ApiReply → Except Fault α
  | lost => .error (.unreachable "the connection failed")
  | answered status text =>
    let value := Json.parse? text
    if 400 ≤ status ∧ status < 600 then
      .error <| match value.bind ApiRefusal.ofJson? with
        | some refusal => refusal.fault
        | none => .refused status (Quoted.quote text) "Failed to parse error data"
    else
      match value.bind value? with
      | some a => .ok a
      | none => .error (.unreachable "the reply does not hold what was asked for")

/-- Reads the reply to a deletion: a report of it, or the object as it was. The reply as a whole has
to be a value that can be kept. -/
def readDeletion (c : ApiCollection) : ApiReply → Except Fault Unit :=
  read fun j =>
    if ¬ j.isKept Json.maxDepth then none
    else if (j.get? "kind").bind Json.text? = some "Status" then
      (DeletionReport.ofJson? j).map fun _ => ()
    else if c.holds j then some () else none

end ApiReply

end RelayFleet
