/-
A rehearsal of requests to the API server: replies are given out in the order they were written
down, and every request is recorded. With no reply left the connection fails.
-/
import RelayFleet.Api.Status

namespace RelayFleet

/-- A reply that was written down. -/
inductive ScriptedReply where
  | reply (r : ApiReply)
  /-- The body of the request comes back. -/
  | echo
deriving DecidableEq, Inhabited

namespace ScriptedReply

/-- Reads a reply. -/
def ofJson? (j : Json) : Option ScriptedReply := do
  let [fail, echoed, status, text] ← j.lenient? ["fail", "echo", "status", "text"] | none
  if ← Json.defaulted Json.flag? false fail then return reply .lost
  if ← Json.defaulted Json.flag? false echoed then return echo
  let status ← Json.defaulted Json.word16? 200 status
  let body := ((j.get? "body").getD .null).byName.render
  return reply (.answered status.toNat (← Json.defaulted Json.text? body text))

/-- The reply to a request. -/
def give (request : ApiRequest) : ScriptedReply → ApiReply
  | reply r => r
  | echo => .answered 200 request.body.render

end ScriptedReply

/-- What a program finds in a rehearsal. -/
structure ApiScript where
  replies : List ScriptedReply := []
  requests : List ApiRequest := []

namespace ApiScript

/-- Answers a request. -/
def answer : Program.Handler ApiRequest (fun _ => ApiReply) ApiScript
  | request, s =>
    let requests := s.requests ++ [request]
    match s.replies with
    | [] => (.lost, { s with requests })
    | r :: rest => (r.give request, { replies := rest, requests })

/-- Runs a program against replies, and tells what came out and what was asked for. -/
def rehearse {α : Type} (program : ApiProgram α) (replies : List ScriptedReply) :
    α × List ApiRequest :=
  let (a, s) := program.run answer { replies }
  (a, s.requests)

end ApiScript

end RelayFleet
