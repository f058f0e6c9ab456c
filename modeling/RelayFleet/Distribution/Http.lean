/-
The requests that the distribution service answers, and what it answers. Every endpoint but the
health check asks for the token of the service, if it has one: in the query, or else as a bearer
token. A request that is not well formed is refused before the token is looked at.
-/
import RelayFleet.Distribution.Basic
import RelayFleet.Text.Target

namespace RelayFleet

/-! ## Requests -/

/-- A request. -/
structure HttpRequest where
  method : String
  path : String
  query : String := ""
  /-- The headers, with their names in lower case. -/
  headers : List (String × String) := []
deriving DecidableEq, Inhabited

namespace HttpRequest

/-- Whether a character may stand in a method or in the name of a header. -/
def isToken (c : Char) : Bool :=
  c.isAlphanum || "!#$%&'*+-.^_\x60|~".toList.contains c

/-- The number of bytes in the longest name of a header. -/
def maxName : Nat := 65535

/-- Whether a text is made of such characters, as a method is. -/
def isWord (s : String) : Bool := s ≠ "" && s.toList.all isToken

/-- Whether a text is the name of a header. -/
def isName (s : String) : Bool := isWord s && s.utf8ByteSize ≤ maxName

/-- Whether a text is the value of a header. -/
def isValue (s : String) : Bool := s.toList.all fun c => (' ' ≤ c || c = '\t') && c ≠ '\x7f'

/-- Whether the value of a header is plain text. -/
def isPlain (s : String) : Bool := s.toList.all fun c => (' ' ≤ c ∧ c ≤ '~') ∨ c = '\t'

/-- The request of a method, a target and headers, if they make one. -/
def of? (method uri : String) (headers : List (String × String)) : Option HttpRequest := do
  let target ← Target.ofText? uri
  guard (isWord method ∧ headers.all fun h => isName h.1 ∧ isValue h.2)
  return { method, path := target.path, query := target.query,
           headers := headers.map fun h => (Ascii.lower h.1, h.2) }

/-- The first header of a name. -/
def header? (r : HttpRequest) (name : String) : Option String :=
  (r.headers.find? (·.1 == name)).map (·.2)

end HttpRequest

/-! ## Endpoints -/

/-- What a path leads to. The namespace and the name of a key are as they stand in the path. -/
inductive HttpEndpoint where
  | health
  | list
  | config (ns name : String)
  | watch (ns name : String)
deriving DecidableEq, Inhabited

namespace HttpEndpoint

/-- The endpoint of a path. A path does not end with an empty part, but the others may be empty. -/
def ofPath? (path : String) : Option HttpEndpoint :=
  match path.splitOn "/" with
  | ["", "healthz"] => some health
  | ["", "api", "v1", "configs"] => some list
  | ["", "api", "v1", "configs", ns, name] => if name ≠ "" then some (config ns name) else none
  | ["", "api", "v1", "configs", ns, name, "watch"] => some (watch ns name)
  | _ => none

/-- The key that a namespace and a name in a path stand for. -/
def key? (ns name : String) : Option ObjectKey := do
  return .namespaced (← Percent.decodePath? ns) (← Percent.decodePath? name)

end HttpEndpoint

/-- What a query asks for. -/
structure ConfigQuery where
  policy : DeliveryPolicy := .latest
  token : Option String := none
deriving DecidableEq, Inhabited

namespace ConfigQuery

/-- The value of a name that occurs at most once. -/
def single? (pairs : List (String × String)) (name : String) : Option (Option String) :=
  match pairs.filter (·.1 == name) with
  | [] => some none
  | [p] => some (some p.2)
  | _ => none

/-- What a query asks for, if it is well formed. -/
def ofText? (query : String) : Option ConfigQuery := do
  let pairs := Percent.pairs query
  let token ← single? pairs "token"
  match ← single? pairs "policy" with
  | none => return { token }
  | some policy => return { token, policy := ← DeliveryPolicy.ofText? policy }

end ConfigQuery

/-! ## Replies -/

/-- The body of a reply. -/
inductive HttpBody where
  | none
  | text (s : String)
  | json (j : Json)

/-- A reply, or the switch to a connection over which a key is watched. -/
inductive HttpReply where
  | plain (status : Nat) (body : HttpBody := .none)
  | upgrade (key : ObjectKey) (policy : DeliveryPolicy)

namespace HttpReply

/-- A reply that says in words what is wrong. -/
def refusal (status : Nat) (message : String) : HttpReply :=
  .plain status (.json (.obj [("error", .str message)]))

/-- The reply to a request that is not well formed. -/
def malformed : HttpReply := .plain 400

end HttpReply

/-! ## The service -/

/-- The distribution service: who may use it, and what it distributes. -/
structure DistributionService where
  distributor : Distributor
  token : Option String := none

namespace DistributionService

/-- The token that a request has to present; an empty one is none. -/
def required? (s : DistributionService) : Option String := s.token.filter (· ≠ "")

/-- The bearer token of a request, or what is wrong with it. -/
def bearer (r : HttpRequest) : Except String String :=
  match r.header? "authorization" with
  | none => .error "missing authorization"
  | some value =>
    if HttpRequest.isPlain value ∧ "Bearer ".toList.isPrefixOf value.toList then
      .ok (String.ofList (value.toList.drop 7))
    else .error "invalid token"

/-- Lets a request pass, or says why not. -/
def authorize (s : DistributionService) (r : HttpRequest) (q : ConfigQuery) : Except String Unit :=
  match s.required? with
  | none => .ok ()
  | some required =>
    match q.token.elim (bearer r) .ok with
    | .error message => .error message
    | .ok presented => if presented = required then .ok () else .error "invalid token"

/-- Answers a request that passes. -/
def authorized (s : DistributionService) (r : HttpRequest) (q : ConfigQuery) (reply : HttpReply) :
    HttpReply :=
  match s.authorize r q with
  | .ok () => reply
  | .error message => .refusal 401 message

/-- What keeps a request from becoming a connection, as the status of its reply. -/
def upgradeFlaw? (r : HttpRequest) (upgradable : Bool) : Option Nat :=
  let has (name value : String) : Bool := (r.header? name).any (Ascii.lower · = value)
  let asksFor (option : String) : Bool := (r.header? "connection").any fun v =>
    2 ≤ ((Ascii.lower v).splitOn option).length
  if r.method ≠ "GET" then some 405
  else if ¬ asksFor "upgrade" then some 400
  else if ¬ has "upgrade" "websocket" then some 400
  else if (r.header? "sec-websocket-key").isNone then some 400
  else if ¬ has "sec-websocket-version" "13" then some 400
  else if ¬ upgradable then some 426
  else none

/-- The newest version of a key, or the reply that there is none. -/
def document (s : DistributionService) (key : ObjectKey) : HttpReply :=
  match s.distributor.latest? key with
  | some u => .plain 200 (.json u.toJson)
  | none => .refusal 404 ("config " ++ key.text ++ " not found")

/-- The reply that lists the keys. -/
def listing (s : DistributionService) : HttpReply :=
  .plain 200 (.json (.obj [("configs", .list (.str ·.text) s.distributor.keys)]))

/-- Answers a request at an endpoint. `upgradable` says whether its connection can be taken over. -/
def answerAt (s : DistributionService) (upgradable : Bool) (r : HttpRequest) :
    HttpEndpoint → HttpReply
  | .health => .plain 200 (.text "ok")
  | .list =>
    match ConfigQuery.ofText? r.query with
    | some q => s.authorized r q s.listing
    | none => .malformed
  | .config ns name =>
    match HttpEndpoint.key? ns name, ConfigQuery.ofText? r.query with
    | some key, some q => s.authorized r q (s.document key)
    | _, _ => .malformed
  | .watch ns name =>
    match upgradeFlaw? r upgradable with
    | some status => .plain status
    | none =>
      match HttpEndpoint.key? ns name, ConfigQuery.ofText? r.query with
      | some key, some q => s.authorized r q (.upgrade key q.policy)
      | _, _ => .malformed

/-- Answers a request. -/
def answer (s : DistributionService) (upgradable : Bool) (r : HttpRequest) : HttpReply :=
  match HttpEndpoint.ofPath? r.path with
  | none => .plain 404
  | some endpoint =>
    if r.method = "GET" then s.answerAt upgradable r endpoint
    else if r.method = "HEAD" then
      match s.answerAt upgradable r endpoint with
      | .plain status _ => .plain status
      | reply => reply
    else .plain 405

end DistributionService

end RelayFleet
