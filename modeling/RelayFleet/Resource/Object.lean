/-
Objects of any kind: their kind, key and version, when two versions count as the same, and what an
object has to carry before it is stored.
-/
import RelayFleet.Resource.Gateway
import RelayFleet.Resource.Route
import RelayFleet.Resource.Dataplane
import RelayFleet.Resource.Core

namespace RelayFleet

/-- An object of one of the watched kinds. -/
inductive Object where
  | gatewayClass (object : GatewayClass)
  | gatewayConfig (object : GatewayConfig)
  | gateway (object : Gateway)
  | udpRoute (object : UdpRoute)
  | service (object : Service)
  | endpointSlice (object : EndpointSlice)
  | secret (object : Secret)
  | node (object : Node)
  | dataplane (object : Dataplane)
deriving DecidableEq, Inhabited

namespace Object

/-- The kind of an object. -/
def kind : Object → ObjectKind
  | gatewayClass _ => .gatewayClass
  | gatewayConfig _ => .gatewayConfig
  | gateway _ => .gateway
  | udpRoute _ => .udpRoute
  | service _ => .service
  | endpointSlice _ => .endpointSlice
  | secret _ => .secret
  | node _ => .node
  | dataplane _ => .dataplane

/-- The metadata of an object. -/
def metadata : Object → Metadata
  | gatewayClass o => o.metadata
  | gatewayConfig o => o.metadata
  | gateway o => o.metadata
  | udpRoute o => o.metadata
  | service o => o.metadata
  | endpointSlice o => o.metadata
  | secret o => o.metadata
  | node o => o.metadata
  | dataplane o => o.metadata

/-- The key of an object within its kind. -/
def key (o : Object) : ObjectKey := o.metadata.key

/-- The identity of an object. -/
def resource (o : Object) : ResourceKey := ⟨o.kind, o.key⟩

/-- The version of an object. -/
def resourceVersion (o : Object) : Option String := o.metadata.resourceVersion

/-- What keeps an object out of the store. -/
inductive Flaw where
  | nameMissing
  | namespaceMissing
deriving DecidableEq

/-- The text of a flaw. -/
def Flaw.text : Flaw → String
  | nameMissing => "metadata.name is required"
  | namespaceMissing => "metadata.namespace is required"

/-- The first flaw of an object, if it has one. -/
def flaw? (o : Object) : Option Flaw :=
  if o.key.name = "" then some .nameMissing
  else if o.kind.isNamespaced ∧ o.key.namespaceText = "" then some .namespaceMissing
  else none

/-- The object with other metadata. -/
def mapMetadata (f : Metadata → Metadata) : Object → Object
  | gatewayClass o => gatewayClass { o with metadata := f o.metadata }
  | gatewayConfig o => gatewayConfig { o with metadata := f o.metadata }
  | gateway o => gateway { o with metadata := f o.metadata }
  | udpRoute o => udpRoute { o with metadata := f o.metadata }
  | service o => service { o with metadata := f o.metadata }
  | endpointSlice o => endpointSlice { o with metadata := f o.metadata }
  | secret o => secret { o with metadata := f o.metadata }
  | node o => node { o with metadata := f o.metadata }
  | dataplane o => dataplane { o with metadata := f o.metadata }

/-- Whether two objects hold the same. -/
def sameContent (a b : Object) : Bool :=
  a.mapMetadata Metadata.comparable = b.mapMetadata Metadata.comparable

/-- Whether an incoming object is the stored one of its key over again: by version where both have
one, and by content otherwise. -/
def sameVersion (stored incoming : Object) : Bool :=
  match stored.resourceVersion, incoming.resourceVersion with
  | some a, some b => a = b
  | _, _ => stored.sameContent incoming

/-! ## Objects of one kind -/

/-- The class that an object is. -/
def class? : Object → Option GatewayClass
  | gatewayClass o => some o
  | _ => none

/-- The settings object that an object is. -/
def config? : Object → Option GatewayConfig
  | gatewayConfig o => some o
  | _ => none

/-- The gateway that an object is. -/
def gateway? : Object → Option Gateway
  | gateway o => some o
  | _ => none

/-- The route that an object is. -/
def route? : Object → Option UdpRoute
  | udpRoute o => some o
  | _ => none

/-- The service that an object is. -/
def service? : Object → Option Service
  | service o => some o
  | _ => none

/-- The endpoint slice that an object is. -/
def slice? : Object → Option EndpointSlice
  | endpointSlice o => some o
  | _ => none

/-- The secret that an object is. -/
def secret? : Object → Option Secret
  | secret o => some o
  | _ => none

/-- The node that an object is. -/
def node? : Object → Option Node
  | node o => some o
  | _ => none

/-- The relay template that an object is. -/
def dataplane? : Object → Option Dataplane
  | dataplane o => some o
  | _ => none

/-! ## JSON -/

/-- Reads an object of a kind. -/
def ofJson? (how : Json.Reading) (kind : ObjectKind) (j : Json) : Option Object :=
  match kind with
  | .gatewayClass => (GatewayClass.ofJson? how j).map gatewayClass
  | .gatewayConfig => (GatewayConfig.ofJson? j).map gatewayConfig
  | .gateway => (Gateway.ofJson? how j).map gateway
  | .udpRoute => (UdpRoute.ofJson? how j).map udpRoute
  | .service => (Service.ofJson? j).map service
  | .endpointSlice => (EndpointSlice.ofJson? j).map endpointSlice
  | .secret => (Secret.ofJson? how j).map secret
  | .node => (Node.ofJson? j).map node
  | .dataplane => (Dataplane.ofJson? j).map dataplane

/-- Reads an object that comes with its kind. -/
def ofKinded? (j : Json) : Option Object := do
  let kind ← (j.get? "kind").bind ObjectKind.ofJson?
  (j.get? "object").bind (ofJson? .direct kind)

/-- Writes an object. -/
def toJson : Object → Json
  | gatewayClass o => o.toJson
  | gatewayConfig o => o.toJson
  | gateway o => o.toJson
  | udpRoute o => o.toJson
  | service o => o.toJson
  | endpointSlice o => o.toJson
  | secret o => o.toJson
  | node o => o.toJson
  | dataplane o => o.toJson

end Object

end RelayFleet
