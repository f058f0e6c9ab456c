/-
A snapshot: the last known version of every object, two reverse indices over them, and a generation
that counts the changes. An event is taken in whole or not at all, and it counts as a change only if
it left something different.
-/
import RelayFleet.Resource.Object
import RelayFleet.Store.Index
import RelayFleet.Fault

namespace RelayFleet

/-- What a watch tells the store. -/
inductive StoreEvent where
  /-- An object was added or modified. -/
  | upsert (object : Object)
  /-- An object was deleted. -/
  | delete (resource : ResourceKey)
  /-- The objects of one kind were listed anew; no other one of the kind exists. -/
  | replace (kind : ObjectKind) (objects : List Object)

/-- The sign that something changed: the generation it led to, and the object concerned, the first
one of several. -/
structure StoreChange where
  generation : Nat
  resource : ResourceKey
deriving DecidableEq, Inhabited

/-- The last known version of every object. -/
structure Snapshot where
  generation : Nat := 0
  objects : SortedMap ResourceKey Object := ∅
  /-- The routes that refer to a gateway. -/
  routesByGateway : Index := ∅
  /-- The endpoint slices of a service. -/
  slicesByService : Index := ∅
deriving DecidableEq, Inhabited

namespace Snapshot

/-! ## Look-ups -/

/-- The object of a resource key. -/
def get? (s : Snapshot) (r : ResourceKey) : Option Object := s.objects.get? r

/-- Whether there is an object of a resource key. -/
def contains (s : Snapshot) (r : ResourceKey) : Bool := (s.get? r).isSome

/-- The objects of a kind with their keys, in order. -/
def ofKind (s : Snapshot) (kind : ObjectKind) : List (ObjectKey × Object) :=
  (s.objects.toList.filter (·.1.kind = kind)).map fun b => (b.1.key, b.2)

/-- The keys of a kind, in order. -/
def keys (s : Snapshot) (kind : ObjectKind) : List ObjectKey := (s.ofKind kind).map (·.1)

/-- The objects of a kind, in order. -/
def list (s : Snapshot) (kind : ObjectKind) : List Object := (s.ofKind kind).map (·.2)

/-- The class of a name. -/
def gatewayClass? (s : Snapshot) (name : String) : Option GatewayClass :=
  (s.get? (.gatewayClass name)).bind Object.class?

/-- The classes, in order. -/
def gatewayClasses (s : Snapshot) : List GatewayClass :=
  (s.list .gatewayClass).filterMap Object.class?

/-- The settings object of a key. -/
def gatewayConfig? (s : Snapshot) (key : ObjectKey) : Option GatewayConfig :=
  (s.get? ⟨.gatewayConfig, key⟩).bind Object.config?

/-- The gateway of a key. -/
def gateway? (s : Snapshot) (key : ObjectKey) : Option Gateway :=
  (s.get? (.gateway key)).bind Object.gateway?

/-- The gateways with their keys, in order. -/
def gateways (s : Snapshot) : List (ObjectKey × Gateway) :=
  (s.ofKind .gateway).filterMap fun b => b.2.gateway?.map (b.1, ·)

/-- The gateways of a class, in order. -/
def gatewaysOfClass (s : Snapshot) (name : String) : List (ObjectKey × Gateway) :=
  s.gateways.filter (·.2.spec.gatewayClassName == name)

/-- The route of a key. -/
def route? (s : Snapshot) (key : ObjectKey) : Option UdpRoute :=
  (s.get? (.udpRoute key)).bind Object.route?

/-- The routes with their keys, in order. -/
def routes (s : Snapshot) : List (ObjectKey × UdpRoute) :=
  (s.ofKind .udpRoute).filterMap fun b => b.2.route?.map (b.1, ·)

/-- The routes that refer to a gateway, in order. -/
def routesForGateway (s : Snapshot) (gateway : ObjectKey) : List (ObjectKey × UdpRoute) :=
  (s.routesByGateway.referring gateway).filterMap fun k => (s.route? k).map (k, ·)

/-- The service of a key. -/
def service? (s : Snapshot) (key : ObjectKey) : Option Service :=
  (s.get? ⟨.service, key⟩).bind Object.service?

/-- The endpoint slices of a service, in order. -/
def slicesForService (s : Snapshot) (service : ObjectKey) : List EndpointSlice :=
  (s.slicesByService.referring service).filterMap fun k =>
    (s.get? ⟨.endpointSlice, k⟩).bind Object.slice?

/-- The secret of a key. -/
def secret? (s : Snapshot) (key : ObjectKey) : Option Secret :=
  (s.get? ⟨.secret, key⟩).bind Object.secret?

/-- The nodes, in order. -/
def nodes (s : Snapshot) : List Node := (s.list .node).filterMap Object.node?

/-- The relay template of a name. -/
def dataplane? (s : Snapshot) (name : String) : Option Dataplane :=
  (s.get? ⟨.dataplane, .cluster name⟩).bind Object.dataplane?

/-! ## Changes -/

/-- The gateways that an object refers to. -/
def gatewaysOf (o : Object) : List ObjectKey := (o.route?.map (·.parentGateways)).getD []

/-- The services that an object belongs to. -/
def servicesOf (o : Object) : List ObjectKey := (o.slice?.bind (·.service?)).toList

/-- Puts in an object and what refers to it. -/
def put (s : Snapshot) (o : Object) : Snapshot :=
  let before := s.get? o.resource
  { s with
    objects := s.objects.insert o.resource o
    routesByGateway := s.routesByGateway.relink o.key ((before.map gatewaysOf).getD [])
      (gatewaysOf o)
    slicesByService := s.slicesByService.relink o.key ((before.map servicesOf).getD [])
      (servicesOf o) }

/-- Takes out an object and what refers to it. -/
def drop (s : Snapshot) (r : ResourceKey) (o : Object) : Snapshot :=
  { s with
    objects := s.objects.erase r
    routesByGateway := s.routesByGateway.relink r.key (gatewaysOf o) []
    slicesByService := s.slicesByService.relink r.key (servicesOf o) [] }

/-- The snapshot with an object put in, unless it is there in the same version. -/
def insert? (s : Snapshot) (o : Object) : Option Snapshot :=
  if (s.get? o.resource).any (·.sameVersion o) then none else some (s.put o)

/-- The snapshot with an object taken out, if there is one. -/
def remove? (s : Snapshot) (r : ResourceKey) : Option Snapshot := (s.get? r).map (s.drop r)

/-- A snapshot on its way, and the first object that was changed in it. -/
structure Edit where
  snapshot : Snapshot
  first : Option ResourceKey := none

namespace Edit

/-- Goes on to another snapshot, if there is one, which differs in an object. -/
def advance (e : Edit) (r : ResourceKey) : Option Snapshot → Edit
  | none => e
  | some s => ⟨s, e.first.orElse fun _ => some r⟩

/-- Puts in an object. -/
def insert (e : Edit) (o : Object) : Edit := e.advance o.resource (e.snapshot.insert? o)

/-- Takes out an object. -/
def remove (e : Edit) (r : ResourceKey) : Edit := e.advance r (e.snapshot.remove? r)

end Edit

/-- The objects of a list that a listing of a kind may hold: those of the kind without a flaw. -/
def admissible (kind : ObjectKind) (objects : List Object) : List Object :=
  objects.filter fun o => o.kind = kind ∧ o.flaw?.isNone

/-- Takes in an event. -/
def edit (s : Snapshot) : StoreEvent → Except Fault Edit
  | .upsert o =>
    match o.flaw? with
    | some flaw => .error (.validation o.resource.text flaw.text)
    | none => .ok (Edit.insert ⟨s, none⟩ o)
  | .delete r => .ok (Edit.remove ⟨s, none⟩ r)
  | .replace kind objects =>
    let listed := admissible kind objects
    let inserted := listed.foldl Edit.insert ⟨s, none⟩
    let seen := listed.map (·.key)
    let stale := (inserted.snapshot.keys kind).filter fun k => ! seen.contains k
    .ok (stale.foldl (fun e k => e.remove ⟨kind, k⟩) inserted)

/-- Takes in an event, and says what changed. -/
def apply (s : Snapshot) (event : StoreEvent) : Except Fault (Option StoreChange × Snapshot) :=
  match s.edit event with
  | .error f => .error f
  | .ok ⟨next, none⟩ => .ok (none, next)
  | .ok ⟨next, some resource⟩ =>
    let generation := s.generation + 1
    .ok (some ⟨generation, resource⟩, { next with generation })

end Snapshot

end RelayFleet
