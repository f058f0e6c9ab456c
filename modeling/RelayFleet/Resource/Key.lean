/-
The names of objects: a key within a kind, the kinds, and the two together. Keys are ordered with
the cluster-scoped ones first, then by namespace and name; resources by kind, then by key. Main
statements: both orders are total orders in which only equal keys compare equal.
-/
import RelayFleet.Json.Record

namespace RelayFleet

/-! ## Keys -/

/-- The identity of an object among those of its kind. A cluster-scoped object has no namespace. -/
structure ObjectKey where
  inNamespace : Option String := none
  name : String
deriving DecidableEq, Inhabited

namespace ObjectKey

/-- The key of an object in a namespace. -/
def namespaced (ns name : String) : ObjectKey := ⟨some ns, name⟩

/-- The key of an object outside of all namespaces. -/
def cluster (name : String) : ObjectKey := ⟨none, name⟩

/-- The namespace, or no text for a key without one. -/
def namespaceText (k : ObjectKey) : String := k.inNamespace.getD ""

/-- The key as text: namespace and name, or the name alone. -/
def text (k : ObjectKey) : String :=
  match k.inNamespace with
  | some ns => ns ++ "/" ++ k.name
  | none => k.name

/-- Order of keys: no namespace first, then by namespace, then by name. -/
def order : ObjectKey → ObjectKey → Ordering :=
  compareLex (compareOn inNamespace) (compareOn name)

instance : Ord ObjectKey := ⟨order⟩

instance : Std.TransOrd ObjectKey :=
  inferInstanceAs (Std.TransCmp (compareLex (compareOn inNamespace) (compareOn name)))

instance : Std.LawfulEqOrd ObjectKey where
  eq_of_compare {a b} h := by
    obtain ⟨hns, hname⟩ := Ordering.then_eq_eq.1 h
    have hns : compare a.inNamespace b.inNamespace = .eq := hns
    have hname : compare a.name b.name = .eq := hname
    cases a; cases b
    exact congr (congrArg mk (Std.LawfulEqCmp.eq_of_compare hns))
      (Std.LawfulEqCmp.eq_of_compare hname)

/-- Reads a key. -/
def ofJson? (j : Json) : Option ObjectKey := do
  let [ns, name] ← j.strict? ["namespace", "name"] | none
  return { inNamespace := ← Json.optional Json.text? ns, name := ← Json.needed Json.text? name }

/-- Writes a key. -/
def toJson (k : ObjectKey) : Json :=
  .present [("namespace", k.inNamespace.map .str), ("name", some (.str k.name))]

end ObjectKey

/-! ## Kinds -/

/-- The kinds of objects that are watched. -/
inductive ObjectKind where
  | gatewayClass
  | gatewayConfig
  | gateway
  | udpRoute
  | service
  | endpointSlice
  | secret
  | node
  | dataplane
deriving DecidableEq, Inhabited

namespace ObjectKind

/-- Every kind, in the order of watching. -/
def all : List ObjectKind :=
  [.gatewayClass, .gatewayConfig, .gateway, .udpRoute, .service, .endpointSlice, .secret, .node,
    .dataplane]

/-- The place of a kind in the order of watching. -/
def rank : ObjectKind → Nat
  | gatewayClass => 0
  | gatewayConfig => 1
  | gateway => 2
  | udpRoute => 3
  | service => 4
  | endpointSlice => 5
  | secret => 6
  | node => 7
  | dataplane => 8

theorem rank_injective {a b : ObjectKind} (h : a.rank = b.rank) : a = b := by
  cases a <;> cases b <;> simp_all [rank]

instance : Ord ObjectKind := ⟨compareOn rank⟩

instance : Std.TransOrd ObjectKind := inferInstanceAs (Std.TransCmp (compareOn rank))

instance : Std.LawfulEqOrd ObjectKind where
  eq_of_compare {a b} h := by
    have h : compare a.rank b.rank = .eq := h
    exact rank_injective (Std.LawfulEqCmp.eq_of_compare h)

/-- Whether objects of this kind live in a namespace. -/
def isNamespaced : ObjectKind → Bool
  | gatewayClass | node | dataplane => false
  | _ => true

/-- The name of a kind in manifests. -/
def text : ObjectKind → String
  | gatewayClass => "GatewayClass"
  | gatewayConfig => "GatewayConfig"
  | gateway => "Gateway"
  | udpRoute => "UDPRoute"
  | service => "Service"
  | endpointSlice => "EndpointSlice"
  | secret => "Secret"
  | node => "Node"
  | dataplane => "Dataplane"

/-- The name of a kind in a written resource key. -/
def tag : ObjectKind → String
  | udpRoute => "UdpRoute"
  | k => k.text

/-- The kind of a tag. -/
def ofTag? (tag : String) : Option ObjectKind := all.find? (·.tag == tag)

/-- Reads a kind. -/
def ofJson? (j : Json) : Option ObjectKind := j.choice? .direct ofTag?

/-- Writes a kind. -/
def toJson (k : ObjectKind) : Json := .str k.tag

end ObjectKind

/-! ## Resources -/

/-- The identity of an object among all objects. -/
structure ResourceKey where
  kind : ObjectKind
  key : ObjectKey
deriving DecidableEq, Inhabited

namespace ResourceKey

/-- The resource of a gateway. -/
def gateway (key : ObjectKey) : ResourceKey := ⟨.gateway, key⟩

/-- The resource of a route. -/
def udpRoute (key : ObjectKey) : ResourceKey := ⟨.udpRoute, key⟩

/-- The resource of a gateway class. -/
def gatewayClass (name : String) : ResourceKey := ⟨.gatewayClass, .cluster name⟩

/-- The resource as text: kind and key. -/
def text (r : ResourceKey) : String := r.kind.text ++ "/" ++ r.key.text

/-- Order of resources: by kind, then by key. -/
def order : ResourceKey → ResourceKey → Ordering :=
  compareLex (compareOn kind) (compareOn key)

instance : Ord ResourceKey := ⟨order⟩

instance : Std.TransOrd ResourceKey :=
  inferInstanceAs (Std.TransCmp (compareLex (compareOn kind) (compareOn key)))

instance : Std.LawfulEqOrd ResourceKey where
  eq_of_compare {a b} h := by
    obtain ⟨hkind, hkey⟩ := Ordering.then_eq_eq.1 h
    have hkind : compare a.kind b.kind = .eq := hkind
    have hkey : compare a.key b.key = .eq := hkey
    cases a; cases b
    exact congr (congrArg mk (Std.LawfulEqCmp.eq_of_compare hkind))
      (Std.LawfulEqCmp.eq_of_compare hkey)

/-- Reads a resource key. -/
def ofJson? (j : Json) : Option ResourceKey := do
  let [kind, key] ← j.strict? ["kind", "key"] | none
  return {
    kind := ← Json.needed ObjectKind.ofJson? kind
    key := ← Json.needed ObjectKey.ofJson? key }

/-- Writes a resource key. -/
def toJson (r : ResourceKey) : Json := .obj [("kind", r.kind.toJson), ("key", r.key.toJson)]

end ResourceKey

end RelayFleet
