/-
Topics: the documents that were published under one key, and how a subscriber reads them. The first
document of a topic has version 1, and every further one the next version. A subscriber for the
newest version only looks at the newest document. A subscriber for every version first gets the
document that was there when it came, then each document after it; a topic retains a number of
documents for it, and once it is further behind than that it goes on at the newest one.
-/
import RelayFleet.Document.Wire
import RelayFleet.Resource.Key

namespace RelayFleet

/-- One version of a document. -/
structure ConfigUpdate where
  version : Nat
  config : Document
deriving DecidableEq, Inhabited

namespace ConfigUpdate

/-- Reads an update. -/
def ofJson? (j : Json) : Option ConfigUpdate := do
  let [version, config] ← j.strict? ["version", "config"] | none
  return {
    version := ← Json.needed Json.word64? version
    config := ← Json.needed Document.ofJson? config }

/-- Writes an update. -/
def toJson (u : ConfigUpdate) : Json :=
  .obj [("version", .nat u.version), ("config", u.config.toJson)]

/-- The text of an update. -/
def toText (u : ConfigUpdate) : String := u.toJson.render

end ConfigUpdate

/-! ## Topics -/

/-- The documents published under one key, newest first. -/
structure Topic where
  id : Nat
  documents : List Document := []
deriving DecidableEq, Inhabited

namespace Topic

/-- The newest version, which is 0 before the first one. -/
def version (t : Topic) : Nat := t.documents.length

/-- The newest version with its document. -/
def latest? (t : Topic) : Option ConfigUpdate := t.documents.head?.map (⟨t.version, ·⟩)

/-- A version with its document. -/
def update? (t : Topic) (version : Nat) : Option ConfigUpdate :=
  if version = 0 then none
  else t.documents.reverse[version - 1]?.map (⟨version, ·⟩)

/-- The topic with a document as its newest, and as a new version unless it is the newest. -/
def publish (t : Topic) (config : Document) : Topic :=
  if t.documents.head? = some config then t else { t with documents := config :: t.documents }

end Topic

/-! ## Subscriptions -/

/-- Which versions a subscriber wants. -/
inductive DeliveryPolicy where
  /-- Only the newest one. -/
  | latest
  /-- Every one, unless the subscriber is too far behind. -/
  | every
deriving DecidableEq, Inhabited

namespace DeliveryPolicy

/-- The name of a policy. -/
def text : DeliveryPolicy → String
  | latest => "latest"
  | every => "every"

/-- The policy of a name. -/
def ofText? (s : String) : Option DeliveryPolicy :=
  if s = "latest" then some latest
  else if s = "every" then some every
  else none

end DeliveryPolicy

/-- A subscriber's place in a topic. -/
structure Subscription where
  key : ObjectKey
  policy : DeliveryPolicy
  /-- The topic it was made on. -/
  topic : Nat
  /-- What that topic came to, once it was closed. -/
  closed : Option Topic := none
  /-- The version that was there when the subscriber came, until it is delivered. -/
  initial : Option ConfigUpdate := none
  /-- The versions taken out of those retained, or left out. -/
  taken : Nat := 0
  /-- The newest version delivered. -/
  delivered : Nat := 0
deriving DecidableEq, Inhabited

/-- What a subscriber gets when it asks. -/
inductive Delivery where
  | update (u : ConfigUpdate)
  /-- Nothing yet. -/
  | pending
  /-- Nothing ever again. -/
  | ended
deriving DecidableEq, Inhabited

namespace Subscription

/-- Delivers an update. -/
def deliver (s : Subscription) (u : ConfigUpdate) : Delivery × Subscription :=
  (.update u, { s with delivered := u.version })

/-- What there is without an update: nothing yet, or nothing ever again. -/
def idle (s : Subscription) : Delivery := if s.closed.isSome then .ended else .pending

/-- Asks for the newest version. -/
def nextLatest (s : Subscription) (t : Topic) : Delivery × Subscription :=
  match t.latest?.filter (s.delivered < ·.version) with
  | some u => s.deliver u
  | none => (s.idle, s)

/-- Asks for the first retained version that was not delivered. -/
def nextRetained (s : Subscription) (t : Topic) : Delivery × Subscription :=
  let version := max s.taken s.delivered + 1
  match t.update? version with
  | some u => { s with taken := version }.deliver u
  | none => (s.idle, { s with taken := t.version })

/-- Asks for the next version, of which the topic retains a number. -/
def nextEvery (s : Subscription) (retained : Nat) (t : Topic) : Delivery × Subscription :=
  match s.initial with
  | some u => { s with initial := none }.deliver u
  | none =>
    if s.taken + retained < t.version then
      let s := { s with taken := t.version - retained }
      match t.latest?.filter (s.delivered < ·.version) with
      | some u => s.deliver u
      | none => s.nextRetained t
    else s.nextRetained t

/-- Asks for what is next. -/
def next (s : Subscription) (retained : Nat) (t : Topic) : Delivery × Subscription :=
  match s.policy with
  | .latest => s.nextLatest t
  | .every => s.nextEvery retained t

end Subscription

end RelayFleet
