/-
The distributor: a topic for every key that something was published under or that somebody waits
for. A topic that was made by a subscriber and never published to goes with its last subscriber. A
key that is removed gets the empty document as its last version, and its topic is closed; whoever
subscribed to it still gets what it was sent.
-/
import RelayFleet.Distribution.Topic
import RelayFleet.SortedMap

namespace RelayFleet

/-- The topics and their subscribers. -/
structure Distributor where
  /-- The number of versions that are wanted to be retained. -/
  buffer : Nat := 16
  topics : SortedMap ObjectKey Topic := ∅
  subscriptions : SortedMap Nat Subscription := ∅
  nextTopic : Nat := 1
  nextSubscription : Nat := 1
deriving DecidableEq, Inhabited

namespace Distributor

/-- The number of versions that a topic retains: a power of two. -/
def retained (d : Distributor) : Nat := (max d.buffer 1).nextPowerOfTwo

/-! ## Publishing -/

/-- The topic of a key, which is made if there is none. -/
def topicOf (d : Distributor) (key : ObjectKey) : Topic × Distributor :=
  match d.topics.get? key with
  | some t => (t, d)
  | none =>
    let t : Topic := { id := d.nextTopic }
    (t, { d with topics := d.topics.insert key t, nextTopic := d.nextTopic + 1 })

/-- Publishes a document; answers with the version that it has. -/
def publish (d : Distributor) (key : ObjectKey) (config : Document) : Nat × Distributor :=
  let (t, d) := d.topicOf key
  let t := t.publish config
  (t.version, { d with topics := d.topics.insert key t })

/-- Publishes the empty document as the last one of a key and closes the topic. -/
def remove (d : Distributor) (key : ObjectKey) : Distributor :=
  match d.topics.get? key with
  | none => d
  | some t =>
    let last := t.publish Document.empty
    { d with
      topics := d.topics.erase key
      subscriptions := d.subscriptions.map fun s =>
        if s.topic = t.id then { s with closed := some last } else s }

/-! ## Subscribing -/

/-- Subscribes to a key; answers with the number of the subscription. -/
def subscribe (d : Distributor) (key : ObjectKey) (policy : DeliveryPolicy) : Nat × Distributor :=
  let (t, d) := d.topicOf key
  let number := d.nextSubscription
  (number, { d with
    subscriptions := d.subscriptions.insert number
      { key, policy, topic := t.id, initial := t.latest?, taken := t.version }
    nextSubscription := number + 1 })

/-- Asks for what is next on a subscription. -/
def next (d : Distributor) (number : Nat) : Delivery × Distributor :=
  match d.subscriptions.get? number with
  | none => (.ended, d)
  | some s =>
    match s.closed.orElse fun _ => d.topics.get? s.key with
    | none => (.ended, d)
    | some t =>
      let (delivery, s) := s.next d.retained t
      (delivery, { d with subscriptions := d.subscriptions.insert number s })

/-- The subscriptions that were made on a topic. -/
def subscribersOf (d : Distributor) (topic : Nat) : List Subscription :=
  d.subscriptions.values.filter (·.topic = topic)

/-- Whether a topic is only there for subscribers, and has none. -/
def isForsaken (d : Distributor) (t : Topic) : Bool :=
  t.version = 0 && (d.subscribersOf t.id).isEmpty

/-- Drops a subscription, and its topic if that was only there for it. -/
def unsubscribe (d : Distributor) (number : Nat) : Distributor :=
  match d.subscriptions.get? number with
  | none => d
  | some s =>
    let d := { d with subscriptions := d.subscriptions.erase number }
    match d.topics.get? s.key with
    | some t =>
      if t.id = s.topic ∧ d.isForsaken t then { d with topics := d.topics.erase s.key } else d
    | none => d

/-! ## Looking -/

/-- The newest version of a key's document. -/
def latest? (d : Distributor) (key : ObjectKey) : Option ConfigUpdate :=
  (d.topics.get? key).bind (·.latest?)

/-- The keys with a published document, in order. -/
def keys (d : Distributor) : List ObjectKey :=
  (d.topics.toList.filter fun b => 0 < b.2.version).map (·.1)

/-- The number of subscribers of a key. -/
def subscriberCount (d : Distributor) (key : ObjectKey) : Nat :=
  ((d.topics.get? key).map fun t => (d.subscribersOf t.id).length).getD 0

/-- The distributor in a log line. -/
def text (d : Distributor) : String :=
  "ConfigDistributor \x7b topics: " ++ toString d.topics.size ++ ", buffer: " ++
    toString d.buffer ++ " \x7d"

end Distributor

end RelayFleet
