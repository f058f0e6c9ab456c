/-
The store: the current snapshot and the channel that is told of changes. The channel has little
room. When it is full, a sign is on its way already, and a further one is left out: whoever reads it
will look at the newest snapshot.
-/
import RelayFleet.Store.Snapshot

namespace RelayFleet

/-- The channel that is told of changes. -/
structure Trigger where
  capacity : Nat := 1
  pending : List StoreChange := []
  closed : Bool := false
deriving DecidableEq, Inhabited

namespace Trigger

/-- Offers a change; a full or closed channel does not take it. -/
def offer (t : Trigger) (c : StoreChange) : Trigger :=
  if t.closed ∨ t.capacity ≤ t.pending.length then t else { t with pending := t.pending ++ [c] }

/-- Takes everything that is pending. -/
def drain (t : Trigger) : List StoreChange × Trigger := (t.pending, { t with pending := [] })

end Trigger

/-- The store. -/
structure Store where
  snapshot : Snapshot := {}
  trigger : Option Trigger := none
deriving DecidableEq, Inhabited

namespace Store

/-- The store without objects and without a channel. -/
def empty : Store := {}

/-- Takes in an event without telling anybody. -/
def commit (s : Store) (event : StoreEvent) : Except Fault (Option StoreChange × Store) :=
  match s.snapshot.apply event with
  | .error f => .error f
  | .ok (change, next) => .ok (change, { s with snapshot := next })

/-- Tells the channel of a change. -/
def signal (s : Store) (change : StoreChange) : Store :=
  { s with trigger := s.trigger.map (·.offer change) }

/-- Takes in an event: whether something changed, or why the event was refused. -/
def apply (s : Store) (event : StoreEvent) : Except Fault Bool × Store :=
  match s.commit event with
  | .error f => (.error f, s)
  | .ok (none, next) => (.ok false, next)
  | .ok (some change, next) => (.ok true, next.signal change)

/-- Attaches a channel with this much room. -/
def attach (s : Store) (capacity : Nat) : Store := { s with trigger := some { capacity } }

/-- The store with nothing left in its channel. -/
def drained (s : Store) : Store := { s with trigger := s.trigger.map (·.drain.2) }

/-- Takes in objects one by one; those that are refused stay out. -/
def ofObjects (objects : List Object) : Store :=
  objects.foldl (fun s o => (s.apply (.upsert o)).2) empty

end Store

end RelayFleet
