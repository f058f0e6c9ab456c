/-
What the watch of one kind reports, and what the store is told of it. While the objects of the kind
are listed, they are held back; the store is told of a whole list at once, so that an object that
was deleted unseen disappears with it.
-/
import RelayFleet.Store.Snapshot

namespace RelayFleet

/-- What the watch of a kind reports. -/
inductive WatchEvent where
  /-- An object was added or modified. -/
  | applied (object : Object)
  | deleted (object : Object)
  /-- A list of all objects begins. -/
  | listBegan
  /-- An object of the list. -/
  | listed (object : Object)
  /-- The list is complete. -/
  | listEnded

namespace WatchEvent

/-- What the store is told of an event, given the objects listed so far; and the objects listed
after it. -/
def toStoreEvent (kind : ObjectKind) (relist : List Object) :
    WatchEvent → Option StoreEvent × List Object
  | applied o => (some (.upsert o), relist)
  | deleted o => (some (.delete ⟨kind, o.key⟩), relist)
  | listBegan => (none, [])
  | listed o => (none, relist ++ [o])
  | listEnded => (some (.replace kind relist), [])

end WatchEvent

end RelayFleet
