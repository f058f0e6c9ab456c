/-
A reverse index: for every referenced key, the keys of the objects that refer to it. A key that
nothing refers to has no entry.
-/
import RelayFleet.Resource.Key
import RelayFleet.SortedMap
import RelayFleet.SortedSet

namespace RelayFleet

/-- For every referenced key, the keys that refer to it. -/
abbrev Index := SortedMap ObjectKey (SortedSet ObjectKey)

namespace Index

/-- The keys that refer to a key, in order. -/
def referring (ix : Index) (target : ObjectKey) : List ObjectKey :=
  ((ix.get? target).map (·.toList)).getD []

/-- Notes that an object refers to a key. -/
def link (source : ObjectKey) (ix : Index) (target : ObjectKey) : Index :=
  ix.insert target (((ix.get? target).getD ∅).insert source)

/-- Notes that an object no longer refers to a key. -/
def unlink (source : ObjectKey) (ix : Index) (target : ObjectKey) : Index :=
  match ix.get? target with
  | none => ix
  | some sources =>
    let rest := sources.erase source
    if rest.isEmpty then ix.erase target else ix.insert target rest

/-- Notes that an object refers to the keys of one list and no longer to those of another. -/
def relink (ix : Index) (source : ObjectKey) (before after : List ObjectKey) : Index :=
  after.foldl (link source) (before.foldl (unlink source) ix)

end Index

end RelayFleet
