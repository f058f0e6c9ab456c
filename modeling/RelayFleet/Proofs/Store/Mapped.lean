/-
Snapshots in which every object was replaced by what a map makes of it. What is looked up in such a
snapshot is what the map makes of what is looked up in the one before.
-/
import RelayFleet.Proofs.Store.Snapshot

namespace RelayFleet.Snapshot

/-- The snapshot with every object replaced, the indices left as they are. -/
def mapObjects (f : Object → Object) (s : Snapshot) : Snapshot :=
  { s with objects := s.objects.map f }

variable (f : Object → Object) (s : Snapshot)

/-! ## Look-ups -/

theorem get?_mapObjects (r : ResourceKey) : (s.mapObjects f).get? r = (s.get? r).map f :=
  SortedMap.get?_map f s.objects r

variable {f} {α : Type} {p : Object → Option α}

/-- What is read of an object and not touched stays. -/
theorem bind_get?_mapObjects (hp : ∀ o, p (f o) = p o) (r : ResourceKey) :
    ((s.mapObjects f).get? r).bind p = (s.get? r).bind p := by
  rw [get?_mapObjects, Option.bind_map]
  exact congrArg (Option.bind (s.get? r)) (funext hp)

/-- What is read of an object and changed is changed in the look-up. -/
theorem bind_get?_mapObjects_map {g : α → α} (hp : ∀ o, p (f o) = (p o).map g) (r : ResourceKey) :
    ((s.mapObjects f).get? r).bind p = ((s.get? r).bind p).map g := by
  rw [get?_mapObjects, Option.bind_map, Option.map_bind]
  exact congrArg (Option.bind (s.get? r)) (funext hp)

/-! ## Listings -/

variable (f)

theorem ofKind_mapObjects (kind : ObjectKind) :
    (s.mapObjects f).ofKind kind = (s.ofKind kind).map fun b => (b.1, f b.2) := by
  unfold ofKind mapObjects SortedMap.map SortedMap.toList
  rw [List.filter_map, List.map_map, List.map_map]
  rfl

theorem list_mapObjects (kind : ObjectKind) :
    (s.mapObjects f).list kind = (s.list kind).map f := by
  unfold list
  rw [ofKind_mapObjects, List.map_map, List.map_map]
  rfl

/-! ## Snapshots that a map makes the same -/

variable {f} {s} {t : Snapshot}

theorem references_congr {refers : Object → List ObjectKey} (hrefers : ∀ o, refers (f o) = refers o)
    (hobjects : ∀ r, (s.get? r).map f = (t.get? r).map f) (kind : ObjectKind) :
    s.references kind refers = t.references kind refers := by
  have hmapped : ∀ u : Snapshot, ∀ r, (u.get? r).map refers = ((u.get? r).map f).map refers := by
    intro u r
    rw [Option.map_map]
    exact congrArg (Option.map · (u.get? r)) (funext fun o => (hrefers o).symm)
  funext k
  unfold references
  rw [hmapped s, hobjects, ← hmapped t]

/-- Snapshots are made the same by a map that leaves references alone, if their objects are. -/
theorem mapObjects_congr (hs : s.Indexed) (ht : t.Indexed) (hgeneration : s.generation = t.generation)
    (hobjects : ∀ r, (s.get? r).map f = (t.get? r).map f)
    (hgateways : ∀ o, gatewaysOf (f o) = gatewaysOf o)
    (hservices : ∀ o, servicesOf (f o) = servicesOf o) : s.mapObjects f = t.mapObjects f := by
  have hmaps : s.objects.map f = t.objects.map f := by
    refine SortedMap.ext_get? fun r => ?_
    rw [SortedMap.get?_map, SortedMap.get?_map]
    exact hobjects r
  have hroutes : s.routesByGateway = t.routesByGateway :=
    (references_congr hgateways hobjects .udpRoute ▸ hs.routes).unique ht.routes
  have hslices : s.slicesByService = t.slicesByService :=
    (references_congr hservices hobjects .endpointSlice ▸ hs.slices).unique ht.slices
  unfold mapObjects
  rw [hmaps, hroutes, hslices, hgeneration]

end RelayFleet.Snapshot
