/-
What a store holds after any events, whether they were taken in, refused or changed nothing: every
object under its own key, and indices that list the routes of a gateway and the slices of a service
in order, each once, and nothing else (`exact_ofEvents`).
-/
import RelayFleet.Proofs.Store.Snapshot

namespace RelayFleet

/-! ## Listings of an index -/

namespace Index

variable {ix : Index} {t k : ObjectKey}

theorem referring_eq (ix : Index) (t : ObjectKey) :
    ix.referring t = ((ix.get? t).getD ∅).toList := by
  unfold referring
  cases ix.get? t <;> rfl

theorem sorted_referring (ix : Index) (t : ObjectKey) : Elements.Sorted (ix.referring t) := by
  rw [referring_eq]
  exact SortedSet.sorted _

theorem mem_referring_iff : k ∈ ix.referring t ↔ ix.Lists t k := by
  rw [referring_eq]
  exact .rfl

theorem referring_congr {ix' : Index} (h : ∀ k, ix.Lists t k ↔ ix'.Lists t k) :
    ix.referring t = ix'.referring t := by
  rw [referring_eq, referring_eq, SortedSet.ext_mem h]

theorem lists_of_get? {sources : SortedSet ObjectKey} (hget : ix.get? t = some sources)
    (hk : k ∈ sources) : ix.Lists t k := by
  unfold Lists
  rw [hget]
  exact hk

end Index

/-! ## Listings of a snapshot -/

namespace Snapshot

variable {s : Snapshot}

theorem slice?_eq_some_iff {k : ObjectKey} {slice : EndpointSlice} :
    (s.get? ⟨.endpointSlice, k⟩).bind Object.slice? = some slice ↔
      s.get? ⟨.endpointSlice, k⟩ = some (.endpointSlice slice) := by
  rw [Option.bind_eq_some_iff]
  constructor
  · rintro ⟨o, ho, hslice⟩
    cases o <;> cases hslice
    exact ho
  · intro h
    exact ⟨_, h, rfl⟩

/-- The key of a stored object of a kind with namespaces has a namespace. -/
theorem Indexed.inNamespace (h : s.Indexed) {r : ResourceKey} {o : Object} (hget : s.get? r = some o)
    (hkind : r.kind.isNamespaced = true) : r.key.inNamespace = some r.key.namespaceText := by
  have hflaw := h.flawless r o hget
  have hown := h.own r o hget
  subst hown
  unfold Object.flaw? at hflaw
  split at hflaw
  · cases hflaw
  · split at hflaw
    · cases hflaw
    · rename_i hns
      rcases hin : o.key.inNamespace with - | ns
      · refine absurd ⟨hkind, ?_⟩ hns
        unfold ObjectKey.namespaceText
        rw [hin]
        rfl
      · show o.key.inNamespace = some o.key.namespaceText
        unfold ObjectKey.namespaceText
        rw [hin]
        rfl

/-- The keys of a listing in order are in order where all of it is there. -/
theorem sorted_filterMap {β : Type} {l : List ObjectKey} (h : Elements.Sorted l)
    (f : ObjectKey → Option β) : Bindings.Sorted (l.filterMap fun k => (f k).map (k, ·)) := by
  refine List.pairwise_filterMap.2 (h.imp fun {k k'} hlt b hb b' hb' => ?_)
  obtain ⟨v, -, rfl⟩ := Option.map_eq_some_iff.1 hb
  obtain ⟨v', -, rfl⟩ := Option.map_eq_some_iff.1 hb'
  exact hlt

/-! ### Routes of a gateway -/

theorem sorted_routesForGateway (s : Snapshot) (gateway : ObjectKey) :
    Bindings.Sorted (s.routesForGateway gateway) :=
  sorted_filterMap (Index.sorted_referring _ _) s.route?

theorem Indexed.lists_routes_iff (h : s.Indexed) {gateway k : ObjectKey} :
    s.routesByGateway.Lists gateway k ↔ ∃ r, s.route? k = some r ∧ gateway ∈ r.parentGateways := by
  rw [h.routes.lists]
  unfold references route? gatewaysOf
  show gateway ∈ ((s.get? (.udpRoute k)).map _).getD [] ↔ _
  cases s.get? (.udpRoute k) with
  | none => exact ⟨fun hmem => absurd hmem List.not_mem_nil, by rintro ⟨r, ⟨⟩, -⟩⟩
  | some o =>
    show gateway ∈ (o.route?.map (·.parentGateways)).getD [] ↔ ∃ r, o.route? = some r ∧ _
    cases o.route? with
    | none => exact ⟨fun hmem => absurd hmem List.not_mem_nil, by rintro ⟨r, ⟨⟩, -⟩⟩
    | some r => exact ⟨fun hmem => ⟨r, rfl, hmem⟩, by rintro ⟨_, ⟨⟩, hmem⟩; exact hmem⟩

theorem Indexed.mem_routesForGateway_iff (h : s.Indexed) {gateway k : ObjectKey} {r : UdpRoute} :
    (k, r) ∈ s.routesForGateway gateway ↔ s.route? k = some r ∧ gateway ∈ r.parentGateways := by
  unfold routesForGateway
  rw [List.mem_filterMap]
  constructor
  · rintro ⟨k', hk', hr⟩
    obtain ⟨r', hr', he⟩ := Option.map_eq_some_iff.1 hr
    cases he
    obtain ⟨r'', hr'', hmem⟩ := h.lists_routes_iff.1 (Index.mem_referring_iff.1 hk')
    cases hr'.symm.trans hr''
    exact ⟨hr', hmem⟩
  · rintro ⟨hr, hmem⟩
    exact ⟨k, Index.mem_referring_iff.2 (h.lists_routes_iff.2 ⟨r, hr, hmem⟩), by rw [hr]; rfl⟩

/-! ### Slices of a service -/

theorem Indexed.lists_slices_iff (h : s.Indexed) {service k : ObjectKey} :
    s.slicesByService.Lists service k ↔
      ∃ slice, s.get? ⟨.endpointSlice, k⟩ = some (.endpointSlice slice) ∧
        slice.service? = some service := by
  rw [h.slices.lists]
  unfold references servicesOf
  cases hget : s.get? ⟨.endpointSlice, k⟩ with
  | none => exact ⟨fun hmem => absurd hmem List.not_mem_nil, by rintro ⟨slice, ⟨⟩, -⟩⟩
  | some o =>
    show service ∈ (o.slice?.bind (·.service?)).toList ↔ _
    rw [Option.mem_toList, Option.bind_eq_some_iff]
    constructor
    · rintro ⟨slice, hslice, hservice⟩
      cases o <;> cases hslice
      exact ⟨slice, rfl, hservice⟩
    · rintro ⟨slice, ⟨⟩, hservice⟩
      exact ⟨slice, rfl, hservice⟩

theorem service?_eq_some_iff {slice : EndpointSlice} {service : ObjectKey}
    (hns : slice.metadata.inNamespace.isSome = true) :
    slice.service? = some service ↔ slice.metadata.inNamespace = service.inNamespace ∧
      slice.metadata.label? EndpointSlice.serviceLabel = some service.name := by
  obtain ⟨ns, hns⟩ := Option.isSome_iff_exists.1 hns
  obtain ⟨ns', name⟩ := service
  unfold EndpointSlice.service?
  rw [hns]
  cases slice.metadata.label? EndpointSlice.serviceLabel with
  | none => exact ⟨by rintro ⟨⟩, by rintro ⟨-, ⟨⟩⟩⟩
  | some label =>
    constructor
    · rintro ⟨⟩
      exact ⟨rfl, rfl⟩
    · rintro ⟨rfl, ⟨⟩⟩
      rfl

theorem Indexed.mem_slicesForService_iff (h : s.Indexed) {service : ObjectKey}
    {slice : EndpointSlice} : slice ∈ s.slicesForService service ↔
      s.get? ⟨.endpointSlice, slice.metadata.key⟩ = some (.endpointSlice slice) ∧
        slice.service? = some service := by
  unfold slicesForService
  rw [List.mem_filterMap]
  constructor
  · rintro ⟨k, hk, hslice⟩
    have hget := slice?_eq_some_iff.1 hslice
    obtain ⟨slice', hget', hservice⟩ := h.lists_slices_iff.1 (Index.mem_referring_iff.1 hk)
    cases hget.symm.trans hget'
    rw [show slice.metadata.key = k from congrArg ResourceKey.key (h.own _ _ hget)]
    exact ⟨hget, hservice⟩
  · rintro ⟨hget, hservice⟩
    exact ⟨_, Index.mem_referring_iff.2 (h.lists_slices_iff.2 ⟨slice, hget, hservice⟩),
      slice?_eq_some_iff.2 hget⟩

theorem Indexed.sorted_slicesForService (h : s.Indexed) (service : ObjectKey) :
    Elements.Sorted ((s.slicesForService service).map (·.metadata.key)) := by
  have hkey : ∀ k slice, (s.get? ⟨.endpointSlice, k⟩).bind Object.slice? = some slice →
      slice.metadata.key = k := fun k slice hslice =>
    congrArg ResourceKey.key (h.own _ _ (slice?_eq_some_iff.1 hslice))
  refine List.pairwise_map.2 (List.pairwise_filterMap.2 ?_)
  refine (Index.sorted_referring _ _).imp fun {k k'} hlt slice hslice slice' hslice' => ?_
  rw [hkey k slice hslice, hkey k' slice' hslice']
  exact hlt

/-! ## Exact snapshots -/

/-- Whether the objects of a snapshot are where they belong and its indices are exact: the routes of
a gateway are those with a reference to it, the slices of a service those of its namespace with its
label, both in the order of their keys and each once. -/
structure Exact (s : Snapshot) : Prop where
  objects : ∀ r o, s.get? r = some o → o.resource = r ∧ o.flaw? = none
  routes_sorted : ∀ gateway, Bindings.Sorted (s.routesForGateway gateway)
  routes : ∀ gateway k r, (k, r) ∈ s.routesForGateway gateway ↔
    s.route? k = some r ∧ ∃ p ∈ r.spec.parentRefs, p.isGateway = true ∧
      p.gatewayKey (r.metadata.inNamespace.getD "") = gateway
  slices_sorted : ∀ service,
    Elements.Sorted ((s.slicesForService service).map (·.metadata.key))
  slices : ∀ service slice, slice ∈ s.slicesForService service ↔
    s.get? ⟨.endpointSlice, slice.metadata.key⟩ = some (.endpointSlice slice) ∧
      slice.metadata.inNamespace = service.inNamespace ∧
      slice.metadata.label? EndpointSlice.serviceLabel = some service.name
  /-- A gateway with an entry has routes in it, and they are stored. -/
  gateways_filled : ∀ gateway sources, s.routesByGateway.get? gateway = some sources →
    sources.isEmpty = false ∧ ∀ k ∈ sources, ∃ r, s.route? k = some r
  /-- A service with an entry has slices in it, and they are stored. -/
  services_filled : ∀ service sources, s.slicesByService.get? service = some sources →
    sources.isEmpty = false ∧
      ∀ k ∈ sources, ∃ slice, s.get? ⟨.endpointSlice, k⟩ = some (.endpointSlice slice)

theorem mem_parentGateways_iff {r : UdpRoute} {gateway : ObjectKey} :
    gateway ∈ r.parentGateways ↔ ∃ p ∈ r.spec.parentRefs, p.isGateway = true ∧
      p.gatewayKey (r.metadata.inNamespace.getD "") = gateway := by
  unfold UdpRoute.parentGateways
  simp only [List.mem_map, List.mem_filter, and_assoc]

theorem Indexed.exact (h : s.Indexed) : s.Exact where
  objects r o hget := ⟨h.own r o hget, h.flawless r o hget⟩
  routes_sorted := s.sorted_routesForGateway
  routes gateway k r := by rw [h.mem_routesForGateway_iff, mem_parentGateways_iff]
  slices_sorted := h.sorted_slicesForService
  slices service slice := by
    rw [h.mem_slicesForService_iff]
    refine and_congr_right fun hget => service?_eq_some_iff ?_
    have hns := h.inNamespace hget rfl
    exact Option.isSome_iff_exists.2 ⟨_, hns⟩
  gateways_filled gateway sources hget := by
    refine ⟨h.routes.filled gateway sources hget, fun k hk => ?_⟩
    obtain ⟨r, hr, -⟩ := h.lists_routes_iff.1 (Index.lists_of_get? hget hk)
    exact ⟨r, hr⟩
  services_filled service sources hget := by
    refine ⟨h.slices.filled service sources hget, fun k hk => ?_⟩
    obtain ⟨slice, hslice, -⟩ := h.lists_slices_iff.1 (Index.lists_of_get? hget hk)
    exact ⟨slice, hslice⟩

end Snapshot

/-! ## Stores -/

namespace Store

/-- The store after these events, from an empty one on. An event that is refused leaves it as it
is. -/
def ofEvents (events : List StoreEvent) : Store :=
  events.foldl (fun s event => (s.apply event).2) empty

theorem indexed_ofEvents (events : List StoreEvent) : (ofEvents events).snapshot.Indexed :=
  List.foldlRecOn (motive := fun s : Store => s.snapshot.Indexed) events _ .start
    fun _ h _ _ => indexed_apply h

/-- The stores that come of an empty one: events are taken in, channels are told of changes, attached
and emptied, in any order. -/
inductive Reachable : Store → Prop where
  | empty : Reachable empty
  | commit {s t : Store} {event : StoreEvent} {change : Option StoreChange} :
      Reachable s → s.commit event = .ok (change, t) → Reachable t
  | signal {s : Store} (change : StoreChange) : Reachable s → Reachable (s.signal change)
  | attach {s : Store} (capacity : Nat) : Reachable s → Reachable (s.attach capacity)
  | drained {s : Store} : Reachable s → Reachable s.drained

theorem commit_eq_ok_iff {s t : Store} {event : StoreEvent} {change : Option StoreChange} :
    s.commit event = .ok (change, t) ↔
      ∃ next, s.snapshot.apply event = .ok (change, next) ∧ t = { s with snapshot := next } := by
  unfold commit
  rcases s.snapshot.apply event with f | ⟨change', next⟩
  · exact ⟨by rintro ⟨⟩, by rintro ⟨_, ⟨⟩, -⟩⟩
  · exact ⟨by rintro ⟨⟩; exact ⟨next, rfl, rfl⟩, by rintro ⟨_, ⟨⟩, rfl⟩; rfl⟩

theorem Reachable.indexed {s : Store} (h : s.Reachable) : s.snapshot.Indexed := by
  induction h with
  | empty => exact .start
  | commit _ hcommit ih =>
    obtain ⟨next, ha, rfl⟩ := commit_eq_ok_iff.1 hcommit
    exact ih.apply ha
  | signal _ _ ih => exact ih
  | attach _ _ ih => exact ih
  | drained _ ih => exact ih

theorem Reachable.apply {s : Store} (h : s.Reachable) (event : StoreEvent) :
    (s.apply event).2.Reachable := by
  unfold Store.apply
  rcases hcommit : s.commit event with f | ⟨change, t⟩
  · exact h
  · cases change with
    | none => exact h.commit hcommit
    | some change => exact (h.commit hcommit).signal change

theorem reachable_ofEvents (events : List StoreEvent) : (ofEvents events).Reachable :=
  List.foldlRecOn (motive := Reachable) events _ .empty fun _ h event _ => h.apply event

theorem reachable_ofObjects (objects : List Object) : (ofObjects objects).Reachable :=
  List.foldlRecOn (motive := Reachable) objects _ .empty fun _ h _ _ => h.apply _

/-- Whatever events a store was told of, its indices are exact. -/
theorem exact_ofEvents (events : List StoreEvent) : (ofEvents events).snapshot.Exact :=
  (indexed_ofEvents events).exact

end Store

end RelayFleet
