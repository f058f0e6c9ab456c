/-
The statuses of a sweep. That of a route is put together from what its gateways report and from
those of its gateways that are missing (`get?_statuses_route_iff`), the others stand by themselves.
Each belongs to an object of the snapshot (`object_of_status`). When it is stamped it stays the same
but for transition times and what other controllers have on a route (`bare_stamped`). A sweep depends on the objects of a snapshot only (`ofSnapshot_congr`).
-/
import RelayFleet.Proofs.Render.Sweep
import RelayFleet.Proofs.Store.Snapshot

namespace RelayFleet

/-! ## Bare statuses -/

namespace Condition

/-- A condition without its transition time. -/
def untimed (c : Condition) : Condition := { c with lastTransitionTime := none }

theorem untimed_stamp (previous : List Condition) (now : Timestamp) (cs : List Condition) :
    (stamp previous now cs).map untimed = cs.map untimed := by
  unfold stamp
  rw [List.map_map]
  rfl

end Condition

namespace ResourceStatus

/-- A status without transition times and without what other controllers have on a route. -/
def bare (controller : String) : ResourceStatus → ResourceStatus
  | gatewayClass s => gatewayClass { s with conditions := s.conditions.map Condition.untimed }
  | gateway s =>
    gateway { s with
      conditions := s.conditions.map Condition.untimed
      listeners := s.listeners.map fun l =>
        { l with conditions := l.conditions.map Condition.untimed } }
  | udpRoute s =>
    udpRoute { parents := (s.parents.filter (·.controllerName = controller)).map fun p =>
      { p with conditions := p.conditions.map Condition.untimed } }

variable {desired : ResourceStatus} {previous : Option ResourceStatus} {controller : String}
  {now : Timestamp}

theorem kind_stamped : (desired.stamped previous controller now).kind = desired.kind := by
  cases desired <;> rfl

theorem bare_stampedRoute (s : RouteStatus) :
    (udpRoute (stampedRoute s previous controller now)).bare controller =
      (udpRoute s).bare controller := by
  unfold stampedRoute bare
  dsimp only
  have hothers : ∀ l : List RouteParentStatus,
      (l.filter (·.controllerName ≠ controller)).filter (·.controllerName = controller) = [] := by
    intro l
    refine List.filter_eq_nil_iff.2 fun p hp => ?_
    have hne := (List.mem_filter.1 hp).2
    simpa using hne
  rw [List.filter_append, hothers, List.nil_append, List.filter_map, List.map_map]
  refine congrArg (fun parents => udpRoute { parents }) (List.map_congr_left fun p _ => ?_)
  simp only [Function.comp_apply, Condition.untimed_stamp]

/-- Stamping leaves a status the same but for transition times and for other controllers. -/
theorem bare_stamped : (desired.stamped previous controller now).bare controller =
    desired.bare controller := by
  cases desired with
  | gatewayClass s =>
    show gatewayClass _ = gatewayClass _
    exact congrArg (fun conditions => gatewayClass { conditions }) (Condition.untimed_stamp _ _ _)
  | gateway s =>
    unfold stamped stampedGateway bare
    dsimp only
    rw [Condition.untimed_stamp, List.map_map]
    refine congrArg (fun listeners => gateway { s with
      conditions := s.conditions.map Condition.untimed, listeners }) ?_
    refine List.map_congr_left fun l _ => ?_
    simp only [Function.comp_apply, Condition.untimed_stamp]
  | udpRoute s => exact bare_stampedRoute s

end ResourceStatus

/-- Whether an object carries a status, up to transition times and to what other controllers have on
a route. -/
def Object.Carries (controller : String) (status : ResourceStatus) (o : Object) : Prop :=
  o.status?.map (·.bare controller) = some (status.bare controller)

/-! ## Statuses one by one -/

/-- Whether a controller has reported on a route. -/
def UdpRoute.reportedBy (r : UdpRoute) (controller : String) : Bool :=
  ((r.status.map (·.parents)).getD []).any (·.controllerName = controller)

namespace Sweep

variable {settings : Settings} {s t : Snapshot} {k : ObjectKey} {r : ResourceKey}
  {desired : ResourceStatus}

/-- What rendered gateways report about a route. -/
def reported (outputs : List (ObjectKey × GatewayOutput)) (k : ObjectKey) :
    List RouteParentStatus :=
  ((outputs.flatMap (·.2.routeParents)).filter (·.1 = k)).map (·.2)

theorem mem_reported_iff {outputs : List (ObjectKey × GatewayOutput)} {e : RouteParentStatus} :
    e ∈ reported outputs k ↔ ∃ o ∈ outputs, (k, e) ∈ o.2.routeParents := by
  unfold reported
  simp only [List.mem_map, List.mem_filter, List.mem_flatMap, decide_eq_true_eq]
  constructor
  · rintro ⟨⟨k', e⟩, ⟨⟨o, ho, he⟩, rfl⟩, rfl⟩
    exact ⟨o, ho, he⟩
  · rintro ⟨o, ho, he⟩
    exact ⟨(k, e), ⟨⟨o, ho, he⟩, rfl⟩, rfl⟩

theorem routeStatus?_eq_some_iff {outputs : List (ObjectKey × GatewayOutput)}
    {failed : List (ObjectKey × String)} {route : UdpRoute} {status : RouteStatus} :
    routeStatus? settings s outputs failed k route = some status ↔
      (route.parentGateways.any fun g => (failed.map (·.1)).contains g) = false ∧
      (reported outputs k ≠ [] ∨ route.reportedBy settings.controllerName = true) ∧
      status = { parents := reported outputs k ++ missingParents settings s k route } := by
  have hidle : (reported outputs k).isEmpty = true ∧
      ¬ route.reportedBy settings.controllerName = true ↔
      ¬ (reported outputs k ≠ [] ∨ route.reportedBy settings.controllerName = true) := by
    rw [not_or, Ne, not_not, List.isEmpty_iff]
  unfold routeStatus?
  dsimp only
  change (if _ then none else if (reported outputs k).isEmpty = true ∧
    ¬ route.reportedBy settings.controllerName = true then none else _) = _ ↔ _
  split
  · rename_i hfailed
    exact ⟨nofun, fun h => absurd hfailed (by rw [h.1]; exact Bool.false_ne_true)⟩
  · rename_i hfine
    split
    · rename_i hempty
      exact ⟨nofun, fun h => absurd h.2.1 (hidle.1 hempty)⟩
    · rename_i hsome
      rw [hidle, not_not] at hsome
      exact ⟨fun h => ⟨Bool.eq_false_iff.2 hfine, hsome, (Option.some.inj h).symm⟩,
        fun h => congrArg some h.2.2.symm⟩

/-- The statuses of classes and gateways. -/
def standing (settings : Settings) (s : Snapshot) : List (ResourceKey × ResourceStatus) :=
  classStatuses settings s ++
    (outputs settings s).map fun o => (.gateway o.1, .gateway o.2.status)

theorem mem_standing_iff : (r, desired) ∈ standing settings s ↔
    (∃ c ∈ s.gatewayClasses.filter settings.owns, r = .gatewayClass (c.metadata.name.getD "") ∧
      desired = .gatewayClass { conditions := [(ClassCheck.ofClass s c).accepted] }) ∨
    ∃ o ∈ outputs settings s, r = .gateway o.1 ∧ desired = .gateway o.2.status := by
  unfold standing classStatuses
  simp only [List.mem_append, List.mem_map, Prod.mk.injEq, eq_comm]

theorem kind_of_mem_standing (h : (r, desired) ∈ standing settings s) :
    r.kind ≠ .udpRoute ∧ desired.kind = r.kind := by
  rcases mem_standing_iff.1 h with ⟨c, -, rfl, rfl⟩ | ⟨o, -, rfl, rfl⟩
  · exact ⟨nofun, rfl⟩
  · exact ⟨nofun, rfl⟩

theorem get?_statuses (settings : Settings) (s : Snapshot) (r : ResourceKey) :
    (ofSnapshot settings s).statuses.get? r =
      ((SortedMap.ofList (routeStatuses settings s (outputs settings s)
        (failed settings s))).get? r).or ((SortedMap.ofList (standing settings s)).get? r) :=
  SortedMap.get?_ofList_append _ _ _

/-- The status of a class or a gateway stands by itself. -/
theorem get?_statuses_of_ne (h : r.kind ≠ .udpRoute) : (ofSnapshot settings s).statuses.get? r =
    (SortedMap.ofList (standing settings s)).get? r := by
  rw [get?_statuses, SortedMap.get?_ofList_eq_none, Option.none_or]
  intro hmem
  obtain ⟨b, hb, rfl⟩ := List.mem_map.1 hmem
  obtain ⟨route, -, hb⟩ := List.mem_filterMap.1 hb
  obtain ⟨status, -, rfl⟩ := Option.map_eq_some_iff.1 hb
  exact h rfl

theorem get?_statuses_gateway {output : GatewayOutput}
    (h : renderGateway settings s k = .ok (some output)) :
    (ofSnapshot settings s).statuses.get? (.gateway k) = some (.gateway output.status) := by
  let statuses := (outputs settings s).map fun o =>
    (ResourceKey.gateway o.1, ResourceStatus.gateway o.2.status)
  have hkeys : (statuses.map (·.1)).Nodup := by
    rw [List.map_map]
    exact List.pairwise_map.2 ((List.pairwise_map.1 (nodup_outputs settings s)).imp
      fun hne he => hne (congrArg ResourceKey.key he))
  have hmem : (ResourceKey.gateway k, ResourceStatus.gateway output.status) ∈ statuses :=
    List.mem_map.2 ⟨_, mem_outputs_of_renderGateway h, rfl⟩
  rw [get?_statuses_of_ne (show (ResourceKey.gateway k).kind ≠ .udpRoute from nofun)]
  unfold standing
  rw [SortedMap.get?_ofList_append, (SortedMap.get?_ofList_eq_some_iff hkeys).2 hmem]
  rfl

/-- The status of a route. -/
theorem get?_statuses_route_iff :
    (ofSnapshot settings s).statuses.get? (.udpRoute k) = some desired ↔
      ∃ route status, s.route? k = some route ∧
        routeStatus? settings s (outputs settings s) (failed settings s) k route = some status ∧
        desired = .udpRoute status := by
  -- neither a class nor a gateway is under the key of a route, and no two routes share theirs
  have hstanding : (SortedMap.ofList (standing settings s)).get? (.udpRoute k) = none := by
    refine SortedMap.get?_ofList_eq_none fun hmem => ?_
    obtain ⟨b, hb, hk⟩ := List.mem_map.1 hmem
    exact (kind_of_mem_standing hb).1 (congrArg ResourceKey.kind hk)
  have hnodup : ((routeStatuses settings s (outputs settings s) (failed settings s)).map
      (·.1)).Nodup :=
    SortedMap.nodup_keys_filterMap (g := ResourceKey.udpRoute) s.nodup_routes
      (fun _ _ h => congrArg ResourceKey.key h) fun b c hc => by
        obtain ⟨_, -, rfl⟩ := Option.map_eq_some_iff.1 hc
        rfl
  rw [get?_statuses, hstanding, Option.or_none, SortedMap.get?_ofList_eq_some_iff hnodup]
  unfold routeStatuses
  rw [List.mem_filterMap]
  constructor
  · rintro ⟨⟨k', route⟩, hb, hbinding⟩
    obtain ⟨status, hstatus, he⟩ := Option.map_eq_some_iff.1 hbinding
    cases he
    exact ⟨route, status, Snapshot.route?_eq_some_iff.2 (Snapshot.mem_routes_iff.1 hb), hstatus, rfl⟩
  · rintro ⟨route, status, hroute, hstatus, rfl⟩
    exact ⟨(k, route), Snapshot.mem_routes_iff.2 (Snapshot.route?_eq_some_iff.1 hroute),
      by dsimp only; rw [hstatus]; rfl⟩

theorem kind_of_status (h : (ofSnapshot settings s).statuses.get? r = some desired) :
    desired.kind = r.kind := by
  by_cases hkind : r.kind = .udpRoute
  · obtain ⟨kind, k⟩ := r
    cases hkind
    obtain ⟨_, status, -, -, rfl⟩ := get?_statuses_route_iff.1 h
    rfl
  · rw [get?_statuses_of_ne hkind] at h
    exact (kind_of_mem_standing (SortedMap.mem_of_get?_ofList h)).2

/-- A status of a rendered sweep belongs to an object of the snapshot of the same kind. -/
theorem object_of_status (h : s.Filed)
    (hr : (ofSnapshot settings s).statuses.get? r = some desired) :
    ∃ o, s.get? r = some o ∧ desired.kind = r.kind := by
  suffices hobject : ∃ o, s.get? r = some o from
    hobject.imp fun _ ho => ⟨ho, kind_of_status hr⟩
  by_cases hkind : r.kind = .udpRoute
  · obtain ⟨kind, k⟩ := r
    cases hkind
    obtain ⟨route, _, hroute, -, -⟩ := get?_statuses_route_iff.1 hr
    exact ⟨_, Snapshot.route?_eq_some_iff.1 hroute⟩
  · rw [get?_statuses_of_ne hkind] at hr
    rcases mem_standing_iff.1 (SortedMap.mem_of_get?_ofList hr) with
      ⟨c, hc, rfl, -⟩ | ⟨⟨k, output⟩, ho, rfl, -⟩
    · -- a class has a name and no namespace, so it is filed under its name
      obtain ⟨k, hget⟩ := Snapshot.mem_gatewayClasses_iff.1 (List.mem_filter.1 hc).1
      obtain ⟨hname, hscope⟩ := (h.fit _ _ hget).2
      obtain ⟨name, hname⟩ := Option.isSome_iff_exists.1 hname
      have hname : c.metadata.name = some name := hname
      have hscope : c.metadata.inNamespace = none := hscope rfl
      have hkey : (⟨.gatewayClass, k⟩ : ResourceKey) = .gatewayClass (c.metadata.name.getD "") := by
        rw [← h.own _ _ hget]
        show (⟨.gatewayClass, c.metadata.key⟩ : ResourceKey) = _
        unfold Metadata.key Metadata.anyName
        rw [hscope, hname]
        rfl
      exact ⟨_, hkey ▸ hget⟩
    · obtain ⟨b, hb, rfl⟩ := List.mem_map.1 (mem_outputs ho).1
      exact ⟨_, Snapshot.mem_gateways_iff.1 hb⟩

/-! ## Objects determine sweeps -/

theorem ofSnapshot_of_generation (settings : Settings) (s : Snapshot) (generation : Nat) :
    ofSnapshot settings { s with generation } = { ofSnapshot settings s with generation } := rfl

/-- Snapshots with the same objects are rendered alike. -/
theorem ofSnapshot_congr (hs : s.Filed) (ht : t.Filed) (h : s.objects = t.objects) :
    ofSnapshot settings s = { ofSnapshot settings t with generation := s.generation } := by
  have hget : ∀ r, s.get? r = t.get? r := fun r => congrArg (SortedMap.get? · r) h
  have hreferences : ∀ kind refers, s.references kind refers = t.references kind refers := by
    intro kind refers
    funext k
    unfold Snapshot.references
    rw [hget]
  have hroutes : s.routesByGateway = t.routesByGateway :=
    (hreferences _ _ ▸ hs.routes).unique ht.routes
  have hslices : s.slicesByService = t.slicesByService :=
    (hreferences _ _ ▸ hs.slices).unique ht.slices
  have hst : s = { t with generation := s.generation } := by
    rw [← h, ← hroutes, ← hslices]
  rw [← ofSnapshot_of_generation, ← hst]

end Sweep

end RelayFleet
