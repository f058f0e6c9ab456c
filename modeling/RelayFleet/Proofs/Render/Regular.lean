/-
What is rendered is regular: it says one thing of every type, and every reference of a route is
reported on once. So all statuses of a sweep are regular (`regular_of_status`).
-/
import RelayFleet.Proofs.Stamp
import RelayFleet.Proofs.Render.Active
import RelayFleet.Proofs.Render.Statuses

namespace RelayFleet

/-! ## Regular renderings -/

namespace RouteAttachment

variable {s : Snapshot} {gateway : ObjectKey}

theorem mem_references_iff {e : ObjectKey × ParentReference} : e ∈ references s gateway ↔
    ∃ r, (e.1, r) ∈ s.routesForGateway gateway ∧
      e.2 ∈ ParentReference.targeting r e.1.namespaceText gateway := by
  unfold references
  rw [List.mem_flatMap]
  constructor
  · rintro ⟨⟨k, r⟩, hb, he⟩
    obtain ⟨parent, hparent, rfl⟩ := List.mem_map.1 he
    exact ⟨r, hb, hparent⟩
  · rintro ⟨r, hb, hparent⟩
    exact ⟨(e.1, r), hb, List.mem_map_of_mem hparent⟩

/-- A reference to a gateway names it. -/
theorem gatewayKey_of_mem_references {e : ObjectKey × ParentReference}
    (h : e ∈ references s gateway) : e.2.gatewayKey e.1.namespaceText = gateway := by
  obtain ⟨r, -, hparent⟩ := mem_references_iff.1 h
  exact (ParentReference.mem_targeting_iff.1 hparent).2.2

/-- Every reference to a gateway is listed once. -/
theorem nodup_references (s : Snapshot) (gateway : ObjectKey) : (references s gateway).Nodup := by
  refine List.nodup_flatMap.2 ⟨fun b _ => ?_, ?_⟩
  · exact (nodup_distinct _).map (Prod.mk_right_injective b.1)
  · refine (s.sorted_routesForGateway gateway).imp fun {b c} hlt e he he' => ?_
    obtain ⟨_, -, rfl⟩ := List.mem_map.1 he
    obtain ⟨_, -, hec⟩ := List.mem_map.1 he'
    exact SortedMap.ne_of_lt hlt (congrArg Prod.fst hec).symm

end RouteAttachment

theorem RouteParentStatus.Regular.distinct {controller : String} {e : RouteParentStatus}
    (h : e.Regular controller) : Condition.Distinct e.conditions := by
  unfold Condition.Distinct
  rw [h.types]
  decide

section

variable {settings : Settings} {s : Snapshot} {key : ObjectKey} {output : GatewayOutput}

/-- Every reference of a route to a rendered gateway is reported on once. -/
theorem references_of_renderGateway (h : renderGateway settings s key = .ok (some output)) :
    output.routeParents.map (fun e => (e.1, e.2.parentRef)) =
      RouteAttachment.references s key := by
  obtain ⟨g, -, ⟨params, ha⟩ | ⟨message, rfl⟩ | ⟨policy, rfl⟩⟩ := renderGateway_cases h
  · rw [(GatewayOutput.served_of_active ha).routeParents]
    exact RouteAttachment.references_ofGateway
  · exact references_rejectedParents
  · exact references_rejectedParents

theorem regular_of_renderGateway (h : renderGateway settings s key = .ok (some output))
    {e : ObjectKey × RouteParentStatus} (he : e ∈ output.routeParents) :
    e.2.Regular settings.controllerName := by
  obtain ⟨g, -, ⟨params, ha⟩ | ⟨message, rfl⟩ | ⟨policy, rfl⟩⟩ := renderGateway_cases h
  · rw [(GatewayOutput.served_of_active ha).routeParents] at he
    obtain ⟨a, ha, he⟩ := List.mem_flatMap.1 he
    obtain ⟨parent, hparent, rfl⟩ := List.mem_map.1 he
    obtain ⟨b, -, rfl⟩ := List.mem_map.1 ha
    exact RouteAttachment.regular_ofRoute hparent
  · exact regular_rejectedParents he
  · exact regular_rejectedParents he

theorem ListenerPlan.distinct_status {g : Gateway} {p : ListenerPlan}
    (hp : p ∈ ListenerPlan.ofGateway s key g) (n : Nat) :
    Condition.Distinct (p.status n).conditions := by
  obtain ⟨haccepted, hresolved, hconflicted⟩ := ListenerPlan.types_ofGateway hp
  unfold Condition.Distinct ListenerPlan.status
  simp only [List.map_cons, List.map_nil, haccepted, hresolved, hconflicted]
  decide

theorem ListenerPlan.regular_pendingStatuses (g : Gateway) (message : String) :
    ((pendingStatuses g message).map (·.name)).Nodup ∧
      ∀ l ∈ pendingStatuses g message, Condition.Distinct l.conditions := by
  unfold pendingStatuses
  rw [List.map_map]
  refine ⟨firstOfName_names g.spec.listeners, fun l hl => ?_⟩
  obtain ⟨_, -, rfl⟩ := List.mem_map.1 hl
  exact List.nodup_singleton _

theorem type_programmed {g : Gateway} {dataplane : String} {found : Bool}
    {address : Option PublicAddress} :
    (GatewayOutput.programmed g dataplane found address).type = ConditionType.programmed := by
  unfold GatewayOutput.programmed
  cases found <;> cases address <;> rfl

/-- What is reported about a rendered gateway is regular. -/
theorem regular_status_of_renderGateway (h : renderGateway settings s key = .ok (some output)) :
    (ResourceStatus.gateway output.status).Regular settings.controllerName := by
  have hdecided : [ConditionType.accepted, ConditionType.programmed].Nodup := by decide
  obtain ⟨g, -, ⟨params, ha⟩ | ⟨message, rfl⟩ | ⟨policy, rfl⟩⟩ := renderGateway_cases h
  · have hserved := GatewayOutput.served_of_active ha
    show Condition.Distinct output.status.conditions ∧ (output.status.listeners.map (·.name)).Nodup ∧
      ∀ l ∈ output.status.listeners, Condition.Distinct l.conditions
    rw [hserved.conditions, hserved.listeners, List.map_map]
    refine ⟨?_, ListenerPlan.nodup_names_ofGateway s key g, fun l hl => ?_⟩
    · unfold Condition.Distinct
      rw [List.map_cons, List.map_cons, type_programmed]
      exact hdecided
    · obtain ⟨p, hp, rfl⟩ := List.mem_map.1 hl
      exact ListenerPlan.distinct_status hp _
  · exact ⟨hdecided, ListenerPlan.regular_pendingStatuses g _⟩
  · exact ⟨hdecided, ListenerPlan.regular_pendingStatuses g _⟩

end

namespace Sweep

variable {settings : Settings} {s : Snapshot} {k : ObjectKey} {r : ResourceKey}
  {desired : ResourceStatus}

/-! ## Regular statuses -/

theorem nodup_reported (settings : Settings) (s : Snapshot) (k : ObjectKey) :
    ((reported (outputs settings s) k).map (·.parentRef)).Nodup := by
  have hall : ((outputs settings s).flatMap (·.2.routeParents)).map
      (fun e => (e.1, e.2.parentRef)) =
      (outputs settings s).flatMap fun o => RouteAttachment.references s o.1 := by
    rw [List.map_flatMap]
    exact List.flatMap_congr fun o ho => references_of_renderGateway (mem_outputs ho).2
  have hnodup : (((outputs settings s).flatMap (·.2.routeParents)).map
      (fun e => (e.1, e.2.parentRef))).Nodup := by
    rw [hall]
    refine List.nodup_flatMap.2 ⟨fun o _ => RouteAttachment.nodup_references s o.1, ?_⟩
    -- a reference names one gateway
    refine (List.pairwise_map.1 (nodup_outputs settings s)).imp fun {o o'} hne e he he' => hne ?_
    exact (RouteAttachment.gatewayKey_of_mem_references he).symm.trans
      (RouteAttachment.gatewayKey_of_mem_references he')
  unfold reported
  rw [List.map_map]
  refine List.pairwise_map.2 (((List.pairwise_map.1 hnodup).filter _).imp_of_mem
    fun {e e'} he he' hne href => hne ?_)
  have hroute : ∀ {e}, e ∈ ((outputs settings s).flatMap (·.2.routeParents)).filter (·.1 = k) →
      e.1 = k := fun he => by simpa using (List.mem_filter.1 he).2
  exact congrArg₂ Prod.mk ((hroute he).trans (hroute he').symm) href

theorem of_mem_reported {e : RouteParentStatus} (he : e ∈ reported (outputs settings s) k) :
    e.Regular settings.controllerName ∧
      (s.gateway? (e.parentRef.gatewayKey k.namespaceText)).isSome = true := by
  obtain ⟨o, ho, hmem⟩ := mem_reported_iff.1 he
  have hrender := (mem_outputs ho).2
  refine ⟨regular_of_renderGateway hrender hmem, ?_⟩
  have href : (k, e.parentRef) ∈ RouteAttachment.references s o.1 := by
    rw [← references_of_renderGateway hrender]
    exact List.mem_map_of_mem hmem
  obtain ⟨g, hg, -⟩ := renderGateway_cases hrender
  rw [RouteAttachment.gatewayKey_of_mem_references href, hg]
  rfl

theorem of_mem_missingParents {route : UdpRoute} {e : RouteParentStatus}
    (he : e ∈ missingParents settings s k route) :
    e.Regular settings.controllerName ∧
      (s.gateway? (e.parentRef.gatewayKey k.namespaceText)).isNone = true := by
  obtain ⟨parent, hparent, rfl⟩ := List.mem_map.1 he
  refine ⟨.of_rejected, ?_⟩
  have := (List.mem_filter.1 (mem_distinct.1 hparent)).2
  exact (Bool.and_eq_true_iff.1 this).2

/-- Every reference of a route is reported on once, and by the controller. -/
theorem regular_routeStatus (route : UdpRoute) :
    (ResourceStatus.udpRoute ⟨reported (outputs settings s) k ++
      missingParents settings s k route⟩).Regular settings.controllerName := by
  constructor
  · -- what is reported names gateways that are there, what is missing those that are not
    rw [List.map_append]
    refine List.nodup_append.2 ⟨nodup_reported settings s k, ?_, ?_⟩
    · unfold missingParents
      rw [List.map_map]
      exact (nodup_distinct _).map fun _ _ h => h
    · intro a ha b hb hab
      obtain ⟨e, he, rfl⟩ := List.mem_map.1 ha
      obtain ⟨e', he', rfl⟩ := List.mem_map.1 hb
      have hsome := (of_mem_reported he).2
      have hnone := (of_mem_missingParents he').2
      rw [hab, Option.isSome_iff_ne_none] at hsome
      exact hsome (Option.isNone_iff_eq_none.1 hnone)
  · intro e he
    have hregular : e.Regular settings.controllerName := by
      rcases List.mem_append.1 he with he | he
      · exact (of_mem_reported he).1
      · exact (of_mem_missingParents he).1
    exact ⟨hregular.controller, hregular.distinct⟩

/-- The statuses of a sweep are regular. -/
theorem regular_of_status (h : (ofSnapshot settings s).statuses.get? r = some desired) :
    desired.Regular settings.controllerName := by
  by_cases hkind : r.kind = .udpRoute
  · obtain ⟨kind, k⟩ := r
    cases hkind
    obtain ⟨route, status, -, hstatus, rfl⟩ := get?_statuses_route_iff.1 h
    rw [(routeStatus?_eq_some_iff.1 hstatus).2.2]
    exact regular_routeStatus route
  · rw [get?_statuses_of_ne hkind] at h
    rcases mem_standing_iff.1 (SortedMap.mem_of_get?_ofList h) with ⟨c, -, -, rfl⟩ | ⟨o, ho, -, rfl⟩
    · exact List.nodup_singleton _
    · exact regular_status_of_renderGateway (mem_outputs ho).2

end Sweep

end RelayFleet
