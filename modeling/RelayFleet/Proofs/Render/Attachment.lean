/-
What holds of the routes that are attached to a gateway: they are attached to listeners that are
served (`ready_of_mem_listeners`), a reference is accepted exactly if the route is attached to
something (`accepted_iff_attached`), and every reference to the gateway is reported on once
(`references_ofGateway`, `references_rejectedParents`).
-/
import RelayFleet.Render.Attachment
import RelayFleet.Proofs.Render.Listener
import RelayFleet.Proofs.Store.Exact

namespace RelayFleet

/-! ## Lists without repetitions -/

section

variable {α : Type} [DecidableEq α] {l : List α} {a : α}

theorem mem_distinct : a ∈ distinct l ↔ a ∈ l := by
  induction l with
  | nil => exact .rfl
  | cons b rest ih =>
    rw [distinct, List.mem_cons, List.mem_cons, List.mem_filter, ih, decide_eq_true_eq]
    by_cases hab : a = b
    · simp [hab]
    · simp [hab]

theorem nodup_distinct (l : List α) : (distinct l).Nodup := by
  induction l with
  | nil => exact List.nodup_nil
  | cons b rest ih =>
    rw [distinct, List.nodup_cons]
    refine ⟨fun hmem => ?_, ih.filter _⟩
    simpa using (List.mem_filter.1 hmem).2

end

/-! ## Conditions that hold -/

/-- Whether the condition of a type is there and holds. -/
def Condition.holds (cs : List Condition) (type : String) : Bool :=
  (find? cs type).any (·.isTrue)

/-! ## References -/

namespace ParentReference

variable {r : UdpRoute} {ns : String} {gateway : ObjectKey} {parent : ParentReference}
  {plans ready : List ListenerPlan}

theorem mem_targeting_iff : parent ∈ targeting r ns gateway ↔
    parent ∈ r.spec.parentRefs ∧ parent.isGateway = true ∧ parent.gatewayKey ns = gateway := by
  unfold targeting targets
  rw [mem_distinct, List.mem_filter, Bool.and_eq_true, decide_eq_true_eq]

/-- A reference that attaches to listeners attaches to some, and they are served. -/
theorem ready_of_attach {gatewayNamespace routeNamespace : String}
    (h : parent.attach plans gatewayNamespace routeNamespace = .ok ready) :
    ready ≠ [] ∧ ∀ p ∈ ready, p ∈ plans ∧ p.isReady = true := by
  unfold attach at h
  dsimp only at h
  split at h
  · cases h
  · split at h
    · cases h
    · split at h
      · cases h
      · rename_i hready
        cases h
        refine ⟨fun hnil => hready (List.isEmpty_iff.2 hnil), fun p hp => ?_⟩
        obtain ⟨hp, hpready⟩ := List.mem_filter.1 hp
        exact ⟨(List.mem_filter.1 (List.mem_filter.1 hp).1).1, hpready⟩

end ParentReference

/-! ## Reports -/

namespace ResolvedBackends

theorem type_condition (generation : Option Int64) (failures : List (String × String)) :
    (condition generation failures).type = ConditionType.resolvedRefs := by
  cases failures <;> rfl

variable (s : Snapshot) (policy : EndpointPolicy) (key : ObjectKey) (r : UdpRoute)

theorem name_cluster_ofRoute : (ofRoute s policy key r).cluster.name = key.text := by
  unfold ofRoute
  dsimp only
  split <;> rfl

theorem type_resolvedRefs_ofRoute :
    (ofRoute s policy key r).resolvedRefs.type = ConditionType.resolvedRefs := by
  unfold ofRoute
  dsimp only
  split <;> exact type_condition _ _

end ResolvedBackends

namespace RouteParentStatus

/-- Whether a report is one of a controller, about the acceptance of a reference and about its
backends. -/
structure Regular (controller : String) (e : RouteParentStatus) : Prop where
  controller : e.controllerName = controller
  types : e.conditions.map (·.type) = [ConditionType.accepted, ConditionType.resolvedRefs]

variable {controller : String} {generation : Option Int64} {parent : ParentReference}
  {status : ConditionStatus} {reason message : String} {resolvedRefs : Condition} {e : Rejection}

theorem Regular.of_report (h : resolvedRefs.type = ConditionType.resolvedRefs) :
    (report controller generation parent status reason message resolvedRefs).Regular controller where
  controller := rfl
  types := congrArg (fun t => [ConditionType.accepted, t]) h

theorem Regular.of_rejected : (rejected controller generation parent e).Regular controller :=
  .of_report rfl

end RouteParentStatus

/-! ## Attached routes -/

namespace RouteAttachment

variable {s : Snapshot} {policy : EndpointPolicy} {controller : String} {gateway key : ObjectKey}
  {plans : List ListenerPlan} {r : UdpRoute} {name : String}

theorem mem_listeners_ofRoute :
    name ∈ (ofRoute s policy controller gateway plans key r).listeners ↔
      ∃ parent ∈ ParentReference.targeting r key.namespaceText gateway, ∃ ready,
        parent.attach plans gateway.namespaceText key.namespaceText = .ok ready ∧
          ∃ p ∈ ready, p.name = name := by
  unfold ofRoute
  dsimp only
  rw [mem_distinct, List.flatMap_map, List.mem_flatMap]
  refine exists_congr fun parent => and_congr_right fun _ => ?_
  dsimp only
  split
  · rename_i ready hready
    rw [hready, List.mem_map]
    constructor
    · rintro ⟨p, hp, hname⟩
      exact ⟨ready, rfl, p, hp, hname⟩
    · rintro ⟨_, ⟨⟩, p, hp, hname⟩
      exact ⟨p, hp, hname⟩
  · rename_i e he
    rw [he]
    exact ⟨fun h => absurd h List.not_mem_nil, by rintro ⟨_, ⟨⟩, -⟩⟩

/-- A route is attached to listeners that are served. -/
theorem ready_of_mem_listeners
    (h : name ∈ (ofRoute s policy controller gateway plans key r).listeners) :
    ∃ p ∈ plans, p.isReady = true ∧ p.name = name := by
  obtain ⟨parent, -, ready, hready, p, hp, hname⟩ := mem_listeners_ofRoute.1 h
  obtain ⟨hplan, hpready⟩ := (ParentReference.ready_of_attach hready).2 p hp
  exact ⟨p, hplan, hpready, hname⟩

theorem references_ofRoute :
    (ofRoute s policy controller gateway plans key r).parents.map (·.parentRef) =
      ParentReference.targeting r key.namespaceText gateway := by
  unfold ofRoute
  dsimp only
  rw [List.map_map, List.map_map]
  refine List.map_id'' (fun parent => ?_) _
  simp only [Function.comp_apply]
  split <;> rfl

theorem regular_ofRoute {e : RouteParentStatus}
    (he : e ∈ (ofRoute s policy controller gateway plans key r).parents) : e.Regular controller := by
  obtain ⟨⟨parent, outcome⟩, -, rfl⟩ := List.mem_map.1 he
  dsimp only
  split
  · exact .of_report (ResolvedBackends.type_resolvedRefs_ofRoute s policy key r)
  · exact .of_rejected

/-- A reference of a route is accepted exactly if the route is attached to a listener. -/
theorem accepted_iff_attached :
    (∃ e ∈ (ofRoute s policy controller gateway plans key r).parents,
      Condition.holds e.conditions ConditionType.accepted = true) ↔
    ∃ name, name ∈ (ofRoute s policy controller gateway plans key r).listeners := by
  simp only [mem_listeners_ofRoute]
  constructor
  · rintro ⟨e, he, hholds⟩
    obtain ⟨⟨parent, outcome⟩, ho, rfl⟩ := List.mem_map.1 he
    obtain ⟨parent', hparent, ho⟩ := List.mem_map.1 ho
    cases ho
    dsimp only at hholds
    split at hholds
    · rename_i ready hready
      obtain ⟨p, hp⟩ := List.exists_mem_of_ne_nil _ (ParentReference.ready_of_attach hready).1
      exact ⟨p.name, parent, hparent, ready, hready, p, hp, rfl⟩
    · cases hholds
  · rintro ⟨name, parent, hparent, ready, hready, -⟩
    refine ⟨_, List.mem_map_of_mem (List.mem_map_of_mem hparent), ?_⟩
    rw [hready]
    rfl

/-! ## All routes of a gateway -/

/-- The references of the routes of a gateway to it, by route, each once. -/
def references (s : Snapshot) (gateway : ObjectKey) : List (ObjectKey × ParentReference) :=
  (s.routesForGateway gateway).flatMap fun b =>
    (ParentReference.targeting b.2 b.1.namespaceText gateway).map (b.1, ·)

theorem references_ofGateway :
    ((ofGateway s policy controller gateway plans).flatMap fun a =>
      a.parents.map (a.route, ·)).map (fun e => (e.1, e.2.parentRef)) = references s gateway := by
  unfold ofGateway references
  rw [List.flatMap_map, List.map_flatMap]
  refine List.flatMap_congr fun b _ => ?_
  have hroute : (ofRoute s policy controller gateway plans b.1 b.2).parents.map (·.parentRef) =
      ParentReference.targeting b.2 b.1.namespaceText gateway := references_ofRoute
  rw [List.map_map, ← hroute, List.map_map]
  rfl

/-- The routes that are attached to a gateway, in order. -/
theorem routes_ofGateway :
    (ofGateway s policy controller gateway plans).map (·.route) =
      (s.routesForGateway gateway).map (·.1) := by
  unfold ofGateway
  rw [List.map_map]
  rfl

end RouteAttachment

theorem references_rejectedParents {s : Snapshot} {policy : EndpointPolicy} {controller : String}
    {gateway : ObjectKey} {e : Rejection} {keepBackends : Bool} :
    (rejectedParents s policy controller gateway e keepBackends).map
      (fun e => (e.1, e.2.parentRef)) = RouteAttachment.references s gateway := by
  unfold rejectedParents RouteAttachment.references
  rw [List.map_flatMap]
  refine List.flatMap_congr fun b _ => ?_
  dsimp only
  rw [List.map_map]
  refine List.map_congr_left fun parent _ => ?_
  simp only [Function.comp_apply]
  split <;> rfl

theorem regular_rejectedParents {s : Snapshot} {policy : EndpointPolicy} {controller : String}
    {gateway : ObjectKey} {rejection : Rejection} {keepBackends : Bool}
    {e : ObjectKey × RouteParentStatus}
    (he : e ∈ rejectedParents s policy controller gateway rejection keepBackends) :
    e.2.Regular controller := by
  obtain ⟨b, -, he⟩ := List.mem_flatMap.1 he
  obtain ⟨parent, -, rfl⟩ := List.mem_map.1 he
  dsimp only
  split
  · exact .of_report (ResolvedBackends.type_resolvedRefs_ofRoute s policy b.1 b.2)
  · exact .of_rejected

end RelayFleet
