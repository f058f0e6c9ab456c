/-
What a sweep says about the references of a route. Every gateway in our charge reports on the
references to it, and what they report is put together by route: nothing is lost on the way, nothing
is said twice, and nothing is said about gateways that are there and not in our charge
(`status_accounts`).
-/
import RelayFleet.Proofs.Render.Regular
import RelayFleet.Proofs.Render.Document

namespace RelayFleet

/-- Whether a gateway is in our charge: a rendering of it comes to something. -/
def Managed (settings : Settings) (s : Snapshot) (gateway : ObjectKey) : Prop :=
  ∃ output, renderGateway settings s gateway = .ok (some output)

/-- Whether a report says of its reference, in both of its conditions, that there is no such
parent. -/
def RouteParentStatus.Unmatched (e : RouteParentStatus) : Prop :=
  e.conditions.map (·.type) = [ConditionType.accepted, ConditionType.resolvedRefs] ∧
    ∀ c ∈ e.conditions, c.status = .false ∧ c.reason = Reason.noMatchingParent

/-- Whether reports are what there is to be said about the references of a route: one for each
reference to a gateway that is in our charge, which is what that gateway reports, and one for each
reference to a gateway that is not there. -/
structure UdpRoute.Accounts (settings : Settings) (s : Snapshot) (k : ObjectKey) (r : UdpRoute)
    (reports : List RouteParentStatus) : Prop where
  once : (reports.map (·.parentRef)).Nodup
  ours : ∀ e ∈ reports, e.controllerName = settings.controllerName
  references : ∀ p, p ∈ reports.map (·.parentRef) ↔
    p ∈ r.spec.parentRefs ∧ p.isGateway = true ∧
      (Managed settings s (p.gatewayKey k.namespaceText) ∨
        s.gateway? (p.gatewayKey k.namespaceText) = none)
  managed : ∀ e ∈ reports, ∀ output,
    renderGateway settings s (e.parentRef.gatewayKey k.namespaceText) = .ok (some output) →
      (k, e) ∈ output.routeParents
  missing : ∀ e ∈ reports, s.gateway? (e.parentRef.gatewayKey k.namespaceText) = none →
    e.Unmatched

namespace Sweep

variable {settings : Settings} {s : Snapshot} {k : ObjectKey} {r : UdpRoute}
  {p : ParentReference} {e : RouteParentStatus}

/-! ## References that are reported on -/

theorem namespaceText_of_route? (h : s.Indexed) (hr : s.route? k = some r) :
    r.metadata.inNamespace.getD "" = k.namespaceText := by
  have hown : r.metadata.key = k :=
    congrArg ResourceKey.key (h.own _ _ (Snapshot.route?_eq_some_iff.1 hr))
  rw [← hown]
  rfl

/-- The references of a route to a gateway are those that the gateway looks at. -/
theorem mem_references_of_route? (h : s.Indexed) (hr : s.route? k = some r) {gateway : ObjectKey} :
    (k, p) ∈ RouteAttachment.references s gateway ↔
      p ∈ r.spec.parentRefs ∧ p.isGateway = true ∧ p.gatewayKey k.namespaceText = gateway := by
  rw [RouteAttachment.mem_references_iff]
  constructor
  · rintro ⟨r', hr', hp⟩
    have hsame := (h.mem_routesForGateway_iff.1 hr').1
    cases hr.symm.trans hsame
    exact ParentReference.mem_targeting_iff.1 hp
  · rintro hp
    have hparent : gateway ∈ r.parentGateways :=
      Snapshot.mem_parentGateways_iff.2 ⟨p, hp.1, hp.2.1, by
        rw [namespaceText_of_route? h hr]
        exact hp.2.2⟩
    exact ⟨r, h.mem_routesForGateway_iff.2 ⟨hr, hparent⟩, ParentReference.mem_targeting_iff.2 hp⟩

/-- The reports of rendered gateways about a route are those about its references to them. -/
theorem mem_reported_references_iff (h : s.Indexed) (hr : s.route? k = some r) :
    p ∈ (reported (outputs settings s) k).map (·.parentRef) ↔
      p ∈ r.spec.parentRefs ∧ p.isGateway = true ∧
        Managed settings s (p.gatewayKey k.namespaceText) := by
  rw [List.mem_map]
  constructor
  · rintro ⟨e, he, rfl⟩
    obtain ⟨⟨gateway, output⟩, ho, hmem⟩ := mem_reported_iff.1 he
    have hrender : renderGateway settings s gateway = .ok (some output) := (mem_outputs ho).2
    have href : (k, e.parentRef) ∈ RouteAttachment.references s gateway := by
      rw [← references_of_renderGateway hrender]
      exact List.mem_map_of_mem hmem
    obtain ⟨hp, hkind, hkey⟩ := (mem_references_of_route? h hr).1 href
    exact ⟨hp, hkind, output, hkey ▸ hrender⟩
  · rintro ⟨hp, hkind, output, hrender⟩
    have href : (k, p) ∈ RouteAttachment.references s (p.gatewayKey k.namespaceText) :=
      (mem_references_of_route? h hr).2 ⟨hp, hkind, rfl⟩
    rw [← references_of_renderGateway hrender, List.mem_map] at href
    obtain ⟨⟨k', e⟩, hmem, he⟩ := href
    cases he
    exact ⟨e, mem_reported_iff.2 ⟨_, mem_outputs_of_renderGateway hrender, hmem⟩, rfl⟩

/-- A report about a reference to a gateway in our charge is one of that gateway. -/
theorem mem_routeParents_of_reported (he : e ∈ reported (outputs settings s) k)
    {output : GatewayOutput}
    (hrender : renderGateway settings s (e.parentRef.gatewayKey k.namespaceText) =
      .ok (some output)) : (k, e) ∈ output.routeParents := by
  obtain ⟨⟨gateway, output'⟩, ho, hmem⟩ := mem_reported_iff.1 he
  have hrender' : renderGateway settings s gateway = .ok (some output') := (mem_outputs ho).2
  have href : (k, e.parentRef) ∈ RouteAttachment.references s gateway := by
    rw [← references_of_renderGateway hrender']
    exact List.mem_map_of_mem hmem
  have hkey : e.parentRef.gatewayKey k.namespaceText = gateway :=
    RouteAttachment.gatewayKey_of_mem_references href
  rw [hkey] at hrender
  cases hrender.symm.trans hrender'
  exact hmem

theorem mem_missing_references_iff :
    p ∈ (missingParents settings s k r).map (·.parentRef) ↔
      p ∈ r.spec.parentRefs ∧ p.isGateway = true ∧
        s.gateway? (p.gatewayKey k.namespaceText) = none := by
  have hrefs : (missingParents settings s k r).map (·.parentRef) =
      distinct (r.spec.parentRefs.filter fun p =>
        p.isGateway && (s.gateway? (p.gatewayKey k.namespaceText)).isNone) := by
    unfold missingParents
    rw [List.map_map]
    exact List.map_id _
  rw [hrefs, mem_distinct, List.mem_filter, Bool.and_eq_true, Option.isNone_iff_eq_none]

theorem unmatched_of_mem_missing (he : e ∈ missingParents settings s k r) : e.Unmatched := by
  obtain ⟨p, -, rfl⟩ := List.mem_map.1 he
  refine ⟨rfl, fun c hc => ?_⟩
  rcases List.mem_pair.1 hc with rfl | rfl
  · exact ⟨rfl, rfl⟩
  · exact ⟨rfl, rfl⟩

/-- What is reported about a route and its missing gateways accounts for its references. -/
theorem accounts (h : s.Indexed) (hr : s.route? k = some r) :
    r.Accounts settings s k
      (reported (outputs settings s) k ++ missingParents settings s k r) where
  once := (regular_routeStatus r).1
  ours e he := ((regular_routeStatus r).2 e he).1
  references p := by
    rw [List.map_append, List.mem_append, mem_reported_references_iff h hr,
      mem_missing_references_iff, ← and_or_left, ← and_or_left]
  managed e he output hrender := by
    rcases List.mem_append.1 he with he | he
    · exact mem_routeParents_of_reported he hrender
    · -- a gateway that was rendered is there
      obtain ⟨g, hg, -⟩ := renderGateway_cases hrender
      have hnone := (of_mem_missingParents he).2
      rw [hg] at hnone
      cases hnone
  missing e he hnone := by
    rcases List.mem_append.1 he with he | he
    · have hsome := (of_mem_reported he).2
      rw [hnone] at hsome
      cases hsome
    · exact unmatched_of_mem_missing he

/-! ## Routes that are reported on -/

theorem reported_ne_nil_iff (h : s.Indexed) (hr : s.route? k = some r) :
    reported (outputs settings s) k ≠ [] ↔
      ∃ gateway ∈ r.parentGateways, Managed settings s gateway := by
  constructor
  · intro hne
    obtain ⟨e, he⟩ := List.exists_mem_of_ne_nil _ hne
    obtain ⟨hp, hkind, hmanaged⟩ :=
      (mem_reported_references_iff h hr).1 (List.mem_map_of_mem (f := (·.parentRef)) he)
    rw [← namespaceText_of_route? h hr] at hmanaged
    exact ⟨_, Snapshot.mem_parentGateways_iff.2 ⟨_, hp, hkind, rfl⟩, hmanaged⟩
  · rintro ⟨gateway, hgateway, hmanaged⟩ hnil
    obtain ⟨p, hp, hkind, rfl⟩ := Snapshot.mem_parentGateways_iff.1 hgateway
    rw [namespaceText_of_route? h hr] at hmanaged
    have hmem := (mem_reported_references_iff h hr).2 ⟨hp, hkind, hmanaged⟩
    rw [hnil] at hmem
    cases hmem

/-- Whatever a store was told, a route has a status in the sweep exactly if it refers to a gateway
in our charge or has been reported on before, and that status accounts for its references. -/
theorem status_accounts (settings : Settings) (events : List StoreEvent) {k : ObjectKey}
    {r : UdpRoute} (hr : (Store.ofEvents events).snapshot.route? k = some r) :
    let s := (Store.ofEvents events).snapshot
    let statuses := (ofSnapshot settings s).statuses
    ((∃ status, statuses.get? (.udpRoute k) = some status) ↔
      (∃ gateway ∈ r.parentGateways, Managed settings s gateway) ∨
        r.reportedBy settings.controllerName = true) ∧
    ∀ status, statuses.get? (.udpRoute k) = some status →
      ∃ reports, status = .udpRoute { parents := reports } ∧ r.Accounts settings s k reports := by
  intro s statuses
  have hs : s.Indexed := Store.indexed_ofEvents events
  have hstatus : ∀ status, statuses.get? (.udpRoute k) = some status ↔
      ((∃ gateway ∈ r.parentGateways, Managed settings s gateway) ∨
        r.reportedBy settings.controllerName = true) ∧
      status = .udpRoute
        { parents := reported (outputs settings s) k ++ missingParents settings s k r } := by
    intro status
    rw [get?_statuses_route_iff, ← reported_ne_nil_iff hs hr]
    constructor
    · rintro ⟨r', _, hr', hroute, rfl⟩
      cases hr.symm.trans hr'
      obtain ⟨-, hwhy, rfl⟩ := routeStatus?_eq_some_iff.1 hroute
      exact ⟨hwhy, rfl⟩
    · rintro ⟨hwhy, rfl⟩
      refine ⟨r, _, hr, routeStatus?_eq_some_iff.2 ⟨?_, hwhy, rfl⟩, rfl⟩
      -- no rendering fails, so none of the route's gateways has failed
      rw [failed_eq_nil]
      exact List.any_eq_false.2 fun _ _ => by simp
  refine ⟨⟨fun ⟨status, h⟩ => ((hstatus status).1 h).1, fun h => ⟨_, (hstatus _).2 ⟨h, rfl⟩⟩⟩,
    fun status h => ⟨_, ((hstatus status).1 h).2, accounts hs hr⟩⟩

/-! ### A route with references of all sorts -/

/-- A route that refers to a gateway twice and to one of its listeners, to a gateway of nobody's
class, to one that is not there, and to a service. -/
def mixedRoute : UdpRoute where
  metadata := { name := some "mixed", inNamespace := some "a" }
  spec := {
    parentRefs := [
      { name := "stray" }, { name := "g" }, { name := "ghost" }, { name := "g" },
      { name := "g", sectionName := some "udp" }, { name := "g", kind := some "Service" }] }

/-- A store with a gateway in our charge, one that is not, and that route only. -/
def mixedEvents : List StoreEvent := Store.fleetEvents ++ [
  .delete (.udpRoute (.namespaced "a" "r")),
  .upsert (.gateway {
    metadata := { name := some "stray", inNamespace := some "a" }
    spec := { gatewayClassName := "unknown" } }),
  .upsert (.udpRoute mixedRoute)]

/-- The references that a status speaks of. -/
def statusReferences : ResourceStatus → List ParentReference
  | .udpRoute status => status.parents.map (·.parentRef)
  | .gatewayClass _ | .gateway _ => []

/-- The two references to the gateway in our charge are reported on, and the missing gateway. -/
theorem status_accounts_for_mixedRoute :
    let s := (Store.ofEvents mixedEvents).snapshot
    ∃ reports, (ofSnapshot {} s).statuses.get? (.udpRoute (.namespaced "a" "mixed")) =
        some (.udpRoute { parents := reports }) ∧
      mixedRoute.Accounts {} s (.namespaced "a" "mixed") reports ∧
      reports.map (·.parentRef) =
        [{ name := "g" }, { name := "g", sectionName := some "udp" }, { name := "ghost" }] := by
  intro s
  have hroute : s.route? (.namespaced "a" "mixed") = some mixedRoute := by decide +kernel
  have hreferences :
      ((ofSnapshot {} s).statuses.get? (.udpRoute (.namespaced "a" "mixed"))).map statusReferences =
      some [{ name := "g" }, { name := "g", sectionName := some "udp" }, { name := "ghost" }] := by
    decide +kernel
  obtain ⟨status, hstatus, hlisted⟩ := Option.map_eq_some_iff.1 hreferences
  obtain ⟨-, haccounts⟩ := status_accounts {} mixedEvents hroute
  obtain ⟨reports, rfl, hreports⟩ := haccounts status hstatus
  exact ⟨reports, hstatus, hreports, hlisted⟩

end Sweep

end RelayFleet
