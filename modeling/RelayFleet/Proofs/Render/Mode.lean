/-
The endpoint mode: whether the ready endpoints of a service and its cluster address end up in
clusters. Nothing that is rendered depends on it but the endpoints of static clusters, and these are
the union of what either half of the mode brings in (`mode_moves_endpoints`).
-/
import RelayFleet.Proofs.Render.Modeless

namespace RelayFleet

/-! ## Endpoints of static clusters -/

section

variable (s : Snapshot)

theorem Backend.mem_addresses_iff (p : EndpointPolicy) (key : ObjectKey) (service : Service)
    {x : String} : x ∈ addresses s p key service ↔
      (p.discovery = true ∧ x ∈ addresses s ⟨true, false⟩ key service) ∨
      (p.relayToClusterIp = true ∧ x ∈ addresses s ⟨false, true⟩ key service) := by
  unfold addresses
  rcases p with ⟨_ | _, _ | _⟩ <;> simp [or_comm]

/-- A reference leads to addresses under every policy or under none. -/
theorem Backend.resolve_cases (ns : String) (r : BackendRef) :
    (∀ p, (resolve s p ns r).internal? = none) ∨
      ∃ key service, ∀ p, (resolve s p ns r).internal? = some (addresses s p key service) := by
  unfold resolve
  dsimp only
  split
  · split
    · exact .inl fun _ => rfl
    · rename_i service _
      split
      · split <;> exact .inl fun _ => rfl
      · exact .inr ⟨_, service, fun _ => rfl⟩
  · exact .inl fun _ => rfl

namespace ResolvedBackends

variable {s} {p : EndpointPolicy} {key : ObjectKey} {r : UdpRoute}

theorem mem_endpoints_iff (hstatic : (ofRoute s p key r).cluster.type = .static) {x : String} :
    x ∈ (ofRoute s p key r).cluster.endpoints ↔ ∃ ref ∈ r.backendRefs, ∃ l,
      (Backend.resolve s p key.namespaceText ref).internal? = some l ∧ x ∈ l := by
  unfold ofRoute at hstatic ⊢
  dsimp only at hstatic ⊢
  split at hstatic
  · cases hstatic
  · rename_i hmixed
    rw [if_neg hmixed]
    refine SortedSet.mem_ofList.trans ?_
    simp only [List.mem_flatten, List.mem_filterMap, List.mem_map]
    constructor
    · rintro ⟨l, ⟨_, ⟨ref, href, rfl⟩, hl⟩, hx⟩
      exact ⟨ref, href, l, hl, hx⟩
    · rintro ⟨ref, href, l, hl, hx⟩
      exact ⟨l, ⟨_, ⟨ref, href, rfl⟩, hl⟩, hx⟩

theorem type_ofRoute (s : Snapshot) (p q : EndpointPolicy) (key : ObjectKey) (r : UdpRoute) :
    (ofRoute s p key r).cluster.type = (ofRoute s q key r).cluster.type := by
  have htype : ∀ b : ResolvedBackends, b.unaddressed.cluster.type = b.cluster.type := by
    intro b
    unfold unaddressed ClusterConfig.unaddressed
    dsimp only
    split <;> rfl
  rw [← htype, unaddressed_ofRoute s p q, htype]

/-- The endpoints of a static cluster are those that either half of the policy brings in. -/
theorem mem_endpoints_iff_halves (hstatic : (ofRoute s p key r).cluster.type = .static)
    {x : String} : x ∈ (ofRoute s p key r).cluster.endpoints ↔
      (p.discovery = true ∧ x ∈ (ofRoute s ⟨true, false⟩ key r).cluster.endpoints) ∨
      (p.relayToClusterIp = true ∧ x ∈ (ofRoute s ⟨false, true⟩ key r).cluster.endpoints) := by
  have hall : ∀ q, (ofRoute s q key r).cluster.type = .static := fun q =>
    (type_ofRoute s q p key r).trans hstatic
  rw [mem_endpoints_iff (hall p), mem_endpoints_iff (hall _), mem_endpoints_iff (hall _)]
  -- every reference brings in what it does under either half
  have href : ∀ ref, (∃ l, (Backend.resolve s p key.namespaceText ref).internal? = some l ∧ x ∈ l) ↔
      (p.discovery = true ∧ ∃ l,
        (Backend.resolve s ⟨true, false⟩ key.namespaceText ref).internal? = some l ∧ x ∈ l) ∨
      (p.relayToClusterIp = true ∧ ∃ l,
        (Backend.resolve s ⟨false, true⟩ key.namespaceText ref).internal? = some l ∧ x ∈ l) := by
    intro ref
    rcases Backend.resolve_cases s key.namespaceText ref with hnone | ⟨service, o, hsome⟩
    · simp [hnone]
    · simp only [hsome, Option.some.injEq, exists_eq_left']
      exact Backend.mem_addresses_iff s p service o
  simp only [href, and_or_left, exists_or]
  refine or_congr ?_ ?_ <;>
  exact ⟨fun ⟨ref, hmem, hflag, h⟩ => ⟨hflag, ref, hmem, h⟩,
    fun ⟨hflag, ref, hmem, h⟩ => ⟨ref, hmem, hflag, h⟩⟩

end ResolvedBackends

end

/-! ## Clusters of a gateway -/

/-- The mode that is in effect for a gateway: that of its class, and where the class leaves it open,
that of the settings. Only a class that is accepted has one. -/
def Settings.mode? (settings : Settings) (s : Snapshot) (key : ObjectKey) :
    Option EndpointPolicy := do
  let g ← s.gateway? key
  let c ← s.gatewayClass? g.spec.gatewayClassName
  let params ← (ClassCheck.ofClass s c).params
  return settings.policy (some params)

theorem Settings.mode?_of_params (settings : Settings) {s : Snapshot} {key : ObjectKey}
    {g : Gateway} {c : GatewayClass} {params : GatewayConfig} (hg : s.gateway? key = some g)
    (hc : s.gatewayClass? g.spec.gatewayClassName = some c)
    (hparams : (ClassCheck.ofClass s c).params = some params) :
    settings.mode? s key = some (settings.policy (some params)) := by
  unfold mode?
  rw [hg, Option.bind_eq_bind, Option.bind_some, hc]
  rw [Option.bind_eq_bind, Option.bind_some, hparams]
  rfl

namespace GatewayOutput

variable {settings : Settings} {s : Snapshot} {key : ObjectKey} {g : Gateway}
  {output : GatewayOutput}

/-- The routes that are attached to a listener of a gateway, in the order of their clusters. -/
def servedRoutes (controller : String) (s : Snapshot) (key : ObjectKey) (g : Gateway) :
    List (ObjectKey × UdpRoute) :=
  Document.sortByName (·.1.text) ((s.routesForGateway key).filter fun b =>
    ! (RouteAttachment.ofRoute s default controller key (ListenerPlan.ofGateway s key g)
      b.1 b.2).listeners.isEmpty)

theorem servedRoutes_modeless (controller : String) :
    servedRoutes controller s.modeless key g = servedRoutes controller s key g := by
  unfold servedRoutes
  rw [s.routesForGateway_modeless, ListenerPlan.ofGateway_modeless]
  rfl

/-- The clusters that an active gateway contributes are those of the routes that it serves. -/
theorem clusters_contribution (params : GatewayConfig) :
    (contribution settings s key g params).clusters =
      (servedRoutes settings.controllerName s key g).map fun b =>
        (ResolvedBackends.ofRoute s (settings.policy (some params)) b.1 b.2).cluster := by
  unfold contribution document Document.normalize attached RouteAttachment.ofGateway servedRoutes
  dsimp only
  rw [Document.map_sortByName ClusterConfig.name fun b =>
    ResolvedBackends.name_cluster_ofRoute _ _ _ _, List.filter_map, List.map_map]
  rfl

theorem active_of_ofChecked {check : Option ClassCheck}
    (h : ofChecked settings s key g check = .ok output) (hactive : output.render.state = .active) :
    ∃ c params, check = some c ∧ c.params = some params ∧
      active settings s key g params = .ok output := by
  unfold ofChecked at h
  dsimp only at h
  split at h
  · cases h
    cases hactive
  · split at h
    · cases h
      cases hactive
    · rename_i c
      split at h
      · rename_i params hparams
        split at h
        · exact ⟨c, params, rfl, hparams, h⟩
        · cases h
          cases hactive
      · cases h
        cases hactive

/-- The class of a gateway that is rendered active is accepted. -/
theorem active_of_renderGateway (h : renderGateway settings s key = .ok (some output))
    (hactive : output.render.state = .active) : ∃ g c params, s.gateway? key = some g ∧
      s.gatewayClass? g.spec.gatewayClassName = some c ∧
      (ClassCheck.ofClass s c).params = some params ∧
      active settings s key g params = .ok output := by
  obtain ⟨g, hg, hchecked⟩ := checked_of_renderGateway h
  obtain ⟨check, params, hcheck, hparams, ha⟩ := active_of_ofChecked hchecked hactive
  obtain ⟨c, hc, rfl⟩ := Option.map_eq_some_iff.1 hcheck
  exact ⟨g, c, params, hg, hc, hparams, ha⟩

theorem clusters_of_mode? {d : Document} {p : EndpointPolicy}
    (h : renderGateway settings s key = .ok (some output)) (hd : output.render.config = some d)
    (hp : settings.mode? s key = some p) (hg : s.gateway? key = some g) :
    d.clusters = (servedRoutes settings.controllerName s key g).map fun b =>
      (ResolvedBackends.ofRoute s p b.1 b.2).cluster := by
  obtain ⟨g', c, params, hg', hc, hparams, hactive⟩ :=
    active_of_renderGateway h (active_of_config h hd)
  cases hg.symm.trans hg'
  cases hp.symm.trans (settings.mode?_of_params hg hc hparams)
  cases hd.symm.trans (served_of_active hactive).config
  exact clusters_contribution params

end GatewayOutput

/-! ## Controllers that differ in the mode -/

/-- A controller: its settings, and what its store was told of. -/
structure Controller where
  settings : Settings
  events : List StoreEvent

namespace Controller

/-- The snapshot of a controller's store. -/
def snapshot (c : Controller) : Snapshot := (Store.ofEvents c.events).snapshot

/-- What a controller renders. -/
def sweep (c : Controller) : Sweep := .ofSnapshot c.settings c.snapshot

/-- Whether controllers differ in nothing but the endpoint mode: that of settings objects, whose
versions may differ too, and the one that classes have by default. -/
structure SameButMode (c d : Controller) : Prop where
  settings : c.settings.modeless = d.settings.modeless
  generation : c.snapshot.generation = d.snapshot.generation
  objects : ∀ r, (c.snapshot.get? r).map Object.modeless = (d.snapshot.get? r).map Object.modeless

variable {c d : Controller}

theorem SameButMode.snapshot (h : c.SameButMode d) : c.snapshot.modeless = d.snapshot.modeless :=
  Snapshot.mapObjects_congr (Store.indexed_ofEvents c.events) (Store.indexed_ofEvents d.events)
    h.generation h.objects (fun o => by cases o <;> rfl) fun o => by cases o <;> rfl

/-- The cluster at a place of a gateway's document is that of the same route in controllers that
differ in the mode only. -/
theorem SameButMode.route_of_cluster {key : ObjectKey} {i : Nat} {run : EndpointPolicy → Controller}
    {docs : EndpointPolicy → Document} {clusters : EndpointPolicy → ClusterConfig}
    (h : ∀ p, c.SameButMode (run p))
    (hmode : ∀ p, (run p).settings.mode? (run p).snapshot key = some p)
    (hdocs : ∀ p, ((run p).sweep.gateways.get? key).bind (·.config) = some (docs p))
    (hclusters : ∀ p, (docs p).clusters[i]? = some (clusters p)) :
    ∃ k r, ∀ p, clusters p = (ResolvedBackends.ofRoute c.snapshot.modeless p k r).cluster := by
  -- in each of the controllers the cluster is that of a route of the gateway, at the same place
  have hplace : ∀ p, ∃ g, c.snapshot.modeless.gateway? key = some g ∧ ∃ b,
      (GatewayOutput.servedRoutes c.settings.controllerName c.snapshot.modeless key g)[i]? =
        some b ∧
      clusters p = (ResolvedBackends.ofRoute c.snapshot.modeless p b.1 b.2).cluster := by
    intro p
    obtain ⟨render, hrender, hconfig⟩ := Option.bind_eq_some_iff.1 (hdocs p)
    obtain ⟨output, -, ho, rfl⟩ := Sweep.render_of_get? hrender
    obtain ⟨g, hg, -⟩ := renderGateway_cases ho
    have hlisted := GatewayOutput.clusters_of_mode? ho hconfig (hmode p) hg
    have hsettings : (run p).settings.controllerName = c.settings.controllerName :=
      (congrArg Settings.controllerName (h p).settings).symm
    have hbackends : ∀ k r, ResolvedBackends.ofRoute (run p).snapshot p k r =
        ResolvedBackends.ofRoute c.snapshot.modeless p k r := by
      intro k r
      rw [(h p).snapshot, ResolvedBackends.ofRoute_modeless]
    rw [← GatewayOutput.servedRoutes_modeless, ← (h p).snapshot, hsettings] at hlisted
    rw [← Snapshot.gateway?_modeless, ← (h p).snapshot] at hg
    have hcluster := hclusters p
    rw [hlisted, List.getElem?_map, Option.map_eq_some_iff] at hcluster
    obtain ⟨b, hb, hcluster⟩ := hcluster
    exact ⟨g, hg, b, hb, by rw [← hcluster, hbackends]⟩
  obtain ⟨g, hg, b, hb, -⟩ := hplace default
  refine ⟨b.1, b.2, fun p => ?_⟩
  obtain ⟨g', hg', b', hb', hp⟩ := hplace p
  cases hg.symm.trans hg'
  cases hb.symm.trans hb'
  exact hp

/-- Controllers that differ in the mode only render the same up to the endpoints of static clusters.
And where four of them have the four modes in effect for a gateway, a static cluster of its document
has, with both halves of the mode on, the endpoints that it has with either of them, and none with
both off. -/
theorem mode_moves_endpoints (c : Controller) :
    (∀ d, c.SameButMode d → c.sweep.unaddressed = d.sweep.unaddressed) ∧
    ∀ (run : EndpointPolicy → Controller) (key : ObjectKey) (docs : EndpointPolicy → Document)
      (i : Nat) (clusters : EndpointPolicy → ClusterConfig),
      (∀ p, c.SameButMode (run p)) →
      (∀ p, (run p).settings.mode? (run p).snapshot key = some p) →
      (∀ p, ((run p).sweep.gateways.get? key).bind (·.config) = some (docs p)) →
      (∀ p, (docs p).clusters[i]? = some (clusters p)) →
      ∀ p, (clusters p).type = .static →
        (clusters ⟨true, true⟩).endpoints =
          (clusters ⟨true, false⟩).endpoints.union (clusters ⟨false, true⟩).endpoints ∧
        (clusters ⟨false, false⟩).endpoints = ∅ := by
  refine ⟨fun d h => ?_, fun run key docs i clusters h hmode hdocs hclusters p hp => ?_⟩
  · unfold sweep
    rw [Sweep.unaddressed_ofSnapshot, Sweep.unaddressed_ofSnapshot d.settings, h.settings,
      h.snapshot]
  · obtain ⟨k, r, hroute⟩ := SameButMode.route_of_cluster h hmode hdocs hclusters
    have hstatic : ∀ q, (ResolvedBackends.ofRoute c.snapshot.modeless q k r).cluster.type =
        .static := by
      intro q
      rw [ResolvedBackends.type_ofRoute _ q p, ← hroute p]
      exact hp
    simp only [hroute]
    constructor
    · refine SortedSet.ext_mem fun x => ?_
      rw [SortedSet.mem_union, ResolvedBackends.mem_endpoints_iff_halves (hstatic _)]
      simp
    · refine SortedSet.ext_mem fun x => ?_
      rw [ResolvedBackends.mem_endpoints_iff_halves (hstatic _)]
      simp [SortedSet.not_mem_empty]

/-- A gateway whose class has this mode, and a route of it to a service with a cluster address and
a ready endpoint. -/
def withMode (p : EndpointPolicy) : Controller where
  settings := {}
  events := Store.fleetEvents ++ [
    .upsert (.service {
      metadata := { name := some "media", inNamespace := some "a" }
      spec := some { clusterIp := some "10.96.0.9" } }),
    .upsert (.endpointSlice {
      metadata := {
        name := some "media-1", inNamespace := some "a"
        labels := some (.ofList [(EndpointSlice.serviceLabel, "media")]) }
      endpoints := [{ addresses := ["10.1.0.5"] }] }),
    .upsert (.gatewayConfig {
      metadata := { name := some "cfg", inNamespace := some "sys" }
      spec := {
        endpointDiscovery := some p.discovery, relayToClusterIp := some p.relayToClusterIp } })]

theorem sameButMode_withMode (p q : EndpointPolicy) : (withMode p).SameButMode (withMode q) := by
  have hgeneration : ∀ a b, (withMode ⟨a, b⟩).snapshot.generation = 9 := by decide +kernel
  have hobjects : ∀ a b, (withMode ⟨a, b⟩).snapshot.objects.map Object.modeless =
      (withMode ⟨true, true⟩).snapshot.objects.map Object.modeless := by
    decide +kernel
  refine ⟨rfl, (hgeneration ..).trans (hgeneration ..).symm, fun r => ?_⟩
  have hsame := (hobjects p.1 p.2).trans (hobjects q.1 q.2).symm
  have hfound := congrArg (SortedMap.get? · r) hsame
  rwa [SortedMap.get?_map, SortedMap.get?_map] at hfound

/-- The cluster of that route has the ready endpoint under one half of the mode and the address of
the service under the other. -/
theorem mode_moves_endpoints_for_media :
    (withMode ⟨true, false⟩).sweep.unaddressed = (withMode ⟨false, true⟩).sweep.unaddressed ∧
    ∃ clusters : EndpointPolicy → ClusterConfig,
      (∀ p, (((withMode p).sweep.gateways.get? (.namespaced "a" "g")).bind (·.config)).bind
        (·.clusters[0]?) = some (clusters p)) ∧
      (clusters ⟨true, false⟩).endpoints.toList = ["10.1.0.5"] ∧
      (clusters ⟨false, true⟩).endpoints.toList = ["10.96.0.9"] ∧
      (clusters ⟨true, true⟩).endpoints =
        (clusters ⟨true, false⟩).endpoints.union (clusters ⟨false, true⟩).endpoints ∧
      (clusters ⟨false, false⟩).endpoints = ∅ := by
  have hmode : ∀ a b, (withMode ⟨a, b⟩).settings.mode? (withMode ⟨a, b⟩).snapshot
      (.namespaced "a" "g") = some ⟨a, b⟩ := by
    decide +kernel
  have hstatic : ∀ a b, ((((withMode ⟨a, b⟩).sweep.gateways.get? (.namespaced "a" "g")).bind
      (·.config)).bind (·.clusters[0]?)).any (·.type = .static) = true := by
    decide +kernel
  have hcluster : ∀ p, ∃ d cluster,
      ((withMode p).sweep.gateways.get? (.namespaced "a" "g")).bind (·.config) = some d ∧
      d.clusters[0]? = some cluster ∧ cluster.type = .static := by
    intro p
    obtain ⟨cluster, hfound, htype⟩ := (Option.any_eq_true _ _).1 (hstatic p.1 p.2)
    obtain ⟨d, hd, hplace⟩ := Option.bind_eq_some_iff.1 hfound
    exact ⟨d, cluster, hd, hplace, of_decide_eq_true htype⟩
  choose docs clusters hdocs hclusters htype using hcluster
  have hfound : ∀ p, (((withMode p).sweep.gateways.get? (.namespaced "a" "g")).bind
      (·.config)).bind (·.clusters[0]?) = some (clusters p) := by
    intro p
    rw [hdocs, Option.bind_some, hclusters]
  -- the endpoints are computed from the sweep
  have hlisted : ∀ {p l}, ((((withMode p).sweep.gateways.get? (.namespaced "a" "g")).bind
      (·.config)).bind (·.clusters[0]?)).map (·.endpoints.toList) = some l →
      (clusters p).endpoints.toList = l := by
    intro p l h
    rw [hfound] at h
    exact Option.some.inj h
  obtain ⟨hsame, hendpoints⟩ := mode_moves_endpoints (withMode ⟨true, false⟩)
  obtain ⟨hboth, hneither⟩ := hendpoints withMode (.namespaced "a" "g") docs 0 clusters
    (sameButMode_withMode _) (fun p => hmode p.1 p.2) hdocs hclusters ⟨true, true⟩ (htype _)
  exact ⟨hsame _ (sameButMode_withMode _ _), clusters, hfound, hlisted (by decide +kernel),
    hlisted (by decide +kernel), hboth, hneither⟩

end Controller

end RelayFleet
