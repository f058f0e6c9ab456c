/-
Active gateways: what their rendering is put together from (`served_of_active`), and what holds of
the document that they contribute (`renders_wellFormed`).
-/
import RelayFleet.Proofs.Render.Document

namespace RelayFleet

/-! ## Plain names -/

/-- Whether no route has a slash in its namespace, as the API server sees to it. -/
def Snapshot.PlainRoutes (s : Snapshot) : Prop :=
  ∀ k ∈ s.keys .udpRoute, '/' ∉ k.namespaceText.toList

instance (s : Snapshot) : Decidable s.PlainRoutes :=
  inferInstanceAs (Decidable (∀ k ∈ s.keys .udpRoute, '/' ∉ k.namespaceText.toList))

/-- Where no namespace has a slash, the texts of their keys tell the routes of a snapshot apart. -/
theorem Snapshot.PlainRoutes.eq_of_text {s : Snapshot} (h : s.PlainRoutes) (hs : s.Indexed)
    {k k' : ObjectKey} {r r' : UdpRoute} (hr : s.route? k = some r) (hr' : s.route? k' = some r')
    (he : k.text = k'.text) : k = k' := by
  have hplain : ∀ {k r}, s.route? k = some r →
      k.inNamespace = some k.namespaceText ∧ '/' ∉ k.namespaceText.toList := by
    intro k r hr
    have hget := route?_eq_some_iff.1 hr
    exact ⟨hs.inNamespace hget rfl, h k (mem_keys_iff.2 ⟨_, hget⟩)⟩
  exact ObjectKey.eq_of_text (hplain hr).1 (hplain hr').1 (hplain hr).2 (hplain hr').2 he

/-! ## Public addresses -/

namespace PublicAddress

variable {s : Snapshot} {key : ObjectKey} {g : Gateway} {a : PublicAddress}

/-- The public address of a gateway has no node ports but those of the gateway's service. -/
theorem nodePorts_ofGateway? (h : ofGateway? s key g = some a) {b : (String × UInt16) × UInt16}
    (hb : b ∈ a.nodePorts) : ∃ service, s.service? key = some service ∧ b ∈ nodePortsOf service := by
  unfold ofGateway? at h
  split at h
  · cases h
    cases hb
  · obtain ⟨service, hservice, h⟩ := Option.bind_eq_some_iff.1 h
    refine ⟨service, hservice, ?_⟩
    unfold ofService? at h
    split at h
    · rename_i a' ha'
      cases h
      obtain ⟨i, -, hi⟩ := List.exists_of_findSome?_eq_some ha'
      unfold ofIngress? at hi
      split at hi
      · cases hi
        cases hb
      · cases hi
        cases hb
      · cases hi
    · split at h
      · obtain ⟨a', -, rfl⟩ := Option.map_eq_some_iff.1 h
        exact hb
      · cases h

/-- Clients use the port of a listener itself, or a node port. -/
theorem publicPort_cases (a : PublicAddress) (protocol : Protocol) (port : UInt16) :
    a.publicPort protocol port = port ∨ ∃ b ∈ a.nodePorts, a.publicPort protocol port = b.2 := by
  unfold publicPort
  rcases hfound : a.nodePorts.reverse.find? (·.1 = (protocol.transport.text, port)) with - | b
  · rw [hfound]
    exact .inl rfl
  · rw [hfound]
    exact .inr ⟨b, List.mem_reverse.1 (List.mem_of_find?_eq_some hfound), rfl⟩

end PublicAddress

/-! ## The parts of a rendering -/

namespace GatewayOutput

section

variable (settings : Settings) (s : Snapshot) (key : ObjectKey) (g : Gateway)
  (params : GatewayConfig)

/-- The routes that refer to an active gateway, with the listeners they are attached to. -/
def attached : List RouteAttachment :=
  RouteAttachment.ofGateway s (settings.policy (some params)) settings.controllerName key
    (ListenerPlan.ofGateway s key g)

/-- What an active gateway contributes. -/
def contribution : Document :=
  document key (PublicAddress.ofGateway? s key g) (ListenerPlan.ofGateway s key g)
    (attached settings s key g params)

/-- The relay template of an active gateway, if it exists. -/
def template? : Option Dataplane :=
  s.dataplane? (params.spec.dataplane.getD settings.defaultDataplane)

/-- What the rendering of an active gateway is put together from. -/
structure Served (output : GatewayOutput) : Prop where
  config : output.render.config = some (contribution settings s key g params)
  workload : output.render.workload.isSome = (template? settings s params).isSome
  ports : ∀ w, output.render.workload = some w →
    w.ports = workloadPorts (ListenerPlan.ofGateway s key g)
  addresses : output.status.addresses =
    (PublicAddress.ofGateway? s key g).toList.map (·.reported)
  conditions : output.status.conditions = [
    Condition.of g.metadata.generation ConditionType.accepted .true Reason.accepted
      "gateway accepted",
    programmed g (params.spec.dataplane.getD settings.defaultDataplane)
      (template? settings s params).isSome (PublicAddress.ofGateway? s key g)]
  listeners : output.status.listeners = (ListenerPlan.ofGateway s key g).map fun p =>
    p.status ((attached settings s key g params).filter (·.isOn p.name)).length
  routeParents : output.routeParents =
    (attached settings s key g params).flatMap fun a => a.parents.map (a.route, ·)

end

variable {settings : Settings} {s : Snapshot} {key : ObjectKey} {g : Gateway}
  {params : GatewayConfig} {output : GatewayOutput}

theorem served_of_active (h : active settings s key g params = .ok output) :
    Served settings s key g params output := by
  unfold active at h
  dsimp only at h
  split at h
  · cases h
  · cases h
    refine ⟨rfl, Option.isSome_map, fun w hw => ?_, rfl, rfl, rfl, rfl⟩
    obtain ⟨d, -, rfl⟩ := Option.map_eq_some_iff.1 hw
    rfl

/-! ## Listeners and routes of an active gateway -/

/-- A route is attached to listeners that are served. -/
theorem ready_of_attached {a : RouteAttachment} {name : String}
    (ha : a ∈ attached settings s key g params) (hname : name ∈ a.listeners) :
    ∃ p ∈ ListenerPlan.ofGateway s key g, p.isReady = true ∧ p.name = name := by
  obtain ⟨b, -, rfl⟩ := List.mem_map.1 ha
  exact RouteAttachment.ready_of_mem_listeners hname

/-- A planned listener that is served has a listener in the document. -/
theorem exists_mem_contribution {p : ListenerPlan} (hp : p ∈ ListenerPlan.ofGateway s key g)
    (hready : p.isReady = true) : ∃ l ∈ (contribution settings s key g params).listeners,
      Presents key (PublicAddress.ofGateway? s key g) (attached settings s key g params) p l := by
  obtain ⟨protocol, port, hprotocol, hport⟩ :=
    (ListenerPlan.accepted_iff hp).1 (ListenerPlan.isReady_iff.1 hready).1
  exact exists_mem_listeners hp hready hprotocol hport

theorem name_cluster_of_attached {a : RouteAttachment} (ha : a ∈ attached settings s key g params) :
    a.backends.cluster.name = a.route.text := by
  obtain ⟨b, -, rfl⟩ := List.mem_map.1 ha
  exact ResolvedBackends.name_cluster_ofRoute ..

/-- The clusters of different routes have different names, where no namespace has a slash. -/
theorem nodup_clusters_attached (h : s.Indexed) (hplain : s.PlainRoutes) :
    ((attached settings s key g params).map (·.backends.cluster.name)).Nodup := by
  have hnames : (attached settings s key g params).map (·.backends.cluster.name) =
      (s.routesForGateway key).map (·.1.text) := by
    rw [List.map_congr_left fun a ha => name_cluster_of_attached ha,
      ← Function.comp_def ObjectKey.text, ← List.map_map, attached,
      RouteAttachment.routes_ofGateway, List.map_map]
    rfl
  rw [hnames]
  refine List.pairwise_map.2 ((s.sorted_routesForGateway key).imp_of_mem fun {b c} hb hc hlt he => ?_)
  exact SortedMap.ne_of_lt hlt (hplain.eq_of_text h (h.mem_routesForGateway_iff.1 hb).1
    (h.mem_routesForGateway_iff.1 hc).1 he)

/-- No two listeners of the document share a port over one transport. -/
theorem slots_contribution : (contribution settings s key g params).listeners.Pairwise fun a b =>
    (a.port, a.protocol.transport) ≠ (b.port, b.protocol.transport) := by
  refine (perm_listeners_document.pairwise_iff fun h => Ne.symm h).2 ?_
  refine List.pairwise_filterMap.2 (List.pairwise_filter.2 ?_)
  refine (ListenerPlan.slots_ofGateway s key g).imp fun {p q} hpq hp hq l hl m hm he => ?_
  have hl := presents_of_listenerConfig? hl
  have hm := presents_of_listenerConfig? hm
  refine hpq hp hq _ (ListenerPlan.slot?_of_isReady hp hl.protocol hl.port) ?_
  rw [he]
  exact ListenerPlan.slot?_of_isReady hq hm.protocol hm.port

end GatewayOutput

/-! ## Well-formed documents -/

/-- Whether a document is in order, leads only to clusters that it has, has only clusters that
something leads to, and no two of its listeners are in each other's way. -/
structure Document.WellFormed (d : Document) : Prop where
  listeners : d.listeners.Pairwise fun a b => compare a.name b.name = .lt
  clusters : d.clusters.Pairwise fun a b => (compare a.name b.name).isLE = true
  routes_sorted : ∀ l ∈ d.listeners, Elements.Sorted l.routes
  routes : ∀ l ∈ d.listeners, ∀ r ∈ l.routes, ∃ c ∈ d.clusters, c.name = r
  reached : ∀ c ∈ d.clusters, ∃ l ∈ d.listeners, c.name ∈ l.routes
  ports : ∀ l ∈ d.listeners, 1 ≤ l.port.toNat ∧ l.port.toNat ≤ 65535
  slots : d.listeners.Pairwise fun a b =>
    (a.port, a.protocol.transport) ≠ (b.port, b.protocol.transport)

namespace GatewayOutput

variable {settings : Settings} {s : Snapshot} {key : ObjectKey} {g : Gateway}
  {params : GatewayConfig}

theorem wellFormed_contribution : (contribution settings s key g params).WellFormed where
  listeners := by
    refine Document.strict_sortByName _ _ ?_
    have hnames : ((contribution settings s key g params).listeners.map (·.name)).Nodup :=
      names_document (ListenerPlan.nodup_names_ofGateway s key g)
    exact ((Document.perm_sortByName _ _).map _).nodup_iff.1 hnames
  clusters := Document.sorted_sortByName _ _
  routes_sorted l hl := by
    obtain ⟨p, -, -, hp⟩ := served_of_mem hl
    rw [hp.routes]
    exact (RouteAttachment.clustersOn _ _).sorted
  routes _ hl _ hr := routes_document hl hr
  reached c hc := by
    obtain ⟨a, ha, ⟨name, hname⟩, rfl⟩ := mem_clusters_iff.1 hc
    obtain ⟨p, hp, hready, rfl⟩ := ready_of_attached ha hname
    obtain ⟨l, hl, hpresents⟩ : ∃ l ∈ (contribution settings s key g params).listeners, _ :=
      exists_mem_contribution hp hready
    refine ⟨l, hl, ?_⟩
    rw [hpresents.routes, RouteAttachment.mem_clustersOn_iff]
    exact ⟨a, ha, hname, rfl⟩
  ports l hl := by
    obtain ⟨p, hp, -, hpresents⟩ := served_of_mem hl
    have hne := ListenerPlan.port_ne_zero hp hpresents.port
    have hlt := l.port.toNat_lt
    have hpos : l.port.toNat ≠ 0 := fun h => hne (UInt16.toNat_inj.1 h)
    omega
  slots := slots_contribution

/-- A public port is the port of the listener itself, or a node port of the gateway's service. -/
theorem publicPort_contribution {l : ListenerConfig} {n : UInt16}
    (hl : l ∈ (contribution settings s key g params).listeners) (hn : l.publicPort = some n) :
    n = l.port ∨ ∃ service, s.service? key = some service ∧
      ∃ b ∈ PublicAddress.nodePortsOf service, n = b.2 := by
  obtain ⟨p, -, -, hpresents⟩ := served_of_mem hl
  rw [hpresents.publicPort] at hn
  obtain ⟨a, ha, rfl⟩ := Option.map_eq_some_iff.1 hn
  rcases a.publicPort_cases l.protocol l.port with h | ⟨b, hb, h⟩
  · exact .inl h
  · obtain ⟨service, hservice, hb⟩ := PublicAddress.nodePorts_ofGateway? ha hb
    exact .inr ⟨service, hservice, b, hb, h⟩

theorem nodup_clusters_contribution (h : s.Indexed) (hplain : s.PlainRoutes) :
    ((contribution settings s key g params).clusters.map (·.name)).Nodup := by
  refine (perm_clusters_document.map _).nodup_iff.2 ?_
  rw [List.map_map]
  exact (List.filter_sublist.map _).nodup (nodup_clusters_attached h hplain)

end GatewayOutput

/-! ## Renderings -/

theorem served_of_renderGateway {settings : Settings} {s : Snapshot} {key : ObjectKey}
    {output : GatewayOutput} (h : renderGateway settings s key = .ok (some output))
    (hactive : output.render.state = .active) :
    ∃ g params, s.gateway? key = some g ∧ GatewayOutput.Served settings s key g params output := by
  obtain ⟨g, hg, ⟨params, ha⟩ | ⟨message, rfl⟩ | ⟨policy, rfl⟩⟩ := renderGateway_cases h
  · exact ⟨g, params, hg, GatewayOutput.served_of_active ha⟩
  · cases hactive
  · cases hactive

/-- A gateway that stays, of a class in our charge that is accepted, is rendered active. -/
theorem active_of_accepted {settings : Settings} {s : Snapshot} {key : ObjectKey} {g : Gateway}
    {c : GatewayClass} {params : GatewayConfig} (hg : s.gateway? key = some g)
    (hc : s.gatewayClass? g.spec.gatewayClassName = some c) (howns : settings.owns c = true)
    (hstays : g.metadata.isDeleting = false)
    (haccepted : (ClassCheck.ofClass s c).accepted.isTrue = true)
    (hparams : (ClassCheck.ofClass s c).params = some params) :
    ∃ output, renderGateway settings s key = .ok (some output) ∧
      output.render.state = .active ∧ GatewayOutput.Served settings s key g params output := by
  obtain ⟨output, ha⟩ : ∃ output, GatewayOutput.active settings s key g params = .ok output :=
    GatewayOutput.active_ok params
  have hstate : output.render.state = .active := by
    have ha := ha
    unfold GatewayOutput.active at ha
    dsimp only at ha
    split at ha
    · cases ha
    · cases ha
      rfl
  refine ⟨output, ?_, hstate, GatewayOutput.served_of_active ha⟩
  unfold renderGateway
  rw [hg]
  dsimp only
  rw [hc]
  dsimp only
  rw [if_pos howns]
  unfold GatewayOutput.ofChecked
  dsimp only
  rw [hstays, if_neg Bool.false_ne_true, hparams]
  dsimp only
  rw [if_pos haccepted, ha]
  rfl

theorem active_of_config {settings : Settings} {s : Snapshot} {key : ObjectKey}
    {output : GatewayOutput} (h : renderGateway settings s key = .ok (some output))
    {config : Document} (hconfig : output.render.config = some config) :
    output.render.state = .active := by
  by_contra hidle
  rw [((sound_of_renderGateway h).2.idle hidle).1] at hconfig
  cases hconfig

/-- Every gateway of a snapshot that a store came to can be rendered, and the document that it
contributes, if it does, has no flaw and is well-formed. Its clusters have different names where no
namespace has a slash, and a public port is the listener's own or a node port of the gateway's
service. -/
theorem renders_wellFormed (settings : Settings) (events : List StoreEvent) :
    let s := (Store.ofEvents events).snapshot
    (Sweep.ofSnapshot settings s).failures = ∅ ∧
    ∀ key g, s.gateway? key = some g → ∃ output, renderGateway settings s key = .ok output ∧
      ∀ rendered config, output = some rendered → rendered.render.config = some config →
        config.flaw? = none ∧ config.WellFormed ∧
        (s.PlainRoutes → (config.clusters.map (·.name)).Nodup) ∧
        ∀ l ∈ config.listeners, ∀ n, l.publicPort = some n →
          n = l.port ∨ ∃ service, s.service? key = some service ∧
            ∃ b ∈ PublicAddress.nodePortsOf service, n = b.2 := by
  intro s
  have hs : s.Indexed := Store.indexed_ofEvents events
  refine ⟨Sweep.failures_ofSnapshot settings s, fun key g hg => ?_⟩
  obtain ⟨output, ho⟩ := renderGateway_ok hg
  refine ⟨output, ho, ?_⟩
  rintro rendered config rfl hconfig
  obtain ⟨g', params, -, hserved⟩ := served_of_renderGateway ho (active_of_config ho hconfig)
  cases hconfig.symm.trans hserved.config
  exact ⟨GatewayOutput.flaw?_document (ListenerPlan.nodup_names_ofGateway s key g'),
    GatewayOutput.wellFormed_contribution, GatewayOutput.nodup_clusters_contribution hs,
    fun l hl n hn => GatewayOutput.publicPort_contribution hl hn⟩

/-! ### A gateway with listeners at odds -/

/-- A gateway with a listener that is served, two that share a port, and one without a certificate,
and a route that refers to it twice. -/
def Store.fleetEvents : List StoreEvent := [
  .upsert (.gatewayClass {
    metadata := { name := some "c" }
    spec := {
      controllerName := "turngate.dev/gateway-operator"
      parametersRef := some {
        group := relayGroup, kind := "GatewayConfig", name := "cfg", inNamespace := some "sys" } } }),
  .upsert (.gatewayConfig {
    metadata := { name := some "cfg", inNamespace := some "sys" }, spec := {} }),
  .upsert (.dataplane { metadata := { name := some "default" }, spec := { image := "relay" } }),
  .upsert (.service { metadata := { name := some "media", inNamespace := some "a" } }),
  .upsert (.udpRoute {
    metadata := { name := some "r", inNamespace := some "a" }
    spec := {
      parentRefs := [{ name := "g" }, { name := "g", sectionName := some "udp" }]
      rules := [{ backendRefs := [{ name := "media" }] }] } }),
  .upsert (.gateway {
    metadata := { name := some "g", inNamespace := some "a" }
    spec := {
      gatewayClassName := "c"
      listeners := [
        { name := "udp", protocol := "UDP", port := 3478 },
        { name := "one", protocol := "TCP", port := 80 },
        { name := "two", protocol := "TURN-TCP", port := 80 },
        { name := "tls", protocol := "TLS", port := 5349 }]
      addresses := [{ value := "192.0.2.1" }] } })]

/-- The document of that gateway has one listener and one cluster. -/
theorem renders_wellFormed_for_fleet :
    ∃ rendered config,
      renderGateway {} (Store.ofEvents Store.fleetEvents).snapshot (.namespaced "a" "g") =
        .ok (some rendered) ∧ rendered.render.config = some config ∧
      config.listeners.length = 1 ∧ config.clusters.length = 1 ∧
      config.WellFormed ∧ (config.clusters.map (·.name)).Nodup := by
  have hsizes : (((Sweep.ofSnapshot {} (Store.ofEvents Store.fleetEvents).snapshot).gateways.get?
      (.namespaced "a" "g")).bind (·.config)).any
        (fun config => config.listeners.length = 1 ∧ config.clusters.length = 1) = true := by
    decide +kernel
  obtain ⟨config, hfound, hsizes⟩ := (Option.any_eq_true _ _).1 hsizes
  obtain ⟨r, hr, hconfig⟩ := Option.bind_eq_some_iff.1 hfound
  obtain ⟨rendered, -, hrender, rfl⟩ := Sweep.render_of_get? hr
  obtain ⟨g, hg, -⟩ := renderGateway_cases hrender
  obtain ⟨-, hgateways⟩ := renders_wellFormed {} Store.fleetEvents
  obtain ⟨output, ho, hdocument⟩ := hgateways _ g hg
  cases hrender.symm.trans ho
  obtain ⟨-, hwell, hnames, -⟩ := hdocument rendered config rfl hconfig
  simp only [decide_eq_true_eq] at hsizes
  exact ⟨rendered, config, hrender, hconfig, hsizes.1, hsizes.2, hwell,
    hnames (by decide +kernel)⟩

end RelayFleet
