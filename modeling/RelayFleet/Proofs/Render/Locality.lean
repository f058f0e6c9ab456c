/-
What the rendering of a gateway rests on: the gateway, its class and settings, the relay template,
the service of its own, the nodes, the secrets of its listeners, and the routes that refer to it
with the services behind them and their slices (`RestsOn`). Snapshots that agree on that give the
same rendering (`renderGateway_congr`), however their indices differ elsewhere. So an event that is
about none of it goes unnoticed (`rendered_alike`).
-/
import RelayFleet.Proofs.Store.Changes
import RelayFleet.Proofs.Render.Active

namespace RelayFleet

/-! ## What a rendering rests on -/

namespace Snapshot

/-- Whether a route refers to a gateway. -/
def HasRoute (s : Snapshot) (gateway k : ObjectKey) (r : UdpRoute) : Prop :=
  s.route? k = some r ∧ gateway ∈ r.parentGateways

/-- Whether a route that refers to a gateway refers to a service. -/
def HasBackend (s : Snapshot) (gateway service : ObjectKey) : Prop :=
  ∃ k r, s.HasRoute gateway k r ∧
    ∃ b ∈ r.backendRefs, b.isService = true ∧ b.serviceKey k.namespaceText = service

/-- Whether a slice belongs to a service. -/
def HasSlice (s : Snapshot) (service k : ObjectKey) : Prop :=
  ∃ slice, s.get? ⟨.endpointSlice, k⟩ = some (.endpointSlice slice) ∧
    slice.service? = some service

end Snapshot

/-- What the rendering of a gateway rests on, while one snapshot gives way to another: what is found
in the first, and the routes and slices of either. -/
inductive RestsOn (settings : Settings) (s t : Snapshot) (key : ObjectKey) : ResourceKey → Prop
  | gateway : RestsOn settings s t key (.gateway key)
  | gatewayClass {g : Gateway} (hg : s.gateway? key = some g) :
      RestsOn settings s t key (.gatewayClass g.spec.gatewayClassName)
  | gatewayConfig {g : Gateway} {c : GatewayClass} {k : ObjectKey} (hg : s.gateway? key = some g)
      (hc : s.gatewayClass? g.spec.gatewayClassName = some c)
      (hk : ClassCheck.paramsKey c = .ok k) : RestsOn settings s t key ⟨.gatewayConfig, k⟩
  | dataplane {g : Gateway} {c : GatewayClass} {k : ObjectKey} {params : GatewayConfig}
      (hg : s.gateway? key = some g) (hc : s.gatewayClass? g.spec.gatewayClassName = some c)
      (hk : ClassCheck.paramsKey c = .ok k) (hparams : s.gatewayConfig? k = some params) :
      RestsOn settings s t key
        ⟨.dataplane, .cluster (params.spec.dataplane.getD settings.defaultDataplane)⟩
  | service : RestsOn settings s t key ⟨.service, key⟩
  | node (k : ObjectKey) : RestsOn settings s t key ⟨.node, k⟩
  | secret {g : Gateway} {l : Listener} {r : SecretReference} (hg : s.gateway? key = some g)
      (hl : l ∈ g.spec.listeners) (hr : r ∈ l.certificateRefs) (hsecret : r.isSecret = true) :
      RestsOn settings s t key ⟨.secret, r.key key.namespaceText⟩
  | route {k : ObjectKey} {r : UdpRoute} (hr : s.HasRoute key k r ∨ t.HasRoute key k r) :
      RestsOn settings s t key (.udpRoute k)
  | backend {service : ObjectKey} (hb : s.HasBackend key service ∨ t.HasBackend key service) :
      RestsOn settings s t key ⟨.service, service⟩
  | slice {service k : ObjectKey} (hb : s.HasBackend key service ∨ t.HasBackend key service)
      (hk : s.HasSlice service k ∨ t.HasSlice service k) :
      RestsOn settings s t key ⟨.endpointSlice, k⟩

/-- Whether snapshots agree on what the rendering of a gateway rests on. -/
structure AgreeFor (settings : Settings) (s t : Snapshot) (key : ObjectKey) : Prop where
  before : s.Indexed
  after : t.Indexed
  same : ∀ r, RestsOn settings s t key r → t.get? r = s.get? r

/-! ## Look-ups and listings -/

namespace AgreeFor

variable {settings : Settings} {s t : Snapshot} {key : ObjectKey}
  (h : AgreeFor settings s t key)

include h

theorem gateway? : t.gateway? key = s.gateway? key :=
  congrArg (·.bind Object.gateway?) (h.same _ .gateway)

theorem nodes : t.nodes = s.nodes := by
  have hnodes : t.ofKind .node = s.ofKind .node :=
    SortedMap.ext_bindings (t.sorted_ofKind .node) (s.sorted_ofKind .node) fun b => by
      rw [Snapshot.mem_ofKind_iff, Snapshot.mem_ofKind_iff, h.same _ (.node b.1)]
  unfold Snapshot.nodes Snapshot.list
  rw [hnodes]

theorem hasRoute_iff {k : ObjectKey} {r : UdpRoute} : t.HasRoute key k r ↔ s.HasRoute key k r := by
  have hroute (hr : s.HasRoute key k r ∨ t.HasRoute key k r) : t.route? k = s.route? k :=
    congrArg (·.bind Object.route?) (h.same _ (.route hr))
  exact ⟨fun hr => ⟨hroute (.inr hr) ▸ hr.1, hr.2⟩, fun hr => ⟨hroute (.inl hr) ▸ hr.1, hr.2⟩⟩

theorem routesForGateway : t.routesForGateway key = s.routesForGateway key :=
  SortedMap.ext_bindings (t.sorted_routesForGateway key) (s.sorted_routesForGateway key) fun _ =>
    h.after.mem_routesForGateway_iff.trans <|
      h.hasRoute_iff.trans h.before.mem_routesForGateway_iff.symm

variable {service : ObjectKey} (hb : s.HasBackend key service)

include hb

theorem service? : t.service? service = s.service? service :=
  congrArg (·.bind Object.service?) (h.same _ (.backend (.inl hb)))

theorem slicesForService : t.slicesForService service = s.slicesForService service := by
  have hget {k : ObjectKey} (hk : s.HasSlice service k ∨ t.HasSlice service k) :
      t.get? ⟨.endpointSlice, k⟩ = s.get? ⟨.endpointSlice, k⟩ := h.same _ (.slice (.inl hb) hk)
  have hlisted : t.slicesByService.referring service = s.slicesByService.referring service :=
    Index.referring_congr fun k => by
      rw [h.after.lists_slices_iff, h.before.lists_slices_iff]
      refine ⟨fun hk => ?_, fun hk => ?_⟩
      · rwa [← hget (.inr hk)]
      · rwa [hget (.inl hk)]
  unfold Snapshot.slicesForService
  rw [hlisted]
  refine List.filterMap_congr fun k hk => ?_
  have hslice := h.before.lists_slices_iff.1 (Index.mem_referring_iff.1 hk)
  rw [hget (.inl hslice)]

end AgreeFor

/-! ## The parts of a rendering -/

section

variable {settings : Settings} {s t : Snapshot} {key : ObjectKey}
  (h : AgreeFor settings s t key)

include h

theorem ListenerPlan.ofGateway_congr {g : Gateway} (hg : s.gateway? key = some g) :
    ofGateway t key g = ofGateway s key g := by
  have hlistener : ∀ l ∈ firstOfName g.spec.listeners,
      ofListener g.metadata.generation t key.namespaceText l =
        ofListener g.metadata.generation s key.namespaceText l := fun l hl => by
    have hl := (firstOfName_sublist _).subset hl
    have hflaw : ∀ r ∈ l.certificateRefs,
        certificateFlaw? t key.namespaceText r = certificateFlaw? s key.namespaceText r := by
      intro r hr
      unfold certificateFlaw? Snapshot.secret?
      by_cases hsecret : r.isSecret = true
      · rw [h.same _ (.secret hg hl hr hsecret)]
      · rw [if_neg hsecret, if_neg hsecret]
    have hflaws : certificatesFlaw? t key.namespaceText l =
        certificatesFlaw? s key.namespaceText l := by
      unfold certificatesFlaw?
      rw [← List.head?_filterMap, List.filterMap_congr hflaw, List.head?_filterMap]
    unfold ofListener resolution
    rw [hflaws]
  unfold ofGateway
  dsimp only
  rw [List.map_congr_left hlistener]

theorem ResolvedBackends.ofRoute_congr {k : ObjectKey} {r : UdpRoute}
    (hr : s.HasRoute key k r) (policy : EndpointPolicy) :
    ofRoute t policy k r = ofRoute s policy k r := by
  have hresolve : ∀ b ∈ r.backendRefs, Backend.resolve t policy k.namespaceText b =
      Backend.resolve s policy k.namespaceText b := fun b hb => by
    unfold Backend.resolve
    by_cases hservice : b.isService = true
    · have hback : s.HasBackend key (b.serviceKey k.namespaceText) :=
        ⟨k, r, hr, b, hb, hservice, rfl⟩
      unfold Backend.addresses Backend.readyAddresses
      dsimp only
      rw [h.service? hback, h.slicesForService hback]
    · rw [if_neg hservice, if_neg hservice]
  unfold ofRoute
  rw [List.map_congr_left hresolve]

theorem PublicAddress.ofGateway?_congr (g : Gateway) :
    ofGateway? t key g = ofGateway? s key g := by
  have hservice : t.service? key = s.service? key :=
    congrArg (·.bind Object.service?) (h.same _ .service)
  unfold ofGateway? ofService?
  rw [hservice, h.nodes]

theorem RouteAttachment.ofGateway_congr (policy : EndpointPolicy) (controller : String)
    (plans : List ListenerPlan) :
    ofGateway t policy controller key plans = ofGateway s policy controller key plans := by
  unfold ofGateway
  rw [h.routesForGateway]
  refine List.map_congr_left fun b hb => ?_
  unfold ofRoute
  rw [ResolvedBackends.ofRoute_congr h (h.before.mem_routesForGateway_iff.1 hb)]

theorem rejectedParents_congr (policy : EndpointPolicy) (controller : String)
    (rejection : Rejection) (keepBackends : Bool) :
    rejectedParents t policy controller key rejection keepBackends =
      rejectedParents s policy controller key rejection keepBackends := by
  unfold rejectedParents
  rw [h.routesForGateway]
  refine List.flatMap_congr fun b hb => ?_
  dsimp only
  rw [ResolvedBackends.ofRoute_congr h (h.before.mem_routesForGateway_iff.1 hb)]

variable {g : Gateway} (hg : s.gateway? key = some g)

include hg

theorem ClassCheck.ofClass_congr {c : GatewayClass}
    (hc : s.gatewayClass? g.spec.gatewayClassName = some c) : ofClass t c = ofClass s c := by
  unfold ofClass
  cases hk : paramsKey c with
  | error message => rfl
  | ok k =>
    have hconfig : t.gatewayConfig? k = s.gatewayConfig? k :=
      congrArg (·.bind Object.config?) (h.same _ (.gatewayConfig hg hc hk))
    dsimp only
    rw [hconfig]

namespace GatewayOutput

theorem active_congr {c : GatewayClass} {k : ObjectKey} {params : GatewayConfig}
    (hc : s.gatewayClass? g.spec.gatewayClassName = some c) (hk : ClassCheck.paramsKey c = .ok k)
    (hparams : s.gatewayConfig? k = some params) :
    active settings t key g params = active settings s key g params := by
  have hdataplane : t.dataplane? (params.spec.dataplane.getD settings.defaultDataplane) =
      s.dataplane? (params.spec.dataplane.getD settings.defaultDataplane) :=
    congrArg (·.bind Object.dataplane?) (h.same _ (.dataplane hg hc hk hparams))
  unfold active
  dsimp only
  rw [ListenerPlan.ofGateway_congr h hg, RouteAttachment.ofGateway_congr h,
    PublicAddress.ofGateway?_congr h, hdataplane]

omit hg

theorem invalid_congr (message : String) :
    invalid settings t key g message = invalid settings s key g message := by
  unfold invalid
  rw [rejectedParents_congr h]

theorem terminating_congr (policy : EndpointPolicy) :
    terminating settings t key g policy = terminating settings s key g policy := by
  unfold terminating
  dsimp only
  rw [rejectedParents_congr h]

/-- Only the settings that a check found are served under. -/
theorem ofChecked_congr (check : Option ClassCheck)
    (hactive : ∀ c params, check = some c → c.params = some params →
      active settings t key g params = active settings s key g params) :
    ofChecked settings t key g check = ofChecked settings s key g check := by
  unfold ofChecked
  simp only [invalid_congr h, terminating_congr h]
  rcases check with - | c
  · rfl
  rcases hparams : c.params with - | params
  · simp only [hparams]
  · simp only [hparams, hactive c params rfl hparams]

end GatewayOutput

end

/-! ## Renderings -/

/-- The settings that the check of a class finds are those that the class refers to. -/
theorem ClassCheck.params_eq_some {s : Snapshot} {c : GatewayClass} {params : GatewayConfig}
    (h : (ofClass s c).params = some params) :
    ∃ k, paramsKey c = .ok k ∧ s.gatewayConfig? k = some params := by
  unfold ofClass at h
  cases hk : paramsKey c with
  | error message => rw [hk] at h; cases h
  | ok k =>
    rw [hk] at h
    dsimp only at h
    cases hconfig : s.gatewayConfig? k <;> rw [hconfig] at h <;> cases h
    exact ⟨k, rfl, hconfig⟩

/-- Snapshots that agree on what the rendering of a gateway rests on give the same rendering. -/
theorem renderGateway_congr {settings : Settings} {s t : Snapshot} {key : ObjectKey}
    (h : AgreeFor settings s t key) :
    renderGateway settings t key = renderGateway settings s key := by
  unfold renderGateway
  rw [h.gateway?]
  cases hg : s.gateway? key with
  | none => rfl
  | some g =>
    dsimp only
    rw [show t.gatewayClass? g.spec.gatewayClassName = s.gatewayClass? g.spec.gatewayClassName from
      congrArg (·.bind Object.class?) (h.same _ (.gatewayClass hg))]
    cases hc : s.gatewayClass? g.spec.gatewayClassName with
    | none =>
      have hchecked := GatewayOutput.ofChecked_congr (g := g) h none
        fun _ _ hcheck => by cases hcheck
      dsimp only
      rw [hchecked]
    | some c =>
      have hchecked := GatewayOutput.ofChecked_congr (g := g) h (some (ClassCheck.ofClass s c))
        fun check params hcheck hparams => by
          rw [← Option.some.inj hcheck] at hparams
          obtain ⟨k, hk, hconfig⟩ := ClassCheck.params_eq_some hparams
          exact GatewayOutput.active_congr h hg hc hk hconfig
      dsimp only
      rw [ClassCheck.ofClass_congr h hg hc, hchecked]

namespace Store

/-- An event that leaves alone what the rendering of a gateway rests on leaves alone the rendering:
configuration, target, workload, owner, status and the reports about routes, whatever else it
changes. -/
theorem rendered_alike {s : Store} (h : s.Reachable) (settings : Settings) (event : StoreEvent)
    (key : ObjectKey)
    (hrest : ∀ r, event.Concerns r →
      RestsOn settings s.snapshot (s.apply event).2.snapshot key r →
      (s.apply event).2.snapshot.get? r = s.snapshot.get? r) :
    renderGateway settings (s.apply event).2.snapshot key =
      renderGateway settings s.snapshot key := by
  refine renderGateway_congr ⟨h.indexed, (h.apply event).indexed, fun r hr => ?_⟩
  by_cases hconcerns : event.Concerns r
  · exact hrest r hconcerns hr
  · exact (truthful h event).others r hconcerns

/-- A route of another gateway, to a service that is behind both, comes without notice. -/
theorem rendered_alike_for_route_of_another :
    let s := ofEvents fleetEvents
    let key := ObjectKey.namespaced "a" "g"
    let event := StoreEvent.upsert (.udpRoute {
      metadata := { name := some "other", inNamespace := some "a" }
      spec := {
        parentRefs := [{ name := "h" }]
        rules := [{ backendRefs := [{ name := "media" }] }] } })
    (s.apply event).1 = .ok true ∧
      (renderGateway {} s.snapshot key).toOption.join.any (·.render.state = .active) = true ∧
      renderGateway {} (s.apply event).2.snapshot key = renderGateway {} s.snapshot key := by
  intro s key event
  refine ⟨by decide +kernel, by decide +kernel,
    rendered_alike (reachable_ofEvents fleetEvents) {} event key fun r hr hrests => ?_⟩
  obtain rfl := hr
  have hbefore : s.snapshot.route? (.namespaced "a" "other") = none := by decide +kernel
  have hafter : ((s.apply event).2.snapshot.route? (.namespaced "a" "other")).all
      (key ∉ ·.parentGateways) = true := by decide +kernel
  cases hrests with
  | route hroute =>
    rcases hroute with ⟨hroute, -⟩ | ⟨hroute, hparent⟩
    · cases hbefore.symm.trans hroute
    · have hroute : (s.apply event).2.snapshot.route? (.namespaced "a" "other") = some _ := hroute
      rw [hroute, Option.all_some, decide_eq_true_eq] at hafter
      exact absurd hparent hafter

end Store

end RelayFleet
