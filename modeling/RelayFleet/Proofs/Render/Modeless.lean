/-
Renderings without the endpoint mode, that is, without the choice whether the ready endpoints of a
service and its cluster address end up in clusters. Every rendering is compared with that of a
snapshot and of settings from which the mode was erased: the addresses in static clusters may
differ, and nothing else does (`unaddressed_ofSnapshot`).
-/
import RelayFleet.Proofs.Render.Active
import RelayFleet.Proofs.Store.Mapped

namespace RelayFleet

/-! ## Erasing the mode -/

/-- A settings object without its mode and version. -/
def GatewayConfig.modeless (c : GatewayConfig) : GatewayConfig where
  metadata := { c.metadata with resourceVersion := none }
  spec := { c.spec with endpointDiscovery := none, relayToClusterIp := none }

/-- An object without the mode and the version that it has as a settings object. -/
def Object.modeless : Object → Object
  | .gatewayConfig c => .gatewayConfig c.modeless
  | o => o

/-- Settings without the mode that classes have by default. -/
def Settings.modeless (settings : Settings) : Settings :=
  { settings with endpointDiscovery := false, relayToClusterIp := false }

namespace Snapshot

/-- The snapshot of the settings objects without their modes, and of all other objects. -/
def modeless (s : Snapshot) : Snapshot := s.mapObjects Object.modeless

variable (s : Snapshot)

theorem bind_get?_modeless {α : Type} {p : Object → Option α}
    (hp : ∀ c, p (.gatewayConfig c) = none) (r : ResourceKey) :
    (s.modeless.get? r).bind p = (s.get? r).bind p := by
  refine s.bind_get?_mapObjects (fun o => ?_) r
  cases o with
  | gatewayConfig c => exact (hp c.modeless).trans (hp c).symm
  | _ => rfl

theorem gatewayConfig?_modeless (key : ObjectKey) :
    s.modeless.gatewayConfig? key = (s.gatewayConfig? key).map GatewayConfig.modeless :=
  s.bind_get?_mapObjects_map (fun o => by cases o <;> rfl) _

theorem gatewayClass?_modeless : s.modeless.gatewayClass? = s.gatewayClass? :=
  funext fun _ => s.bind_get?_modeless (fun _ => rfl) _

theorem gateway?_modeless : s.modeless.gateway? = s.gateway? :=
  funext fun _ => s.bind_get?_modeless (fun _ => rfl) _

theorem route?_modeless : s.modeless.route? = s.route? :=
  funext fun _ => s.bind_get?_modeless (fun _ => rfl) _

theorem service?_modeless : s.modeless.service? = s.service? :=
  funext fun _ => s.bind_get?_modeless (fun _ => rfl) _

theorem secret?_modeless : s.modeless.secret? = s.secret? :=
  funext fun _ => s.bind_get?_modeless (fun _ => rfl) _

theorem dataplane?_modeless : s.modeless.dataplane? = s.dataplane? :=
  funext fun _ => s.bind_get?_modeless (fun _ => rfl) _

theorem slicesForService_modeless : s.modeless.slicesForService = s.slicesForService :=
  funext fun _ => List.filterMap_congr fun _ _ => s.bind_get?_modeless (fun _ => rfl) _

theorem routesForGateway_modeless : s.modeless.routesForGateway = s.routesForGateway := by
  unfold routesForGateway
  rw [route?_modeless]
  rfl

theorem filterMap_ofKind_modeless {α : Type} {p : ObjectKey × Object → Option α}
    (hp : ∀ k c, p (k, .gatewayConfig c) = none) (kind : ObjectKind) :
    (s.modeless.ofKind kind).filterMap p = (s.ofKind kind).filterMap p := by
  unfold modeless
  rw [ofKind_mapObjects, List.filterMap_map]
  refine List.filterMap_congr fun ⟨k, o⟩ _ => ?_
  cases o with
  | gatewayConfig c => exact (hp k c.modeless).trans (hp k c).symm
  | _ => rfl

theorem gateways_modeless : s.modeless.gateways = s.gateways :=
  s.filterMap_ofKind_modeless (fun _ _ => rfl) _

theorem routes_modeless : s.modeless.routes = s.routes :=
  s.filterMap_ofKind_modeless (fun _ _ => rfl) _

theorem gatewayClasses_modeless : s.modeless.gatewayClasses = s.gatewayClasses := by
  unfold gatewayClasses list
  rw [List.filterMap_map, List.filterMap_map]
  exact s.filterMap_ofKind_modeless (fun _ _ => rfl) _

theorem nodes_modeless : s.modeless.nodes = s.nodes := by
  unfold nodes list
  rw [List.filterMap_map, List.filterMap_map]
  exact s.filterMap_ofKind_modeless (fun _ _ => rfl) _

end Snapshot

/-! ## The parts of a rendering without the mode -/

section

variable (s : Snapshot) (key : ObjectKey)

theorem ListenerPlan.ofGateway_modeless (g : Gateway) :
    ofGateway s.modeless key g = ofGateway s key g := by
  unfold ofGateway ofListener resolution certificatesFlaw? certificateFlaw?
  rw [s.secret?_modeless]

theorem PublicAddress.ofGateway?_modeless (g : Gateway) :
    ofGateway? s.modeless key g = ofGateway? s key g := by
  unfold ofGateway? ofService?
  rw [s.service?_modeless, s.nodes_modeless]

theorem ResolvedBackends.ofRoute_modeless (policy : EndpointPolicy) (r : UdpRoute) :
    ofRoute s.modeless policy key r = ofRoute s policy key r := by
  unfold ofRoute Backend.resolve Backend.addresses Backend.readyAddresses
  rw [s.service?_modeless, s.slicesForService_modeless]

theorem RouteAttachment.ofGateway_modeless (policy : EndpointPolicy) (controller : String)
    (plans : List ListenerPlan) :
    ofGateway s.modeless policy controller key plans = ofGateway s policy controller key plans := by
  unfold ofGateway ofRoute
  rw [s.routesForGateway_modeless]
  simp only [ResolvedBackends.ofRoute_modeless]

theorem rejectedParents_modeless (policy : EndpointPolicy) (controller : String)
    (rejection : Rejection) (keepBackends : Bool) :
    rejectedParents s.modeless policy controller key rejection keepBackends =
      rejectedParents s policy controller key rejection keepBackends := by
  unfold rejectedParents
  rw [s.routesForGateway_modeless]
  simp only [ResolvedBackends.ofRoute_modeless]

/-- A class is accepted whatever the mode of its settings object. -/
theorem ClassCheck.ofClass_modeless (c : GatewayClass) :
    ofClass s.modeless c =
      ⟨(ofClass s c).accepted, (ofClass s c).params.map GatewayConfig.modeless⟩ := by
  unfold ofClass
  dsimp only
  cases paramsKey c with
  | error message => rfl
  | ok k =>
    dsimp only
    rw [s.gatewayConfig?_modeless]
    cases s.gatewayConfig? k <;> rfl

end

/-! ## Erasing endpoints -/

/-- A cluster without its endpoints, if they are addresses. -/
def ClusterConfig.unaddressed (c : ClusterConfig) : ClusterConfig :=
  match c.type with
  | .static => { c with endpoints := ∅ }
  | .strictDns => c

/-- A document without the addresses in its clusters. -/
def Document.unaddressed (d : Document) : Document :=
  { d with clusters := d.clusters.map ClusterConfig.unaddressed }

/-- A rendered gateway without the addresses in its contribution. -/
def GatewayRender.unaddressed (r : GatewayRender) : GatewayRender :=
  { r with config := r.config.map Document.unaddressed }

/-- All that is rendered of a gateway without the addresses in its contribution. -/
def GatewayOutput.unaddressed (o : GatewayOutput) : GatewayOutput :=
  { o with render := o.render.unaddressed }

/-- A sweep without the addresses in what its gateways contribute. -/
def Sweep.unaddressed (sweep : Sweep) : Sweep :=
  { sweep with gateways := sweep.gateways.map GatewayRender.unaddressed }

theorem ClusterConfig.name_unaddressed (c : ClusterConfig) : c.unaddressed.name = c.name := by
  unfold unaddressed
  split <;> rfl

/-- What a reference comes to, without addresses. -/
def Backend.unaddressed : Backend → Backend
  | internal _ => internal []
  | b => b

/-- The backends of a route without addresses. -/
def ResolvedBackends.unaddressed (b : ResolvedBackends) : ResolvedBackends :=
  { b with cluster := b.cluster.unaddressed }

/-- A route of a gateway without the addresses of its backends. -/
def RouteAttachment.unaddressed (a : RouteAttachment) : RouteAttachment :=
  { a with backends := a.backends.unaddressed }

/-! ## Backends under two policies -/

section

variable (s : Snapshot) (p q : EndpointPolicy)

theorem Backend.unaddressed_resolve (ns : String) (r : BackendRef) :
    (resolve s p ns r).unaddressed = (resolve s q ns r).unaddressed := by
  unfold resolve
  dsimp only
  split
  · split
    · rfl
    · split
      · split <;> rfl
      · rfl
  · rfl

theorem Backend.unaddressed_resolve_map (key : ObjectKey) (r : UdpRoute) :
    (r.backendRefs.map (resolve s p key.namespaceText)).map unaddressed =
      (r.backendRefs.map (resolve s q key.namespaceText)).map unaddressed := by
  rw [List.map_map, List.map_map]
  exact List.map_congr_left fun ref _ => unaddressed_resolve s p q key.namespaceText ref

/-- What is read of backends apart from addresses is the same where nothing else differs. -/
theorem Backend.filterMap_congr {α : Type} (read : Backend → Option α) {bs cs : List Backend}
    (h : bs.map unaddressed = cs.map unaddressed) (hread : ∀ b, read b.unaddressed = read b) :
    bs.filterMap read = cs.filterMap read := by
  have hmapped : ∀ l : List Backend, l.filterMap read = (l.map unaddressed).filterMap read := by
    intro l
    rw [List.filterMap_map]
    exact List.filterMap_congr fun b _ => (hread b).symm
  rw [hmapped bs, h, ← hmapped cs]

theorem Backend.isEmpty_internals_congr {bs cs : List Backend}
    (h : bs.map unaddressed = cs.map unaddressed) :
    (bs.filterMap internal?).isEmpty = (cs.filterMap internal?).isEmpty := by
  -- whether a reference leads to addresses is told without them
  have hcount : ∀ l : List Backend, (l.filterMap internal?).isEmpty =
      (l.filterMap fun b => b.internal?.map fun _ => ()).isEmpty := by
    intro l
    rw [← List.map_filterMap, List.isEmpty_map]
  rw [hcount bs, hcount cs, filterMap_congr _ h fun b => by cases b <;> rfl]

/-- A policy decides on the addresses of a cluster only. -/
theorem ResolvedBackends.unaddressed_ofRoute (key : ObjectKey) (r : UdpRoute) :
    (ofRoute s p key r).unaddressed = (ofRoute s q key r).unaddressed := by
  have h := Backend.unaddressed_resolve_map s p q key r
  have hfailures := Backend.filterMap_congr Backend.failure? h fun b => by cases b <;> rfl
  have hexternals := Backend.filterMap_congr Backend.external? h fun b => by cases b <;> rfl
  unfold ofRoute
  dsimp only
  rw [hfailures, hexternals, Backend.isEmpty_internals_congr h]
  split <;> rfl

theorem ResolvedBackends.resolvedRefs_ofRoute (key : ObjectKey) (r : UdpRoute) :
    (ofRoute s p key r).resolvedRefs = (ofRoute s q key r).resolvedRefs := by
  have h := congrArg resolvedRefs (unaddressed_ofRoute s p q key r)
  exact h

theorem RouteAttachment.unaddressed_ofGateway (controller : String) (key : ObjectKey)
    (plans : List ListenerPlan) :
    (ofGateway s p controller key plans).map unaddressed =
      (ofGateway s q controller key plans).map unaddressed := by
  unfold ofGateway
  rw [List.map_map, List.map_map]
  refine List.map_congr_left fun b _ => ?_
  unfold ofRoute unaddressed
  simp only [Function.comp_apply, ResolvedBackends.unaddressed_ofRoute s p q b.1 b.2,
    ResolvedBackends.resolvedRefs_ofRoute s p q b.1 b.2]

theorem rejectedParents_policy (controller : String) (key : ObjectKey) (rejection : Rejection)
    (keepBackends : Bool) :
    rejectedParents s p controller key rejection keepBackends =
      rejectedParents s q controller key rejection keepBackends := by
  unfold rejectedParents
  simp only [ResolvedBackends.resolvedRefs_ofRoute s p q]

end

/-! ## Gateways -/

/-- Items that keep their names keep their order. -/
theorem Document.map_sortByName {α β : Type} {name : α → String} (name' : β → String) {f : α → β}
    (hf : ∀ a, name' (f a) = name a) (l : List α) :
    (sortByName name l).map f = sortByName name' (l.map f) := by
  unfold sortByName
  refine List.map_mergeSort (s := fun b c => (compare (name' b) (name' c)).isLE) fun a _ b _ => ?_
  rw [hf, hf]

namespace GatewayOutput

section

variable {attachments attachments' : List RouteAttachment}
  (h : attachments.map RouteAttachment.unaddressed = attachments'.map RouteAttachment.unaddressed)

include h

/-- What is read of the attached routes apart from addresses is the same. -/
theorem filter_isOn_congr {α : Type} (read : RouteAttachment → α)
    (hread : ∀ a, read a.unaddressed = read a) (listener : String) :
    (attachments.filter (·.isOn listener)).map read =
      (attachments'.filter (·.isOn listener)).map read := by
  have hmapped : ∀ l : List RouteAttachment, (l.filter (·.isOn listener)).map read =
      ((l.map RouteAttachment.unaddressed).filter (·.isOn listener)).map read := by
    intro l
    rw [List.filter_map, List.map_map]
    exact List.map_congr_left fun a _ => (hread a).symm
  rw [hmapped attachments, h, ← hmapped attachments']

theorem routeParents_congr : (attachments.flatMap fun a => a.parents.map (a.route, ·)) =
    attachments'.flatMap fun a => a.parents.map (a.route, ·) := by
  have hmapped : ∀ l : List RouteAttachment, (l.flatMap fun a => a.parents.map (a.route, ·)) =
      (l.map RouteAttachment.unaddressed).flatMap fun a => a.parents.map (a.route, ·) := by
    intro l
    rw [List.flatMap_map]
    rfl
  rw [hmapped attachments, h, ← hmapped attachments']

theorem length_isOn_congr (listener : String) : (attachments.filter (·.isOn listener)).length =
    (attachments'.filter (·.isOn listener)).length := by
  have h := filter_isOn_congr h RouteAttachment.route (fun _ => rfl) listener
  simpa using congrArg List.length h

theorem listenerConfig?_congr (key : ObjectKey) (address : Option PublicAddress) :
    listenerConfig? key address attachments = listenerConfig? key address attachments' := by
  have hname : ∀ a : RouteAttachment,
      a.unaddressed.backends.cluster.name = a.backends.cluster.name := fun a =>
    a.backends.cluster.name_unaddressed
  funext p
  unfold listenerConfig?
  rw [filter_isOn_congr h _ hname]

/-- The document of attached routes depends on the addresses in its clusters only. -/
theorem unaddressed_document_congr (key : ObjectKey) (address : Option PublicAddress)
    (plans : List ListenerPlan) :
    (document key address plans attachments).unaddressed =
      (document key address plans attachments').unaddressed := by
  have hclusters : ∀ l : List RouteAttachment,
      (Document.sortByName ClusterConfig.name
        ((l.filter (! ·.listeners.isEmpty)).map (·.backends.cluster))).map
          ClusterConfig.unaddressed =
      Document.sortByName ClusterConfig.name
        (((l.map RouteAttachment.unaddressed).filter (! ·.listeners.isEmpty)).map
          (·.backends.cluster)) := by
    intro l
    rw [Document.map_sortByName _ ClusterConfig.name_unaddressed, List.filter_map, List.map_map,
      List.map_map]
    rfl
  unfold document Document.normalize Document.unaddressed
  dsimp only
  rw [listenerConfig?_congr h, hclusters attachments, h, ← hclusters attachments']

end

variable (settings : Settings) (s : Snapshot) (key : ObjectKey) (g : Gateway)

/-- Of an active gateway, the addresses in its clusters depend on the mode and nothing else does. -/
theorem unaddressed_active (params : GatewayConfig) :
    (active settings s key g params).map unaddressed =
      (active settings.modeless s.modeless key g params.modeless).map unaddressed := by
  have hattached := RouteAttachment.unaddressed_ofGateway s (settings.policy (some params))
    (settings.modeless.policy (some params.modeless)) settings.controllerName key
    (ListenerPlan.ofGateway s key g)
  have hnames := ListenerPlan.nodup_names_ofGateway s key g
  unfold active
  dsimp only
  rw [ListenerPlan.ofGateway_modeless, RouteAttachment.ofGateway_modeless,
    PublicAddress.ofGateway?_modeless, s.dataplane?_modeless, flaw?_document hnames,
    flaw?_document hnames]
  simp only [Except.map, unaddressed, GatewayRender.unaddressed, Option.map_some]
  rw [unaddressed_document_congr hattached, routeParents_congr hattached]
  simp only [length_isOn_congr hattached]
  rfl

theorem invalid_modeless (message : String) :
    invalid settings s key g message =
      invalid settings.modeless s.modeless key g message := by
  unfold invalid
  rw [rejectedParents_modeless, rejectedParents_policy s _ (settings.modeless.policy none)]
  rfl

theorem terminating_modeless (p q : EndpointPolicy) :
    terminating settings s key g p = terminating settings.modeless s.modeless key g q := by
  unfold terminating
  dsimp only
  rw [rejectedParents_modeless, rejectedParents_policy s p q]
  rfl

theorem unaddressed_ofChecked (accepted : Condition) (params : Option GatewayConfig) :
    (ofChecked settings s key g (some ⟨accepted, params⟩)).map unaddressed =
      (ofChecked settings.modeless s.modeless key g
        (some ⟨accepted, params.map GatewayConfig.modeless⟩)).map unaddressed := by
  unfold ofChecked
  dsimp only
  split
  · rw [terminating_modeless]
  · cases params with
    | none =>
      dsimp only [Option.map_none]
      rw [invalid_modeless]
    | some params =>
      dsimp only [Option.map_some]
      split
      · exact unaddressed_active settings s key g params
      · rw [invalid_modeless]

theorem ofChecked_none_modeless :
    ofChecked settings s key g none = ofChecked settings.modeless s.modeless key g none := by
  unfold ofChecked
  dsimp only
  split
  · rw [terminating_modeless]
  · rw [invalid_modeless]

end GatewayOutput

theorem unaddressed_renderGateway (settings : Settings) (s : Snapshot) (key : ObjectKey) :
    (renderGateway settings s key).map (Option.map GatewayOutput.unaddressed) =
      (renderGateway settings.modeless s.modeless key).map
        (Option.map GatewayOutput.unaddressed) := by
  have hswap : ∀ e : Except Fault GatewayOutput,
      (e.map some).map (Option.map GatewayOutput.unaddressed) =
        (e.map GatewayOutput.unaddressed).map some := by
    intro e
    cases e <;> rfl
  unfold renderGateway
  rw [s.gateway?_modeless, s.gatewayClass?_modeless]
  cases s.gateway? key with
  | none => rfl
  | some g =>
    dsimp only
    cases s.gatewayClass? g.spec.gatewayClassName with
    | none =>
      dsimp only
      rw [GatewayOutput.ofChecked_none_modeless]
      rfl
    | some c =>
      dsimp only
      rw [ClassCheck.ofClass_modeless]
      show (if settings.owns c = true then _ else _ : Except _ _).map _ =
        (if settings.owns c = true then _ else _ : Except _ _).map _
      split
      · rw [hswap, hswap, GatewayOutput.unaddressed_ofChecked]
      · rfl

/-! ## Sweeps -/

theorem SortedMap.map_ofList {κ α β : Type} [Ord κ] [Std.TransOrd κ] [Std.LawfulEqOrd κ]
    [DecidableEq κ] (f : α → β) (l : List (κ × α)) :
    (ofList l).map f = ofList (l.map fun b => (b.1, f b.2)) := by
  have hinsert : ∀ (m : SortedMap κ α) k v, (m.insert k v).map f = (m.map f).insert k (f v) := by
    intro m k v
    refine ext_get? fun k' => ?_
    rw [get?_map, get?_insert, get?_insert, get?_map]
    split <;> rfl
  have hfold : ∀ m : SortedMap κ α, (l.foldl (fun m b => m.insert b.1 b.2) m).map f =
      (l.map fun b => (b.1, f b.2)).foldl (fun m b => m.insert b.1 b.2) (m.map f) := by
    induction l with
    | nil => exact fun _ => rfl
    | cons b rest ih =>
      intro m
      rw [List.foldl_cons, List.map_cons, List.foldl_cons, ih, hinsert]
  exact hfold empty

namespace Sweep

variable (settings : Settings) (s : Snapshot)

theorem unaddressed_outputs :
    (outputs settings s).map (fun o => (o.1, o.2.unaddressed)) =
      (outputs settings.modeless s.modeless).map (fun o => (o.1, o.2.unaddressed)) := by
  unfold outputs
  rw [s.gateways_modeless, List.map_filterMap, List.map_filterMap]
  refine List.filterMap_congr fun b _ => ?_
  have h := unaddressed_renderGateway settings s b.1
  dsimp only
  generalize renderGateway settings s b.1 = e at h ⊢
  generalize renderGateway settings.modeless s.modeless b.1 = e' at h ⊢
  rcases e with f | - | o <;> rcases e' with f' | - | o' <;>
    simp only [Except.map, Option.map_none, Option.map_some, Except.ok.injEq, Option.some.injEq,
      reduceCtorEq] at h ⊢
  rw [h]

/-- Whatever is read of what is rendered, apart from addresses, is the same without the mode. -/
theorem map_outputs_modeless {α : Type} (read : ObjectKey × GatewayOutput → α)
    (hread : ∀ k o, read (k, o.unaddressed) = read (k, o)) :
    (outputs settings s).map read = (outputs settings.modeless s.modeless).map read := by
  have hmapped : ∀ l : List (ObjectKey × GatewayOutput),
      l.map read = (l.map fun o => (o.1, o.2.unaddressed)).map read := by
    intro l
    rw [List.map_map]
    exact List.map_congr_left fun o _ => (hread o.1 o.2).symm
  rw [hmapped, unaddressed_outputs, ← hmapped]

theorem classStatuses_modeless :
    classStatuses settings.modeless s.modeless = classStatuses settings s := by
  unfold classStatuses
  rw [s.gatewayClasses_modeless]
  simp only [ClassCheck.ofClass_modeless]
  rfl

theorem routeStatuses_modeless :
    routeStatuses settings.modeless s.modeless (outputs settings.modeless s.modeless)
        (failed settings.modeless s.modeless) =
      routeStatuses settings s (outputs settings s) (failed settings s) := by
  have hparents : (outputs settings s).flatMap (·.2.routeParents) =
      (outputs settings.modeless s.modeless).flatMap (·.2.routeParents) := by
    rw [List.flatMap_def, List.flatMap_def,
      map_outputs_modeless settings s (fun o => o.2.routeParents) fun _ _ => rfl]
  unfold routeStatuses routeStatus? missingParents
  rw [s.routes_modeless, s.gateway?_modeless, failed_eq_nil, failed_eq_nil, hparents]
  rfl

/-- A sweep without the addresses in clusters does not depend on the mode. -/
theorem unaddressed_ofSnapshot :
    (ofSnapshot settings s).unaddressed =
      (ofSnapshot settings.modeless s.modeless).unaddressed := by
  have hgateways : ((ofSnapshot settings s).gateways).map GatewayRender.unaddressed =
      ((ofSnapshot settings.modeless s.modeless).gateways).map GatewayRender.unaddressed := by
    have hrenders := congrArg (List.map fun o => (o.1, o.2.render)) (unaddressed_outputs settings s)
    rw [List.map_map, List.map_map] at hrenders
    unfold ofSnapshot
    dsimp only
    rw [SortedMap.map_ofList, SortedMap.map_ofList, List.map_map, List.map_map]
    exact congrArg SortedMap.ofList hrenders
  have hstatuses : (ofSnapshot settings s).statuses =
      (ofSnapshot settings.modeless s.modeless).statuses := by
    unfold ofSnapshot
    dsimp only
    rw [classStatuses_modeless, routeStatuses_modeless,
      map_outputs_modeless settings s _ fun _ _ => rfl]
  have hfailures : (ofSnapshot settings s).failures =
      (ofSnapshot settings.modeless s.modeless).failures := by
    rw [failures_ofSnapshot, failures_ofSnapshot]
  unfold unaddressed
  rw [hgateways, hstatuses, hfailures]
  rfl

end Sweep

end RelayFleet
