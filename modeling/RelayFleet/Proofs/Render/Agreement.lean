/-
What an active gateway reports, what it contributes to the configuration and what has to run for it
are put together apart from each other. They agree (`agrees_of_active`): on the listeners that are
served, on the routes that reach one, on the address, and on the ports.
-/
import RelayFleet.Proofs.Render.Regular
import Mathlib

namespace RelayFleet

/-! ## Conditions of a list -/

namespace Condition

variable {c : Condition} {cs : List Condition} {type : String}

theorem holds_cons : holds (c :: cs) type = if c.type = type then c.isTrue else holds cs type := by
  unfold holds find?
  by_cases h : c.type = type
  · rw [List.find?_cons_of_pos (by simpa using h), if_pos h]
    rfl
  · rw [List.find?_cons_of_neg (by simpa using h), if_neg h]

end Condition

/-! ## Names of ports -/

namespace WorkloadPort

/-- The name of a port tells its transport and its number. -/
theorem of_name {p q : Protocol} {m n : UInt16} (h : (of p m).name = (of q n).name) :
    p.transport = q.transport ∧ m = n := by
  have hudp : Ascii.lower Transport.udp.text = "udp" := by decide +kernel
  have htcp : Ascii.lower Transport.tcp.text = "tcp" := by decide +kernel
  have hnumber : ∀ {start : String},
      start ++ "-" ++ toString m.toNat = start ++ "-" ++ toString n.toNat → m = n := fun h =>
    UInt16.toNat_inj.1 (Nat.repr_inj.1 ((String.append_right_inj _).1 h))
  unfold of at h
  dsimp only at h
  cases hp : p.transport <;> cases hq : q.transport <;> rw [hp, hq] at h
  · exact ⟨rfl, hnumber h⟩
  · rw [hudp, htcp] at h
    have hchars := congrArg String.toList h
    simp [String.toList_append] at hchars
  · rw [hudp, htcp] at h
    have hchars := congrArg String.toList h
    simp [String.toList_append] at hchars
  · exact ⟨rfl, hnumber h⟩

end WorkloadPort

/-! ## Agreement -/

/-- The clusters that a document's listener of a name leads to, none if it has no such listener. -/
def Document.routesOf (d : Document) (listener : String) : List String :=
  ((d.listener? listener).map (·.routes)).getD []

/-- Whether the status of a route in a sweep has an entry that a gateway accepted the route. -/
def Sweep.Accepts (sweep : Sweep) (gateway k : ObjectKey) : Prop :=
  ∃ status, sweep.statuses.get? (.udpRoute k) = some (.udpRoute status) ∧
    ∃ e ∈ status.parents, e.parentRef.isGateway = true ∧
      e.parentRef.gatewayKey k.namespaceText = gateway ∧
      Condition.holds e.conditions ConditionType.accepted = true

/-- Whether what is reported about a gateway and its routes, the document that it contributes and
its workload tell the same. -/
structure GatewayOutput.Agrees (settings : Settings) (s : Snapshot) (key : ObjectKey) (g : Gateway)
    (output : GatewayOutput) (config : Document) : Prop where
  /-- Every listener of the gateway is reported on, under its name once. -/
  reported : (output.status.listeners.map (·.name)).Nodup ∧
    ∀ name, name ∈ output.status.listeners.map (·.name) ↔ name ∈ g.spec.listeners.map (·.name)
  /-- The listeners of the document are among those. -/
  listed : ∀ l ∈ config.listeners, ∃ st ∈ output.status.listeners,
    l.name = key.listenerPrefix ++ st.name
  served : ∀ st ∈ output.status.listeners,
    (∃ l ∈ config.listeners, l.name = key.listenerPrefix ++ st.name) ↔
      Condition.holds st.conditions ConditionType.accepted = true ∧
      Condition.holds st.conditions ConditionType.resolvedRefs = true ∧
      Condition.holds st.conditions ConditionType.conflicted = false
  attachedRoutes : ∀ st ∈ output.status.listeners,
    st.attachedRoutes = Int32.ofNat (config.routesOf (key.listenerPrefix ++ st.name)).length
  counted : ∀ st ∈ output.status.listeners,
    (config.routesOf (key.listenerPrefix ++ st.name)).length < 2 ^ 31 →
      st.attachedRoutes.toInt = (config.routesOf (key.listenerPrefix ++ st.name)).length
  /-- What is reported about routes is about references to the gateway. -/
  references : ∀ e ∈ output.routeParents, ∃ r, s.route? e.1 = some r ∧
    e.2.parentRef ∈ r.spec.parentRefs ∧ e.2.parentRef.isGateway = true ∧
      e.2.parentRef.gatewayKey e.1.namespaceText = key
  routes : ∀ k r, s.route? k = some r →
    ((∃ e ∈ output.routeParents, e.1 = k ∧
        Condition.holds e.2.conditions ConditionType.accepted = true) ↔
      (∃ c ∈ config.clusters, c.name = k.text) ∧ ∃ l ∈ config.listeners, k.text ∈ l.routes)
  /-- The same of the status that the route is to carry in the end. -/
  accepted : ∀ k r, s.route? k = some r → ((Sweep.ofSnapshot settings s).Accepts key k ↔
    (∃ c ∈ config.clusters, c.name = k.text) ∧ ∃ l ∈ config.listeners, k.text ∈ l.routes)
  addresses : output.status.addresses.length ≤ 1 ∧ ∀ l ∈ config.listeners,
    l.publicAddress = output.status.addresses.head?.map (·.value)
  programmed : Condition.holds output.status.conditions ConditionType.programmed = true ↔
    output.status.addresses ≠ [] ∧ output.render.workload.isSome = true
  ports : ∀ w, output.render.workload = some w →
    w.ports.Perm (config.listeners.map fun l => .of l.protocol l.port)
  distinctPorts : ∀ w, output.render.workload = some w → (w.ports.map (·.name)).Nodup ∧
    (w.ports.map fun p => (p.protocol.transport, p.port)).Nodup

namespace GatewayOutput

variable {settings : Settings} {s : Snapshot} {key : ObjectKey} {g : Gateway}
  {params : GatewayConfig} {output : GatewayOutput}

/-! ### Listeners -/

theorem isReady_iff_holds {p : ListenerPlan} {n : Nat} (hp : p ∈ ListenerPlan.ofGateway s key g) :
    p.isReady = true ↔
      Condition.holds (p.status n).conditions ConditionType.accepted = true ∧
      Condition.holds (p.status n).conditions ConditionType.resolvedRefs = true ∧
      Condition.holds (p.status n).conditions ConditionType.conflicted = false := by
  -- each of the three conditions is the first one of its type
  obtain ⟨haccepted, hresolved, hconflicted⟩ := ListenerPlan.types_ofGateway hp
  rw [ListenerPlan.isReady_iff]
  have hresolved' : ConditionType.resolvedRefs ≠ ConditionType.accepted := by decide
  have hconflicted' : ConditionType.conflicted ≠ ConditionType.accepted := by decide
  have hapart : ConditionType.conflicted ≠ ConditionType.resolvedRefs := by decide
  unfold ListenerPlan.status
  simp only [Condition.holds_cons, haccepted, hresolved, hconflicted, hresolved', hresolved'.symm,
    hconflicted'.symm, hapart.symm, if_true, if_false]

/-- A planned listener is served exactly if the document has a listener of its name. -/
theorem isReady_iff_mem {p : ListenerPlan} (hp : p ∈ ListenerPlan.ofGateway s key g) :
    p.isReady = true ↔ ∃ l ∈ (contribution settings s key g params).listeners,
      l.name = key.listenerPrefix ++ p.name := by
  constructor
  · intro hready
    obtain ⟨l, hl, hpresents⟩ : ∃ l ∈ (contribution settings s key g params).listeners, _ :=
      exists_mem_contribution hp hready
    exact ⟨l, hl, hpresents.name⟩
  · rintro ⟨l, hl, hname⟩
    obtain ⟨q, hq, hready, hpresents⟩ := served_of_mem hl
    have hpq : p.name = q.name :=
      (String.append_right_inj _).1 (hname.symm.trans hpresents.name)
    rwa [List.inj_on_of_nodup_map (ListenerPlan.nodup_names_ofGateway s key g) hp hq hpq]

/-- The routes that are attached to a planned listener are those that the document lists for it. -/
theorem length_routesOf (hs : s.Indexed) (hplain : s.PlainRoutes) (p : ListenerPlan) :
    ((contribution settings s key g params).routesOf (key.listenerPrefix ++ p.name)).length =
      ((attached settings s key g params).filter (·.isOn p.name)).length := by
  unfold Document.routesOf Document.listener?
  rcases hfound : (contribution settings s key g params).listeners.find?
    (·.name == key.listenerPrefix ++ p.name) with - | l
  · -- a listener that is not served has no routes
    have hnone : (attached settings s key g params).filter (·.isOn p.name) = [] := by
      refine List.filter_eq_nil_iff.2 fun a ha hon => ?_
      obtain ⟨q, hq, hready, hname⟩ := ready_of_attached ha (RouteAttachment.isOn_iff.1 hon)
      obtain ⟨l, hl, hlname⟩ : ∃ l ∈ (contribution settings s key g params).listeners,
        l.name = key.listenerPrefix ++ q.name := (isReady_iff_mem hq).1 hready
      have := List.find?_eq_none.1 hfound l hl
      rw [hlname, hname] at this
      exact this (beq_self_eq_true _)
    rw [hfound, hnone]
    rfl
  · -- its routes are listed by cluster, and the clusters of different routes are told apart
    rw [hfound]
    have hl := List.mem_of_find?_eq_some hfound
    have hname : l.name = key.listenerPrefix ++ p.name :=
      by simpa using List.find?_some hfound
    obtain ⟨q, -, -, hpresents⟩ := served_of_mem hl
    have hpq : p.name = q.name := (String.append_right_inj _).1 (hname.symm.trans hpresents.name)
    have hnodup : (((attached settings s key g params).filter (·.isOn p.name)).map
        (·.backends.cluster.name)).Nodup :=
      (List.filter_sublist.map _).nodup (nodup_clusters_attached hs hplain)
    show l.routes.length = _
    rw [hpresents.routes, ← hpq, RouteAttachment.clustersOn, (SortedSet.perm_ofList hnodup).length_eq,
      List.length_map]

/-! ### Routes -/

theorem mem_attached_iff {a : RouteAttachment} : a ∈ attached settings s key g params ↔
    ∃ b ∈ s.routesForGateway key, RouteAttachment.ofRoute s (settings.policy (some params))
      settings.controllerName key (ListenerPlan.ofGateway s key g) b.1 b.2 = a :=
  List.mem_map

/-- Something is accepted of a route exactly if a listener of the document leads to its cluster. -/
theorem accepted_iff_routed (hs : s.Indexed) (hplain : s.PlainRoutes) {k : ObjectKey} {r : UdpRoute}
    (hr : s.route? k = some r) :
    (∃ a ∈ attached settings s key g params, a.route = k ∧
      ∃ e ∈ a.parents, Condition.holds e.conditions ConditionType.accepted = true) ↔
    (∃ c ∈ (contribution settings s key g params).clusters, c.name = k.text) ∧
      ∃ l ∈ (contribution settings s key g params).listeners, k.text ∈ l.routes := by
  constructor
  · rintro ⟨a, ha, rfl, haccepted⟩
    obtain ⟨b, -, rfl⟩ := mem_attached_iff.1 ha
    obtain ⟨name, hname⟩ := RouteAttachment.accepted_iff_attached.1 haccepted
    have hcluster := name_cluster_of_attached ha
    refine ⟨⟨_, mem_clusters_iff.2 ⟨_, ha, ⟨name, hname⟩, rfl⟩, hcluster⟩, ?_⟩
    obtain ⟨p, hp, hready, rfl⟩ := ready_of_attached ha hname
    obtain ⟨l, hl, hpresents⟩ : ∃ l ∈ (contribution settings s key g params).listeners, _ :=
      exists_mem_contribution hp hready
    refine ⟨l, hl, ?_⟩
    rw [hpresents.routes, RouteAttachment.mem_clustersOn_iff]
    exact ⟨_, ha, hname, hcluster⟩
  · rintro ⟨-, l, hl, hroute⟩
    obtain ⟨p, -, -, hpresents⟩ := served_of_mem hl
    rw [hpresents.routes, RouteAttachment.mem_clustersOn_iff] at hroute
    obtain ⟨a, ha, hon, hname⟩ := hroute
    obtain ⟨b, hb, rfl⟩ := mem_attached_iff.1 ha
    -- the cluster is that of the route itself, since no other route has its text
    have hkey : b.1 = k := hplain.eq_of_text hs (hs.mem_routesForGateway_iff.1 hb).1 hr
      ((name_cluster_of_attached ha).symm.trans hname)
    exact ⟨_, ha, hkey, RouteAttachment.accepted_iff_attached.2 ⟨_, hon⟩⟩

/-- What is reported about routes is about references to the gateway. -/
theorem reference_of_mem_routeParents (hs : s.Indexed)
    (h : renderGateway settings s key = .ok (some output)) {e : ObjectKey × RouteParentStatus}
    (he : e ∈ output.routeParents) : ∃ r, s.route? e.1 = some r ∧
      e.2.parentRef ∈ r.spec.parentRefs ∧ e.2.parentRef.isGateway = true ∧
        e.2.parentRef.gatewayKey e.1.namespaceText = key := by
  have hmem : (e.1, e.2.parentRef) ∈ RouteAttachment.references s key := by
    rw [← references_of_renderGateway h]
    exact List.mem_map_of_mem he
  obtain ⟨r, hr, hparent⟩ := RouteAttachment.mem_references_iff.1 hmem
  exact ⟨r, (hs.mem_routesForGateway_iff.1 hr).1, ParentReference.mem_targeting_iff.1 hparent⟩

/-- What a gateway reports about a route goes into the route's status. -/
theorem accepts_iff (hs : s.Indexed) (h : renderGateway settings s key = .ok (some output))
    {k : ObjectKey} {r : UdpRoute} (hr : s.route? k = some r) :
    (Sweep.ofSnapshot settings s).Accepts key k ↔ ∃ e ∈ output.routeParents, e.1 = k ∧
      Condition.holds e.2.conditions ConditionType.accepted = true := by
  constructor
  · rintro ⟨status, hstatus, e, he, hgateway, hkey, hholds⟩
    obtain ⟨r', status', hr', hstatus, ⟨⟩⟩ := Sweep.get?_statuses_route_iff.1 hstatus
    rw [(Sweep.routeStatus?_eq_some_iff.1 hstatus).2.2] at he
    rcases List.mem_append.1 he with he | he
    · -- an entry about this gateway comes from its own rendering
      obtain ⟨o, ho, he⟩ := Sweep.mem_reported_iff.1 he
      have hrender := (Sweep.mem_outputs ho).2
      obtain ⟨_, -, -, -, howner⟩ := reference_of_mem_routeParents hs hrender he
      rw [← howner, hkey, h] at hrender
      cases hrender
      exact ⟨_, he, rfl, hholds⟩
    · -- the gateway is there, so no reference to it is missing
      obtain ⟨g, hg, -⟩ := renderGateway_cases h
      have hmissing := (Sweep.of_mem_missingParents he).2
      rw [hkey, hg] at hmissing
      cases hmissing
  · rintro ⟨e, he, rfl, hholds⟩
    have hreported : e.2 ∈ Sweep.reported (Sweep.outputs settings s) e.1 :=
      Sweep.mem_reported_iff.2 ⟨_, Sweep.mem_outputs_of_renderGateway h, he⟩
    obtain ⟨_, -, -, hgateway, hkey⟩ := reference_of_mem_routeParents hs h he
    refine ⟨_, Sweep.get?_statuses_route_iff.2 ⟨r, _, hr, Sweep.routeStatus?_eq_some_iff.2
      ⟨?_, .inl (List.ne_nil_of_mem hreported), rfl⟩, rfl⟩, e.2, List.mem_append_left _ hreported,
      hgateway, hkey, hholds⟩
    rw [Sweep.failed_eq_nil]
    exact List.any_eq_false.2 fun _ _ => by simp

/-! ### Address -/

theorem holds_programmed {dataplane : String} {found : Bool} {address : Option PublicAddress}
    {c : Condition} (hc : c.type = ConditionType.accepted) :
    Condition.holds [c, programmed g dataplane found address] ConditionType.programmed = true ↔
      address.isSome = true ∧ found = true := by
  rw [Condition.holds_cons, hc, if_neg (by decide)]
  unfold programmed
  cases found
  · exact ⟨nofun, nofun⟩
  · cases address
    · exact ⟨nofun, nofun⟩
    · exact ⟨fun _ => ⟨rfl, rfl⟩, fun _ => rfl⟩

/-! ### Ports -/

/-- The ports of different listeners of the document have different names. -/
theorem names_ports : (contribution settings s key g params).listeners.Pairwise fun a b =>
    (WorkloadPort.of a.protocol a.port).name ≠ (WorkloadPort.of b.protocol b.port).name :=
  slots_contribution.imp fun {a b} hne he => hne <| by
    obtain ⟨htransport, hport⟩ := WorkloadPort.of_name he
    rw [htransport, hport]

/-- The ports of the planned listeners that are served are those of the listeners of the
document. -/
theorem perm_workloadPorts : (workloadPorts (ListenerPlan.ofGateway s key g)).Perm
    ((contribution settings s key g params).listeners.map fun l => .of l.protocol l.port) := by
  have hserved : ((ListenerPlan.ofGateway s key g).filter (·.isReady)).filterMap (fun p =>
      p.protocol.bind fun protocol => p.port.map (WorkloadPort.of protocol)) =
      (((ListenerPlan.ofGateway s key g).filter (·.isReady)).filterMap (listenerConfig? key
        (PublicAddress.ofGateway? s key g) (attached settings s key g params))).map
          fun l => .of l.protocol l.port := by
    rw [List.map_filterMap]
    refine List.filterMap_congr fun p _ => ?_
    unfold listenerConfig?
    cases p.protocol <;> cases p.port <;> rfl
  have hperm : ((contribution settings s key g params).listeners.map fun l =>
      WorkloadPort.of l.protocol l.port).Perm _ := perm_listeners_document.map _
  have hnodup : ((contribution settings s key g params).listeners.map
      fun l => WorkloadPort.of l.protocol l.port).Nodup :=
    List.pairwise_map.2 (names_ports.imp fun hne he => hne (congrArg WorkloadPort.name he))
  unfold workloadPorts
  rw [hserved]
  exact (SortedSet.perm_ofList (hperm.nodup_iff.1 hnodup)).trans hperm.symm

theorem Served.perm_ports (h : Served settings s key g params output) {w : Workload}
    (hw : output.render.workload = some w) : w.ports.Perm
      ((contribution settings s key g params).listeners.map fun l => .of l.protocol l.port) := by
  rw [h.ports w hw]
  exact perm_workloadPorts

/-- The ports of a workload are told apart by transport and number. -/
theorem Served.nodup_slots (h : Served settings s key g params output) {w : Workload}
    (hw : output.render.workload = some w) :
    (w.ports.map fun p => (p.protocol.transport, p.port)).Nodup := by
  rw [((h.perm_ports hw).map _).nodup_iff, List.map_map]
  exact List.pairwise_map.2 (slots_contribution.imp fun hne he => hne (Prod.swap_inj.1 he))

/-! ### The whole -/

theorem Served.attachedRoutes (hs : s.Indexed) (hplain : s.PlainRoutes)
    (h : Served settings s key g params output) {st : ListenerStatus}
    (hst : st ∈ output.status.listeners) : st.attachedRoutes = Int32.ofNat
      ((contribution settings s key g params).routesOf (key.listenerPrefix ++ st.name)).length := by
  rw [h.listeners] at hst
  obtain ⟨p, hp, rfl⟩ := List.mem_map.1 hst
  exact congrArg Int32.ofNat (length_routesOf hs hplain p).symm

theorem Served.routes (hs : s.Indexed) (hplain : s.PlainRoutes)
    (h : Served settings s key g params output) {k : ObjectKey} {r : UdpRoute}
    (hr : s.route? k = some r) :
    (∃ e ∈ output.routeParents, e.1 = k ∧
      Condition.holds e.2.conditions ConditionType.accepted = true) ↔
    (∃ c ∈ (contribution settings s key g params).clusters, c.name = k.text) ∧
      ∃ l ∈ (contribution settings s key g params).listeners, k.text ∈ l.routes := by
  rw [← accepted_iff_routed hs hplain hr, h.routeParents]
  constructor
  · rintro ⟨e, he, hk, hholds⟩
    obtain ⟨a, ha, he⟩ := List.mem_flatMap.1 he
    obtain ⟨parent, hparent, rfl⟩ := List.mem_map.1 he
    exact ⟨a, ha, hk, parent, hparent, hholds⟩
  · rintro ⟨a, ha, hk, parent, hparent, hholds⟩
    exact ⟨_, List.mem_flatMap.2 ⟨a, ha, List.mem_map_of_mem hparent⟩, hk, hholds⟩

theorem Served.agrees (hs : s.Indexed) (hplain : s.PlainRoutes)
    (hrender : renderGateway settings s key = .ok (some output))
    (h : Served settings s key g params output) :
    Agrees settings s key g output (contribution settings s key g params) where
  reported := by
    have hnames : output.status.listeners.map (·.name) =
        (ListenerPlan.ofGateway s key g).map (·.name) := by
      rw [h.listeners, List.map_map]
      rfl
    rw [hnames]
    refine ⟨ListenerPlan.nodup_names_ofGateway s key g, fun name => ?_⟩
    rw [ListenerPlan.names_ofGateway, ListenerPlan.mem_names_firstOfName]
  listed l hl := by
    obtain ⟨p, hp, -, hpresents⟩ := served_of_mem hl
    rw [h.listeners]
    exact ⟨_, List.mem_map_of_mem hp, hpresents.name⟩
  served st hst := by
    rw [h.listeners] at hst
    obtain ⟨p, hp, rfl⟩ := List.mem_map.1 hst
    exact (isReady_iff_mem hp).symm.trans (isReady_iff_holds hp)
  attachedRoutes _ := h.attachedRoutes hs hplain
  counted st hst hlt := by
    rw [h.attachedRoutes hs hplain hst]
    exact Int32.toInt_ofNat_of_lt hlt
  references _ := reference_of_mem_routeParents hs hrender
  routes _ _ := h.routes hs hplain
  accepted _ _ hr := (accepts_iff hs hrender hr).trans (h.routes hs hplain hr)
  addresses := by
    rw [h.addresses, List.length_map]
    refine ⟨Option.length_toList_le, fun l hl => ?_⟩
    obtain ⟨p, -, -, hpresents⟩ := served_of_mem hl
    rw [hpresents.publicAddress]
    cases PublicAddress.ofGateway? s key g <;> rfl
  programmed := by
    rw [h.conditions, holds_programmed rfl, h.addresses, h.workload]
    cases PublicAddress.ofGateway? s key g <;> simp
  ports _ := h.perm_ports
  distinctPorts w hw := by
    refine ⟨?_, h.nodup_slots hw⟩
    rw [((h.perm_ports hw).map _).nodup_iff, List.map_map]
    exact List.pairwise_map.2 names_ports

end GatewayOutput

/-- What is reported about an active gateway of a snapshot that a store came to, the document that
it contributes and its workload agree, where no namespace of a route has a slash. The count of
routes is reported as a number of 32 bits. -/
theorem agrees_of_active (settings : Settings) (events : List StoreEvent) (key : ObjectKey)
    (output : GatewayOutput) (hplain : (Store.ofEvents events).snapshot.PlainRoutes)
    (h : renderGateway settings (Store.ofEvents events).snapshot key = .ok (some output))
    (hactive : output.render.state = .active) :
    ∃ g config, (Store.ofEvents events).snapshot.gateway? key = some g ∧
      output.render.config = some config ∧
      output.Agrees settings (Store.ofEvents events).snapshot key g config := by
  obtain ⟨g, params, hg, hserved⟩ := served_of_renderGateway h hactive
  exact ⟨g, _, hg, hserved.config, hserved.agrees (Store.indexed_ofEvents events) hplain h⟩

/-- Of the listeners of a gateway that are at odds, one is served. -/
theorem agrees_of_active_for_fleet :
    ∃ output g config,
      renderGateway {} (Store.ofEvents Store.fleetEvents).snapshot (.namespaced "a" "g") =
        .ok (some output) ∧ output.render.state = .active ∧ config.listeners.length = 1 ∧
      output.Agrees {} (Store.ofEvents Store.fleetEvents).snapshot (.namespaced "a" "g") g
        config := by
  have hfound : ((Sweep.ofSnapshot {} (Store.ofEvents Store.fleetEvents).snapshot).gateways.get?
      (.namespaced "a" "g")).any (fun r => r.state = .active ∧
        r.config.map (·.listeners.length) = some 1) = true := by
    decide +kernel
  obtain ⟨r, hr, hfacts⟩ := (Option.any_eq_true _ _).1 hfound
  obtain ⟨hactive, hlisteners⟩ := of_decide_eq_true hfacts
  obtain ⟨output, -, hrender, rfl⟩ := Sweep.render_of_get? hr
  obtain ⟨g, config, -, hconfig, hagrees⟩ :=
    agrees_of_active {} Store.fleetEvents _ output (by decide +kernel) hrender hactive
  rw [hconfig] at hlisteners
  exact ⟨output, g, config, hrender, hactive, Option.some.inj hlisteners, hagrees⟩

end RelayFleet
