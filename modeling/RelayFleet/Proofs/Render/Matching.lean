/-
The attachment of routes is what routes and listeners declare (`matched_of_active`). A reference of
a route attaches to the listeners that it means, that take the route and that are served; its report
says whether there are any, and what is missing otherwise. A listener of the document leads to the
routes with a reference that attaches to it, each of them counts once, and its cluster is there once.
-/
import RelayFleet.Proofs.Render.Agreement
import RelayFleet.Proofs.Render.Mode
import RelayFleet.Proofs.Render.Parents

namespace RelayFleet

/-- Where items differ in a feature, one has its feature alone. -/
theorem filter_eq_singleton {α β : Type} [DecidableEq β] {l : List α} {f : α → β} {a : α}
    (h : (l.map f).Nodup) (ha : a ∈ l) : l.filter (f · = f a) = [a] := by
  refine List.perm_singleton.1
    ((List.perm_ext_iff_of_nodup (h.of_map.filter _) (List.nodup_singleton a)).2 fun b => ?_)
  rw [List.mem_filter, List.mem_singleton, decide_eq_true_eq]
  constructor
  · rintro ⟨hb, hsame⟩
    exact List.inj_on_of_nodup_map h hb ha hsame
  · rintro rfl
    exact ⟨ha, rfl⟩

/-! ## References and listeners -/

/-- Whether a planned listener takes routes from a namespace. -/
structure ListenerPlan.Takes (p : ListenerPlan) (gatewayNamespace routeNamespace : String) :
    Prop where
  kind : RouteGroupKind.udpRoute ∈ p.supportedKinds
  namespaces : p.admitted = .all ∨ p.admitted = .same ∧ gatewayNamespace = routeNamespace

namespace ParentReference

/-- Whether a reference means a planned listener, by the name and the port that it gives. -/
structure Means (parent : ParentReference) (p : ListenerPlan) : Prop where
  name : ∀ name, parent.sectionName = some name → p.name = name
  port : ∀ port, parent.port = some port →
    ∃ n : UInt16, p.port = some n ∧ (n.toNat : Int) = port.toInt

/-- Whether a reference attaches a route to a planned listener. -/
structure Attaches (parent : ParentReference) (gatewayNamespace routeNamespace : String)
    (p : ListenerPlan) : Prop where
  means : parent.Means p
  takes : p.Takes gatewayNamespace routeNamespace
  ready : p.isReady = true

/-- Whether a reason tells which of these is missing, of a reference that attaches to nothing. -/
structure Explains (parent : ParentReference) (gatewayNamespace routeNamespace : String)
    (plans : List ListenerPlan) (reason : String) : Prop where
  unmeant : (∀ p ∈ plans, ¬ parent.Means p) → reason = Reason.noMatchingParent
  closed : (∃ p ∈ plans, parent.Means p) →
    (∀ p ∈ plans, parent.Means p → ¬ p.Takes gatewayNamespace routeNamespace) →
      reason = Reason.notAllowedByListeners
  idle : (∃ p ∈ plans, parent.Means p ∧ p.Takes gatewayNamespace routeNamespace) →
    (∀ p ∈ plans, parent.Means p → p.Takes gatewayNamespace routeNamespace →
      p.isReady = false) → reason = Reason.noMatchingParent

end ParentReference

/-- Whether a report says if its reference attaches to one of these listeners, and if to none, what
is missing. -/
structure RouteParentStatus.Tells (gatewayNamespace routeNamespace : String)
    (plans : List ListenerPlan) (e : RouteParentStatus) : Prop where
  accepted : Condition.holds e.conditions ConditionType.accepted = true ↔
    ∃ p ∈ plans, e.parentRef.Attaches gatewayNamespace routeNamespace p
  rejected : (∀ p ∈ plans, ¬ e.parentRef.Attaches gatewayNamespace routeNamespace p) →
    ∃ c, Condition.find? e.conditions ConditionType.accepted = some c ∧ c.status = .false ∧
      e.parentRef.Explains gatewayNamespace routeNamespace plans c.reason

/-- Whether one of the references of a route to a gateway attaches it to a planned listener. -/
def UdpRoute.AttachedTo (r : UdpRoute) (gateway k : ObjectKey) (p : ListenerPlan) : Prop :=
  ∃ parent ∈ r.spec.parentRefs, parent.isGateway = true ∧
    parent.gatewayKey k.namespaceText = gateway ∧
      parent.Attaches gateway.namespaceText k.namespaceText p

/-! ### The three filters -/

theorem ListenerPlan.admits_iff {s : Snapshot} {key : ObjectKey} {g : Gateway} {p : ListenerPlan}
    (hp : p ∈ ofGateway s key g) {gatewayNamespace routeNamespace : String} :
    p.admits gatewayNamespace routeNamespace = true ↔ p.Takes gatewayNamespace routeNamespace := by
  -- of the kinds that could be supported there is the one
  have hkinds : p.supportedKinds ≠ [] ↔ RouteGroupKind.udpRoute ∈ p.supportedKinds := by
    obtain ⟨l, -, c, -, rfl⟩ := exists_ofListener hp
    show kindsOf l ≠ [] ↔ _ ∈ kindsOf l
    unfold kindsOf
    split
    · simp
    · simp
  have htakes : p.Takes gatewayNamespace routeNamespace ↔
      RouteGroupKind.udpRoute ∈ p.supportedKinds ∧
        (p.admitted = .all ∨ p.admitted = .same ∧ gatewayNamespace = routeNamespace) :=
    ⟨fun h => ⟨h.kind, h.namespaces⟩, fun ⟨hkind, h⟩ => ⟨hkind, h⟩⟩
  unfold admits
  rw [htakes, Bool.and_eq_true, Bool.not_eq_true', ← Bool.not_eq_true, List.isEmpty_iff]
  refine and_congr hkinds ?_
  cases p.admitted <;> simp

namespace ParentReference

variable {s : Snapshot} {key : ObjectKey} {g : Gateway} {parent : ParentReference}
  {p : ListenerPlan} {gatewayNamespace routeNamespace : String}

theorem picks_iff : parent.picks p = true ↔ parent.Means p := by
  unfold picks
  rw [Bool.and_eq_true, Option.all_eq_true, Option.all_eq_true]
  simp only [beq_iff_eq, Option.map_eq_some_iff]
  exact ⟨fun h => ⟨fun name hname => (h.1 name hname).symm, h.2⟩,
    fun h => ⟨fun name hname => (h.name name hname).symm, h.port⟩⟩

/-- A reference attaches to the listeners that pass all three filters, and where there are none, the
reason tells which filter was the last. -/
theorem attach_cases (s : Snapshot) (key : ObjectKey) (g : Gateway) (parent : ParentReference)
    (gatewayNamespace routeNamespace : String) :
    let plans := ListenerPlan.ofGateway s key g
    (∃ ready, parent.attach plans gatewayNamespace routeNamespace = .ok ready ∧ ready ≠ [] ∧
      ∀ p, p ∈ ready ↔ p ∈ plans ∧ parent.Attaches gatewayNamespace routeNamespace p) ∨
    ∃ e, parent.attach plans gatewayNamespace routeNamespace = .error e ∧
      (∀ p ∈ plans, ¬ parent.Attaches gatewayNamespace routeNamespace p) ∧
      parent.Explains gatewayNamespace routeNamespace plans e.reason := by
  intro plans
  have hpicked : ∀ p, p ∈ plans.filter parent.picks ↔ p ∈ plans ∧ parent.Means p := by
    intro p
    rw [List.mem_filter, picks_iff]
  have hadmitting : ∀ p, p ∈ (plans.filter parent.picks).filter
      (·.admits gatewayNamespace routeNamespace) ↔
      p ∈ plans ∧ parent.Means p ∧ p.Takes gatewayNamespace routeNamespace := by
    intro p
    rw [List.mem_filter, hpicked, and_assoc]
    exact and_congr_right fun hp => and_congr_right fun _ => ListenerPlan.admits_iff hp
  have hready : ∀ p, p ∈ ((plans.filter parent.picks).filter
      (·.admits gatewayNamespace routeNamespace)).filter (·.isReady) ↔
      p ∈ plans ∧ parent.Attaches gatewayNamespace routeNamespace p := by
    intro p
    rw [List.mem_filter, hadmitting, and_assoc]
    exact and_congr_right fun _ => ⟨fun ⟨h, hr⟩ => ⟨h.1, h.2, hr⟩, fun h => ⟨⟨h.1, h.2⟩, h.3⟩⟩
  unfold attach
  dsimp only
  split
  · rename_i hnone
    have hunmeant : ∀ p ∈ plans, ¬ parent.Means p := fun p hp hmeans =>
      List.ne_nil_of_mem ((hpicked p).2 ⟨hp, hmeans⟩) (List.isEmpty_iff.1 hnone)
    refine .inr ⟨_, rfl, fun p hp h => hunmeant p hp h.means, fun _ => rfl, ?_, fun _ _ => rfl⟩
    exact fun ⟨p, hp, hmeans⟩ => absurd hmeans (hunmeant p hp)
  · rename_i hsome
    split
    · rename_i hnone
      have hclosed : ∀ p ∈ plans, parent.Means p → ¬ p.Takes gatewayNamespace routeNamespace :=
        fun p hp hmeans htakes => List.ne_nil_of_mem ((hadmitting p).2 ⟨hp, hmeans, htakes⟩)
          (List.isEmpty_iff.1 hnone)
      obtain ⟨p, hp⟩ := List.exists_mem_of_ne_nil _ (mt List.isEmpty_iff.2 hsome)
      obtain ⟨hp, hmeans⟩ := (hpicked p).1 hp
      refine .inr ⟨_, rfl, fun p hp h => hclosed p hp h.means h.takes,
        fun h => absurd hmeans (h p hp), fun _ _ => rfl, ?_⟩
      exact fun ⟨q, hq, hmeans, htakes⟩ => absurd htakes (hclosed q hq hmeans)
    · rename_i hsome
      split
      · rename_i hnone
        obtain ⟨p, hp⟩ := List.exists_mem_of_ne_nil _ (mt List.isEmpty_iff.2 hsome)
        obtain ⟨hp, hmeans, htakes⟩ := (hadmitting p).1 hp
        refine .inr ⟨_, rfl, fun p hp h => ?_, fun _ => rfl,
          fun _ h => absurd htakes (h p hp hmeans), fun _ _ => rfl⟩
        exact List.ne_nil_of_mem ((hready p).2 ⟨hp, h⟩) (List.isEmpty_iff.1 hnone)
      · rename_i hsome
        exact .inl ⟨_, rfl, mt List.isEmpty_iff.2 hsome, hready⟩

end ParentReference

/-! ## Routes and listeners -/

section

variable {s : Snapshot} {policy : EndpointPolicy} {controller : String} {key k : ObjectKey}
  {g : Gateway} {r : UdpRoute} {p : ListenerPlan}

theorem UdpRoute.AttachedTo.mem_routesForGateway (hs : s.Indexed) (hr : s.route? k = some r)
    (h : r.AttachedTo key k p) : (k, r) ∈ s.routesForGateway key := by
  obtain ⟨parent, hparent, hgateway, hkey, -⟩ := h
  refine hs.mem_routesForGateway_iff.2
    ⟨hr, Snapshot.mem_parentGateways_iff.2 ⟨parent, hparent, hgateway, ?_⟩⟩
  rw [Sweep.namespaceText_of_route? hs hr]
  exact hkey

namespace RouteAttachment

/-- The listeners of a route are those that one of its references attaches it to. -/
theorem mem_listeners_iff_attachedTo (hp : p ∈ ListenerPlan.ofGateway s key g) :
    p.name ∈ (ofRoute s policy controller key (ListenerPlan.ofGateway s key g) k r).listeners ↔
      r.AttachedTo key k p := by
  rw [mem_listeners_ofRoute]
  refine exists_congr fun parent => ?_
  rw [ParentReference.mem_targeting_iff, and_assoc, and_assoc]
  refine and_congr_right fun _ => and_congr_right fun _ => and_congr_right fun _ => ?_
  obtain ⟨ready, hready, -, hmem⟩ | ⟨e, he, hnone, -⟩ :=
    ParentReference.attach_cases s key g parent key.namespaceText k.namespaceText
  · rw [hready]
    constructor
    · rintro ⟨_, ⟨⟩, q, hq, hname⟩
      obtain ⟨hq, h⟩ := (hmem q).1 hq
      cases List.inj_on_of_nodup_map (ListenerPlan.nodup_names_ofGateway s key g) hq hp hname
      exact h
    · intro h
      exact ⟨ready, rfl, p, (hmem p).2 ⟨hp, h⟩, rfl⟩
  · rw [he]
    exact ⟨by rintro ⟨_, ⟨⟩, -⟩, fun h => absurd h (hnone p hp)⟩

theorem exists_mem_listeners_iff :
    (∃ name, name ∈ (ofRoute s policy controller key (ListenerPlan.ofGateway s key g) k
      r).listeners) ↔ ∃ p ∈ ListenerPlan.ofGateway s key g, r.AttachedTo key k p := by
  constructor
  · rintro ⟨name, hname⟩
    obtain ⟨p, hp, -, rfl⟩ := ready_of_mem_listeners hname
    exact ⟨p, hp, (mem_listeners_iff_attachedTo hp).1 hname⟩
  · rintro ⟨p, hp, h⟩
    exact ⟨p.name, (mem_listeners_iff_attachedTo hp).2 h⟩

/-- What is reported about a reference tells what it attaches to. -/
theorem tells_of_mem {e : RouteParentStatus}
    (he : e ∈ (ofRoute s policy controller key (ListenerPlan.ofGateway s key g) k r).parents) :
    e.Tells key.namespaceText k.namespaceText (ListenerPlan.ofGateway s key g) := by
  obtain ⟨⟨parent, outcome⟩, ho, rfl⟩ := List.mem_map.1 he
  obtain ⟨_, -, ⟨⟩⟩ := List.mem_map.1 ho
  dsimp only
  obtain ⟨ready, hready, hne, hmem⟩ | ⟨e, he, hnone, hwhy⟩ :=
    ParentReference.attach_cases s key g parent key.namespaceText k.namespaceText
  · rw [hready]
    obtain ⟨p, hp⟩ := List.exists_mem_of_ne_nil _ hne
    obtain ⟨hp, h⟩ := (hmem p).1 hp
    exact ⟨⟨fun _ => ⟨p, hp, h⟩, fun _ => rfl⟩, fun hnone => absurd h (hnone p hp)⟩
  · rw [he]
    exact ⟨⟨nofun, fun ⟨p, hp, h⟩ => absurd h (hnone p hp)⟩, fun _ => ⟨_, rfl, rfl, hwhy⟩⟩

end RouteAttachment

end

/-! ## What is reported, and what the document says -/

/-- Whether every reference to a gateway is reported on once, by what it attaches to, and every
listener counts the routes that are attached to it, each of them once. -/
structure GatewayOutput.Reports (s : Snapshot) (key : ObjectKey) (plans : List ListenerPlan)
    (output : GatewayOutput) : Prop where
  references : ∀ k r, s.route? k = some r → ∀ parent ∈ r.spec.parentRefs,
    parent.isGateway = true → parent.gatewayKey k.namespaceText = key →
      ∃ e, output.routeParents.filter (fun e => e.1 = k ∧ e.2.parentRef = parent) = [(k, e)] ∧
        e.Tells key.namespaceText k.namespaceText plans
  counts : ∀ p ∈ plans, ∃ (st : ListenerStatus) (routes : List ObjectKey),
    output.status.listeners.filter (·.name = p.name) = [st] ∧ routes.Nodup ∧
    (∀ k, k ∈ routes ↔ ∃ r, s.route? k = some r ∧ r.AttachedTo key k p) ∧
      st.attachedRoutes = Int32.ofNat routes.length

/-- Whether a document leads to a route from the listeners that it is attached to, and has its
cluster once if there are any. -/
structure Document.LeadsTo (s : Snapshot) (policy : EndpointPolicy) (key : ObjectKey)
    (plans : List ListenerPlan) (k : ObjectKey) (r : UdpRoute) (d : Document) : Prop where
  listeners : ∀ l ∈ d.listeners, ∃ p ∈ plans, l.name = key.listenerPrefix ++ p.name ∧
    (k.text ∈ l.routes ↔ r.AttachedTo key k p)
  served : ∀ p ∈ plans, r.AttachedTo key k p →
    ∃ l ∈ d.listeners, l.name = key.listenerPrefix ++ p.name
  cluster : (∃ p ∈ plans, r.AttachedTo key k p) →
    d.clusters.filter (·.name = k.text) = [(ResolvedBackends.ofRoute s policy k r).cluster]
  nothing : (∀ p ∈ plans, ¬ r.AttachedTo key k p) → d.clusters.filter (·.name = k.text) = []

/-- Whether the text of a key is that of no other route. -/
def Snapshot.Told (s : Snapshot) (k : ObjectKey) : Prop :=
  ∀ k' r', s.route? k' = some r' → k'.text = k.text → k' = k

namespace GatewayOutput

variable {settings : Settings} {s : Snapshot} {key k : ObjectKey} {g : Gateway} {r : UdpRoute}
  {params : GatewayConfig} {output : GatewayOutput}

theorem Served.reports (hs : s.Indexed)
    (hrender : renderGateway settings s key = .ok (some output))
    (h : Served settings s key g params output) :
    output.Reports s key (ListenerPlan.ofGateway s key g) where
  references k r hr parent hparent hgateway hkey := by
    have hreferences := references_of_renderGateway hrender
    have href : (k, parent) ∈ RouteAttachment.references s key :=
      (Sweep.mem_references_of_route? hs hr).2 ⟨hparent, hgateway, hkey⟩
    rw [← hreferences, List.mem_map] at href
    obtain ⟨⟨_, e⟩, he, ⟨⟩⟩ := href
    have honce := filter_eq_singleton
      (hreferences.symm ▸ RouteAttachment.nodup_references s key) he
    simp only [Prod.mk.injEq] at honce
    refine ⟨e, honce, ?_⟩
    rw [h.routeParents] at he
    obtain ⟨a, ha, he⟩ := List.mem_flatMap.1 he
    obtain ⟨_, he, ⟨⟩⟩ := List.mem_map.1 he
    obtain ⟨b, -, rfl⟩ := mem_attached_iff.1 ha
    exact RouteAttachment.tells_of_mem he
  counts p hp := by
    have hnames : ((output.status.listeners).map (·.name)).Nodup := by
      rw [h.listeners, List.map_map]
      exact ListenerPlan.nodup_names_ofGateway s key g
    have hst := List.mem_map_of_mem (f := fun p => ListenerPlan.status p
      ((attached settings s key g params).filter (·.isOn p.name)).length) hp
    rw [← h.listeners] at hst
    refine ⟨_, ((attached settings s key g params).filter (·.isOn p.name)).map (·.route),
      filter_eq_singleton hnames hst, ?_, fun k => ?_, by rw [List.length_map]; rfl⟩
    · refine (List.filter_sublist.map _).nodup ?_
      rw [attached, RouteAttachment.routes_ofGateway]
      exact List.pairwise_map.2 ((s.sorted_routesForGateway key).imp SortedMap.ne_of_lt)
    · simp only [List.mem_map, List.mem_filter, RouteAttachment.isOn_iff]
      constructor
      · rintro ⟨a, ⟨ha, hon⟩, rfl⟩
        obtain ⟨b, hb, rfl⟩ := mem_attached_iff.1 ha
        exact ⟨b.2, (hs.mem_routesForGateway_iff.1 hb).1,
          (RouteAttachment.mem_listeners_iff_attachedTo hp).1 hon⟩
      · rintro ⟨r, hr, hattached⟩
        exact ⟨_, ⟨mem_attached_iff.2 ⟨(k, r), hattached.mem_routesForGateway hs hr, rfl⟩,
          (RouteAttachment.mem_listeners_iff_attachedTo hp).2 hattached⟩, rfl⟩

/-- The routes that a gateway serves are those that are attached to one of its listeners. -/
theorem mem_servedRoutes_iff {controller : String} {b : ObjectKey × UdpRoute} :
    b ∈ servedRoutes controller s key g ↔ b ∈ s.routesForGateway key ∧
      ∃ p ∈ ListenerPlan.ofGateway s key g, b.2.AttachedTo key b.1 p := by
  unfold servedRoutes
  rw [(Document.perm_sortByName _ _).mem_iff, List.mem_filter, Bool.not_eq_true',
    List.isEmpty_eq_false_iff_exists_mem, RouteAttachment.exists_mem_listeners_iff]

theorem nodup_servedRoutes (controller : String) :
    ((servedRoutes controller s key g).map (·.1)).Nodup := by
  unfold servedRoutes
  rw [((Document.perm_sortByName _ _).map _).nodup_iff]
  refine (List.filter_sublist.map _).nodup ?_
  exact List.pairwise_map.2 ((s.sorted_routesForGateway key).imp SortedMap.ne_of_lt)

/-- The clusters of a name are those of the routes that are served and have that text. -/
theorem clusters_of_text (text : String) :
    (contribution settings s key g params).clusters.filter (·.name = text) =
      ((servedRoutes settings.controllerName s key g).filter (·.1.text = text)).map fun b =>
        (ResolvedBackends.ofRoute s (settings.policy (some params)) b.1 b.2).cluster := by
  rw [clusters_contribution, List.filter_map]
  refine congrArg (List.map _) (List.filter_congr fun b _ => ?_)
  simp only [Function.comp_apply, ResolvedBackends.name_cluster_ofRoute]

theorem leadsTo_contribution (hs : s.Indexed) (hr : s.route? k = some r) (htold : s.Told k) :
    (contribution settings s key g params).LeadsTo s (settings.policy (some params)) key
      (ListenerPlan.ofGateway s key g) k r := by
  -- nothing else of the gateway has the text of this route
  have hown : ∀ b ∈ s.routesForGateway key, b.1.text = k.text → b = (k, r) := by
    intro b hb htext
    have hb := (hs.mem_routesForGateway_iff.1 hb).1
    have hkey := htold _ _ hb htext
    rw [hkey, hr] at hb
    exact Prod.ext hkey (Option.some.inj hb).symm
  have hclusters : (contribution settings s key g params).clusters.filter (·.name = k.text) =
      ((servedRoutes settings.controllerName s key g).filter (·.1 = k)).map fun b =>
        (ResolvedBackends.ofRoute s (settings.policy (some params)) b.1 b.2).cluster := by
    rw [clusters_of_text]
    refine congrArg (List.map _) (List.filter_congr fun b hb => decide_eq_decide.2 ?_)
    exact ⟨fun htext => congrArg Prod.fst (hown b (mem_servedRoutes_iff.1 hb).1 htext),
      fun hkey => congrArg ObjectKey.text hkey⟩
  refine ⟨fun l hl => ?_, fun p hp hattached => ?_, fun ⟨p, hp, hattached⟩ => ?_, fun hnone => ?_⟩
  · obtain ⟨p, hp, -, hpresents⟩ := served_of_mem hl
    refine ⟨p, hp, hpresents.name, ?_⟩
    rw [hpresents.routes, RouteAttachment.mem_clustersOn_iff]
    constructor
    · rintro ⟨a, ha, hon, hname⟩
      obtain ⟨b, hb, rfl⟩ := mem_attached_iff.1 ha
      cases hown b hb ((name_cluster_of_attached ha).symm.trans hname)
      exact (RouteAttachment.mem_listeners_iff_attachedTo hp).1 hon
    · intro h
      exact ⟨_, mem_attached_iff.2 ⟨(k, r), h.mem_routesForGateway hs hr, rfl⟩,
        (RouteAttachment.mem_listeners_iff_attachedTo hp).2 h,
        ResolvedBackends.name_cluster_ofRoute ..⟩
  · obtain ⟨parent, -, -, -, hattaches⟩ := hattached
    obtain ⟨l, hl, hpresents⟩ : ∃ l ∈ (contribution settings s key g params).listeners, _ :=
      exists_mem_contribution hp hattaches.ready
    exact ⟨l, hl, hpresents.name⟩
  · have hserved : (k, r) ∈ servedRoutes settings.controllerName s key g :=
      mem_servedRoutes_iff.2 ⟨hattached.mem_routesForGateway hs hr, p, hp, hattached⟩
    rw [hclusters, filter_eq_singleton (nodup_servedRoutes _) hserved]
    rfl
  · rw [hclusters, List.map_eq_nil_iff, List.filter_eq_nil_iff]
    intro b hb hkey
    obtain ⟨hb, p, hp, hattached⟩ := mem_servedRoutes_iff.1 hb
    cases hown b hb (congrArg ObjectKey.text (of_decide_eq_true hkey))
    exact hnone p hp hattached

end GatewayOutput

/-! ## Active gateways -/

theorem exists_rendered (settings : Settings) (s : Snapshot) (key : ObjectKey)
    (P : GatewayOutput → Bool) (h : (renderGateway settings s key).toOption.join.any P = true) :
    ∃ output, renderGateway settings s key = .ok (some output) ∧ P output = true := by
  rcases hr : renderGateway settings s key with f | (- | output) <;> rw [hr] at h
  · cases h
  · cases h
  · exact ⟨output, rfl, h⟩

/-- Where no namespace has a slash, the text of a route's key is that of no other route. -/
theorem Snapshot.PlainRoutes.told {s : Snapshot} (h : s.PlainRoutes) (hs : s.Indexed)
    {k : ObjectKey} {r : UdpRoute} (hr : s.route? k = some r) : s.Told k :=
  fun _ _ hr' htext => h.eq_of_text hs hr' hr htext

/-- Every reference to an active gateway is answered by what it attaches to, and every listener
counts the routes attached to it. The document leads to a route exactly from the listeners that it
is attached to, and has its cluster once if there are any, where the text of its key is that of no
other route. -/
theorem matched_of_active (settings : Settings) (events : List StoreEvent) (key : ObjectKey)
    (output : GatewayOutput)
    (h : renderGateway settings (Store.ofEvents events).snapshot key = .ok (some output))
    (hactive : output.render.state = .active) :
    let s := (Store.ofEvents events).snapshot
    ∃ g policy config, s.gateway? key = some g ∧ settings.mode? s key = some policy ∧
      output.render.config = some config ∧
      output.Reports s key (ListenerPlan.ofGateway s key g) ∧
      ∀ k r, s.route? k = some r → s.Told k →
        config.LeadsTo s policy key (ListenerPlan.ofGateway s key g) k r := by
  intro s
  have hs : s.Indexed := Store.indexed_ofEvents events
  obtain ⟨g, c, params, hg, hc, hparams, ha⟩ := GatewayOutput.active_of_renderGateway h hactive
  have hserved := GatewayOutput.served_of_active ha
  exact ⟨g, _, _, hg, settings.mode?_of_params hg hc hparams, hserved.config,
    hserved.reports hs h, fun k r hr htold => GatewayOutput.leadsTo_contribution hs hr htold⟩

/-- A route with two references to the gateway, one of them to the listener that is served, is
attached to that listener, and counts there once. -/
theorem matched_of_active_for_mixedRoute :
    let s := (Store.ofEvents Sweep.mixedEvents).snapshot
    ∃ output g config policy, renderGateway {} s (.namespaced "a" "g") = .ok (some output) ∧
      output.render.state = .active ∧ output.render.config = some config ∧
      output.Reports s (.namespaced "a" "g") (ListenerPlan.ofGateway s (.namespaced "a" "g") g) ∧
      config.LeadsTo s policy (.namespaced "a" "g")
        (ListenerPlan.ofGateway s (.namespaced "a" "g") g) (.namespaced "a" "mixed")
        Sweep.mixedRoute ∧
      output.status.listeners.map (·.attachedRoutes) = [1, 0, 0, 0] := by
  intro s
  have hroute : s.route? (.namespaced "a" "mixed") = some Sweep.mixedRoute := by decide +kernel
  have hplain : s.PlainRoutes := by decide +kernel
  obtain ⟨output, hrender, hfacts⟩ := exists_rendered {} s (.namespaced "a" "g")
    (fun output => output.render.state = .active ∧
      output.status.listeners.map (·.attachedRoutes) = [1, 0, 0, 0]) (by decide +kernel)
  obtain ⟨hactive, hcounts⟩ := of_decide_eq_true hfacts
  obtain ⟨g, policy, config, -, -, hconfig, hreports, hleads⟩ :=
    matched_of_active {} Sweep.mixedEvents _ output hrender hactive
  exact ⟨output, g, config, policy, hrender, hactive, hconfig, hreports,
    hleads _ _ hroute (hplain.told (Store.indexed_ofEvents _) hroute), hcounts⟩

/-! ### Routes whose keys have the same text -/

/-- A gateway with a listener that is open to all namespaces. -/
def openGateway : Gateway where
  metadata := { name := some "g", inNamespace := some "a" }
  spec := {
    gatewayClassName := "c"
    listeners := [{
      name := "udp", protocol := "UDP", port := 3478
      allowedRoutes := some { namespaces := some { admitted := some .all } } }] }

/-- A route to that gateway, of this key. -/
def slashRoute (ns name : String) : UdpRoute where
  metadata := { name := some name, inNamespace := some ns }
  spec := { parentRefs := [{ name := "g", inNamespace := some "a" }] }

/-- A store with that gateway, its class, and two routes to it that a slash in a namespace makes look
the same. -/
def Store.slashEvents : List StoreEvent := Store.fleetEvents.take 2 ++ [
  .upsert (.gateway openGateway),
  .upsert (.udpRoute (slashRoute "a" "b/c")),
  .upsert (.udpRoute (slashRoute "a/b" "c"))]

/-- A route of such a store is attached to a listener, and the document has two clusters of its
name. -/
theorem not_leadsTo_for_slashes :
    let s := (Store.ofEvents Store.slashEvents).snapshot
    let key := ObjectKey.namespaced "a" "g"
    let plans := ListenerPlan.ofGateway s key openGateway
    let k := ObjectKey.namespaced "a" "b/c"
    ∃ output policy config, renderGateway {} s key = .ok (some output) ∧
      output.render.state = .active ∧ s.gateway? key = some openGateway ∧
      Settings.mode? {} s key = some policy ∧ output.render.config = some config ∧
      s.route? k = some (slashRoute "a" "b/c") ∧
      (∃ p ∈ plans, (slashRoute "a" "b/c").AttachedTo key k p) ∧
      (config.clusters.filter (·.name = k.text)).length = 2 ∧
      ¬ config.LeadsTo s policy key plans k (slashRoute "a" "b/c") := by
  intro s key plans k
  have hroute : s.route? k = some (slashRoute "a" "b/c") := by decide +kernel
  have hopen : s.gateway? key = some openGateway := by decide +kernel
  have hclass : (s.gatewayClass? "c").any (fun c => Settings.owns {} c ∧
      (ClassCheck.ofClass s c).accepted.isTrue ∧ (ClassCheck.ofClass s c).params.isSome) = true := by
    decide +kernel
  obtain ⟨c, hc, hclass⟩ := (Option.any_eq_true _ _).1 hclass
  obtain ⟨howns, haccepted, hsome⟩ := of_decide_eq_true hclass
  obtain ⟨params, hparams⟩ := Option.isSome_iff_exists.1 hsome
  obtain ⟨output, hrender, hactive, hserved⟩ :=
    active_of_accepted hopen hc howns rfl haccepted hparams
  have hlistener : "udp" ∈ (RouteAttachment.ofRoute s default "" key plans k
      (slashRoute "a" "b/c")).listeners := by
    decide +kernel
  have hattached : ∃ p ∈ plans, (slashRoute "a" "b/c").AttachedTo key k p :=
    RouteAttachment.exists_mem_listeners_iff.1 ⟨_, hlistener⟩
  have htwice : ((GatewayOutput.contribution {} s key openGateway params).clusters.filter
      (·.name = k.text)).length = 2 := by
    rw [GatewayOutput.clusters_of_text, List.length_map, GatewayOutput.servedRoutes,
      ((Document.perm_sortByName _ _).filter _).length_eq]
    decide +kernel
  refine ⟨output, _, _, hrender, hactive, hopen, Settings.mode?_of_params _ hopen hc hparams,
    hserved.config, hroute, hattached, htwice, fun h => ?_⟩
  rw [h.cluster hattached] at htwice
  cases htwice

end RelayFleet
