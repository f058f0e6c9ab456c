/-
The document of a gateway. Its listeners stand for the planned listeners that are served, its
clusters for the routes that are attached (`served_of_mem`, `mem_clusters_iff`), so it has no flaw
and every gateway of a snapshot can be rendered (`failures_ofSnapshot`).
-/
import RelayFleet.Proofs.Render.Attachment
import RelayFleet.Proofs.Render.Sweep

namespace RelayFleet

/-! ## Items in the order of their names -/

namespace Document

section

variable {α : Type} (name : α → String) (l : List α)

theorem perm_sortByName : (sortByName name l).Perm l := List.mergeSort_perm l _

theorem sorted_sortByName :
    (sortByName name l).Pairwise fun a b => (compare (name a) (name b)).isLE = true :=
  List.pairwise_mergeSort (fun _ _ _ => Std.TransCmp.isLE_trans)
    (fun a b => by
      have hswap : (compare (name b) (name a)).isLE = (compare (name a) (name b)).isGE :=
        Std.OrientedCmp.isGE_eq_isLE.symm
      rw [hswap]
      cases compare (name a) (name b) <;> rfl)
    l

/-- Items of different names are in strict order. -/
theorem strict_sortByName (h : (l.map name).Nodup) :
    (sortByName name l).Pairwise fun a b => compare (name a) (name b) = .lt := by
  have hnames : (sortByName name l).Pairwise fun a b => name a ≠ name b :=
    List.pairwise_map.1 (((perm_sortByName name l).map name).nodup_iff.2 h)
  refine (sorted_sortByName name l).imp₂ (fun a b hle hne => ?_) hnames
  rcases hcompare : compare (name a) (name b) with - | - | -
  · rfl
  · exact absurd (Std.LawfulEqCmp.eq_of_compare hcompare) hne
  · rw [hcompare] at hle
    cases hle

end

end Document

/-! ## Documents without a flaw -/

theorem listenersFlaw?_eq_none {clusters seen : List String} {ls : List ListenerConfig}
    (hnames : (ls.map (·.name)).Nodup) (hseen : ∀ l ∈ ls, l.name ∉ seen)
    (hroutes : ∀ l ∈ ls, ∀ r ∈ l.routes, r ∈ clusters) : listenersFlaw? clusters seen ls = none := by
  induction ls generalizing seen with
  | nil => rfl
  | cons l rest ih =>
    rw [List.map_cons, List.nodup_cons] at hnames
    have hl := List.mem_cons_self (a := l) (l := rest)
    have hfound : l.routes.find? (fun r => ! clusters.contains r) = none := by
      refine List.find?_eq_none.2 fun r hr => ?_
      simpa using hroutes l hl r hr
    unfold listenersFlaw?
    rw [if_neg (by simpa using hseen l hl), hfound]
    refine ih hnames.2 (fun l' hl' hmem => ?_) fun l' hl' => hroutes l' (List.mem_cons_of_mem _ hl')
    rcases List.mem_cons.1 hmem with h | h
    · exact hnames.1 (h ▸ List.mem_map_of_mem hl')
    · exact hseen l' (List.mem_cons_of_mem _ hl') h

/-! ## Listeners of a document -/

/-- The names of the clusters that are reached through a listener. -/
def RouteAttachment.clustersOn (attachments : List RouteAttachment) (listener : String) :
    SortedSet String :=
  .ofList ((attachments.filter (·.isOn listener)).map (·.backends.cluster.name))

theorem RouteAttachment.isOn_iff {a : RouteAttachment} {listener : String} :
    a.isOn listener = true ↔ listener ∈ a.listeners := List.contains_iff_mem

theorem RouteAttachment.mem_clustersOn_iff {attachments : List RouteAttachment}
    {listener cluster : String} : cluster ∈ (clustersOn attachments listener).toList ↔
      ∃ a ∈ attachments, listener ∈ a.listeners ∧ a.backends.cluster.name = cluster := by
  unfold clustersOn
  rw [SortedSet.mem_ofList]
  simp only [List.mem_map, List.mem_filter, isOn_iff, and_assoc]

namespace GatewayOutput

variable {settings : Settings} {s : Snapshot} {key : ObjectKey} {g : Gateway}

/-- Whether a listener of a document is that of a planned listener. -/
structure Presents (key : ObjectKey) (address : Option PublicAddress)
    (attachments : List RouteAttachment) (p : ListenerPlan) (l : ListenerConfig) : Prop where
  name : l.name = key.listenerPrefix ++ p.name
  protocol : p.protocol = some l.protocol
  port : p.port = some l.port
  publicAddress : l.publicAddress = address.map (·.value)
  publicPort : l.publicPort = address.map (·.publicPort l.protocol l.port)
  routes : l.routes = (RouteAttachment.clustersOn attachments p.name).toList

section

variable {address : Option PublicAddress} {plans : List ListenerPlan}
  {attachments : List RouteAttachment} {p : ListenerPlan} {l : ListenerConfig}

theorem presents_of_listenerConfig? (h : listenerConfig? key address attachments p = some l) :
    Presents key address attachments p l := by
  unfold listenerConfig? at h
  split at h
  · rename_i protocol port hprotocol hport
    cases h
    exact ⟨rfl, hprotocol, hport, rfl, rfl, rfl⟩
  · cases h

theorem exists_listenerConfig? {protocol : Protocol} {port : UInt16}
    (hprotocol : p.protocol = some protocol) (hport : p.port = some port) :
    ∃ l, listenerConfig? key address attachments p = some l := by
  unfold listenerConfig?
  rw [hprotocol, hport]
  exact ⟨_, rfl⟩

/-- The listeners of a document are those of the planned listeners that are served. -/
theorem perm_listeners_document : (document key address plans attachments).listeners.Perm
    ((plans.filter (·.isReady)).filterMap (listenerConfig? key address attachments)) := by
  unfold document Document.normalize
  dsimp only
  refine (Document.perm_sortByName _ _).trans (.of_eq ?_)
  -- the routes of every listener are in order already
  have hsame : ∀ l ∈ (plans.filter (·.isReady)).filterMap (listenerConfig? key address attachments),
      { l with routes := (SortedSet.ofList l.routes).toList } = l := by
    intro l hl
    obtain ⟨p, -, hp⟩ := List.mem_filterMap.1 hl
    rw [(presents_of_listenerConfig? hp).routes, SortedSet.ofList_toList,
      ← (presents_of_listenerConfig? hp).routes]
  exact (List.map_congr_left hsame).trans (List.map_id _)

/-- A listener of a document is that of a planned listener that is served. -/
theorem served_of_mem (h : l ∈ (document key address plans attachments).listeners) :
    ∃ p ∈ plans, p.isReady = true ∧ Presents key address attachments p l := by
  obtain ⟨p, hp, hl⟩ := List.mem_filterMap.1 (perm_listeners_document.mem_iff.1 h)
  obtain ⟨hplan, hready⟩ := List.mem_filter.1 hp
  exact ⟨p, hplan, hready, presents_of_listenerConfig? hl⟩

/-- A planned listener that is served, with protocol and port, has a listener in the document. -/
theorem exists_mem_listeners (hp : p ∈ plans) (hready : p.isReady = true) {protocol : Protocol}
    {port : UInt16} (hprotocol : p.protocol = some protocol) (hport : p.port = some port) :
    ∃ l ∈ (document key address plans attachments).listeners,
      Presents key address attachments p l := by
  obtain ⟨l, hl⟩ : ∃ l, listenerConfig? key address attachments p = some l :=
    exists_listenerConfig? hprotocol hport
  refine ⟨l, perm_listeners_document.mem_iff.2 ?_, presents_of_listenerConfig? hl⟩
  exact List.mem_filterMap.2 ⟨p, List.mem_filter.2 ⟨hp, hready⟩, hl⟩

/-! ## Clusters of a document -/

theorem perm_clusters_document : (document key address plans attachments).clusters.Perm
    ((attachments.filter (! ·.listeners.isEmpty)).map (·.backends.cluster)) :=
  Document.perm_sortByName _ _

/-- The clusters of a document are those of the routes that are attached to a listener. -/
theorem mem_clusters_iff {c : ClusterConfig} :
    c ∈ (document key address plans attachments).clusters ↔
      ∃ a ∈ attachments, (∃ name, name ∈ a.listeners) ∧ a.backends.cluster = c := by
  rw [perm_clusters_document.mem_iff]
  simp only [List.mem_map, List.mem_filter, and_assoc, Bool.not_eq_true',
    List.isEmpty_eq_false_iff_exists_mem]

/-- A cluster that a listener leads to is in the document. -/
theorem routes_document {r : String}
    (hl : l ∈ (document key address plans attachments).listeners) (hr : r ∈ l.routes) :
    ∃ c ∈ (document key address plans attachments).clusters, c.name = r := by
  obtain ⟨p, -, -, hp⟩ := served_of_mem hl
  rw [hp.routes, RouteAttachment.mem_clustersOn_iff] at hr
  obtain ⟨a, ha, hon, hname⟩ := hr
  exact ⟨_, mem_clusters_iff.2 ⟨a, ha, ⟨_, hon⟩, rfl⟩, hname⟩

theorem names_document (h : (plans.map (·.name)).Nodup) :
    ((document key address plans attachments).listeners.map (·.name)).Nodup := by
  rw [(perm_listeners_document.map _).nodup_iff]
  refine List.pairwise_map.2 (List.pairwise_filterMap.2 ?_)
  refine (List.Pairwise.filter _ (List.pairwise_map.1 h)).imp fun {p q} hpq c hc d hd he => hpq ?_
  rw [(presents_of_listenerConfig? hc).name, (presents_of_listenerConfig? hd).name] at he
  exact (String.append_right_inj _).1 he

/-- The document of a gateway has no flaw. -/
theorem flaw?_document (h : (plans.map (·.name)).Nodup) :
    (document key address plans attachments).flaw? = none := by
  refine listenersFlaw?_eq_none (names_document h) (fun _ _ => List.not_mem_nil) fun l hl r hr => ?_
  obtain ⟨c, hc, hname⟩ := routes_document hl hr
  exact hname ▸ List.mem_map_of_mem hc

end

/-! ## Gateways without failures -/

theorem active_ok (params : GatewayConfig) :
    ∃ output, active settings s key g params = .ok output := by
  unfold active
  dsimp only
  rw [flaw?_document (ListenerPlan.nodup_names_ofGateway s key g)]
  exact ⟨_, rfl⟩

theorem ofChecked_ok (check : Option ClassCheck) :
    ∃ output, ofChecked settings s key g check = .ok output := by
  unfold ofChecked
  dsimp only
  split
  · exact ⟨_, rfl⟩
  · split
    · exact ⟨_, rfl⟩
    · split
      · split
        · exact active_ok _
        · exact ⟨_, rfl⟩
      · exact ⟨_, rfl⟩

end GatewayOutput

theorem renderGateway_ok {settings : Settings} {s : Snapshot} {key : ObjectKey} {g : Gateway}
    (h : s.gateway? key = some g) : ∃ output, renderGateway settings s key = .ok output := by
  have hmap : ∀ {e : Except Fault GatewayOutput}, (∃ output, e = .ok output) →
      ∃ output, e.map some = .ok output := by
    rintro _ ⟨output, rfl⟩
    exact ⟨_, rfl⟩
  unfold renderGateway
  rw [h]
  dsimp only
  split
  · split
    · exact hmap (GatewayOutput.ofChecked_ok _)
    · exact ⟨_, rfl⟩
  · split
    · exact hmap (GatewayOutput.ofChecked_ok _)
    · exact ⟨_, rfl⟩

namespace Sweep

theorem failed_eq_nil (settings : Settings) (s : Snapshot) : failed settings s = [] := by
  refine List.filterMap_eq_nil_iff.2 fun b hb => ?_
  obtain ⟨output, ho⟩ : ∃ output, renderGateway settings s b.1 = .ok output :=
    renderGateway_ok (Snapshot.gateway?_eq_some_iff.2 (Snapshot.mem_gateways_iff.1 hb))
  simp only [ho]

/-- Every gateway of a snapshot can be rendered. -/
theorem failures_ofSnapshot (settings : Settings) (s : Snapshot) :
    (ofSnapshot settings s).failures = ∅ := by
  show SortedMap.ofList (failed settings s) = ∅
  rw [failed_eq_nil]
  rfl

end Sweep

end RelayFleet
