/-
Documents put together. A list of clusters says which types and which endpoints go with a name.
Merging adds this up (`alike_merge`), and what is said determines a document whose parts are in
order (`InOrder.ext`). So the documents of a family come to one document, in every order and however
they are grouped (`merge_family`), and an artifact does not depend on the order of its gateways.
-/
import RelayFleet.Proofs.Operator.Artifacts
import RelayFleet.Proofs.Render.Document

namespace RelayFleet

/-! ## What clusters say of names -/

namespace ClusterConfig

/-- Whether some cluster gives this type to a name. -/
def Types (l : List ClusterConfig) (name : String) (t : ClusterType) : Prop :=
  ∃ c ∈ l, c.name = name ∧ c.type = t

/-- Whether some cluster of a name has this endpoint. -/
def Leads (l : List ClusterConfig) (name x : String) : Prop :=
  ∃ c ∈ l, c.name = name ∧ x ∈ c.endpoints

/-- Whether two lists say the same of every name. -/
structure Alike (l m : List ClusterConfig) : Prop where
  types : ∀ name t, Types l name t ↔ Types m name t
  endpoints : ∀ name x, Leads l name x ↔ Leads m name x

/-- Whether clusters of one name are of one type. -/
def Coherent (l : List ClusterConfig) : Prop :=
  ∀ c ∈ l, ∀ d ∈ l, c.name = d.name → c.type = d.type

variable {l l' m m' : List ClusterConfig} {c d : ClusterConfig} {name x : String} {t : ClusterType}

@[simp] theorem not_types_nil : ¬ Types [] name t := by
  simp [Types]

@[simp] theorem not_leads_nil : ¬ Leads [] name x := by
  simp [Leads]

@[simp] theorem types_cons :
    Types (c :: l) name t ↔ (c.name = name ∧ c.type = t) ∨ Types l name t := by
  simp [Types]

@[simp] theorem leads_cons :
    Leads (c :: l) name x ↔ (c.name = name ∧ x ∈ c.endpoints) ∨ Leads l name x := by
  simp [Leads]

@[simp] theorem types_append : Types (l ++ m) name t ↔ Types l name t ∨ Types m name t := by
  simp [Types, or_and_right, exists_or]

@[simp] theorem leads_append : Leads (l ++ m) name x ↔ Leads l name x ∨ Leads m name x := by
  simp [Leads, or_and_right, exists_or]

theorem types_of_mem (h : c ∈ l) : Types l c.name c.type := ⟨c, h, rfl, rfl⟩

/-- When names are distinct, the endpoints of a name are those of its cluster. -/
theorem leads_iff (hnames : (l.map (·.name)).Nodup) (hc : c ∈ l) :
    Leads l c.name x ↔ x ∈ c.endpoints := by
  constructor
  · rintro ⟨d, hd, hname, hx⟩
    rwa [← List.inj_on_of_nodup_map hnames hd hc hname]
  · exact fun hx => ⟨c, hc, rfl, hx⟩

namespace Alike

theorem refl (l : List ClusterConfig) : Alike l l := ⟨fun _ _ => Iff.rfl, fun _ _ => Iff.rfl⟩

theorem symm (h : Alike l m) : Alike m l :=
  ⟨fun name t => (h.types name t).symm, fun name x => (h.endpoints name x).symm⟩

theorem trans (h : Alike l m) (h' : Alike m m') : Alike l m' :=
  ⟨fun name t => (h.types name t).trans (h'.types name t),
    fun name x => (h.endpoints name x).trans (h'.endpoints name x)⟩

theorem of_mem (h : ∀ c, c ∈ l ↔ c ∈ m) : Alike l m :=
  ⟨fun name t => by simp only [Types, h], fun name x => by simp only [Leads, h]⟩

theorem append (h : Alike l l') (h' : Alike m m') : Alike (l ++ m) (l' ++ m') :=
  ⟨fun name t => by simp only [types_append, h.types, h'.types],
    fun name x => by simp only [leads_append, h.endpoints, h'.endpoints]⟩

/-- The names of alike lists are the same. -/
theorem mem_names (h : Alike l m) : name ∈ l.map (·.name) ↔ name ∈ m.map (·.name) := by
  have hnames : ∀ l : List ClusterConfig, name ∈ l.map (·.name) ↔ ∃ t, Types l name t := by
    intro l
    rw [List.mem_map]
    constructor
    · rintro ⟨c, hc, rfl⟩
      exact ⟨_, types_of_mem hc⟩
    · rintro ⟨_, c, hc, hname, -⟩
      exact ⟨c, hc, hname⟩
  simp only [hnames, h.types]

theorem coherent (h : Alike l m) (hm : Coherent m) : Coherent l := by
  intro c hc d hd hname
  obtain ⟨c', hc', hcn, hct⟩ := (h.types _ _).1 (types_of_mem hc)
  obtain ⟨d', hd', hdn, hdt⟩ := (h.types _ _).1 (types_of_mem hd)
  rw [← hct, ← hdt]
  exact hm c' hc' d' hd' (hcn.trans (hname.trans hdn.symm))

/-- In lists with distinct names, a cluster is determined by what is said of its name. -/
theorem mem_of_mem (h : Alike l m) (hl : (l.map (·.name)).Nodup) (hm : (m.map (·.name)).Nodup)
    (hc : c ∈ l) : c ∈ m := by
  obtain ⟨d, hd, hname, htype⟩ := (h.types _ _).1 (types_of_mem hc)
  -- both are the only clusters of their name, so the endpoints of the name are theirs
  have hendpoints : d.endpoints = c.endpoints := by
    refine SortedSet.ext_mem fun x => ?_
    rw [← leads_iff hm hd, ← leads_iff hl hc, hname, h.endpoints]
  have hsame : d = c := by
    cases c; cases d; cases hname; cases htype; cases hendpoints
    rfl
  exact hsame ▸ hd

end Alike

theorem Coherent.append_left (h : Coherent (l ++ m)) : Coherent l := fun c hc d hd =>
  h c (List.mem_append_left _ hc) d (List.mem_append_left _ hd)

end ClusterConfig

/-! ## Adding clusters -/

namespace Document

open ClusterConfig (Alike Coherent)

variable {l m : List ClusterConfig} {c : ClusterConfig}

/-- Adding a cluster to others says what all of them say, if its type is that of its name. -/
theorem alike_addCluster (h : ∀ k ∈ l, k.name = c.name → k.type = c.type) :
    Alike (addCluster l c) (l ++ [c]) := by
  induction l with
  | nil => exact .refl _
  | cons k rest ih =>
    rw [addCluster]
    split
    · rename_i hname
      have htype := h k (List.mem_cons_self ..) hname
      constructor
      · intro name t
        -- the cluster says of its name what the one before says
        simp [hname, htype, or_comm]
      · intro name x
        simp [hname, SortedSet.mem_union, and_or_left, or_assoc, or_comm, or_left_comm]
    · -- it is added further on, and what comes before stays
      exact (Alike.refl [k]).append (ih fun d hd => h d (List.mem_cons_of_mem _ hd))

theorem names_addCluster (l : List ClusterConfig) (c : ClusterConfig) :
    (addCluster l c).map (·.name) =
      if c.name ∈ l.map (·.name) then l.map (·.name) else l.map (·.name) ++ [c.name] := by
  induction l with
  | nil => rfl
  | cons k rest ih =>
    rw [addCluster]
    by_cases hname : k.name = c.name
    · simp [hname]
    · have hmem : c.name ∈ (k :: rest).map (·.name) ↔ c.name ∈ rest.map (·.name) := by
        simp [Ne.symm hname]
      rw [if_neg hname, List.map_cons, ih, if_congr hmem rfl rfl]
      split <;> rfl

theorem nodup_addCluster (h : (l.map (·.name)).Nodup) :
    ((addCluster l c).map (·.name)).Nodup := by
  rw [names_addCluster]
  split
  · exact h
  · rename_i hmem
    refine List.nodup_append.2 ⟨h, List.nodup_singleton _, fun a ha b hb hab => hmem ?_⟩
    rwa [← List.mem_singleton.1 hb, ← hab]

theorem nodup_foldl_addCluster (h : (l.map (·.name)).Nodup) :
    ((m.foldl addCluster l).map (·.name)).Nodup :=
  List.foldlRecOn (motive := fun l : List ClusterConfig => (l.map (·.name)).Nodup) m _ h
    fun _ hl _ _ => nodup_addCluster hl

/-- Adding clusters one after another says what all of them say. -/
theorem alike_foldl_addCluster (h : Coherent (l ++ m)) :
    Alike (m.foldl addCluster l) (l ++ m) := by
  induction m generalizing l with
  | nil => rw [List.append_nil]; exact .refl l
  | cons c rest ih =>
    have hc : Alike (addCluster l c) (l ++ [c]) :=
      alike_addCluster fun k hk => h k (List.mem_append_left _ hk) c (by simp)
    have hsame : Alike (addCluster l c ++ rest) (l ++ c :: rest) := by
      simpa using hc.append (.refl rest)
    -- the list with the cluster added is as coherent as the two lists
    exact (ih (hsame.coherent h)).trans hsame

end Document

/-! ## What documents say -/

/-- A listener with every route listed once, in order. -/
def ListenerConfig.tidied (l : ListenerConfig) : ListenerConfig :=
  { l with routes := (SortedSet.ofList l.routes).toList }

theorem ListenerConfig.tidied_tidied (l : ListenerConfig) : l.tidied.tidied = l.tidied := by
  unfold tidied
  rw [SortedSet.ofList_toList]

theorem ListenerConfig.sorted_tidied (l : ListenerConfig) : Elements.Sorted l.tidied.routes :=
  (SortedSet.ofList l.routes).sorted

namespace Document

open ClusterConfig (Alike Coherent)

variable {d e d' e' : Document}

theorem listeners_normalize (d : Document) :
    d.normalize.listeners = sortByName (·.name) (d.listeners.map (·.tidied)) := rfl

/-- Whether two documents say the same: they have the same listeners, but for the order of routes
and of listeners, and their clusters say the same of every name. -/
structure Means (d e : Document) : Prop where
  listeners : (d.listeners.map (·.tidied)).Perm (e.listeners.map (·.tidied))
  clusters : Alike d.clusters e.clusters

theorem Means.refl (d : Document) : d.Means d := ⟨.refl _, .refl _⟩

theorem Means.symm (h : d.Means e) : e.Means d := ⟨h.listeners.symm, h.clusters.symm⟩

theorem Means.trans (h : d.Means e) (h' : e.Means e') : d.Means e' :=
  ⟨h.listeners.trans h'.listeners, h.clusters.trans h'.clusters⟩

/-- Two documents side by side. -/
def beside (d e : Document) : Document where
  listeners := d.listeners ++ e.listeners
  clusters := d.clusters ++ e.clusters

theorem Means.beside (h : d.Means d') (h' : e.Means e') : (d.beside e).Means (d'.beside e') where
  listeners := by
    unfold Document.beside
    rw [List.map_append, List.map_append]
    exact h.listeners.append h'.listeners
  clusters := h.clusters.append h'.clusters

theorem Means.names (h : d.Means e) :
    (d.listeners.map (·.name)).Perm (e.listeners.map (·.name)) := by
  have hnames := h.listeners.map (·.name)
  rwa [List.map_map, List.map_map] at hnames

theorem means_normalize (d : Document) : d.normalize.Means d where
  listeners := by
    rw [listeners_normalize]
    refine ((perm_sortByName _ _).map _).trans (.of_eq ?_)
    rw [List.map_map]
    exact List.map_congr_left fun l _ => l.tidied_tidied
  clusters := .of_mem fun _ => mem_sortByName

/-- A merged document says what the two say. -/
theorem means_merge (h : Coherent (d.clusters ++ e.clusters)) :
    (d.merge e).Means (d.beside e) :=
  (means_normalize _).trans ⟨.refl _, alike_foldl_addCluster h⟩

/-! ## Documents in order -/

/-- Whether the parts of a document are in the order of their names, each name once, and its routes
are in order. -/
structure InOrder (d : Document) : Prop where
  listeners : d.listeners.Pairwise fun a b => compare a.name b.name = .lt
  routes : ∀ l ∈ d.listeners, Elements.Sorted l.routes
  clusters : d.clusters.Pairwise fun a b => compare a.name b.name = .lt

theorem sortByName_of_sorted {α : Type} {name : α → String} {l : List α}
    (h : l.Pairwise fun a b => compare (name a) (name b) = .lt) : sortByName name l = l := by
  refine List.mergeSort_of_pairwise (h.imp fun {a b} hlt => ?_)
  rw [hlt]
  rfl

/-- Lists in the order of their names are equal if they have the same items. -/
theorem eq_of_sorted {α : Type} {name : α → String} {l m : List α}
    (hl : l.Pairwise fun a b => compare (name a) (name b) = .lt)
    (hm : m.Pairwise fun a b => compare (name a) (name b) = .lt) (h : l.Perm m) : l = m := by
  refine h.eq_of_pairwise (fun a b _ _ hab hba => ?_) hl hm
  rw [Std.OrientedCmp.gt_of_lt hab] at hba
  cases hba

theorem nodup_names_of_sorted {α : Type} {name : α → String} {l : List α}
    (h : l.Pairwise fun a b => compare (name a) (name b) = .lt) : (l.map name).Nodup :=
  List.pairwise_map.2 (h.imp SortedMap.ne_of_lt)

namespace InOrder

theorem tidied_eq {l : ListenerConfig} (h : Elements.Sorted l.routes) : l.tidied = l := by
  have hroutes : (SortedSet.ofList l.routes).toList = l.routes :=
    congrArg SortedSet.toList (SortedSet.ofList_toList ⟨l.routes, h⟩)
  unfold ListenerConfig.tidied
  rw [hroutes]

theorem map_tidied (h : d.InOrder) : d.listeners.map (·.tidied) = d.listeners :=
  (List.map_congr_left fun l hl => tidied_eq (h.routes l hl)).trans (List.map_id _)

/-- Putting a document in order that is in order changes nothing. -/
theorem normalize_eq (h : d.InOrder) : d.normalize = d := by
  unfold normalize
  rw [sortByName_of_sorted h.clusters]
  have hlisteners : d.normalize.listeners = d.listeners := by
    rw [listeners_normalize, h.map_tidied, sortByName_of_sorted h.listeners]
  exact congrArg (Document.mk · d.clusters) hlisteners

theorem ofNormalize (hlisteners : (d.listeners.map (·.name)).Nodup)
    (hclusters : (d.clusters.map (·.name)).Nodup) : d.normalize.InOrder where
  listeners := strict_sortByName _ _ (by rwa [List.map_map])
  routes := by
    intro l hl
    rw [listeners_normalize, mem_sortByName, List.mem_map] at hl
    obtain ⟨l', -, rfl⟩ := hl
    exact l'.sorted_tidied
  clusters := strict_sortByName _ _ hclusters

/-- Documents in order that say the same are equal. -/
theorem ext (hd : d.InOrder) (he : e.InOrder) (h : d.Means e) : d = e := by
  have hlisteners : d.listeners = e.listeners := by
    refine eq_of_sorted hd.listeners he.listeners ?_
    rw [← hd.map_tidied, ← he.map_tidied]
    exact h.listeners
  have hnames := nodup_names_of_sorted hd.clusters
  have hnames' := nodup_names_of_sorted he.clusters
  have hclusters : d.clusters = e.clusters := by
    refine eq_of_sorted hd.clusters he.clusters ?_
    refine (List.perm_ext_iff_of_nodup hnames.of_map hnames'.of_map).2 fun c => ?_
    exact ⟨h.clusters.mem_of_mem hnames hnames', h.clusters.symm.mem_of_mem hnames' hnames⟩
  cases d; cases e; cases hlisteners; cases hclusters
  rfl

end InOrder

/-! ## Families of documents -/

/-- Whether documents can be put together: no listener has the name of another, no cluster that of
another in the same document, and clusters of one name are of one type. -/
structure Mergeable (family : List Document) : Prop where
  listeners : ((family.flatMap (·.listeners)).map (·.name)).Nodup
  clusters : ∀ d ∈ family, (d.clusters.map (·.name)).Nodup
  types : Coherent (family.flatMap (·.clusters))

/-- All documents of a family side by side. -/
def pile (family : List Document) : Document where
  listeners := family.flatMap (·.listeners)
  clusters := family.flatMap (·.clusters)

variable {family order : List Document}

theorem pile_append (f f' : List Document) : pile (f ++ f') = (pile f).beside (pile f') := by
  unfold pile beside
  rw [List.flatMap_append, List.flatMap_append]

theorem pile_singleton (d : Document) : pile [d] = d := by
  unfold pile
  rw [List.flatMap_singleton, List.flatMap_singleton]

theorem means_pile (h : order.Perm family) : (pile order).Means (pile family) where
  listeners := (h.flatMap_right _).map _
  clusters := .of_mem fun _ => (h.flatMap_right _).mem_iff

theorem Mergeable.perm (h : Mergeable family) (horder : order.Perm family) : Mergeable order where
  listeners := ((horder.flatMap_right _).map _).nodup_iff.2 h.listeners
  clusters d hd := h.clusters d (horder.mem_iff.1 hd)
  types := (means_pile horder).clusters.coherent h.types

theorem Mergeable.append_left {f f' : List Document} (h : Mergeable (f ++ f')) : Mergeable f where
  listeners := by
    have hnames := h.listeners
    rw [List.flatMap_append, List.map_append] at hnames
    exact hnames.of_append_left
  clusters d hd := h.clusters d (List.mem_append_left _ hd)
  types := by
    have htypes := h.types
    rw [List.flatMap_append] at htypes
    exact htypes.append_left

theorem Mergeable.append_right {f f' : List Document} (h : Mergeable (f ++ f')) : Mergeable f' :=
  (h.perm List.perm_append_comm).append_left

/-- Documents put together in groups, and these in turn. -/
inductive Grouping where
  | none
  | single (d : Document)
  | merge (g h : Grouping)

namespace Grouping

/-- The documents of a grouping, from left to right. -/
def documents : Grouping → List Document
  | none => []
  | single d => [d]
  | merge g h => g.documents ++ h.documents

/-- The document that a grouping comes to. -/
def total : Grouping → Document
  | none => .empty
  | single d => d
  | merge g h => g.total.merge h.total

/-- Whether a grouping is a document by itself, which is taken as it is. -/
def isSingle : Grouping → Bool
  | single _ => true
  | _ => false

/-- The documents of a family, each added to the ones before. -/
def inTurn (family : List Document) : Grouping :=
  family.foldl (fun g d => g.merge (single d)) none

theorem total_inTurn (family : List Document) :
    (inTurn family).total = family.foldl .merge .empty :=
  (List.foldl_hom total (fun _ _ => rfl)).symm

theorem documents_inTurn (family : List Document) : (inTurn family).documents = family := by
  -- documents are added at the right, so the induction is over all groupings to start from
  have h : ∀ (family : List Document) (g : Grouping),
      (family.foldl (fun g d => g.merge (single d)) g).documents = g.documents ++ family := by
    intro family
    induction family with
    | nil => intro g; exact (List.append_nil _).symm
    | cons d rest ih =>
      intro g
      rw [List.foldl_cons, ih]
      exact List.append_assoc _ [d] rest
  exact h family none

theorem isSingle_inTurn (family : List Document) : (inTurn family).isSingle = false :=
  List.foldlRecOn (motive := fun g : Grouping => g.isSingle = false) family _ rfl fun _ _ _ _ => rfl

variable {g : Grouping}

/-- A grouping says what its documents say, and its clusters have distinct names. -/
theorem means_total (h : Mergeable g.documents) :
    g.total.Means (pile g.documents) ∧ (g.total.clusters.map (·.name)).Nodup := by
  -- what two groupings say side by side is coherent because all their documents are
  induction g with
  | none => exact ⟨.refl _, List.nodup_nil⟩
  | single d =>
    refine ⟨?_, h.clusters d (List.mem_singleton_self d)⟩
    show d.Means (pile [d])
    rw [pile_singleton]
    exact .refl d
  | merge g g' ih ih' =>
    obtain ⟨hg, hnames⟩ := ih h.append_left
    obtain ⟨hg', -⟩ := ih' h.append_right
    have hpile : (g.total.beside g'.total).Means (pile (g.documents ++ g'.documents)) := by
      rw [pile_append]
      exact hg.beside hg'
    refine ⟨(means_merge (hpile.clusters.coherent h.types)).trans hpile, ?_⟩
    show ((sortByName _ _).map _).Nodup
    rw [((perm_sortByName _ _).map _).nodup_iff]
    exact nodup_foldl_addCluster hnames

/-- What a grouping comes to is in order, unless it is a document by itself. -/
theorem inOrder_total (h : Mergeable g.documents) (hg : g.isSingle = false) : g.total.InOrder := by
  cases g with
  | none => exact ⟨.nil, fun _ hl => absurd hl List.not_mem_nil, .nil⟩
  | single d => cases hg
  | merge g g' =>
    obtain ⟨hl, hnames⟩ := means_total h.append_left
    obtain ⟨hr, -⟩ := means_total h.append_right
    refine .ofNormalize ?_ (nodup_foldl_addCluster hnames)
    have hpile := (hl.beside hr).names
    rw [← pile_append] at hpile
    exact hpile.nodup_iff.2 h.listeners

/-- Groupings of one family come to one document. -/
theorem total_congr {g' : Grouping} (h : Mergeable g.documents) (hg : g.isSingle = false)
    (hg' : g'.isSingle = false) (hperm : g'.documents.Perm g.documents) : g'.total = g.total :=
  (inOrder_total (h.perm hperm) hg').ext (inOrder_total h hg)
    ((means_total (h.perm hperm)).1.trans ((means_pile hperm).trans (means_total h).1.symm))

end Grouping

/-! ## The document of a family -/

/-- Whether every cluster that a listener leads to is in the document. -/
def Closed (d : Document) : Prop :=
  ∀ l ∈ d.listeners, ∀ r ∈ l.routes, r ∈ d.clusters.map (·.name)

/-- What the document of a family is like. -/
structure Sums (family : List Document) (d : Document) : Prop where
  listeners : d.listeners.Perm ((family.flatMap (·.listeners)).map (·.tidied))
  inOrder : d.InOrder
  names : ∀ name, name ∈ d.clusters.map (·.name) ↔ ∃ e ∈ family, name ∈ e.clusters.map (·.name)
  types : ∀ c ∈ d.clusters, ∀ e ∈ family, ∀ c' ∈ e.clusters, c'.name = c.name → c'.type = c.type
  endpoints : ∀ c ∈ d.clusters, ∀ x,
    x ∈ c.endpoints ↔ ∃ e ∈ family, ∃ c' ∈ e.clusters, c'.name = c.name ∧ x ∈ c'.endpoints

theorem sums_of_means (h : Mergeable family) (hd : d.InOrder) (hmeans : d.Means (pile family)) :
    Sums family d where
  listeners := by
    have hlisteners := hmeans.listeners
    rwa [hd.map_tidied] at hlisteners
  inOrder := hd
  names name := by
    rw [hmeans.clusters.mem_names]
    unfold pile
    simp only [List.mem_map, List.mem_flatMap]
    constructor
    · rintro ⟨c, ⟨e, he, hc⟩, hname⟩
      exact ⟨e, he, c, hc, hname⟩
    · rintro ⟨e, he, c, hc, hname⟩
      exact ⟨c, ⟨e, he, hc⟩, hname⟩
  types := by
    intro c hc e he c' hc' hname
    obtain ⟨k, hk, hkname, hktype⟩ := (hmeans.clusters.types _ _).1 (ClusterConfig.types_of_mem hc)
    rw [← hktype]
    exact h.types c' (List.mem_flatMap.2 ⟨e, he, hc'⟩) k hk (hname.trans hkname.symm)
  endpoints := by
    intro c hc x
    rw [← ClusterConfig.leads_iff (nodup_names_of_sorted hd.clusters) hc, hmeans.clusters.endpoints]
    unfold ClusterConfig.Leads pile
    simp only [List.mem_flatMap]
    constructor
    · rintro ⟨c', ⟨e, he, hc'⟩, hx⟩
      exact ⟨e, he, c', hc', hx⟩
    · rintro ⟨e, he, c', hc', hx⟩
      exact ⟨c', ⟨e, he, hc'⟩, hx⟩

theorem Sums.closed (h : Sums family d) (hclosed : ∀ e ∈ family, e.Closed) : d.Closed := by
  intro l hl r hr
  obtain ⟨l', hl', rfl⟩ := List.mem_map.1 (h.listeners.mem_iff.1 hl)
  obtain ⟨e, he, hl'⟩ := List.mem_flatMap.1 hl'
  exact (h.names r).2 ⟨e, he, hclosed e he l' hl' r (SortedSet.mem_ofList.1 hr)⟩

end Document

/-! ## The document of an artifact -/

namespace Operator

/-- The remembered contributions to a target, in the order of their gateways. -/
def contributionsTo (op : Operator) (k : ObjectKey) : List Document :=
  op.gateways.values.filterMap fun t => if t.target = some k then t.contribution else none

theorem config_foldl_contributeTo {k : ObjectKey} (ts : List Tracked) (b : Option Artifact) :
    ((ts.foldl (contributeTo k) b).getD { key := k }).config =
      (ts.filterMap fun t => if t.target = some k then t.contribution else none).foldl .merge
        (b.getD { key := k }).config := by
  induction ts generalizing b with
  | nil => rfl
  | cons t rest ih =>
    rw [List.foldl_cons, ih, List.filterMap_cons]
    unfold contributeTo
    split
    · rcases t.contribution with - | contribution <;> rfl
    · rfl

/-- The document of a desired artifact is that of the contributions to it. -/
theorem config_of_get?_desired {op : Operator} {k : ObjectKey} {a : Artifact}
    (h : op.desired.get? k = some a) :
    a.config = (op.contributionsTo k).foldl .merge .empty := by
  rw [get?_desired, Option.map_eq_some_iff] at h
  obtain ⟨b, hb, rfl⟩ := h
  have hconfig := config_foldl_contributeTo (k := k) op.gateways.values none
  rw [hb] at hconfig
  exact hconfig

end Operator

namespace Document

variable {family : List Document}

/-- Documents that can be put together come to one document, in every order and however they are
grouped. It has all their listeners, and for each name one cluster with all endpoints of that name.
Its parts are in order, so putting them in order again changes nothing, and it is closed if the
documents are. The document of an artifact is of this kind, so it does not depend on the order of
the gateways that contribute to it. -/
theorem merge_family (h : Mergeable family) :
    (∀ order : List Document, order.Perm family →
      order.foldl merge empty = family.foldl merge empty) ∧
    (∀ g : Grouping, g.documents.Perm family →
      empty.merge g.total = family.foldl merge empty ∧
        (g.isSingle = false → g.total = family.foldl merge empty)) ∧
    Sums family (family.foldl merge empty) ∧
    ((∀ d ∈ family, d.Closed) → (family.foldl merge empty).Closed) ∧
    (family.foldl merge empty).normalize = family.foldl merge empty ∧
    ∀ (op : Operator) (k : ObjectKey) (a : Artifact), op.desired.get? k = some a →
      (op.contributionsTo k).Perm family → a.config = family.foldl merge empty := by
  have hturn : Mergeable (Grouping.inTurn family).documents := by
    rwa [Grouping.documents_inTurn]
  have hgroup : ∀ g : Grouping, g.isSingle = false → g.documents.Perm family →
      g.total = family.foldl merge empty := by
    intro g hg hperm
    rw [← Grouping.total_inTurn]
    refine Grouping.total_congr hturn (Grouping.isSingle_inTurn family) hg ?_
    rwa [Grouping.documents_inTurn]
  have horder : ∀ order : List Document, order.Perm family →
      order.foldl merge empty = family.foldl merge empty := by
    intro order hperm
    rw [← Grouping.total_inTurn order]
    refine hgroup _ (Grouping.isSingle_inTurn order) ?_
    rwa [Grouping.documents_inTurn]
  have hinOrder : (family.foldl merge empty).InOrder := by
    rw [← Grouping.total_inTurn]
    exact Grouping.inOrder_total hturn (Grouping.isSingle_inTurn family)
  have hsums : Sums family (family.foldl merge empty) := by
    refine sums_of_means h hinOrder ?_
    have hmeans := (Grouping.means_total hturn).1
    rwa [Grouping.total_inTurn, Grouping.documents_inTurn] at hmeans
  refine ⟨horder, fun g hperm => ⟨?_, fun hg => hgroup g hg hperm⟩, hsums, hsums.closed,
    hinOrder.normalize_eq, fun op k a ha hperm => ?_⟩
  · exact hgroup (.merge .none g) rfl hperm
  · rw [Operator.config_of_get?_desired ha]
    exact horder _ hperm

/-! ### Gateways that share a target -/

/-- What two gateways contribute that have a route in common, and one route each. -/
def sharing : List Document :=
  [{ listeners := [{
       name := "a/g/udp", protocol := .turnUdp, port := 3478, routes := ["a/s", "a/r"] }]
     clusters := [{ name := "a/r", type := .static, endpoints := .ofList ["10.0.0.1"] },
       { name := "a/s", type := .strictDns, endpoints := .ofList ["far.example"] }] },
   { listeners := [{ name := "a/f/udp", protocol := .turnUdp, port := 3479, routes := ["a/r"] }]
     clusters := [{ name := "a/r", type := .static, endpoints := .ofList ["10.0.0.2"] }] }]

theorem merge_family_sharing :
    Mergeable sharing ∧ sharing.reverse.foldl merge empty = sharing.foldl merge empty := by
  have h : Mergeable sharing :=
    ⟨by decide +kernel, by decide +kernel, by unfold ClusterConfig.Coherent; decide +kernel⟩
  exact ⟨h, (merge_family h).1 _ (List.reverse_perm _)⟩

end Document

end RelayFleet
