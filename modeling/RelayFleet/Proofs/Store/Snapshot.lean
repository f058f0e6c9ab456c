/-
What events make of a snapshot. Every object stays under its own key, and the indices go on to
reflect who refers to whom (`Indexed.apply`, and `Filed.apply` where objects carry what their kinds
ask for). A snapshot that is not the same is a later one (`precedes_apply`).
-/
import RelayFleet.Store.Basic
import RelayFleet.Proofs.Store.Index

namespace RelayFleet

/-! ## Events -/

/-- Whether an object carries a name, and a namespace only if its kind has them. -/
def Object.Proper (o : Object) : Prop :=
  o.metadata.name.isSome = true ∧ (o.kind.isNamespaced = false → o.metadata.inNamespace = none)

instance (o : Object) : Decidable o.Proper := inferInstanceAs (Decidable (_ ∧ _))

/-- The objects that an event brings. -/
def StoreEvent.objects : StoreEvent → List Object
  | upsert o => [o]
  | delete _ => []
  | replace _ objects => objects

/-- Whether the objects that an event brings are proper. -/
def StoreEvent.Proper (event : StoreEvent) : Prop := ∀ o ∈ event.objects, o.Proper

instance (event : StoreEvent) : Decidable event.Proper :=
  inferInstanceAs (Decidable (∀ o ∈ event.objects, o.Proper))

namespace Snapshot

variable {s t u : Snapshot} {o : Object} {r : ResourceKey}

/-! ## Look-ups -/

theorem mem_ofKind_iff {kind : ObjectKind} {b : ObjectKey × Object} :
    b ∈ s.ofKind kind ↔ s.get? ⟨kind, b.1⟩ = some b.2 := by
  unfold ofKind get?
  rw [SortedMap.get?_eq_some_iff, List.mem_map]
  constructor
  · rintro ⟨b', hb', rfl⟩
    obtain ⟨hmem, hkind⟩ := List.mem_filter.1 hb'
    simp only [decide_eq_true_eq] at hkind
    rw [← hkind]
    exact hmem
  · intro h
    exact ⟨_, List.mem_filter.2 ⟨h, by simp⟩, rfl⟩

theorem mem_keys_iff {kind : ObjectKind} {k : ObjectKey} :
    k ∈ s.keys kind ↔ ∃ o, s.get? ⟨kind, k⟩ = some o := by
  unfold keys
  rw [List.mem_map]
  constructor
  · rintro ⟨b, hb, rfl⟩
    exact ⟨b.2, mem_ofKind_iff.1 hb⟩
  · rintro ⟨o, ho⟩
    exact ⟨(k, o), mem_ofKind_iff.2 ho, rfl⟩

/-- The objects of a kind come in the order of their keys. -/
theorem sorted_ofKind (s : Snapshot) (kind : ObjectKind) : Bindings.Sorted (s.ofKind kind) := by
  refine List.pairwise_map.2 ((s.objects.sorted.filter _).imp_of_mem fun {b c} hb hc hlt => ?_)
  have hkind : b.1.kind = c.1.kind :=
    (of_decide_eq_true (List.mem_filter.1 hb).2).trans
      (of_decide_eq_true (List.mem_filter.1 hc).2).symm
  have hlt : (compare b.1.kind c.1.kind).then (compare b.1.key c.1.key) = .lt := hlt
  have hself : compare c.1.kind c.1.kind = .eq := Std.ReflCmp.compare_self
  rw [hkind, hself] at hlt
  exact hlt

theorem nodup_ofKind (s : Snapshot) (kind : ObjectKind) : ((s.ofKind kind).map (·.1)).Nodup :=
  List.pairwise_map.2 ((s.sorted_ofKind kind).imp SortedMap.ne_of_lt)

theorem mem_gateways_iff {b : ObjectKey × Gateway} :
    b ∈ s.gateways ↔ s.get? (.gateway b.1) = some (.gateway b.2) := by
  unfold gateways
  rw [List.mem_filterMap]
  constructor
  · rintro ⟨⟨k, o⟩, ho, hb⟩
    rw [mem_ofKind_iff] at ho
    cases o <;> cases hb
    exact ho
  · intro h
    exact ⟨(b.1, .gateway b.2), mem_ofKind_iff.2 h, rfl⟩

theorem mem_routes_iff {b : ObjectKey × UdpRoute} :
    b ∈ s.routes ↔ s.get? (.udpRoute b.1) = some (.udpRoute b.2) := by
  unfold routes
  rw [List.mem_filterMap]
  constructor
  · rintro ⟨⟨k, o⟩, ho, hb⟩
    rw [mem_ofKind_iff] at ho
    cases o <;> cases hb
    exact ho
  · intro h
    exact ⟨(b.1, .udpRoute b.2), mem_ofKind_iff.2 h, rfl⟩

theorem nodup_gateways (s : Snapshot) : (s.gateways.map (·.1)).Nodup :=
  SortedMap.nodup_keys_filterMap (s.nodup_ofKind .gateway) Function.injective_id fun b c hc => by
    obtain ⟨_, -, rfl⟩ := Option.map_eq_some_iff.1 hc
    rfl

theorem nodup_routes (s : Snapshot) : (s.routes.map (·.1)).Nodup :=
  SortedMap.nodup_keys_filterMap (s.nodup_ofKind .udpRoute) Function.injective_id fun b c hc => by
    obtain ⟨_, -, rfl⟩ := Option.map_eq_some_iff.1 hc
    rfl

theorem mem_gatewayClasses_iff {c : GatewayClass} :
    c ∈ s.gatewayClasses ↔ ∃ k, s.get? ⟨.gatewayClass, k⟩ = some (.gatewayClass c) := by
  unfold gatewayClasses list
  simp only [List.mem_filterMap, List.mem_map]
  constructor
  · rintro ⟨o, ⟨b, hb, rfl⟩, hc⟩
    obtain ⟨k, o⟩ := b
    rw [mem_ofKind_iff] at hb
    cases o <;> cases hc
    exact ⟨k, hb⟩
  · rintro ⟨k, h⟩
    exact ⟨_, ⟨(k, .gatewayClass c), mem_ofKind_iff.2 h, rfl⟩, rfl⟩

theorem gateway?_eq_some_iff {k : ObjectKey} {g : Gateway} :
    s.gateway? k = some g ↔ s.get? (.gateway k) = some (.gateway g) := by
  unfold gateway?
  rw [Option.bind_eq_some_iff]
  constructor
  · rintro ⟨o, ho, hg⟩
    cases o <;> cases hg
    exact ho
  · intro h
    exact ⟨_, h, rfl⟩

theorem route?_eq_some_iff {k : ObjectKey} {r : UdpRoute} :
    s.route? k = some r ↔ s.get? (.udpRoute k) = some (.udpRoute r) := by
  unfold route?
  rw [Option.bind_eq_some_iff]
  constructor
  · rintro ⟨o, ho, hr⟩
    cases o <;> cases hr
    exact ho
  · intro h
    exact ⟨_, h, rfl⟩

/-! ## Order of snapshots -/

/-- Whether a snapshot is the same as another one, or an earlier one. -/
def Precedes (s t : Snapshot) : Prop := s = t ∨ s.generation < t.generation

theorem Precedes.trans (h : s.Precedes t) (h' : t.Precedes u) : s.Precedes u := by
  rcases h with rfl | h
  · exact h'
  · rcases h' with rfl | h'
    · exact .inr h
    · exact .inr (h.trans h')

theorem Precedes.eq (h : s.Precedes t) (hg : t.generation ≤ s.generation) : s = t := by
  rcases h with h | h
  · exact h
  · exact absurd h (by omega)

/-! ## Filing -/

/-- The keys that the object of a kind and a key refers to. -/
def references (s : Snapshot) (kind : ObjectKind) (refers : Object → List ObjectKey)
    (k : ObjectKey) : List ObjectKey :=
  ((s.get? ⟨kind, k⟩).map refers).getD []

/-- Whether every object is under its own key and has no flaw, and the indices reflect who refers to
whom. -/
structure Indexed (s : Snapshot) : Prop where
  own : ∀ r o, s.get? r = some o → o.resource = r
  flawless : ∀ r o, s.get? r = some o → o.flaw? = none
  routes : s.routesByGateway.Reflects (s.references .udpRoute gatewaysOf)
  slices : s.slicesByService.Reflects (s.references .endpointSlice servicesOf)

/-- Whether every object is filed under its own key and fit to be there, and the indices reflect who
refers to whom. -/
structure Filed (s : Snapshot) : Prop where
  own : ∀ r o, s.get? r = some o → o.resource = r
  fit : ∀ r o, s.get? r = some o → o.flaw? = none ∧ o.Proper
  routes : s.routesByGateway.Reflects (s.references .udpRoute gatewaysOf)
  slices : s.slicesByService.Reflects (s.references .endpointSlice servicesOf)

theorem Indexed.start : Indexed {} where
  own _ _ h := by cases h
  flawless _ _ h := by cases h
  routes := .empty
  slices := .empty

theorem Filed.indexed (h : s.Filed) : s.Indexed :=
  ⟨h.own, fun r o hget => (h.fit r o hget).1, h.routes, h.slices⟩

theorem Indexed.filed (h : s.Indexed) (hproper : ∀ r o, s.get? r = some o → o.Proper) : s.Filed :=
  ⟨h.own, fun r o hget => ⟨h.flawless r o hget, hproper r o hget⟩, h.routes, h.slices⟩

theorem Filed.start : Filed {} := Indexed.start.filed fun _ _ h => by cases h

theorem get?_put (s : Snapshot) (o : Object) (r : ResourceKey) :
    (s.put o).get? r = if r = o.resource then some o else s.get? r :=
  SortedMap.get?_insert _ _ _ _

theorem get?_drop (s : Snapshot) (o : Object) (r r' : ResourceKey) :
    (s.drop r o).get? r' = if r' = r then none else s.get? r' :=
  SortedMap.get?_erase _ _ _

theorem gatewaysOf_eq_nil (h : o.kind ≠ .udpRoute) : gatewaysOf o = [] := by
  cases o <;> first | rfl | exact absurd rfl h

theorem servicesOf_eq_nil (h : o.kind ≠ .endpointSlice) : servicesOf o = [] := by
  cases o <;> first | rfl | exact absurd rfl h

section

variable {ix : Index} {kind : ObjectKind} {refers : Object → List ObjectKey}

theorem reflects_put (hkind : ∀ o, o.kind ≠ kind → refers o = [])
    (hown : ∀ r o, s.get? r = some o → o.resource = r)
    (h : ix.Reflects (s.references kind refers)) (o : Object) :
    (ix.relink o.key (((s.get? o.resource).map refers).getD []) (refers o)).Reflects
      ((s.put o).references kind refers) := by
  by_cases hk : o.kind = kind
  · subst hk
    refine h.relink ?_ fun k hne => ?_
    · unfold references
      rw [get?_put, if_pos (show ⟨o.kind, o.key⟩ = o.resource from rfl)]
      rfl
    · unfold references
      rw [get?_put, if_neg fun e => hne (congrArg ResourceKey.key e)]
  · -- neither the object nor the one before it has a place in this index
    have hbefore : ((s.get? o.resource).map refers).getD [] = [] := by
      rcases hget : s.get? o.resource with - | o'
      · rfl
      · have hresource := hown _ _ hget
        exact hkind o' fun e => hk ((congrArg ResourceKey.kind hresource).symm.trans e)
    have hsame : (s.put o).references kind refers = s.references kind refers := by
      funext k
      unfold references
      rw [get?_put, if_neg fun e => hk (congrArg ResourceKey.kind e).symm]
    rw [hbefore, hkind o hk, hsame]
    exact h

theorem reflects_drop (hkind : ∀ o, o.kind ≠ kind → refers o = [])
    (hown : ∀ r o, s.get? r = some o → o.resource = r)
    (h : ix.Reflects (s.references kind refers)) (hget : s.get? r = some o) :
    (ix.relink r.key (refers o) []).Reflects ((s.drop r o).references kind refers) := by
  by_cases hk : r.kind = kind
  · subst hk
    have hbefore : refers o = s.references r.kind refers r.key := by
      unfold references
      rw [show (⟨r.kind, r.key⟩ : ResourceKey) = r from rfl, hget]
      rfl
    rw [hbefore]
    refine h.relink ?_ fun k hne => ?_
    · unfold references
      rw [get?_drop, if_pos rfl]
      rfl
    · unfold references
      rw [get?_drop, if_neg fun e => hne (congrArg ResourceKey.key e)]
  · have hsame : (s.drop r o).references kind refers = s.references kind refers := by
      funext k
      unfold references
      rw [get?_drop, if_neg fun e => hk (congrArg ResourceKey.kind e).symm]
    have hresource := hown _ _ hget
    rw [hkind o fun e => hk ((congrArg ResourceKey.kind hresource).symm.trans e), hsame]
    exact h

end

theorem Indexed.put (h : s.Indexed) (hflaw : o.flaw? = none) : (s.put o).Indexed where
  own r o' hget := by
    rcases SortedMap.get?_insert_cases hget with ⟨hr, rfl⟩ | ⟨-, hold⟩
    · exact hr.symm
    · exact h.own r o' hold
  flawless r o' hget := by
    rcases SortedMap.get?_insert_cases hget with ⟨-, rfl⟩ | ⟨-, hold⟩
    · exact hflaw
    · exact h.flawless r o' hold
  routes := reflects_put (fun _ => gatewaysOf_eq_nil) h.own h.routes o
  slices := reflects_put (fun _ => servicesOf_eq_nil) h.own h.slices o

theorem Indexed.drop (h : s.Indexed) (hget : s.get? r = some o) : (s.drop r o).Indexed where
  own r' o' hget' := h.own r' o' (SortedMap.get?_of_get?_erase hget').2
  flawless r' o' hget' := h.flawless r' o' (SortedMap.get?_of_get?_erase hget').2
  routes := reflects_drop (fun _ => gatewaysOf_eq_nil) h.own h.routes hget
  slices := reflects_drop (fun _ => servicesOf_eq_nil) h.own h.slices hget

theorem Filed.put (h : s.Filed) (hflaw : o.flaw? = none) (ho : o.Proper) : (s.put o).Filed := by
  refine (h.indexed.put hflaw).filed fun r o' hget => ?_
  rcases SortedMap.get?_insert_cases hget with ⟨-, rfl⟩ | ⟨-, hold⟩
  · exact ho
  · exact (h.fit r o' hold).2

theorem Filed.drop (h : s.Filed) (hget : s.get? r = some o) : (s.drop r o).Filed :=
  (h.indexed.drop hget).filed fun r' o' hget' =>
    (h.fit r' o' (SortedMap.get?_of_get?_erase hget').2).2

/-! ## Edits -/

section

variable {P : Snapshot → Prop}

theorem Edit.advance_induction {e : Edit} {next : Option Snapshot} (h : P e.snapshot)
    (hnext : ∀ t, next = some t → P t) : P (e.advance r next).snapshot := by
  cases next with
  | none => exact h
  | some t => exact hnext t rfl

theorem Edit.insert_induction {e : Edit} (h : P e.snapshot) (hput : P (e.snapshot.put o)) :
    P (e.insert o).snapshot := by
  refine advance_induction h fun t ht => ?_
  unfold insert? at ht
  split at ht
  · cases ht
  · cases ht
    exact hput

theorem Edit.remove_induction {e : Edit} (h : P e.snapshot)
    (hdrop : ∀ o, e.snapshot.get? r = some o → P (e.snapshot.drop r o)) :
    P (e.remove r).snapshot := by
  refine advance_induction h fun t ht => ?_
  obtain ⟨o, hget, rfl⟩ := Option.map_eq_some_iff.1 ht
  exact hdrop o hget

/-- What stays true when an object without a flaw is put in, and when one is taken out, is true
after an event if it was before. -/
theorem edit_induction {event : StoreEvent} {e : Edit}
    (hput : ∀ s o, P s → o ∈ event.objects → o.flaw? = none → P (s.put o))
    (hdrop : ∀ s r o, P s → s.get? r = some o → P (s.drop r o))
    (h : P s) (he : s.edit event = .ok e) : P e.snapshot := by
  cases event with
  | upsert o =>
    simp only [edit] at he
    split at he
    · cases he
    · rename_i hflaw
      cases he
      exact Edit.insert_induction h (hput s o h (List.mem_cons_self ..) hflaw)
  | delete r =>
    cases he
    exact Edit.remove_induction h fun o hget => hdrop s r o h hget
  | replace kind objects =>
    cases he
    refine List.foldlRecOn (motive := fun e : Edit => P e.snapshot) _ _ ?_
      fun e he k _ => Edit.remove_induction he fun o hget => hdrop _ _ o he hget
    refine List.foldlRecOn (motive := fun e : Edit => P e.snapshot) _ _ h fun e he o ho => ?_
    obtain ⟨hmem, hadmissible⟩ := List.mem_filter.1 ho
    simp only [decide_eq_true_eq, Option.isNone_iff_eq_none] at hadmissible
    exact Edit.insert_induction he (hput _ o he hmem hadmissible.2)

end

theorem indexed_edit {event : StoreEvent} {e : Edit} (h : s.Indexed)
    (he : s.edit event = .ok e) : e.snapshot.Indexed :=
  edit_induction (fun _ _ hs _ hflaw => hs.put hflaw) (fun _ _ _ hs hget => hs.drop hget) h he

theorem filed_edit {event : StoreEvent} {e : Edit} (h : s.Filed) (hevent : event.Proper)
    (he : s.edit event = .ok e) : e.snapshot.Filed :=
  edit_induction (fun _ o hs ho hflaw => hs.put hflaw (hevent o ho))
    (fun _ _ _ hs hget => hs.drop hget) h he

/-! ### Edits that note no change -/

/-- A step that notes no change makes none. -/
theorem Edit.advance_of_unchanged {e : Edit} {next : Option Snapshot}
    (h : (e.advance r next).first = none) : e.advance r next = e := by
  cases next with
  | none => rfl
  | some t =>
    unfold advance at h
    cases hfirst : e.first <;> rw [hfirst] at h <;> cases h

theorem Edit.insert_of_unchanged {e : Edit} (h : (e.insert o).first = none) : e.insert o = e :=
  advance_of_unchanged h

theorem Edit.remove_of_unchanged {e : Edit} (h : (e.remove r).first = none) : e.remove r = e :=
  advance_of_unchanged h

/-- Steps that note no change make none, each of them. -/
theorem Edit.foldl_of_unchanged {β : Type} (f : Edit → β → Edit)
    (hf : ∀ e b, (f e b).first = none → f e b = e) (l : List β) {e : Edit}
    (h : (l.foldl f e).first = none) : l.foldl f e = e := by
  induction l generalizing e with
  | nil => rfl
  | cons b rest ih =>
    have hrest : rest.foldl f (f e b) = f e b := ih h
    rw [List.foldl_cons] at h ⊢
    rw [hrest] at h ⊢
    exact hf e b h

/-- An event that notes no change has not touched the snapshot on its way. -/
theorem edit_of_unchanged {event : StoreEvent} {next : Snapshot}
    (he : s.edit event = .ok ⟨next, none⟩) : next = s := by
  suffices h : ∀ e : Edit, s.edit event = .ok e → e.first = none → e = ⟨s, none⟩ from
    congrArg Edit.snapshot (h _ he rfl)
  intro e he hnone
  cases event with
  | upsert o =>
    simp only [edit] at he
    split at he
    · cases he
    · cases he
      exact Edit.insert_of_unchanged hnone
  | delete r =>
    cases he
    exact Edit.remove_of_unchanged hnone
  | replace kind objects =>
    cases he
    have hstale := Edit.foldl_of_unchanged (fun e k => e.remove ⟨kind, k⟩)
      (fun _ _ => Edit.remove_of_unchanged) _ hnone
    rw [hstale] at hnone ⊢
    exact Edit.foldl_of_unchanged Edit.insert (fun _ _ => Edit.insert_of_unchanged) _ hnone

/-! ## Events taken in -/

theorem Indexed.of_generation (h : s.Indexed) (generation : Nat) :
    Indexed { s with generation } :=
  ⟨h.own, h.flawless, h.routes, h.slices⟩

theorem Filed.of_generation (h : s.Filed) (generation : Nat) : Filed { s with generation } :=
  ⟨h.own, h.fit, h.routes, h.slices⟩

/-- An event leaves a snapshot as it is, or leads to a later one. -/
theorem apply_cases {event : StoreEvent} {change : Option StoreChange} {t : Snapshot}
    (ha : s.apply event = .ok (change, t)) :
    (change = none ∧ t = s) ∨ ∃ e c, s.edit event = .ok e ∧ e.first ≠ none ∧ change = some c ∧
      t = { e.snapshot with generation := s.generation + 1 } := by
  unfold apply at ha
  split at ha
  · cases ha
  · rename_i he
    cases ha
    exact .inl ⟨rfl, edit_of_unchanged he⟩
  · rename_i next r he
    cases ha
    exact .inr ⟨_, _, he, Option.some_ne_none r, rfl, rfl⟩

theorem Indexed.apply {event : StoreEvent} {change : Option StoreChange} (h : s.Indexed)
    (ha : s.apply event = .ok (change, t)) : t.Indexed := by
  rcases apply_cases ha with ⟨-, rfl⟩ | ⟨e, c, he, -, -, rfl⟩
  · exact h
  · exact (indexed_edit h he).of_generation _

theorem Filed.apply {event : StoreEvent} {change : Option StoreChange} (h : s.Filed)
    (hevent : event.Proper) (ha : s.apply event = .ok (change, t)) : t.Filed := by
  rcases apply_cases ha with ⟨-, rfl⟩ | ⟨e, c, he, -, -, rfl⟩
  · exact h
  · exact (filed_edit h hevent he).of_generation _

theorem precedes_apply {event : StoreEvent} {change : Option StoreChange}
    (ha : s.apply event = .ok (change, t)) : s.Precedes t := by
  rcases apply_cases ha with ⟨-, rfl⟩ | ⟨e, c, -, -, -, rfl⟩
  · exact .inl rfl
  · exact .inr (Nat.lt_succ_self _)

theorem apply_of_edit {event : StoreEvent} {next : Snapshot}
    (he : s.edit event = .ok ⟨next, some r⟩) :
    s.apply event = .ok (some ⟨s.generation + 1, r⟩,
      { next with generation := s.generation + 1 }) := by
  unfold apply
  rw [he]

/-- Putting in another version of an object leads to a later snapshot. -/
theorem apply_upsert_changed (hflaw : o.flaw? = none)
    (hversion : ∀ stored, s.get? o.resource = some stored → stored.sameVersion o = false) :
    ∃ c t, s.apply (.upsert o) = .ok (some c, t) ∧ s.generation < t.generation := by
  have hinsert : s.insert? o = some (s.put o) := by
    unfold insert?
    rw [if_neg]
    rcases hget : s.get? o.resource with - | stored
    · exact Bool.false_ne_true
    · rw [Option.any_some, hversion stored hget]
      exact Bool.false_ne_true
  have hedit : s.edit (.upsert o) = .ok ⟨s.put o, some o.resource⟩ := by
    simp only [edit, Edit.insert, hflaw, hinsert]
    rfl
  exact ⟨_, _, apply_of_edit hedit, Nat.lt_succ_self _⟩

/-- Taking out an object that is there leads to a later snapshot. -/
theorem apply_delete_changed (hget : s.get? r = some o) :
    ∃ c t, s.apply (.delete r) = .ok (some c, t) ∧ s.generation < t.generation := by
  have hedit : s.edit (.delete r) = .ok ⟨s.drop r o, some r⟩ := by
    simp only [edit, Edit.remove, remove?, hget]
    rfl
  exact ⟨_, _, apply_of_edit hedit, Nat.lt_succ_self _⟩

end Snapshot

/-! ## The channel -/

/-- An open channel with room for a sign has one in it after it was offered one. -/
theorem Trigger.offer_of_room {t : Trigger} (hopen : t.closed = false) (hroom : 0 < t.capacity)
    (change : StoreChange) : (t.offer change).pending ≠ [] ∧ (t.offer change).closed = false ∧
      0 < (t.offer change).capacity := by
  unfold offer
  split
  · rename_i hfull
    refine ⟨fun hnil => ?_, hopen, hroom⟩
    rw [hopen, hnil] at hfull
    rcases hfull with hclosed | hfull
    · cases hclosed
    · exact absurd hfull (Nat.not_le.2 hroom)
  · exact ⟨by simp, hopen, hroom⟩

/-! ## The store -/

namespace Store

variable {s : Store} {event : StoreEvent}

/-- An event that is refused changes nothing. -/
theorem apply_of_error {f : Fault} (ha : s.snapshot.apply event = .error f) :
    s.apply event = (.error f, s) := by
  unfold apply commit
  rw [ha]

theorem apply_of_ok {change : Option StoreChange} {t : Snapshot}
    (ha : s.snapshot.apply event = .ok (change, t)) :
    (s.apply event).1 = .ok change.isSome ∧ (s.apply event).2.snapshot = t := by
  unfold apply commit
  rw [ha]
  cases change with
  | none => exact ⟨rfl, rfl⟩
  | some c => exact ⟨rfl, rfl⟩

theorem indexed_apply (h : s.snapshot.Indexed) : (s.apply event).2.snapshot.Indexed := by
  rcases ha : s.snapshot.apply event with f | ⟨change, t⟩
  · rw [apply_of_error ha]
    exact h
  · rw [(apply_of_ok ha).2]
    exact h.apply ha

theorem filed_apply (h : s.snapshot.Filed) (hevent : event.Proper) :
    (s.apply event).2.snapshot.Filed := by
  rcases ha : s.snapshot.apply event with f | ⟨change, t⟩
  · rw [apply_of_error ha]
    exact h
  · rw [(apply_of_ok ha).2]
    exact h.apply hevent ha

theorem precedes_apply (s : Store) (event : StoreEvent) :
    s.snapshot.Precedes (s.apply event).2.snapshot := by
  rcases ha : s.snapshot.apply event with f | ⟨change, t⟩
  · rw [apply_of_error ha]
    exact .inl rfl
  · rw [(apply_of_ok ha).2]
    exact Snapshot.precedes_apply ha

/-- Another version of an object is taken in as a change. -/
theorem apply_upsert_changed {o : Object} (hflaw : o.flaw? = none)
    (hversion : ∀ stored, s.snapshot.get? o.resource = some stored →
      stored.sameVersion o = false) :
    (s.apply (.upsert o)).1 = .ok true ∧
      s.snapshot.generation < (s.apply (.upsert o)).2.snapshot.generation := by
  obtain ⟨c, t, ha, hlt⟩ := Snapshot.apply_upsert_changed hflaw hversion
  obtain ⟨hresult, ht⟩ := apply_of_ok ha
  exact ⟨hresult, ht ▸ hlt⟩

/-- The deletion of an object that is there is taken in as a change. -/
theorem apply_delete_changed {o : Object} {r : ResourceKey} (hget : s.snapshot.get? r = some o) :
    s.snapshot.generation < (s.apply (.delete r)).2.snapshot.generation := by
  obtain ⟨c, t, ha, hlt⟩ := Snapshot.apply_delete_changed hget
  rw [(apply_of_ok ha).2]
  exact hlt

end Store

end RelayFleet
