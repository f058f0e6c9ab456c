/-
A list of all objects of a kind, taken in at once, and the same brought about step by step
(`relists`). The steps put in what is listed, in order, and then take out what is stored and not
listed. They lead to the same objects and indices, the list is a change exactly if one of the steps
is, and the first of those is the one that it is a change of.
-/
import RelayFleet.Proofs.Store.Reorder

namespace RelayFleet

/-! ## The steps of a list -/

/-- The steps that bring a kind to what was listed of it: what may be held of the list is put in, in
order, and then every stored key is taken out that none of it has. -/
def StoreEvent.steps (s : Snapshot) (kind : ObjectKind) (objects : List Object) : List StoreEvent :=
  let listed := Snapshot.admissible kind objects
  let stale := (s.keys kind).filter fun k => ! (listed.map (·.key)).contains k
  listed.map .upsert ++ stale.map fun k => .delete ⟨kind, k⟩

/-- Whether an event is about one object, and is not refused. -/
def StoreEvent.Plain : StoreEvent → Prop
  | upsert o => o.flaw? = none
  | delete _ => True
  | replace _ _ => False

namespace Snapshot

variable {s t : Snapshot} {o : Object} {kind : ObjectKind} {objects : List Object}

/-- Whether snapshots hold the same objects in the same indices, whatever their generations. -/
structure Alike (s t : Snapshot) : Prop where
  objects : s.objects = t.objects
  routesByGateway : s.routesByGateway = t.routesByGateway
  slicesByService : s.slicesByService = t.slicesByService

theorem Alike.refl (s : Snapshot) : s.Alike s := ⟨rfl, rfl, rfl⟩

theorem Alike.symm (h : s.Alike t) : t.Alike s :=
  ⟨h.objects.symm, h.routesByGateway.symm, h.slicesByService.symm⟩

theorem Alike.trans {u : Snapshot} (h : s.Alike t) (h' : t.Alike u) : s.Alike u :=
  ⟨h.objects.trans h'.objects, h.routesByGateway.trans h'.routesByGateway,
    h.slicesByService.trans h'.slicesByService⟩

theorem Alike.of_generation (s : Snapshot) (generation : Nat) :
    Alike { s with generation } s := ⟨rfl, rfl, rfl⟩

theorem Alike.get? (h : s.Alike t) (r : ResourceKey) : s.get? r = t.get? r :=
  congrArg (SortedMap.get? · r) h.objects

theorem Alike.keys (h : s.Alike t) (kind : ObjectKind) : s.keys kind = t.keys kind := by
  unfold Snapshot.keys ofKind
  rw [h.objects]

theorem Alike.put (h : s.Alike t) (o : Object) : (s.put o).Alike (t.put o) := by
  unfold Snapshot.put
  rw [h.get?, h.objects, h.routesByGateway, h.slicesByService]
  exact ⟨rfl, rfl, rfl⟩

theorem Alike.drop (h : s.Alike t) (r : ResourceKey) (o : Object) :
    (s.drop r o).Alike (t.drop r o) := by
  unfold Snapshot.drop
  rw [h.objects, h.routesByGateway, h.slicesByService]
  exact ⟨rfl, rfl, rfl⟩

/-- The keys of a kind come in order. -/
theorem sorted_keys (s : Snapshot) (kind : ObjectKind) : Elements.Sorted (s.keys kind) :=
  List.pairwise_map.2 (s.sorted_ofKind kind)

theorem mem_admissible_iff : o ∈ admissible kind objects ↔
    o ∈ objects ∧ o.kind = kind ∧ o.flaw? = none := by
  unfold admissible
  rw [List.mem_filter, decide_eq_true_eq, Option.isNone_iff_eq_none]

/-! ## Steps of an edit -/

/-- The object that an event changed, by what it was answered. -/
def changed (a : StoreEvent × Except Fault Bool) : Option ResourceKey :=
  if a.2.toOption = some true then a.1.resource? else none

namespace Edit

/-- Takes an event about one object into an edit. -/
def follow (e : Edit) : StoreEvent → Edit
  | .upsert o => e.insert o
  | .delete r => e.remove r
  | .replace _ _ => e

theorem orElse_none_eq (first : Option ResourceKey) : first = first.orElse fun _ => none := by
  rw [Option.orElse_eq_or, Option.or_none]

variable {e : Edit} {st : Store} {event : StoreEvent} {events : List StoreEvent}

/-- An edit and a store that hold the same go on to hold the same, and the edit notes what the store
reports as changed, unless it has noted something before. -/
theorem follow_apply (hplain : event.Plain) (h : st.snapshot.Alike e.snapshot) :
    (st.apply event).2.snapshot.Alike (e.follow event).snapshot ∧
      (e.follow event).first = e.first.orElse fun _ => changed (event, (st.apply event).1) := by
  cases event with
  | upsert o =>
    have ha := apply_upsert (s := st.snapshot) hplain
    simp only [follow, Edit.insert, insert?, ← h.get?]
    split at ha <;> rename_i hsame
    · obtain ⟨hanswer, hnext⟩ := Store.apply_of_ok ha
      rw [if_pos hsame, hanswer, hnext]
      exact ⟨h, orElse_none_eq _⟩
    · obtain ⟨hanswer, hnext⟩ := Store.apply_of_ok ha
      rw [if_neg hsame, hanswer, hnext]
      exact ⟨(Alike.of_generation _ _).trans (h.put o), rfl⟩
  | delete r =>
    have ha := apply_delete (s := st.snapshot) r
    simp only [follow, Edit.remove, remove?, ← h.get?]
    rcases hget : st.snapshot.get? r with - | o <;> rw [hget] at ha
    · obtain ⟨hanswer, hnext⟩ := Store.apply_of_ok ha
      rw [hanswer, hnext]
      exact ⟨h, orElse_none_eq _⟩
    · obtain ⟨hanswer, hnext⟩ := Store.apply_of_ok ha
      rw [hanswer, hnext]
      exact ⟨(Alike.of_generation _ _).trans (h.drop r o), rfl⟩
  | replace kind objects => exact hplain.elim

theorem follow_after (hplain : ∀ event ∈ events, event.Plain) (h : st.snapshot.Alike e.snapshot) :
    (st.after events).snapshot.Alike (events.foldl follow e).snapshot ∧
      (events.foldl follow e).first =
        e.first.orElse fun _ => (st.answers events).findSome? changed := by
  induction events generalizing e st with
  | nil => exact ⟨h, orElse_none_eq _⟩
  | cons event rest ih =>
    obtain ⟨hevent, hrest⟩ := List.forall_mem_cons.1 hplain
    obtain ⟨hsame, hfirst⟩ := follow_apply hevent h
    obtain ⟨hafter, hlater⟩ := ih hrest hsame
    refine ⟨hafter, ?_⟩
    rw [List.foldl_cons, hlater, hfirst, Store.answers, List.findSome?_cons]
    cases e.first <;> cases changed (event, (st.apply event).1) <;> rfl

/-- An edit that has noted no change is where it began. -/
theorem foldl_follow_eq (h : (events.foldl follow e).first = none) : events.foldl follow e = e := by
  refine foldl_of_unchanged follow (fun e event hnone => ?_) _ h
  cases event with
  | upsert o => exact insert_of_unchanged hnone
  | delete r => exact remove_of_unchanged hnone
  | replace kind objects => rfl

theorem get?_foldl_insert_of_ne {r : ResourceKey} (h : ∀ o ∈ objects, r ≠ o.resource) (e : Edit) :
    (objects.foldl Edit.insert e).snapshot.get? r = e.snapshot.get? r := by
  induction objects generalizing e with
  | nil => rfl
  | cons o rest ih =>
    obtain ⟨ho, hrest⟩ := List.forall_mem_cons.1 h
    rw [List.foldl_cons, ih hrest]
    refine Edit.insert_induction (P := fun t => t.get? r = e.snapshot.get? r) rfl ?_
    rw [get?_put, if_neg ho]

end Edit

/-- Taking in a list is an edit by its steps. -/
theorem edit_replace (s : Snapshot) (kind : ObjectKind) (objects : List Object) :
    s.edit (.replace kind objects) =
      .ok ((StoreEvent.steps s kind objects).foldl Edit.follow ⟨s, none⟩) := by
  -- what is stored and not listed is the same before the list is put in and after
  have hstale : ∀ k, ((admissible kind objects).map (·.key)).contains k = false →
      (k ∈ ((admissible kind objects).foldl Edit.insert ⟨s, none⟩).snapshot.keys kind ↔
        k ∈ s.keys kind) := by
    intro k hk
    rw [mem_keys_iff, mem_keys_iff, Edit.get?_foldl_insert_of_ne]
    intro o ho he
    have hmem : k ∈ (admissible kind objects).map (·.key) :=
      List.mem_map.2 ⟨o, ho, (congrArg ResourceKey.key he).symm⟩
    rw [← List.contains_iff_mem, hk] at hmem
    cases hmem
  have hsame : (((admissible kind objects).foldl Edit.insert ⟨s, none⟩).snapshot.keys kind).filter
      (fun k => ! ((admissible kind objects).map (·.key)).contains k) =
      (s.keys kind).filter fun k => ! ((admissible kind objects).map (·.key)).contains k := by
    refine congrArg SortedSet.toList (SortedSet.ext_mem (s := ⟨_, (sorted_keys _ kind).filter _⟩)
      (t := ⟨_, (sorted_keys s kind).filter _⟩) fun k => ?_)
    show k ∈ List.filter _ _ ↔ k ∈ List.filter _ _
    rw [List.mem_filter, List.mem_filter, Bool.not_eq_true']
    exact and_congr_left fun hk => hstale k hk
  unfold edit StoreEvent.steps
  dsimp only
  rw [hsame, List.foldl_append, List.foldl_map, List.foldl_map]
  rfl

end Snapshot

/-! ## The store -/

namespace Store

variable {s : Store} {kind : ObjectKind} {objects : List Object} {r : ResourceKey}

theorem plain_of_mem_steps {event : StoreEvent}
    (h : event ∈ StoreEvent.steps s.snapshot kind objects) :
    event.Plain ∧ ∃ k, event.resource? = some ⟨kind, k⟩ := by
  rcases List.mem_append.1 h with h | h
  · obtain ⟨o, ho, rfl⟩ := List.mem_map.1 h
    obtain ⟨-, rfl, hflaw⟩ := Snapshot.mem_admissible_iff.1 ho
    exact ⟨hflaw, o.key, rfl⟩
  · obtain ⟨k, -, rfl⟩ := List.mem_map.1 h
    exact ⟨trivial, k, rfl⟩

theorem single_of_mem_steps {event : StoreEvent}
    (h : event ∈ StoreEvent.steps s.snapshot kind objects) : event.Single := by
  obtain ⟨-, k, hresource⟩ := plain_of_mem_steps h
  exact Option.isSome_iff_exists.2 ⟨_, hresource⟩

/-- Taking in a list leads to where its steps lead, and what is reported as changed is what the first
of them changes that changes anything. -/
theorem apply_replace (s : Store) (kind : ObjectKind) (objects : List Object) :
    ∃ change t, s.snapshot.apply (.replace kind objects) = .ok (change, t) ∧
      t.Alike (s.after (StoreEvent.steps s.snapshot kind objects)).snapshot ∧
      change.map (·.resource) =
        (s.answers (StoreEvent.steps s.snapshot kind objects)).findSome? Snapshot.changed := by
  have hplain : ∀ event ∈ StoreEvent.steps s.snapshot kind objects, event.Plain :=
    fun _ h => (plain_of_mem_steps h).1
  obtain ⟨hafter, hfirst⟩ := Snapshot.Edit.follow_after (e := ⟨s.snapshot, none⟩) hplain
    (Snapshot.Alike.refl s.snapshot)
  have hnone (h : ((StoreEvent.steps s.snapshot kind objects).foldl Snapshot.Edit.follow
      ⟨s.snapshot, none⟩).first = none) := Snapshot.Edit.foldl_follow_eq h
  unfold Snapshot.apply
  rw [Snapshot.edit_replace]
  generalize (StoreEvent.steps s.snapshot kind objects).foldl Snapshot.Edit.follow
    ⟨s.snapshot, none⟩ = e at hafter hfirst hnone
  obtain ⟨next, first⟩ := e
  cases first with
  | none =>
    cases hnone rfl
    exact ⟨_, _, rfl, hafter.symm, hfirst⟩
  | some r =>
    exact ⟨_, _, rfl, (Snapshot.Alike.of_generation _ _).trans hafter.symm, hfirst⟩

/-- What is listed or was there before is there once a list has been put in. -/
theorem isSome_get?_after_upserts (hflaw : ∀ o ∈ objects, o.flaw? = none) (s : Store)
    (r : ResourceKey) : ((s.after (objects.map .upsert)).snapshot.get? r).isSome = true ↔
      (∃ o ∈ objects, o.resource = r) ∨ (s.snapshot.get? r).isSome = true := by
  induction objects generalizing s with
  | nil => simp [after]
  | cons o rest ih =>
    obtain ⟨ho, hrest⟩ := List.forall_mem_cons.1 hflaw
    have habout : (StoreEvent.upsert o).resource? = some o.resource := rfl
    obtain ⟨-, hget, -⟩ := apply_of_single s habout
    have hput : ((s.apply (.upsert o)).2.snapshot.get? r).isSome = true ↔
        o.resource = r ∨ (s.snapshot.get? r).isSome = true := by
      rw [hget, StoreEvent.settle, ho]
      by_cases hr : r = o.resource
      · subst hr
        rw [if_pos rfl]
        dsimp only
        split
        · rename_i hsame
          obtain ⟨stored, hstored, -⟩ := (Option.any_eq_true _ _).1 hsame
          simp [hstored]
        · simp
      · simp [hr, Ne.symm hr]
    have hafter : s.after ((o :: rest).map .upsert) =
        (s.apply (.upsert o)).2.after (rest.map .upsert) := rfl
    rw [hafter, ih hrest, hput, List.exists_mem_cons_iff, or_assoc, or_left_comm]

theorem get?_after_deletes {keys : List ResourceKey} (s : Store) (r : ResourceKey) :
    (s.after (keys.map .delete)).snapshot.get? r =
      if r ∈ keys then none else s.snapshot.get? r := by
  induction keys generalizing s with
  | nil => rfl
  | cons r' rest ih =>
    have habout : (StoreEvent.delete r').resource? = some r' := rfl
    obtain ⟨-, hget, -⟩ := apply_of_single s habout
    have hafter : s.after ((r' :: rest).map .delete) =
        (s.apply (.delete r')).2.after (rest.map .delete) := rfl
    rw [hafter, ih, hget]
    by_cases hr : r = r'
    · simp [hr, StoreEvent.settle]
    · simp [hr]

/-- After the steps of a list, the keys of its kind are those of what may be held of it. -/
theorem mem_keys_after_steps {k : ObjectKey} :
    k ∈ (s.after (StoreEvent.steps s.snapshot kind objects)).snapshot.keys kind ↔
      ∃ o ∈ objects, o.kind = kind ∧ o.flaw? = none ∧ o.key = k := by
  have hlisted : (∃ o ∈ Snapshot.admissible kind objects, o.resource = ⟨kind, k⟩) ↔
      ∃ o ∈ objects, o.kind = kind ∧ o.flaw? = none ∧ o.key = k := by
    simp only [Snapshot.mem_admissible_iff, and_assoc]
    refine exists_congr fun o => and_congr_right fun _ => and_congr_right fun hkind =>
      and_congr_right fun _ => ?_
    rw [← hkind]
    exact ⟨congrArg ResourceKey.key, fun h => h ▸ rfl⟩
  have hseen : k ∈ (Snapshot.admissible kind objects).map (·.key) ↔
      ∃ o ∈ objects, o.kind = kind ∧ o.flaw? = none ∧ o.key = k := by
    simp only [List.mem_map, Snapshot.mem_admissible_iff, and_assoc]
  have hput := isSome_get?_after_upserts
    (fun o ho => (Snapshot.mem_admissible_iff.1 ho).2.2 : ∀ o ∈ Snapshot.admissible kind objects, _)
    s ⟨kind, k⟩
  have hstale : (⟨kind, k⟩ : ResourceKey) ∈ ((s.snapshot.keys kind).filter fun k =>
      ! ((Snapshot.admissible kind objects).map (·.key)).contains k).map (⟨kind, ·⟩) ↔
      k ∈ s.snapshot.keys kind ∧ k ∉ (Snapshot.admissible kind objects).map (·.key) := by
    rw [List.mem_map_of_injective fun _ _ h => congrArg ResourceKey.key h, List.mem_filter,
      Bool.not_eq_true', ← Bool.not_eq_true, List.contains_iff_mem]
  have hsteps : s.after (StoreEvent.steps s.snapshot kind objects) =
      (s.after ((Snapshot.admissible kind objects).map .upsert)).after
        ((((s.snapshot.keys kind).filter fun k =>
          ! ((Snapshot.admissible kind objects).map (·.key)).contains k).map (⟨kind, ·⟩)).map
            .delete) := by
    unfold StoreEvent.steps after
    rw [List.foldl_append, List.map_map]
    rfl
  rw [Snapshot.mem_keys_iff, ← Option.isSome_iff_exists, hsteps, get?_after_deletes]
  rw [Snapshot.mem_keys_iff, ← Option.isSome_iff_exists] at hstale
  rw [hlisted] at hput
  rw [hseen] at hstale
  by_cases hmem : (⟨kind, k⟩ : ResourceKey) ∈ ((s.snapshot.keys kind).filter fun k =>
      ! ((Snapshot.admissible kind objects).map (·.key)).contains k).map (⟨kind, ·⟩)
  · rw [if_pos hmem]
    exact ⟨fun h => absurd h Bool.false_ne_true, fun h => absurd h (hstale.1 hmem).2⟩
  · rw [if_neg hmem, hput]
    rw [hstale] at hmem
    refine ⟨fun h => h.elim id fun hstored => ?_, .inl⟩
    by_contra hlisted
    exact hmem ⟨hstored, hlisted⟩

/-- Whether taking in a list of a kind comes to the same as its steps, one after another. -/
structure Relists (s : Store) (kind : ObjectKind) (objects : List Object) : Prop where
  same : (s.apply (.replace kind objects)).2.snapshot.Alike
    (s.after (StoreEvent.steps s.snapshot kind objects)).snapshot
  others : ∀ r, r.kind ≠ kind →
    (s.apply (.replace kind objects)).2.snapshot.get? r = s.snapshot.get? r
  /-- None of the steps is refused. -/
  taken : ∀ a ∈ s.answers (StoreEvent.steps s.snapshot kind objects), ∃ b, a.2 = .ok b
  /-- The list is a change exactly if a step is. -/
  changes : (s.apply (.replace kind objects)).1 =
    .ok ((s.answers (StoreEvent.steps s.snapshot kind objects)).any (·.2.toOption = some true))
  /-- It is a change of what the first step changes that is one. -/
  first : ∀ change t, s.snapshot.apply (.replace kind objects) = .ok (some change, t) →
    (s.answers (StoreEvent.steps s.snapshot kind objects)).findSome? Snapshot.changed =
      some change.resource

theorem isSome_changed_iff {a : StoreEvent × Except Fault Bool} (h : a.1.Single) :
    (Snapshot.changed a).isSome = true ↔ a.2.toOption = some true := by
  unfold Snapshot.changed
  split
  · rename_i hchanged
    exact ⟨fun _ => hchanged, fun _ => h⟩
  · rename_i hkept
    exact ⟨nofun, fun h => absurd h hkept⟩

/-- What a store answers to events that it does not refuse. -/
theorem taken_of_plain {events : List StoreEvent} (hplain : ∀ event ∈ events, event.Plain)
    (s : Store) {a : StoreEvent × Except Fault Bool} (ha : a ∈ s.answers events) :
    ∃ b, a.2 = .ok b := by
  induction events generalizing s with
  | nil => cases ha
  | cons event rest ih =>
    obtain ⟨hevent, hrest⟩ := List.forall_mem_cons.1 hplain
    rcases List.mem_cons.1 ha with rfl | ha
    · cases event with
      | upsert o =>
        have habout : (StoreEvent.upsert o).resource? = some o.resource := rfl
        obtain ⟨hanswer, -, -⟩ := apply_of_single s habout
        dsimp only
        rw [hanswer, StoreEvent.settle, show o.flaw? = none from hevent]
        dsimp only
        split <;> exact ⟨_, rfl⟩
      | delete r =>
        have habout : (StoreEvent.delete r).resource? = some r := rfl
        exact ⟨_, (apply_of_single s habout).1⟩
      | replace kind objects => exact hevent.elim
    · exact ih hrest _ ha

/-- A list is taken in as its steps are. -/
theorem relists (s : Store) (kind : ObjectKind) (objects : List Object) :
    s.Relists kind objects := by
  obtain ⟨change, t, ha, hsame, hfirst⟩ := s.apply_replace kind objects
  obtain ⟨hanswer, hnext⟩ := apply_of_ok ha
  refine ⟨hnext ▸ hsame, fun r hr => ?_,
    fun a => taken_of_plain (fun _ h => (plain_of_mem_steps h).1) s, ?_, fun c u hc => ?_⟩
  · -- every step is about a key of the kind
    rw [hnext, hsame.get?, get?_after fun _ => single_of_mem_steps, List.filter_eq_nil_iff.2]
    · rfl
    · intro event hevent hresource
      obtain ⟨-, k, hk⟩ := plain_of_mem_steps hevent
      cases hk.symm.trans (of_decide_eq_true hresource)
      exact hr rfl
  · rw [hanswer, ← Option.isSome_map (f := (·.resource)), hfirst]
    refine congrArg Except.ok (Bool.eq_iff_iff.2 ?_)
    rw [List.isSome_findSome?, List.any_eq_true, List.any_eq_true]
    refine exists_congr fun a => and_congr_right fun ha => ?_
    rw [decide_eq_true_eq]
    exact isSome_changed_iff (single_of_mem_steps (single_of_answers s ha))
  · cases ha.symm.trans hc
    exact hfirst.symm

end Store

end RelayFleet
