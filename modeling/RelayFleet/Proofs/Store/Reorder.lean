/-
Events in another order. What an event about one object is answered with, and what it leaves there,
is told by what was stored of that object before (`apply_of_single`). So sequences of such events that
agree on every object lead to the same snapshot with the same answers (`after_reorder`).
-/
import RelayFleet.Proofs.Store.Exact
import RelayFleet.Render.Sweep

namespace RelayFleet

/-! ## Lists that agree on every key -/

/-- Lists that hold the same items of every key in the same order are permutations of each other. -/
theorem perm_of_filter_eq {α κ : Type} [DecidableEq κ] {f : α → κ} {l l' : List α}
    (h : ∀ k, l.filter (f · = k) = l'.filter (f · = k)) : l.Perm l' := by
  classical
  refine List.perm_iff_count.2 fun a => ?_
  have hcount : ∀ m : List α, (m.filter (f · = f a)).count a = m.count a := fun m =>
    List.count_filter (by simp)
  rw [← hcount l, h, hcount l']

/-! ## Events about one object -/

/-- The object that an event is about; none if it is about all of a kind. -/
def StoreEvent.resource? : StoreEvent → Option ResourceKey
  | upsert o => some o.resource
  | delete r => some r
  | replace _ _ => none

/-- Whether an event is about a single object. -/
def StoreEvent.Single (event : StoreEvent) : Prop := event.resource?.isSome = true

instance (event : StoreEvent) : Decidable event.Single := inferInstanceAs (Decidable (_ = true))

/-- What an event about an object is answered with and what it leaves there, if this is stored of it:
a flawed object and one of the same version change nothing. -/
def StoreEvent.settle (stored : Option Object) : StoreEvent → Except Fault Bool × Option Object
  | upsert o =>
    match o.flaw? with
    | some flaw => (.error (.validation o.resource.text flaw.text), stored)
    | none => if stored.any (·.sameVersion o) then (.ok false, stored) else (.ok true, some o)
  | delete _ => (.ok stored.isSome, none)
  | replace _ _ => (.ok false, stored)

/-- How much an answer adds to the generation. -/
def StoreEvent.growth : Except Fault Bool → Nat
  | .ok true => 1
  | _ => 0

namespace Snapshot

variable {s : Snapshot} {o : Object}

theorem apply_upsert_flawed {flaw : Object.Flaw} (hflaw : o.flaw? = some flaw) :
    s.apply (.upsert o) = .error (.validation o.resource.text flaw.text) := by
  simp only [apply, edit, hflaw]

theorem apply_upsert (hflaw : o.flaw? = none) :
    s.apply (.upsert o) =
      if (s.get? o.resource).any (·.sameVersion o) then .ok (none, s)
      else .ok (some ⟨s.generation + 1, o.resource⟩,
        { s.put o with generation := s.generation + 1 }) := by
  simp only [apply, edit, Edit.insert, insert?, hflaw]
  by_cases hsame : (s.get? o.resource).any (·.sameVersion o) = true
  · rw [if_pos hsame, if_pos hsame]
    rfl
  · rw [if_neg hsame, if_neg hsame]
    rfl

theorem apply_delete (r : ResourceKey) :
    s.apply (.delete r) =
      match s.get? r with
      | none => .ok (none, s)
      | some o => .ok (some ⟨s.generation + 1, r⟩,
        { s.drop r o with generation := s.generation + 1 }) := by
  simp only [apply, edit, Edit.remove, remove?]
  cases s.get? r with
  | none => rfl
  | some o => rfl

/-- A snapshot whose indices are right is told by its objects and its generation. -/
theorem Indexed.ext {t : Snapshot} (hs : s.Indexed) (ht : t.Indexed)
    (hgeneration : s.generation = t.generation) (hobjects : ∀ r, s.get? r = t.get? r) : s = t := by
  have hsame : s.get? = t.get? := funext hobjects
  have hreferences : s.references = t.references := by
    unfold references
    rw [hsame]
  have hroutes := (hreferences ▸ hs.routes).unique ht.routes
  have hslices := (hreferences ▸ hs.slices).unique ht.slices
  obtain ⟨generation, objects, routes, slices⟩ := s
  obtain ⟨generation', objects', routes', slices'⟩ := t
  exact congr (congr (congrArg₂ Snapshot.mk hgeneration (SortedMap.ext_get? hobjects)) hroutes) hslices

end Snapshot

namespace Store

variable {event : StoreEvent} {r : ResourceKey}

/-- An event about one object does there what is told by what is stored of it, and nothing to any
other object; a change counts once. -/
theorem apply_of_single (s : Store) (hr : event.resource? = some r) :
    (s.apply event).1 = (event.settle (s.snapshot.get? r)).1 ∧
      (∀ r', (s.apply event).2.snapshot.get? r' =
        if r' = r then (event.settle (s.snapshot.get? r)).2 else s.snapshot.get? r') ∧
      (s.apply event).2.snapshot.generation =
        s.snapshot.generation + StoreEvent.growth (s.apply event).1 := by
  -- an event that changes nothing leaves what is stored, under its own key too
  have hkeep : ∀ r', s.snapshot.get? r' =
      if r' = r then s.snapshot.get? r else s.snapshot.get? r' := fun r' => by
    split
    · rename_i h
      rw [h]
    · rfl
  cases event with
  | upsert o =>
    cases hr
    rcases hflaw : o.flaw? with - | flaw
    · have ha := Snapshot.apply_upsert (s := s.snapshot) hflaw
      simp only [StoreEvent.settle, hflaw]
      split at ha <;> rename_i hsame
      · obtain ⟨hanswer, hnext⟩ := apply_of_ok ha
        rw [if_pos hsame, hanswer, hnext]
        exact ⟨rfl, hkeep, rfl⟩
      · obtain ⟨hanswer, hnext⟩ := apply_of_ok ha
        rw [if_neg hsame, hanswer, hnext]
        exact ⟨rfl, Snapshot.get?_put s.snapshot o, rfl⟩
    · rw [apply_of_error (Snapshot.apply_upsert_flawed hflaw)]
      simp only [StoreEvent.settle, hflaw]
      exact ⟨trivial, hkeep, rfl⟩
  | delete r =>
    cases hr
    have ha := Snapshot.apply_delete (s := s.snapshot) r
    simp only [StoreEvent.settle]
    rcases hget : s.snapshot.get? r with - | o <;> rw [hget] at ha
    · obtain ⟨hanswer, hnext⟩ := apply_of_ok ha
      rw [hanswer, hnext]
      exact ⟨rfl, hget ▸ hkeep, rfl⟩
    · obtain ⟨hanswer, hnext⟩ := apply_of_ok ha
      rw [hanswer, hnext]
      exact ⟨rfl, Snapshot.get?_drop s.snapshot o r, rfl⟩
  | replace kind objects => cases hr

/-! ## Sequences of events -/

/-- The store after these events, taken in one after another. -/
def after (s : Store) (events : List StoreEvent) : Store :=
  events.foldl (fun s event => (s.apply event).2) s

/-- The events with what the store answers to each, taken in one after another. -/
def answers (s : Store) : List StoreEvent → List (StoreEvent × Except Fault Bool)
  | [] => []
  | event :: rest => (event, (s.apply event).1) :: answers (s.apply event).2 rest

end Store

/-- What is left of an object after these events about it, if this was stored of it before. -/
def StoreEvent.settled (stored : Option Object) (events : List StoreEvent) : Option Object :=
  events.foldl (fun stored event => (event.settle stored).2) stored

/-- The events about an object with what each is answered, if this was stored of it before. -/
def StoreEvent.settlements (stored : Option Object) :
    List StoreEvent → List (StoreEvent × Except Fault Bool)
  | [] => []
  | event :: rest =>
    (event, (event.settle stored).1) :: settlements (event.settle stored).2 rest

namespace Store

variable {s : Store} {events events' : List StoreEvent}

/-- What is left of an object is told by what was stored of it and the events about it. -/
theorem get?_after (hsingle : ∀ event ∈ events, event.Single) (s : Store) (r : ResourceKey) :
    (s.after events).snapshot.get? r =
      StoreEvent.settled (s.snapshot.get? r) (events.filter (·.resource? = some r)) := by
  induction events generalizing s with
  | nil => rfl
  | cons event rest ih =>
    obtain ⟨hevent, hrest⟩ := List.forall_mem_cons.1 hsingle
    obtain ⟨r', hr'⟩ := Option.isSome_iff_exists.1 hevent
    obtain ⟨-, hget, -⟩ := apply_of_single s hr'
    have hih := ih hrest (s.apply event).2
    rw [hget] at hih
    refine hih.trans ?_
    by_cases hr : r = r'
    · subst hr
      rw [if_pos rfl, List.filter_cons_of_pos (by simp [hr'])]
      rfl
    · rw [if_neg hr, List.filter_cons_of_neg (by simp [hr', Ne.symm hr])]

/-- What the events about an object are answered is told by what was stored of it. -/
theorem answers_filter (hsingle : ∀ event ∈ events, event.Single) (s : Store) (r : ResourceKey) :
    (s.answers events).filter (·.1.resource? = some r) =
      StoreEvent.settlements (s.snapshot.get? r) (events.filter (·.resource? = some r)) := by
  induction events generalizing s with
  | nil => rfl
  | cons event rest ih =>
    obtain ⟨hevent, hrest⟩ := List.forall_mem_cons.1 hsingle
    obtain ⟨r', hr'⟩ := Option.isSome_iff_exists.1 hevent
    obtain ⟨hanswer, hget, -⟩ := apply_of_single s hr'
    have hih := ih hrest (s.apply event).2
    rw [hget] at hih
    by_cases hr : r = r'
    · subst hr
      rw [answers, List.filter_cons_of_pos (by simp [hr']), hih, if_pos rfl, hanswer,
        List.filter_cons_of_pos (by simp [hr'])]
      rfl
    · rw [answers, List.filter_cons_of_neg (by simp [hr', Ne.symm hr]), hih, if_neg hr,
        List.filter_cons_of_neg (by simp [hr', Ne.symm hr])]

/-- The generation counts the changes. -/
theorem generation_after (hsingle : ∀ event ∈ events, event.Single) (s : Store) :
    (s.after events).snapshot.generation =
      s.snapshot.generation + ((s.answers events).map (StoreEvent.growth ·.2)).sum := by
  induction events generalizing s with
  | nil => rfl
  | cons event rest ih =>
    obtain ⟨hevent, hrest⟩ := List.forall_mem_cons.1 hsingle
    obtain ⟨r', hr'⟩ := Option.isSome_iff_exists.1 hevent
    obtain ⟨-, -, hgeneration⟩ := apply_of_single s hr'
    have hih := ih hrest (s.apply event).2
    rw [hgeneration] at hih
    rw [answers, List.map_cons, List.sum_cons, ← Nat.add_assoc]
    exact hih

theorem indexed_after (h : s.snapshot.Indexed) (events : List StoreEvent) :
    (s.after events).snapshot.Indexed :=
  List.foldlRecOn (motive := fun s : Store => s.snapshot.Indexed) events _ h
    fun _ h _ _ => indexed_apply h

theorem single_of_answers {a : StoreEvent × Except Fault Bool} (s : Store)
    (ha : a ∈ s.answers events) : a.1 ∈ events := by
  induction events generalizing s with
  | nil => cases ha
  | cons event rest ih =>
    rcases List.mem_cons.1 ha with rfl | ha
    · exact List.mem_cons_self ..
    · exact List.mem_cons_of_mem _ (ih _ ha)

/-- Events about single objects may come in another order, as long as those about one object keep
theirs: the snapshot is the same, every event is answered as before, and so every rendering is the
same. -/
theorem after_reorder (h : s.Reachable) (hsingle : ∀ event ∈ events, event.Single)
    (hsingle' : ∀ event ∈ events', event.Single)
    (horder : ∀ r, events.filter (·.resource? = some r) = events'.filter (·.resource? = some r)) :
    (s.after events).snapshot = (s.after events').snapshot ∧
      (s.answers events).Perm (s.answers events') ∧
      (∀ r, (s.answers events).filter (·.1.resource? = some r) =
        (s.answers events').filter (·.1.resource? = some r)) ∧
      ∀ settings, Sweep.ofSnapshot settings (s.after events).snapshot =
        Sweep.ofSnapshot settings (s.after events').snapshot := by
  have hanswers : ∀ r, (s.answers events).filter (·.1.resource? = some r) =
      (s.answers events').filter (·.1.resource? = some r) := fun r => by
    rw [answers_filter hsingle, answers_filter hsingle', horder]
  have hperm : (s.answers events).Perm (s.answers events') := by
    refine perm_of_filter_eq (f := fun a => a.1.resource?) fun r => ?_
    cases r with
    | some r => exact hanswers r
    | none =>
      have hnone : ∀ {l : List StoreEvent}, (∀ event ∈ l, event.Single) →
          (s.answers l).filter (·.1.resource? = none) = [] := fun hl =>
        List.filter_eq_nil_iff.2 fun a ha => by
          have hsome := hl a.1 (single_of_answers s ha)
          unfold StoreEvent.Single at hsome
          simpa [← Option.isSome_iff_ne_none] using hsome
      rw [hnone hsingle, hnone hsingle']
  have hsnapshot : (s.after events).snapshot = (s.after events').snapshot := by
    refine Snapshot.Indexed.ext (indexed_after h.indexed _) (indexed_after h.indexed _) ?_ fun r => ?_
    · rw [generation_after hsingle, generation_after hsingle', (hperm.map _).sum_eq]
    · rw [get?_after hsingle, get?_after hsingle', horder]
  exact ⟨hsnapshot, hperm, hanswers, fun settings => by rw [hsnapshot]⟩

/-! ### Two routes of one gateway -/

/-- A route that refers to a gateway. -/
def routeNamed (name : String) : Object := .udpRoute {
  metadata := { name := some name, inNamespace := some "a", resourceVersion := some "1" }
  spec := { parentRefs := [{ name := "g" }] } }

/-- The entry of the gateway is made, grows and is taken away again, and an object without a name is
refused. -/
theorem after_reorder_for_routes :
    let early := [StoreEvent.upsert (routeNamed "r1"), .delete (routeNamed "r1").resource,
      .upsert (.secret { metadata := {} }), .upsert (routeNamed "r2"), .upsert (routeNamed "r2")]
    let late := [StoreEvent.upsert (routeNamed "r2"), .upsert (routeNamed "r1"),
      .upsert (routeNamed "r2"), .delete (routeNamed "r1").resource, .upsert (.secret { metadata := {} })]
    (empty.after early).snapshot = (empty.after late).snapshot ∧
      (empty.answers early).Perm (empty.answers late) ∧
      (empty.after early).snapshot.generation = 3 ∧
      ((empty.answers early).map (·.2.toOption)) =
        [some true, some true, none, some true, some false] := by
  intro early late
  have horder : ∀ r, early.filter (·.resource? = some r) = late.filter (·.resource? = some r) := by
    intro r
    by_cases h₁ : (routeNamed "r1").resource = r
    · subst h₁
      rfl
    · by_cases h₂ : (routeNamed "r2").resource = r
      · subst h₂
        rfl
      · simp [early, late, List.filter_cons, StoreEvent.resource?, h₁, h₂]
  obtain ⟨hsnapshot, hperm, -, -⟩ :=
    after_reorder .empty (by decide : ∀ event ∈ early, event.Single)
      (by decide : ∀ event ∈ late, event.Single) horder
  exact ⟨hsnapshot, hperm, by decide +kernel, by decide +kernel⟩

end Store

end RelayFleet
