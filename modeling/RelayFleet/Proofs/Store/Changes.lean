/-
What a store answers to an event tells what the event did (`answers_tell`). An event that is refused
or answered as no change has touched nothing, whatever was put in and taken out on the way to that
answer. A change counts once, in the generation and in the sign that the channel is offered; if it
is about one object, it is that object that differs from before, and it alone. So a generation is
the number of the changes that led to it.
-/
import RelayFleet.Proofs.Store.Relist

namespace RelayFleet

/-- Whether an event may be about a resource: about the one of its object, or about any of its
kind. -/
def StoreEvent.Concerns : StoreEvent → ResourceKey → Prop
  | upsert o, r => r = o.resource
  | delete r', r => r = r'
  | replace kind _, r => r.kind = kind

/-- An object is a change if nothing keeps it out and it is not there in the same version. -/
theorem StoreEvent.settle_upsert_eq_ok_true_iff {stored : Option Object} {o : Object} :
    ((StoreEvent.upsert o).settle stored).1 = .ok true ↔
      o.flaw? = none ∧ stored.any (·.sameVersion o) = false := by
  rw [StoreEvent.settle]
  cases o.flaw? with
  | some flaw => simp
  | none => cases stored.any (·.sameVersion o) <;> simp

namespace Object

variable {o o' : Object}

theorem sameVersion_self (o : Object) : o.sameVersion o = true := by
  unfold sameVersion
  split
  · rename_i ha hb
    exact decide_eq_true (Option.some.inj (ha.symm.trans hb))
  · exact decide_eq_true rfl

/-- What keeps an object out of the store is told by its kind and key. -/
theorem flaw?_of_resource (h : o.resource = o'.resource) : o.flaw? = o'.flaw? := by
  have hkind : o.kind = o'.kind := congrArg ResourceKey.kind h
  have hkey : o.key = o'.key := congrArg ResourceKey.key h
  unfold flaw?
  rw [hkind, hkey]

end Object

namespace Snapshot

variable {s : Snapshot} {event : StoreEvent} {r : ResourceKey}

/-- A step notes nothing but the object that it is about, and goes on to note what was noted. -/
theorem Edit.first_advance {e : Edit} {r' : ResourceKey} {next : Option Snapshot}
    (h : (e.advance r' next).first = some r) : e.first = some r ∨ r = r' := by
  cases next with
  | none => exact .inl h
  | some t =>
    unfold advance at h
    cases hfirst : e.first <;> rw [hfirst] at h
    · exact .inr (Option.some.inj h).symm
    · exact .inl h

/-- What an edit notes as its first change, the event is about. -/
theorem concerns_of_edit {e : Edit} (he : s.edit event = .ok e) (hr : e.first = some r) :
    event.Concerns r := by
  cases event with
  | upsert o =>
    simp only [edit] at he
    split at he
    · cases he
    · cases he
      exact (Edit.first_advance hr).resolve_left fun h => by cases h
  | delete r' =>
    cases he
    exact (Edit.first_advance hr).resolve_left fun h => by cases h
  | replace kind objects =>
    cases he
    revert r
    refine List.foldlRecOn (motive := fun e : Edit => ∀ {r}, e.first = some r → r.kind = kind) _ _
      ?_ fun e he k _ r hr => ?_
    · refine List.foldlRecOn (motive := fun e : Edit => ∀ {r}, e.first = some r → r.kind = kind) _ _
        (fun h => by cases h) fun e he o ho r hr => ?_
      rcases Edit.first_advance hr with hr | rfl
      · exact he hr
      · exact (mem_admissible_iff.1 ho).2.1
    · rcases Edit.first_advance hr with hr | rfl
      · exact he hr
      · rfl

end Snapshot

namespace Store

variable {s : Store} {event : StoreEvent}

/-- An event is no change and leaves the store as it is, or it is one and leads to the snapshot that
was edited, in the next generation, of which the channel is offered a sign. -/
theorem apply_cases (s : Store) (event : StoreEvent) :
    ((s.apply event).1 ≠ .ok true ∧ (s.apply event).2 = s) ∨
    ∃ next r, s.snapshot.edit event = .ok ⟨next, some r⟩ ∧
      s.apply event = (.ok true, Store.signal
        { s with snapshot := { next with generation := s.snapshot.generation + 1 } }
        ⟨s.snapshot.generation + 1, r⟩) := by
  unfold apply commit Snapshot.apply
  rcases he : s.snapshot.edit event with f | ⟨next, - | r⟩
  · exact .inl ⟨by rintro ⟨⟩, rfl⟩
  · obtain rfl := Snapshot.edit_of_unchanged he
    exact .inl ⟨by rintro ⟨⟩, rfl⟩
  · exact .inr ⟨next, r, rfl, rfl⟩

/-- Whether the answer to an event tells what the event does to a store. -/
structure Truthful (s : Store) (event : StoreEvent) : Prop where
  /-- Unless it is answered as a change it leaves everything as it was: objects, indices, generation
  and channel. -/
  kept : (s.apply event).1 ≠ .ok true → (s.apply event).2 = s
  /-- A change makes the generation greater by one. -/
  counted : (s.apply event).1 = .ok true →
    (s.apply event).2.snapshot.generation = s.snapshot.generation + 1
  /-- A channel is offered one sign of a change, with the generation that it led to. -/
  signalled : (s.apply event).1 = .ok true → ∃ r, event.Concerns r ∧
    (s.apply event).2.trigger = s.trigger.map (·.offer ⟨s.snapshot.generation + 1, r⟩)
  /-- An object that is put in as a change is there after that, and was not there like that
  before. -/
  put : ∀ o, event = .upsert o → (s.apply event).1 = .ok true →
    (s.apply event).2.snapshot.get? o.resource = some o ∧ s.snapshot.get? o.resource ≠ some o
  /-- An object that is taken out as a change was there, and is not after that. -/
  taken : ∀ r, event = .delete r → (s.apply event).1 = .ok true →
    (s.apply event).2.snapshot.get? r = none ∧ s.snapshot.get? r ≠ none
  /-- No other object is touched. -/
  others : ∀ r, ¬ event.Concerns r →
    (s.apply event).2.snapshot.get? r = s.snapshot.get? r
  /-- An object that is there in the same version is no change. -/
  repeated : ∀ o, event = .upsert o →
    (s.snapshot.get? o.resource).any (·.sameVersion o) = true → (s.apply event).1 = .ok false

theorem truthful (h : s.Reachable) (event : StoreEvent) : s.Truthful event where
  kept hanswer := by
    rcases apply_cases s event with ⟨-, hsame⟩ | ⟨next, r, -, ha⟩
    · exact hsame
    · exact absurd (congrArg Prod.fst ha) hanswer
  counted hanswer := by
    rcases apply_cases s event with ⟨hne, -⟩ | ⟨next, r, -, ha⟩
    · exact absurd hanswer hne
    · rw [ha]
      rfl
  signalled hanswer := by
    rcases apply_cases s event with ⟨hne, -⟩ | ⟨next, r, he, ha⟩
    · exact absurd hanswer hne
    · rw [ha]
      exact ⟨r, Snapshot.concerns_of_edit he rfl, rfl⟩
  put := by
    rintro o rfl hanswer
    obtain ⟨hsettled, hget, -⟩ := apply_of_single s (rfl : (StoreEvent.upsert o).resource? = _)
    rw [hsettled] at hanswer
    obtain ⟨hflaw, hversion⟩ := StoreEvent.settle_upsert_eq_ok_true_iff.1 hanswer
    refine ⟨?_, fun hstored => ?_⟩
    · rw [hget, if_pos rfl, StoreEvent.settle, hflaw]
      exact congrArg Prod.snd (if_neg (Bool.eq_false_iff.1 hversion))
    · rw [hstored, Option.any_some, o.sameVersion_self] at hversion
      cases hversion
  taken := by
    rintro r rfl hanswer
    obtain ⟨hsettled, hget, -⟩ := apply_of_single s (rfl : (StoreEvent.delete r).resource? = _)
    rw [hsettled] at hanswer
    refine ⟨(hget r).trans (if_pos rfl), fun hnone => ?_⟩
    rw [hnone] at hanswer
    cases hanswer
  others := by
    intro r hr
    cases event with
    | upsert o =>
      obtain ⟨-, hget, -⟩ := apply_of_single s (rfl : (StoreEvent.upsert o).resource? = _)
      exact (hget r).trans (if_neg hr)
    | delete r' =>
      obtain ⟨-, hget, -⟩ := apply_of_single s (rfl : (StoreEvent.delete r').resource? = _)
      exact (hget r).trans (if_neg hr)
    | replace kind objects => exact (s.relists kind objects).others r hr
  repeated := by
    rintro o rfl hsame
    obtain ⟨stored, hget, -⟩ := (Option.any_eq_true _ _).1 hsame
    have hflaw : o.flaw? = none :=
      (Object.flaw?_of_resource (h.indexed.own _ _ hget)).symm.trans (h.indexed.flawless _ _ hget)
    obtain ⟨hsettled, -⟩ := apply_of_single s (rfl : (StoreEvent.upsert o).resource? = _)
    rw [hsettled, StoreEvent.settle, hflaw]
    exact congrArg Prod.fst (if_pos hsame)

theorem generation_apply (s : Store) (event : StoreEvent) :
    (s.apply event).2.snapshot.generation =
      s.snapshot.generation + StoreEvent.growth (s.apply event).1 := by
  rcases apply_cases s event with ⟨hne, hsame⟩ | ⟨next, r, -, ha⟩
  · rw [hsame]
    rcases hanswer : (s.apply event).1 with f | - | -
    · rfl
    · rfl
    · exact absurd hanswer hne
  · rw [ha]
    rfl

/-- The generation counts the changes among the events. -/
theorem generation_of_answers (s : Store) (events : List StoreEvent) :
    (s.after events).snapshot.generation =
      s.snapshot.generation + (s.answers events).countP (·.2.toOption = some true) := by
  induction events generalizing s with
  | nil => rfl
  | cons event rest ih =>
    have hafter : s.after (event :: rest) = (s.apply event).2.after rest := rfl
    rw [hafter, ih, generation_apply, Nat.add_assoc, answers, List.countP_cons,
      Nat.add_comm (List.countP _ _)]
    rcases (s.apply event).1 with f | - | - <;> rfl

/-- Of every event, what a store answers tells what the event does: nothing at all unless it is
answered as a change, and just one change otherwise. So the generation goes up by the number of
events that are answered as changes, from 0 in a store without objects. -/
theorem answers_tell (h : s.Reachable) (events : List StoreEvent) :
    (∀ event, s.Truthful event) ∧ (s.after events).snapshot.generation =
      s.snapshot.generation + (s.answers events).countP (·.2.toOption = some true) :=
  ⟨truthful h, s.generation_of_answers events⟩

/-- A list that holds what is stored, and a secret that is set aside, is no change. A route that
comes and goes makes two, of which the channel, that is full, takes no sign. -/
theorem answers_tell_for_relist :
    let s := ((empty.attach 1).apply (.upsert (routeNamed "r1"))).2
    let relist := StoreEvent.replace .udpRoute [routeNamed "r1", .secret { metadata := {} }]
    let coming := StoreEvent.upsert (routeNamed "r2")
    let going := StoreEvent.delete (routeNamed "r2").resource
    s.Reachable ∧ (s.apply relist).1 ≠ .ok true ∧ (s.apply relist).2 = s ∧
      (s.after [relist, coming, going]).snapshot.generation = 1 + 2 ∧
      (s.after [relist, coming, going]).trigger = s.trigger := by
  intro s relist coming going
  have h : s.Reachable := (Reachable.attach 1 .empty).apply _
  obtain ⟨htruthful, hgeneration⟩ := answers_tell h [relist, coming, going]
  have hrelist : (s.apply relist).1 ≠ .ok true := by
    rw [show (s.apply relist).1 = .ok false by rfl]
    rintro ⟨⟩
  exact ⟨h, hrelist, (htruthful relist).kept hrelist, hgeneration.trans (by decide +kernel),
    by decide +kernel⟩

end Store

end RelayFleet
