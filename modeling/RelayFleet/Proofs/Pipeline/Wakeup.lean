/-
A store, its writers and the renderer. A writer makes a change, and some time later tells the channel
of it, which may be full by then and leave the sign out. No change is lost for that: sweeps come in
the order of their generations, and once the renderer waits and nobody has anything to tell, the last
sweep shows the newest snapshot (`newest_of_quiet`).
-/
import RelayFleet.Pipeline.Schedule
import RelayFleet.Proofs.Operator.Write
import RelayFleet.Proofs.Store.Exact

namespace RelayFleet

/-! ## The system -/

/-- A store with its writers, and with a pipeline once one has been started. -/
structure Feed where
  store : Store := .empty
  /-- The changes that writers have made and not told the channel of yet. -/
  untold : List StoreChange := []
  /-- The pipeline whose renderer reads the store. -/
  pipeline : Option Pipeline := none
  /-- The sweeps that were taken out of the queue, oldest first. -/
  taken : List Sweep := []

namespace Feed

/-- What may happen next. -/
inductive Act where
  /-- A writer takes an event into the store. -/
  | write (event : StoreEvent)
  /-- One of the writers with something to tell does so. -/
  | tell (writer : Nat)
  /-- A new channel is attached, before the renderer is started. -/
  | attach
  /-- The renderer is started. -/
  | start
  /-- The renderer takes a step. -/
  | render
  /-- The oldest sweep is taken out of the queue. -/
  | take

/-- The surroundings of a pipeline on a store alone. -/
def surroundings (operator : Program.Handler OperatorCall OperatorCall.Reply Store)
    (status : Program.Handler StatusCall StatusCall.Reply Store) : Surroundings Store where
  store s := s
  withStore _ s := s
  operator := operator
  status := status

variable (settings : Settings)
  (operator : Program.Handler OperatorCall OperatorCall.Reply Store)
  (status : Program.Handler StatusCall StatusCall.Reply Store)

/-- The renderer's step, if it can take one. -/
def afterRender (f : Feed) (p : Pipeline) : Option Feed :=
  if p.rendererReady (surroundings operator status) settings f.store then
    let (p, store) := p.stepRenderer (surroundings operator status) settings f.store
    some { f with store, pipeline := some p }
  else none

/-- What becomes of a store and its renderer, if this may happen. An event that is refused does
nothing. -/
def after (f : Feed) : Act → Option Feed
  | .write event =>
    match f.store.commit event with
    | .error _ => none
    | .ok (change, store) => some { f with store, untold := f.untold ++ change.toList }
  | .tell writer =>
    f.untold[writer]?.map fun change =>
      { f with store := f.store.signal change, untold := f.untold.eraseIdx writer }
  | .attach =>
    if f.pipeline.isNone then some { f with store := f.store.attach Schedule.signs } else none
  | .start =>
    if f.pipeline.isNone ∧ f.store.trigger.isSome then
      some { f with pipeline := some { renderer := .start f.store } }
    else none
  | .render => f.pipeline.bind (f.afterRender settings operator status)
  | .take =>
    f.pipeline.bind fun p =>
      match p.sweeps with
      | [] => none
      | sweep :: rest =>
        some { f with pipeline := some { p with sweeps := rest }, taken := f.taken ++ [sweep] }

/-- What a store without objects, channel and renderer may come to. -/
inductive Reached : Feed → Prop
  | empty : Reached {}
  | act {f f' : Feed} {a : Act} (h : Reached f) (ha : f.after settings operator status a = some f') :
    Reached f'

/-- The sweeps that were sent, oldest first. -/
def emitted (f : Feed) : List Sweep := f.taken ++ (f.pipeline.map (·.sweeps)).getD []

/-- Whether the renderer waits for a sign, with none in the channel and no writer about to give
one. -/
def isQuiet (f : Feed) : Bool :=
  f.untold.isEmpty && f.store.trigger.all (·.pending.isEmpty) && f.pipeline.any fun p =>
    p.renderer.outgoing.isNone && ! p.renderer.awake && ! p.renderer.due

/-! ## What the renderer has seen -/

/-- The sweeps that were rendered, oldest first. -/
def shown (f : Feed) (p : Pipeline) : List Sweep :=
  f.taken ++ (p.sweeps ++ p.renderer.outgoing.toList)

/-- What the renderer saw last, what it has rendered up to then, and why it will look again if there
is something newer. -/
structure Attends (f : Feed) (p : Pipeline) (seen : Snapshot) : Prop where
  precedes : seen.Precedes f.store.snapshot
  called : seen = f.store.snapshot ∨ p.renderer.awake = true ∨
    p.renderer.isCalled f.store = true ∨ f.untold ≠ []
  last : p.renderer.rendered = none ∧ seen = {} ∧ f.shown p = [] ∨
    p.renderer.rendered = some seen.generation ∧
      (f.shown p).getLast? = some (.ofSnapshot settings seen)
  bounded : ∀ sweep ∈ f.shown p, sweep.generation ≤ seen.generation
  increasing : ((f.shown p).map (·.generation)).Pairwise (· < ·)

variable {settings} {f : Feed} {p : Pipeline} {seen : Snapshot}

/-- The pipeline that is attended to need not be the one in place. -/
theorem Attends.put (h : f.Attends settings p seen) (pipeline : Option Pipeline) :
    Attends settings { f with pipeline } p seen :=
  ⟨h.precedes, h.called, h.last, h.bounded, h.increasing⟩

theorem Attends.write (h : f.Attends settings p seen) {event : StoreEvent}
    {change : Option StoreChange} {store : Store} (hcommit : f.store.commit event = .ok (change, store)) :
    Attends settings { f with store, untold := f.untold ++ change.toList } p seen := by
  obtain ⟨next, happly, rfl⟩ := Store.commit_eq_ok_iff.1 hcommit
  refine ⟨h.precedes.trans (Snapshot.precedes_apply happly), ?_, h.last, h.bounded, h.increasing⟩
  rcases Snapshot.apply_cases happly with ⟨rfl, rfl⟩ | ⟨_, c, -, -, rfl, -⟩
  · simpa using h.called
  · exact .inr (.inr (.inr (by simp)))

/-- A sign in a channel with room calls the renderer, whether the sign is this one or another. -/
theorem Attends.tell (h : f.Attends settings p seen) (change : StoreChange) (rest : List StoreChange)
    {t : Trigger} (ht : f.store.trigger = some t) (hopen : t.closed = false) (hroom : 0 < t.capacity) :
    Attends settings { f with store := f.store.signal change, untold := rest } p seen := by
  refine ⟨h.precedes, .inr (.inr (.inl ?_)), h.last, h.bounded, h.increasing⟩
  have hpending := (Trigger.offer_of_room hopen hroom change).1
  simp [Renderer.isCalled, Store.signal, ht, hpending]

theorem Attends.take (h : f.Attends settings p seen) {sweep : Sweep} {rest : List Sweep}
    (hsweeps : p.sweeps = sweep :: rest) :
    Attends settings { f with taken := f.taken ++ [sweep] } { p with sweeps := rest } seen := by
  have hshown : shown { f with taken := f.taken ++ [sweep] } { p with sweeps := rest } = f.shown p := by
    simp [shown, hsweeps]
  exact ⟨h.precedes, h.called, hshown ▸ h.last, hshown ▸ h.bounded, hshown ▸ h.increasing⟩

theorem Attends.send (h : f.Attends settings p seen) {sweep : Sweep}
    (hout : p.renderer.outgoing = some sweep) :
    Attends settings f
      { p with renderer := { p.renderer with outgoing := none }, sweeps := p.sweeps ++ [sweep] } seen := by
  have hshown : f.shown
      { p with renderer := { p.renderer with outgoing := none }, sweeps := p.sweeps ++ [sweep] } =
        f.shown p := by
    simp [shown, hout]
  exact ⟨h.precedes, h.called, hshown ▸ h.last, hshown ▸ h.bounded, hshown ▸ h.increasing⟩

theorem Attends.wake (h : f.Attends settings p seen) :
    Attends settings { f with store := f.store.drained } { p with renderer := p.renderer.woken } seen :=
  ⟨h.precedes, .inr (.inl rfl), h.last, h.bounded, h.increasing⟩

/-- A look at the store finds what was seen already, or adds a sweep of a later generation. -/
theorem Attends.look (h : f.Attends settings p seen) (hout : p.renderer.outgoing = none) :
    Attends settings f { p with renderer := p.renderer.look settings f.store.snapshot }
      f.store.snapshot := by
  by_cases hsame : p.renderer.rendered = some f.store.snapshot.generation
  · have hlook : p.renderer.look settings f.store.snapshot = { p.renderer with awake := false } := by
      unfold Renderer.look
      rw [if_pos hsame]
    rcases h.last with ⟨hnone, -⟩ | ⟨hrendered, hlast⟩
    · rw [hnone] at hsame
      cases hsame
    · have hseen := h.precedes.eq (Option.some.inj (hsame.symm.trans hrendered)).le
      subst hseen
      rw [hlook]
      exact ⟨.inl rfl, .inl rfl, .inr ⟨hrendered, hlast⟩, h.bounded, h.increasing⟩
  · -- what is rendered now is later than all that was rendered before
    have hshown : f.shown { p with renderer := p.renderer.look settings f.store.snapshot } =
        f.shown p ++ [.ofSnapshot settings f.store.snapshot] := by
      simp [shown, Renderer.look, hsame, hout]
    have hlater : ∀ sweep ∈ f.shown p, sweep.generation < f.store.snapshot.generation := by
      intro sweep hsweep
      rcases h.last with ⟨-, -, hnil⟩ | ⟨hrendered, -⟩
      · rw [hnil] at hsweep
        cases hsweep
      · have hbound := h.bounded sweep hsweep
        rcases h.precedes with he | hlt
        · rw [hrendered, he] at hsame
          exact absurd rfl hsame
        · omega
    refine ⟨.inl rfl, .inl rfl, .inr ⟨?_, ?_⟩, ?_, ?_⟩
    · simp [Renderer.look, hsame]
    · rw [hshown, List.getLast?_concat]
    · rw [hshown]
      intro sweep hsweep
      rcases List.mem_append.1 hsweep with hsweep | hsweep
      · exact (hlater sweep hsweep).le
      · cases List.mem_singleton.1 hsweep
        exact le_rfl
    · rw [hshown, List.map_append, List.pairwise_append]
      refine ⟨h.increasing, List.pairwise_singleton _ _, fun n hn m hm => ?_⟩
      obtain ⟨sweep, hsweep, rfl⟩ := List.mem_map.1 hn
      cases List.mem_singleton.1 hm
      exact hlater sweep hsweep

theorem Attends.start (hsnapshot : Snapshot.Precedes {} f.store.snapshot) (htaken : f.taken = []) :
    Attends settings { f with pipeline := some { renderer := .start f.store } }
      { renderer := .start f.store } {} := by
  have hshown : shown { f with pipeline := some { renderer := .start f.store } }
      { renderer := .start f.store } = [] := by
    simp [shown, Renderer.start, htaken]
  refine ⟨hsnapshot, ?_, .inl ⟨rfl, rfl, hshown⟩, ?_, ?_⟩
  · rcases hsnapshot with he | hlt
    · exact .inl he
    · exact .inr (.inr (.inl (by simp [Renderer.isCalled, Renderer.start, show 0 < _ from hlt])))
  · rw [hshown]
    rintro _ ⟨⟩
  · rw [hshown]
    exact .nil

/-! ## Every run -/

variable (settings) in
/-- What stays true of a store and its renderer. -/
structure Kept (f : Feed) : Prop where
  listens : ∀ t, f.store.trigger = some t → t.closed = false ∧ 0 < t.capacity
  precedes : Snapshot.Precedes {} f.store.snapshot
  idle : f.pipeline = none → f.taken = []
  attends : ∀ p, f.pipeline = some p →
    f.store.trigger.isSome = true ∧ ∃ seen, f.Attends settings p seen

theorem Kept.write (h : f.Kept settings) {event : StoreEvent} {change : Option StoreChange}
    {store : Store} (hcommit : f.store.commit event = .ok (change, store)) :
    Kept settings { f with store, untold := f.untold ++ change.toList } := by
  obtain ⟨next, happly, rfl⟩ := Store.commit_eq_ok_iff.1 hcommit
  refine ⟨h.listens, h.precedes.trans (Snapshot.precedes_apply happly), h.idle, fun p hp => ?_⟩
  obtain ⟨hattached, seen, hseen⟩ := h.attends p hp
  exact ⟨hattached, seen, hseen.write hcommit⟩

theorem Kept.tell (h : f.Kept settings) (change : StoreChange) (rest : List StoreChange) :
    Kept settings { f with store := f.store.signal change, untold := rest } where
  listens t ht := by
    obtain ⟨t', ht', rfl⟩ := Option.map_eq_some_iff.1 ht
    obtain ⟨hopen, hroom⟩ := h.listens t' ht'
    exact (Trigger.offer_of_room hopen hroom change).2
  precedes := h.precedes
  idle := h.idle
  attends p hp := by
    obtain ⟨hattached, seen, hseen⟩ := h.attends p hp
    obtain ⟨t, ht⟩ := Option.isSome_iff_exists.1 hattached
    obtain ⟨hopen, hroom⟩ := h.listens t ht
    exact ⟨by simp [Store.signal, ht], seen, hseen.tell change rest ht hopen hroom⟩

theorem Kept.attach (h : f.Kept settings) (hidle : f.pipeline = none) :
    Kept settings { f with store := f.store.attach Schedule.signs } where
  listens t ht := by
    cases ht
    exact ⟨rfl, Nat.one_pos⟩
  precedes := h.precedes
  idle := h.idle
  attends p hp := by
    rw [hidle] at hp
    cases hp

theorem Kept.start (h : f.Kept settings) (hidle : f.pipeline = none)
    (hattached : f.store.trigger.isSome = true) :
    Kept settings { f with pipeline := some { renderer := .start f.store } } where
  listens := h.listens
  precedes := h.precedes
  idle := by rintro ⟨⟩
  attends p hp := by
    cases hp
    exact ⟨hattached, {}, .start h.precedes (h.idle hidle)⟩

theorem Kept.render (h : f.Kept settings) {operator status} (hp : f.pipeline = some p) :
    Kept settings { f with
      store := (p.stepRenderer (surroundings operator status) settings f.store).2
      pipeline := some (p.stepRenderer (surroundings operator status) settings f.store).1 } := by
  obtain ⟨hattached, seen, hseen⟩ := h.attends p hp
  unfold Pipeline.stepRenderer
  split
  · rename_i sweep hout
    exact ⟨h.listens, h.precedes, by rintro ⟨⟩,
      by rintro _ ⟨⟩; exact ⟨hattached, seen, (hseen.send hout).put _⟩⟩
  · rename_i hout
    split
    · exact ⟨h.listens, h.precedes, by rintro ⟨⟩,
        by rintro _ ⟨⟩; exact ⟨hattached, f.store.snapshot, (hseen.look hout).put _⟩⟩
    · refine ⟨fun t ht => ?_, h.precedes, by rintro ⟨⟩, ?_⟩
      · obtain ⟨t', ht', rfl⟩ := Option.map_eq_some_iff.1 ht
        exact h.listens t' ht'
      · rintro _ ⟨⟩
        exact ⟨by simpa [surroundings, Store.drained] using hattached, seen, hseen.wake.put _⟩

theorem Kept.take (h : f.Kept settings) {sweep : Sweep} {rest : List Sweep} (hp : f.pipeline = some p)
    (hsweeps : p.sweeps = sweep :: rest) :
    Kept settings { f with
      pipeline := some { p with sweeps := rest }, taken := f.taken ++ [sweep] } := by
  obtain ⟨hattached, seen, hseen⟩ := h.attends p hp
  exact ⟨h.listens, h.precedes, by rintro ⟨⟩,
    by rintro _ ⟨⟩; exact ⟨hattached, seen, (hseen.take hsweeps).put _⟩⟩

theorem Kept.act {operator status} (h : f.Kept settings) {f' : Feed} {a : Act}
    (ha : f.after settings operator status a = some f') : f'.Kept settings := by
  cases a with
  | write event =>
    simp only [after] at ha
    split at ha
    · cases ha
    · rename_i change store hcommit
      cases ha
      exact h.write hcommit
  | tell writer =>
    obtain ⟨change, -, rfl⟩ := Option.map_eq_some_iff.1 ha
    exact h.tell change _
  | attach =>
    obtain ⟨hidle, he⟩ := Option.ite_none_right_eq_some.1 ha
    cases he
    exact h.attach (Option.isNone_iff_eq_none.1 hidle)
  | start =>
    obtain ⟨⟨hidle, hattached⟩, he⟩ := Option.ite_none_right_eq_some.1 ha
    cases he
    exact h.start (Option.isNone_iff_eq_none.1 hidle) hattached
  | render =>
    obtain ⟨p, hp, ha⟩ := Option.bind_eq_some_iff.1 ha
    obtain ⟨-, he⟩ := Option.ite_none_right_eq_some.1 ha
    cases he
    exact h.render hp
  | take =>
    obtain ⟨p, hp, ha⟩ := Option.bind_eq_some_iff.1 ha
    split at ha
    · cases ha
    · rename_i sweep rest hsweeps
      cases ha
      exact h.take hp hsweeps

theorem kept_of_reached {operator status} (h : Reached settings operator status f) :
    f.Kept settings := by
  induction h with
  | empty => exact ⟨by rintro _ ⟨⟩, .inl rfl, fun _ => rfl, by rintro _ ⟨⟩⟩
  | act _ ha ih => exact ih.act ha

/-- However writers and the renderer take their turns, sweeps are sent in the order of their
generations, and once the renderer waits and nobody has anything to tell, the last one is the
rendering of the newest snapshot, unless the store has never changed. -/
theorem newest_of_quiet {operator status} (h : Reached settings operator status f) :
    (f.emitted.map (·.generation)).Pairwise (· < ·) ∧
      (f.isQuiet = true → f.store.snapshot.generation = 0 ∨
        ∃ sweep, f.emitted.getLast? = some sweep ∧
          sweep.generation = f.store.snapshot.generation ∧
          sweep = .ofSnapshot settings f.store.snapshot) := by
  have hkept := kept_of_reached h
  rcases hp : f.pipeline with - | p
  · have hnone : f.emitted = [] := by simp [emitted, hp, hkept.idle hp]
    refine ⟨by simp [hnone], fun hquiet => ?_⟩
    simp [isQuiet, hp] at hquiet
  · obtain ⟨-, seen, hseen⟩ := hkept.attends p hp
    have hemitted : f.shown p = f.emitted ++ p.renderer.outgoing.toList := by
      simp [shown, emitted, hp]
    refine ⟨?_, fun hquiet => ?_⟩
    · have hincreasing := hseen.increasing
      rw [hemitted, List.map_append] at hincreasing
      exact (List.pairwise_append.1 hincreasing).1
    · simp only [isQuiet, hp, Option.any_some, Bool.and_eq_true, Bool.not_eq_true',
        Option.isNone_iff_eq_none, List.isEmpty_iff] at hquiet
      obtain ⟨⟨huntold, hsigns⟩, ⟨hout, hawake⟩, hdue⟩ := hquiet
      have hnewest : seen = f.store.snapshot := by
        rcases hseen.called with he | hawake' | hcalled | huntold'
        · exact he
        · exact absurd (hawake.symm.trans hawake') Bool.false_ne_true
        · rcases ht : f.store.trigger with - | t
          · simp [Renderer.isCalled, hdue, ht] at hcalled
          · simp [ht] at hsigns
            simp [Renderer.isCalled, hdue, ht, hsigns] at hcalled
        · exact absurd huntold huntold'
      rw [hout, Option.toList_none, List.append_nil] at hemitted
      rcases hseen.last with ⟨-, hzero, -⟩ | ⟨-, hlast⟩
      · exact .inl (by rw [← hnewest, hzero])
      · rw [hemitted, hnewest] at hlast
        exact .inr ⟨_, hlast, rfl, rfl⟩

/-! ### A burst of changes -/

/-- A class of some name. -/
def classNamed (name : String) : StoreEvent := .upsert (.gatewayClass {
  metadata := { name := some name }
  spec := { controllerName := "turngate.dev/gateway-operator" } })

/-- One class comes before the renderer is started, two while a sweep is on its way. The channel has
no room for the sign of the last one, and the first writer tells of its change late. -/
def burst : List Act :=
  [.write (classNamed "a"), .attach, .start, .render, .render, .write (classNamed "b"),
    .write (classNamed "c"), .tell 1, .tell 1, .render, .take, .render, .render, .render, .tell 0,
    .render, .render]

/-- An operator whose calls come out well and leave the store alone. -/
def calmOperator : Program.Handler OperatorCall OperatorCall.Reply Store := fun call s =>
  (call.answered (.ok ()), s)

/-- An updater whose calls come out well and leave the store alone. -/
def calmUpdater : Program.Handler StatusCall StatusCall.Reply Store
  | .get _, s => (.ok none, s)
  | .patch .., s => (.ok (), s)
  | .now, s => (default, s)

/-- The feed after some acts; those that cannot happen are left out. -/
def afterAll (acts : List Act) : Feed :=
  acts.foldl (fun f a => (f.after {} calmOperator calmUpdater a).getD f) {}

/-- Of three changes two are rendered, and the last sweep is that of the newest snapshot. -/
theorem newest_of_quiet_for_burst :
    ∃ f, Reached {} calmOperator calmUpdater f ∧ f.isQuiet = true ∧
      f.emitted.map (·.generation) = [1, 3] ∧
      f.emitted.getLast? = some (.ofSnapshot {} f.store.snapshot) := by
  have hreached : Reached {} calmOperator calmUpdater (afterAll burst) := by
    refine List.foldlRecOn (motive := Reached {} calmOperator calmUpdater) burst _ .empty
      fun f hf a _ => ?_
    rcases ha : f.after {} calmOperator calmUpdater a with - | f'
    · exact hf
    · exact hf.act ha
  have hquiet : (afterAll burst).isQuiet = true := by decide +kernel
  refine ⟨_, hreached, hquiet, by decide +kernel, ?_⟩
  rcases (newest_of_quiet hreached).2 hquiet with hzero | ⟨sweep, hlast, -, rfl⟩
  · exact absurd hzero (by decide +kernel)
  · exact hlast

end Feed

end RelayFleet
