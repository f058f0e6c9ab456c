/-
The updater among other writers. The API server gives a resource a fresh version with every write and
takes a status only for the version that is current. Others may write between any two calls of the
updater, calls may fail, and the reply to a write may be lost. Still every write that is taken
replaces the status that the resource had just before by the desired one, stamped against it
(`replaces_current`), since a version belongs to one status only.
-/
import RelayFleet.Proofs.Pipeline.Course

namespace RelayFleet

open Program

/-! ## The server -/

/-- The statuses that the API server holds, and all that it ever held. -/
structure StatusServer where
  resources : SortedMap ResourceKey CurrentStatus := ∅
  /-- Every version that a resource was ever in, with its status in it, newest first. -/
  past : List (ResourceKey × CurrentStatus) := []

namespace StatusServer

variable {s s' : StatusServer} {r : ResourceKey} {version : Option String} {status : ResourceStatus}

/-- Whether a resource was never in a version. -/
def Fresh (s : StatusServer) (r : ResourceKey) (version : String) : Prop :=
  ∀ b ∈ s.past, b.1 = r → b.2.resourceVersion ≠ some version

instance (s : StatusServer) (r : ResourceKey) (version : String) : Decidable (s.Fresh r version) :=
  inferInstanceAs (Decidable (∀ b ∈ s.past, b.1 = r → b.2.resourceVersion ≠ some version))

/-- Puts a resource into a version with a status. -/
def put (s : StatusServer) (r : ResourceKey) (version : String) (status : Option ResourceStatus) :
    StatusServer where
  resources := s.resources.insert r ⟨some version, status⟩
  past := (r, ⟨some version, status⟩) :: s.past

/-- A write of somebody else: a resource is created or changed, or deleted. -/
inductive Changes (s : StatusServer) : StatusServer → Prop
  | put {r : ResourceKey} {version : String} (status : Option ResourceStatus)
    (hfresh : s.Fresh r version) : Changes s (s.put r version status)
  | delete (r : ResourceKey) : Changes s { s with resources := s.resources.erase r }

/-- The server takes a status for a version that is current, or for none in particular. -/
def Accepts (s : StatusServer) (r : ResourceKey) (version : Option String) (status : ResourceStatus)
    (s' : StatusServer) : Prop :=
  ∃ current next, s.resources.get? r = some current ∧
    (version = none ∨ version = current.resourceVersion) ∧ s.Fresh r next ∧
    s' = s.put r next (some status)

/-- How the server may answer a call of the updater. A status that is taken may look refused to the
updater. -/
inductive Answers (s : StatusServer) : StatusExchange → StatusServer → Prop
  | read (r : ResourceKey) : Answers s ⟨.get r, .ok (s.resources.get? r)⟩ s
  | unread (r : ResourceKey) (f : Fault) : Answers s ⟨.get r, .error f⟩ s
  | now (time : Timestamp) : Answers s ⟨.now, time⟩ s
  | accept {r : ResourceKey} {version : Option String} {status : ResourceStatus} {s' : StatusServer}
    (ha : s.Accepts r version status s') (reply : Except Fault Unit) :
    Answers s ⟨.patch r version status, reply⟩ s'
  | refuse (r : ResourceKey) (version : Option String) (status : ResourceStatus) (f : Fault) :
    Answers s ⟨.patch r version status, .error f⟩ s

/-- Whether a version of a resource belongs to one status. -/
structure Sound (s : StatusServer) : Prop where
  held : ∀ r c, s.resources.get? r = some c → (r, c) ∈ s.past
  versioned : ∀ r c, (r, c) ∈ s.past → c.resourceVersion ≠ none
  unique : ∀ r c c', (r, c) ∈ s.past → (r, c') ∈ s.past →
    c.resourceVersion = c'.resourceVersion → c = c'

theorem Sound.put (h : s.Sound) {next : String} (hfresh : s.Fresh r next)
    (status : Option ResourceStatus) : (s.put r next status).Sound where
  held r' c hget := by
    rcases SortedMap.get?_insert_cases hget with ⟨rfl, rfl⟩ | ⟨-, hold⟩
    · exact List.mem_cons_self ..
    · exact List.mem_cons_of_mem _ (h.held r' c hold)
  versioned r' c hmem := by
    rcases List.mem_cons.1 hmem with he | hmem
    · cases he
      exact Option.some_ne_none _
    · exact h.versioned r' c hmem
  unique r' c c' hmem hmem' hversion := by
    rcases List.mem_cons.1 hmem with he | hmem <;> rcases List.mem_cons.1 hmem' with he' | hmem'
    · cases he
      cases he'
      rfl
    · cases he
      exact absurd hversion.symm (hfresh _ hmem' rfl)
    · cases he'
      exact absurd hversion (hfresh _ hmem rfl)
    · exact h.unique r' c c' hmem hmem' hversion

theorem Sound.changes (h : s.Sound) (hs : s.Changes s') : s'.Sound ∧ ∀ b ∈ s.past, b ∈ s'.past := by
  cases hs with
  | put status hfresh => exact ⟨h.put hfresh status, fun _ => List.mem_cons_of_mem _⟩
  | delete r =>
    exact ⟨⟨fun r' c hget => h.held r' c (SortedMap.get?_of_get?_erase hget).2, h.versioned,
      h.unique⟩, fun _ hb => hb⟩

theorem Sound.answers (h : s.Sound) {e : StatusExchange} (hs : s.Answers e s') :
    s'.Sound ∧ (∀ b ∈ s.past, b ∈ s'.past) ∧
      ∀ r c, e = ⟨.get r, .ok (some c)⟩ → (r, c) ∈ s'.past := by
  cases hs with
  | read r =>
    refine ⟨h, fun _ hb => hb, fun r' c he => ?_⟩
    generalize hget : s.resources.get? r = answer at he
    cases he
    exact h.held r c hget
  | unread r f => exact ⟨h, fun _ hb => hb, by rintro _ _ ⟨⟩⟩
  | now time => exact ⟨h, fun _ hb => hb, by rintro _ _ ⟨⟩⟩
  | accept ha reply =>
    obtain ⟨current, next, -, -, hfresh, rfl⟩ := ha
    exact ⟨h.put hfresh _, fun _ => List.mem_cons_of_mem _, by rintro _ _ ⟨⟩⟩
  | refuse r version status f => exact ⟨h, fun _ hb => hb, by rintro _ _ ⟨⟩⟩

end StatusServer

/-! ## What the updater asks -/

variable {settings : Settings} {r : ResourceKey} {version : Option String}
  {desired status : ResourceStatus} {log : List StatusExchange}

/-- An attempt writes the desired status, stamped against the one it has read just before, and for
the version it was read in. -/
theorem StatusProgram.asks_attempt {controller : String} {r' : ResourceKey}
    (h : Asks (attempt controller r desired) log (.patch r' version status)) :
    r' = r ∧ ∃ current now, log = [⟨.get r, .ok (some current)⟩, ⟨.now, now⟩] ∧
      version = current.resourceVersion ∧ status = desired.stamped current.status controller now := by
  rcases asks_bind_iff.1 h with hread | ⟨answer, l₁, l₂, rfl, hget, hrest⟩
  · cases (asks_call_iff.1 hread).2
  · cases runs_call_iff.1 hget
    rcases answer with f | _ | current
    · exact absurd hrest (not_asks_pure _)
    · exact absurd hrest (not_asks_pure _)
    · rcases asks_bind_iff.1 hrest with htime | ⟨now, l₃, l₄, rfl, hnow, hwrite⟩
      · cases (asks_call_iff.1 htime).2
      · cases runs_call_iff.1 hnow
        dsimp only at hwrite
        split at hwrite
        · exact absurd hwrite (not_asks_pure _)
        · rcases asks_bind_iff.1 hwrite with hpatch | ⟨written, l₅, l₆, -, -, hend⟩
          · obtain ⟨rfl, he⟩ := asks_call_iff.1 hpatch
            cases he
            exact ⟨rfl, current, now, rfl, rfl, rfl⟩
          · exact absurd hend (not_asks_pure _)

theorem StatusProgram.asks_write {r' : ResourceKey}
    (h : Asks (write settings r desired) log (.patch r' version status)) :
    r' = r ∧ ∃ before current now, log = before ++ [⟨.get r, .ok (some current)⟩, ⟨.now, now⟩] ∧
      version = current.resourceVersion ∧
      status = desired.stamped current.status settings.controllerName now := by
  obtain ⟨before, last, rfl, h | ⟨n, h⟩⟩ := Retry.asks_repeating (asks_map_iff.1 h)
  · obtain ⟨rfl, current, now, rfl, hversion, hstatus⟩ := asks_attempt h
    exact ⟨rfl, before, current, now, rfl, hversion, hstatus⟩
  · exact absurd h (not_asks_pure _)

/-- A flush writes statuses that were to be written, each as an attempt does. -/
theorem Updater.asks_flush {u : Updater} (h : Asks (u.flush settings) log (.patch r version status)) :
    ∃ desired before current now, u.pending.get? r = some desired ∧
      log = before ++ [⟨.get r, .ok (some current)⟩, ⟨.now, now⟩] ∧
      version = current.resourceVersion ∧
      status = desired.stamped current.status settings.controllerName now := by
  obtain ⟨earlier, b, later, state, l₁, l₂, hpending, rfl, -, h⟩ := asks_foldlM h
  rcases asks_bind_iff.1 h with hwrite | ⟨outcome, l₃, l₄, -, -, hend⟩
  · obtain ⟨rfl, before, current, now, rfl, hversion, hstatus⟩ := StatusProgram.asks_write hwrite
    have hmem : b ∈ u.pending.toList := by simp [hpending]
    exact ⟨b.2, l₁ ++ before, current, now, SortedMap.get?_eq_some_iff.2 hmem,
      (List.append_assoc ..).symm, hversion, hstatus⟩
  · exact absurd hend (not_asks_pure _)

/-! ## The updater among others -/

/-- A pipeline's updater and the server, after the updater has done all this. Batches may come at any
time, and so may writes of others. -/
inductive Contended (settings : Settings) : Pipeline → StatusServer → List Deed → Prop
  | start : Contended settings {} {} []
  | hand {p : Pipeline} {s : StatusServer} {hist : List Deed} (h : Contended settings p s hist)
    (b : StatusBatch) : Contended settings { p with batches := p.batches ++ [b] } s hist
  | change {p : Pipeline} {s s' : StatusServer} {hist : List Deed} (h : Contended settings p s hist)
    (hs : s.Changes s') : Contended settings p s' hist
  | updater {p : Pipeline} {s : StatusServer} {hist : List Deed} (h : Contended settings p s hist)
    {env : Surroundings StatusServer}
    (henv : ∀ call, s.Answers ⟨call, (env.status call s).1⟩ (env.status call s).2) :
    Contended settings (p.stepUpdater env settings s).1 (p.stepUpdater env settings s).2
      (hist ++ [p.updaterDeed env s])
  | retry {p : Pipeline} {s : StatusServer} {hist : List Deed} {u : Updater}
    (h : Contended settings p s hist) (hu : p.updater = .waiting u) :
    Contended settings (p.beginRetry settings u) s (hist ++ [.writes u.pending])

/-- How far the updater is: since it began to write some statuses it has done nothing but ask. -/
def UpdaterStage.Pursues (settings : Settings) (hist : List Deed) (stage : UpdaterStage) : Prop :=
  ∀ task, stage = .writing task → ∃ before statuses log,
    hist = before ++ .writes statuses :: log.map .asks ∧
      ∃ wrap : UpdateReport × Updater → Option UpdateReport × Updater,
        Reaches (wrap <$> Updater.flush settings ⟨statuses⟩) log task

/-- What is known of the updater among others. -/
structure Informed (settings : Settings) (p : Pipeline) (s : StatusServer) (hist : List Deed) :
    Prop where
  sound : s.Sound
  /-- Whatever the updater has read, the server held. -/
  read : ∀ r c, .asks ⟨.get r, .ok (some c)⟩ ∈ hist → (r, c) ∈ s.past
  pursues : p.updater.Pursues settings hist

variable {p : Pipeline} {s s' : StatusServer} {hist : List Deed}

theorem UpdaterStage.pursues_flush {wrap : UpdateReport × Updater → Option UpdateReport × Updater}
    {statuses : SortedMap ResourceKey ResourceStatus} :
    UpdaterStage.Pursues settings (hist ++ [.writes statuses])
      (.writing (wrap <$> Updater.flush settings ⟨statuses⟩)) := by
  rintro _ ⟨⟩
  exact ⟨hist, statuses, [], rfl, wrap, .here _⟩

theorem Informed.begin (h : Informed settings p s hist) (statuses : SortedMap ResourceKey ResourceStatus)
    {q : Pipeline} (hpursues : q.updater.Pursues settings (hist ++ [.writes statuses])) :
    Informed settings q s (hist ++ [.writes statuses]) where
  sound := h.sound
  read r c hmem := by
    rcases List.mem_append.1 hmem with hmem | hmem
    · exact h.read r c hmem
    · cases List.mem_singleton.1 hmem
  pursues := hpursues

theorem Informed.step (h : Informed settings p s hist) {env : Surroundings StatusServer}
    (henv : ∀ call, s.Answers ⟨call, (env.status call s).1⟩ (env.status call s).2) :
    Informed settings (p.stepUpdater env settings s).1 (p.stepUpdater env settings s).2
      (hist ++ [p.updaterDeed env s]) := by
  unfold Pipeline.stepUpdater Pipeline.updaterDeed
  rcases hu : p.updater with u | ⟨report, u⟩ | ⟨call, next⟩
  · dsimp only
    unfold Pipeline.stepIdleUpdater
    split
    · rename_i hempty
      rw [List.isEmpty_iff.1 hempty]
      exact h.begin (q := p.beginRetry settings u) u.pending UpdaterStage.pursues_flush
    · rename_i hne
      obtain ⟨b, hlast⟩ := Option.ne_none_iff_exists'.1 fun hnone =>
        hne (List.isEmpty_iff.2 (List.getLast?_eq_none_iff.1 hnone))
      rw [hlast]
      refine h.begin (q := p.beginBatch settings u) b.statuses ?_
      unfold Pipeline.beginBatch
      rw [Updater.receive_eq settings u hlast]
      dsimp only
      rw [Functor.map_map]
      exact UpdaterStage.pursues_flush
  · refine ⟨h.sound, fun r c hmem => ?_, by rintro _ ⟨⟩⟩
    rcases List.mem_append.1 hmem with hmem | hmem
    · exact h.read r c hmem
    · cases List.mem_singleton.1 hmem
  · obtain ⟨hsound, hpast, hread⟩ := h.sound.answers (henv call)
    refine ⟨hsound, fun r c hmem => ?_, ?_⟩
    · rcases List.mem_append.1 hmem with hmem | hmem
      · exact hpast _ (h.read r c hmem)
      · exact hread r c (Deed.asks.inj (List.mem_singleton.1 hmem)).symm
    · rintro _ ⟨⟩
      obtain ⟨before, statuses, log, rfl, wrap, hreaches⟩ := h.pursues _ hu
      exact ⟨before, statuses, log ++ [⟨call, (env.status call s).1⟩], by simp, wrap,
        hreaches.snoc _⟩

theorem informed_of_contended (h : Contended settings p s hist) : Informed settings p s hist := by
  induction h with
  | start => exact ⟨⟨by rintro _ _ ⟨⟩, by rintro _ _ ⟨⟩, by rintro _ _ _ ⟨⟩⟩, by rintro _ _ ⟨⟩,
      by rintro _ ⟨⟩⟩
  | hand _ b ih => exact ⟨ih.sound, ih.read, ih.pursues⟩
  | change _ hs ih =>
    obtain ⟨hsound, hpast⟩ := ih.sound.changes hs
    exact ⟨hsound, fun r c hmem => hpast _ (ih.read r c hmem), ih.pursues⟩
  | updater _ henv ih => exact ih.step henv
  | @retry p _ _ u _ hu ih =>
    exact ih.begin (q := p.beginRetry settings u) u.pending UpdaterStage.pursues_flush

/-! ## Routes -/

namespace ResourceStatus

/-- The entries for parents that the status of a route has. -/
def parents : Option ResourceStatus → List RouteParentStatus
  | some (udpRoute s) => s.parents
  | _ => []

/-- An entry for a parent with its transition times, against the entries that a route has. -/
def stampedParent (previous : List RouteParentStatus) (controller : String) (now : Timestamp)
    (p : RouteParentStatus) : RouteParentStatus :=
  { p with
    conditions := Condition.stamp (parentConditions previous controller p.parentRef) now
      p.conditions }

variable (d : RouteStatus) (previous : Option ResourceStatus) (controller : String) (now : Timestamp)

theorem parents_stampedRoute : (stampedRoute d previous controller now).parents =
    (parents previous).filter (·.controllerName ≠ controller) ++
      d.parents.map (stampedParent (parents previous) controller now) := by
  rcases previous with _ | _ | _ | _ <;> rfl

theorem ours_stampedRoute :
    (stampedRoute d previous controller now).parents.filter (·.controllerName = controller) =
      (d.parents.filter (·.controllerName = controller)).map
        (stampedParent (parents previous) controller now) := by
  rw [parents_stampedRoute, List.filter_append, List.filter_filter, List.filter_map,
    List.filter_eq_nil_iff.2 (by simp), List.nil_append]
  rfl

end ResourceStatus

/-! ## Every status that is taken -/

/-- Whatever others write meanwhile, a status that the server takes from the updater is the one that
was to be written, stamped against the status that the resource had until then: what the updater has
read just before is current still. On a route, the entries of other controllers stay as they are and
in their order, and the entries of this one are those that were desired. -/
theorem replaces_current (h : Contended settings p s hist)
    {next : (StatusCall.patch r version status).Reply → StatusProgram (Option UpdateReport × Updater)}
    (hask : p.updater = .writing (.ask (.patch r version status) next))
    (ha : s.Accepts r version status s') :
    ∃ current desired now before statuses log,
      hist = before ++ .writes statuses ::
        (log ++ [⟨.get r, .ok (some current)⟩, ⟨.now, now⟩]).map .asks ∧
      statuses.get? r = some desired ∧ s.resources.get? r = some current ∧
      status = desired.stamped current.status settings.controllerName now ∧
      (s'.resources.get? r).map (·.status) = some (some status) ∧
      (∀ r', r' ≠ r → s'.resources.get? r' = s.resources.get? r') ∧
      ∀ d, desired = .udpRoute d → ∃ after, status = .udpRoute after ∧
        (ResourceStatus.parents current.status).filter
          (·.controllerName ≠ settings.controllerName) <+: after.parents ∧
        after.parents.filter (·.controllerName = settings.controllerName) =
          (d.parents.filter (·.controllerName = settings.controllerName)).map
            (ResourceStatus.stampedParent (ResourceStatus.parents current.status)
              settings.controllerName now) := by
  obtain ⟨hsound, hread, hpursues⟩ := informed_of_contended h
  obtain ⟨before, statuses, log, rfl, wrap, hreaches⟩ := hpursues _ hask
  obtain ⟨desired, log, current, now, hdesired, rfl, rfl, rfl⟩ :=
    Updater.asks_flush (asks_map_iff.1 ⟨next, hreaches⟩)
  obtain ⟨held, fresh, hheld, hversion, -, rfl⟩ := ha
  have hpast : (r, current) ∈ s.past := hread r current (by simp)
  -- the version that was presented is that of the status which was read, and nobody wrote since
  have hcurrent : current = held :=
    hsound.unique r _ _ hpast (hsound.held r _ hheld)
      (hversion.resolve_left (hsound.versioned r current hpast))
  subst hcurrent
  refine ⟨current, desired, now, before, statuses, log, rfl, hdesired, hheld, rfl, ?_, ?_, ?_⟩
  · show ((s.resources.insert r _).get? r).map _ = _
    rw [SortedMap.get?_insert_self]
    rfl
  · exact fun r' hne => SortedMap.get?_insert_of_ne _ _ hne
  · rintro d rfl
    refine ⟨_, rfl, ?_, ResourceStatus.ours_stampedRoute _ _ _ _⟩
    rw [ResourceStatus.parents_stampedRoute]
    exact List.prefix_append _ _

/-! ### A route that another controller writes to meanwhile -/

namespace StatusServer

/-- A version that is longer than any before. -/
def unused (s : StatusServer) : String :=
  String.ofList (List.replicate
    ((s.past.map fun b => (b.2.resourceVersion.getD "").length).sum + 1) 'v')

theorem fresh_unused (s : StatusServer) (r : ResourceKey) : s.Fresh r s.unused := by
  intro b hb _ he
  have hle : (b.2.resourceVersion.getD "").length ≤
      (s.past.map fun b => (b.2.resourceVersion.getD "").length).sum :=
    List.le_sum_of_mem (List.mem_map_of_mem hb)
  rw [he] at hle
  simp [unused] at hle

/-- A server that answers whatever it can. -/
def answer : Program.Handler StatusCall StatusCall.Reply StatusServer
  | .get r, s => (.ok (s.resources.get? r), s)
  | .now, s => (default, s)
  | .patch r version status, s =>
    if (s.resources.get? r).any (version = ·.resourceVersion) then
      (.ok (), s.put r s.unused (some status))
    else (.error (.conflict r.text "stale"), s)

theorem answers_answer (s : StatusServer) (call : StatusCall) :
    s.Answers ⟨call, (answer call s).1⟩ (answer call s).2 := by
  cases call with
  | get r => exact .read r
  | now => exact .now default
  | patch r version status =>
    by_cases hany : (s.resources.get? r).any (version = ·.resourceVersion) = true
    · rw [show answer (.patch r version status) s = (.ok (), s.put r s.unused (some status)) from
        if_pos hany]
      rcases hget : s.resources.get? r with - | current <;> rw [hget] at hany
      · cases hany
      · exact .accept ⟨current, s.unused, hget, .inr (by simpa using hany), s.fresh_unused r, rfl⟩ _
    · rw [show answer (.patch r version status) s = (.error (.conflict r.text "stale"), s) from
        if_neg hany]
      exact .refuse r version status _

/-- The surroundings of an updater on a server alone. -/
def surroundings : Surroundings StatusServer where
  store _ := {}
  withStore s _ := s
  operator call s := (call.answered (.ok ()), s)
  status := answer

end StatusServer

namespace Contended

/-- What happens in a run with that server. -/
inductive Bout where
  | hand (b : StatusBatch)
  | change (r : ResourceKey) (version : String) (status : ResourceStatus)
  | step

/-- What a bout makes of an updater, the server and what was done. -/
def bout (settings : Settings) (c : Pipeline × StatusServer × List Deed) :
    Bout → Pipeline × StatusServer × List Deed
  | .hand b => ({ c.1 with batches := c.1.batches ++ [b] }, c.2)
  | .change r version status =>
    (c.1, if c.2.1.Fresh r version then c.2.1.put r version (some status) else c.2.1, c.2.2)
  | .step =>
    let (p, s) := c.1.stepUpdater StatusServer.surroundings settings c.2.1
    (p, s, c.2.2 ++ [c.1.updaterDeed StatusServer.surroundings c.2.1])

/-- What some bouts lead to. -/
def bouts (settings : Settings) (l : List Bout) : Pipeline × StatusServer × List Deed :=
  l.foldl (bout settings) ({}, {}, [])

theorem of_bouts (l : List Bout) : Contended settings (bouts settings l).1 (bouts settings l).2.1
    (bouts settings l).2.2 := by
  refine List.foldlRecOn
    (motive := fun c : Pipeline × StatusServer × List Deed => Contended settings c.1 c.2.1 c.2.2)
    l _ .start fun c h b _ => ?_
  cases b with
  | hand b => exact h.hand b
  | change r version status =>
    unfold bout
    dsimp only
    split
    · rename_i hfresh
      exact h.change (.put (some status) hfresh)
    · exact h
  | step =>
    have hanswers : ∀ call, c.2.1.Answers ⟨call, (StatusServer.surroundings.status call c.2.1).1⟩
        (StatusServer.surroundings.status call c.2.1).2 := c.2.1.answers_answer
    exact h.updater hanswers

/-- The status that an updater is about to write, and for which version of which resource. -/
def patch? : UpdaterStage → Option (ResourceKey × Option String × ResourceStatus)
  | .writing (.ask (.patch r version status) _) => some (r, version, status)
  | _ => none

theorem of_patch? {stage : UpdaterStage} (h : patch? stage = some (r, version, status)) :
    ∃ next, stage = .writing (.ask (.patch r version status) next) := by
  unfold patch? at h
  split at h
  · cases h
    exact ⟨_, rfl⟩
  · cases h

/-- An entry of a controller. -/
def entry (controller : String) : RouteParentStatus := ⟨{ name := "g" }, controller, []⟩

/-- A status with entries of these controllers. -/
def entries (controllers : List String) : ResourceStatus := .udpRoute ⟨controllers.map entry⟩

/-- Another controller writes to a route between the updater's look at it and its write. -/
def crossing (r : ResourceKey) : List Bout :=
  [.change r "1" (entries ["other"]),
    .hand { statuses := .ofList [(r, entries ["turngate.dev/gateway-operator"])] },
    .step, .step, .step, .change r "2" (entries ["other", "another"]), .step, .step, .step]

/-- The first write is refused, and the second one leaves the entries of the others as they are. -/
theorem replaces_current_for_crossing :
    ∃ p s s' hist version status, Contended {} p s hist ∧
      patch? p.updater = some (.udpRoute (.namespaced "a" "r"), version, status) ∧
      s.Accepts (.udpRoute (.namespaced "a" "r")) version status s' ∧ version = some "2" ∧
      ∃ after, status = .udpRoute after ∧ [entry "other", entry "another"] <+: after.parents := by
  let r : ResourceKey := .udpRoute (.namespaced "a" "r")
  have hpatch : patch? (bouts {} (crossing r)).1.updater = some (r, some "2",
      entries ["other", "another", "turngate.dev/gateway-operator"]) := by decide +kernel
  have hheld : (bouts {} (crossing r)).2.1.resources.get? r =
      some ⟨some "2", some (entries ["other", "another"])⟩ := by decide +kernel
  have haccepts : (bouts {} (crossing r)).2.1.Accepts r (some "2")
      (entries ["other", "another", "turngate.dev/gateway-operator"]) _ :=
    ⟨_, _, hheld, .inr rfl, StatusServer.fresh_unused _ r, rfl⟩
  obtain ⟨next, hask⟩ := of_patch? hpatch
  obtain ⟨current, desired, now, -, statuses, -, -, -, hcurrent, hstatus, -, -, hroute⟩ :=
    replaces_current (of_bouts (crossing r)) hask haccepts
  cases hheld.symm.trans hcurrent
  rcases desired with _ | _ | d
  · cases hstatus
  · cases hstatus
  · obtain ⟨after, hafter, hothers, -⟩ := hroute d rfl
    exact ⟨_, _, _, _, _, _, of_bouts (crossing r), hpatch, haccepts, rfl, after, hafter, hothers⟩

end Contended

end RelayFleet
