/-
Whether a gateway carries the finalizer when something is about to be created for it. Nobody but the
operator gives the finalizer or takes it. Then a gateway that something is about to be created for
carries it, unless the sweep that the operator is at work on shows it with the finalizer, and that
was gone when the sweep was taken up (`finalizer_at_creation`). This can be: a sweep that was
rendered before a finalizer was removed may be taken up afterwards, and it is believed
(`creation_without_finalizer`).
-/
import RelayFleet.Proofs.Operator.Round
import RelayFleet.Proofs.Pipeline.Course
import RelayFleet.Proofs.Pipeline.World
import RelayFleet.Proofs.Rehearsal.Finalizers

namespace RelayFleet

open Program

/-! ## What the operator is at -/

/-- What the operator took up last, and what was exchanged since. -/
structure Taking where
  /-- What it remembered then. -/
  op : Operator := {}
  sweep : Sweep := {}
  /-- The snapshot of the cluster then. -/
  snapshot : Snapshot := {}
  log : List RoundExchange := []

/-- Whether a gateway that a sweep shows with the finalizer carried it when the sweep was taken
up. -/
def Taking.Timely (t : Taking) (settings : Settings) (r : GatewayRender) : Prop :=
  r.hasFinalizer = true → t.snapshot.hasFinalizer r.gateway settings.finalizer = true

/-- The write that the operator is about to make. -/
def OperatorStage.write? : OperatorStage → Option ClusterWrite
  | working (.ask (.operator (.write w)) _) => some w
  | _ => none

theorem OperatorStage.working_of_write? {stage : OperatorStage} {w : ClusterWrite}
    (h : stage.write? = some w) :
    ∃ next, stage = .working (.ask (.operator (.write w)) next) := by
  unfold write? at h
  split at h
  · cases h
    exact ⟨_, rfl⟩
  · cases h

namespace World

/-- Whether a move leaves it as it is who carries a finalizer, unless a stage makes it. -/
def Spares (finalizer : String) (w : World) : Move → Prop
  | .event e => ∀ k, (w.afterEvent e).scene.snapshot.hasFinalizer k finalizer =
      w.scene.snapshot.hasFinalizer k finalizer
  | _ => True

/-- What the operator is at after a move. -/
def taking (w : World) (t : Taking) : Move → Taking
  | .stage .operator _ =>
    match w.pipeline.operatorDeed? Scene.surroundings w.scene with
    | some (.takes op sweep) => { op, sweep, snapshot := w.scene.snapshot }
    | some d => { t with log := t.log ++ d.round?.toList }
    | none => t
  | _ => t

/-- The worlds that a pipeline may come to, with what the operator is at. Nobody else gives the
finalizer or takes it. -/
inductive Observed (settings : Settings) : World → Taking → Prop
  | start {c : Cluster} {due : Bool} (hc : c.store.Reachable) : Observed settings (start c due) {}
  | move {w w' : World} {t : Taking} {m : Move} (h : Observed settings w t)
    (hm : w.Spares settings.finalizer m) (hmove : w.move settings m = some w') :
    Observed settings w' (w.taking t m)

end World

/-! ## One round -/

open RoundExchange OperatorExchange

/-- Where the round stands that the operator is at work on, when the cluster has come to a
snapshot. -/
structure Taking.Stands (settings : Settings) (t : Taking) (s : Snapshot)
    (round : RoundProgram Operator) : Prop where
  sound : t.sweep.Sound
  reaches : Reaches (t.op.round settings t.sweep) t.log round
  /-- As long as the round has taken no finalizer, gateways carry those that were there and those
  that it gave. -/
  finalizers : (∀ e ∈ calls t.log, e.Keeps t.sweep) → ∀ k,
    s.hasFinalizer k settings.finalizer = (t.snapshot.hasFinalizer k settings.finalizer ||
      given k settings.finalizer (calls t.log))

namespace Taking.Stands

variable {settings : Settings} {t : Taking} {s s' : Snapshot} {round : RoundProgram Operator}

theorem frame (h : t.Stands settings s round) (hsame : ∀ k,
    s'.hasFinalizer k settings.finalizer = s.hasFinalizer k settings.finalizer) :
    t.Stands settings s' round :=
  ⟨h.sound, h.reaches, fun hkeeps k => (hsame k).trans (h.finalizers hkeeps k)⟩

theorem take (op : Operator) {sweep : Sweep} (hs : sweep.Sound) (s : Snapshot) :
    Stands settings { op, sweep, snapshot := s } s (op.round settings sweep) :=
  ⟨hs, .here _, fun _ _ => (Bool.or_false _).symm⟩

theorem call {call : OperatorCall} {next : call.Reply → RoundProgram Operator} {reply : call.Reply}
    (h : t.Stands settings s (.ask (.operator call) next))
    (hcall : (∀ key finalizer, call ≠ .write (.removeFinalizer key finalizer)) → ∀ k,
      s'.hasFinalizer k settings.finalizer = (s.hasFinalizer k settings.finalizer ||
        gives k settings.finalizer ⟨call, reply⟩)) :
    Stands settings { t with log := t.log ++ [ofOperator ⟨call, reply⟩] } s' (next reply) := by
  refine ⟨h.sound, h.reaches.snoc reply, fun hkeeps k => ?_⟩
  have hcalls : calls (t.log ++ [ofOperator ⟨call, reply⟩]) = calls t.log ++ [⟨call, reply⟩] :=
    calls_append ..
  rw [hcalls] at hkeeps ⊢
  obtain ⟨hbefore, hlast⟩ := List.forall_mem_append.1 hkeeps
  -- a call that keeps to the sweep takes no finalizer
  have hremoves : ∀ key finalizer, call ≠ .write (.removeFinalizer key finalizer) := by
    rintro key finalizer rfl
    exact hlast _ (List.mem_singleton.2 rfl)
  rw [hcall hremoves k, h.finalizers hbefore k, given_append, Bool.or_assoc]
  simp [given]

theorem go {call : RoundCall} {next : call.Reply → RoundProgram Operator} {reply : call.Reply}
    (h : t.Stands settings s (.ask call next)) (hcall : operator? ⟨call, reply⟩ = none) :
    Stands settings { t with log := t.log ++ [⟨call, reply⟩] } s (next reply) := by
  have hcalls : calls (t.log ++ [⟨call, reply⟩]) = calls t.log := by
    rw [calls_append]
    simp [calls, hcall]
  refine ⟨h.sound, h.reaches.snoc reply, ?_⟩
  rw [hcalls]
  exact h.finalizers

/-- Before a write of the reconciliation, gateways carry the finalizers that were there and those
that the reconciliation gave. -/
theorem at_write {w : ClusterWrite} {next : Except Fault Unit → RoundProgram Operator}
    (h : t.Stands settings s (.ask (.operator (.write w)) next))
    (hw : ∀ key finalizer, w ≠ .removeFinalizer key finalizer) :
    Asks (t.op.reconcile settings t.sweep) (calls t.log) (.write w) ∧ ∀ k,
      s.hasFinalizer k settings.finalizer = (t.snapshot.hasFinalizer k settings.finalizer ||
        given k settings.finalizer (calls t.log)) := by
  rcases Operator.asks_round ⟨next, h.reaches⟩ with ⟨l, hlog, hask⟩ | ⟨key, finalizer, rfl⟩
  · have hcalls : calls t.log = l := by rw [hlog, calls_map_ofOperator]
    subst hcalls
    exact ⟨hask, h.finalizers (hask.forall (OperatorCall.answered (.ok ()))
      (fun _ _ hrun => Operator.keeps_reconcile h.sound hrun) (.ok ())).1⟩
  · exact absurd rfl (hw key finalizer)

/-- A gateway that was rendered with the finalizer or else has been given it carries it, unless it
was rendered with it and had lost it when the sweep was taken up. -/
theorem timely_iff {k : ObjectKey} {r : GatewayRender} (hk : r.gateway = k)
    (hholds : s.hasFinalizer k settings.finalizer =
      (t.snapshot.hasFinalizer k settings.finalizer || given k settings.finalizer (calls t.log)))
    (hr : r.hasFinalizer = ! given k settings.finalizer (calls t.log)) :
    s.hasFinalizer k settings.finalizer = true ↔ t.Timely settings r := by
  subst hk
  rw [hholds, Timely, hr]
  cases given r.gateway settings.finalizer (calls t.log) <;> simp

end Taking.Stands

/-! ## One move -/

namespace World

variable {settings : Settings} {w w' : World} {t : Taking}

/-- Whether all is in order: the objects are indexed, the sweeps are as they are rendered, and the
operator stands where it should. -/
structure Minds (settings : Settings) (w : World) (t : Taking) : Prop where
  indexed : w.scene.snapshot.Indexed
  outgoing : ∀ sweep, w.pipeline.renderer.outgoing = some sweep → sweep.Sound
  sweeps : ∀ sweep ∈ w.pipeline.sweeps, sweep.Sound
  stands : ∀ round, w.pipeline.operator.round? = some round → t.Stands settings w.scene.snapshot round

/-- What happens around the operator. -/
theorem Minds.frame (h : w.Minds settings t) (hindexed : w'.scene.snapshot.Indexed)
    (hsame : ∀ k, w'.scene.snapshot.hasFinalizer k settings.finalizer =
      w.scene.snapshot.hasFinalizer k settings.finalizer)
    (houtgoing : ∀ sweep, w'.pipeline.renderer.outgoing = some sweep → sweep.Sound)
    (hsweeps : ∀ sweep ∈ w'.pipeline.sweeps, sweep.Sound)
    (hoperator : w'.pipeline.operator = w.pipeline.operator) : w'.Minds settings t :=
  ⟨hindexed, houtgoing, hsweeps, fun round hround =>
    (h.stands round (hoperator ▸ hround)).frame hsame⟩

theorem minds_renderer (h : w.Minds settings t) :
    Minds settings ⟨(w.pipeline.stepRenderer Scene.surroundings settings w.scene).1,
      (w.pipeline.stepRenderer Scene.surroundings settings w.scene).2⟩ t := by
  unfold Pipeline.stepRenderer
  split
  · rename_i sweep hsweep
    refine h.frame h.indexed (fun _ => rfl) nofun (fun sweep' hmem => ?_) rfl
    rcases List.mem_append.1 hmem with hmem | hmem
    · exact h.sweeps sweep' hmem
    · rw [List.mem_singleton.1 hmem]
      exact h.outgoing sweep hsweep
  · split
    · refine h.frame h.indexed (fun _ => rfl) (fun sweep hsweep => ?_) h.sweeps rfl
      unfold Renderer.look at hsweep
      split at hsweep
      · exact h.outgoing sweep hsweep
      · cases hsweep
        exact Sweep.sound_ofSnapshot settings _
    · exact h.frame h.indexed (fun _ => rfl) h.outgoing h.sweeps rfl

theorem minds_updater (h : w.Minds settings t) :
    Minds settings ⟨(w.pipeline.stepUpdater Scene.surroundings settings w.scene).1,
      (w.pipeline.stepUpdater Scene.surroundings settings w.scene).2⟩ t := by
  unfold Pipeline.stepUpdater
  split
  · unfold Pipeline.stepIdleUpdater
    split <;> exact h.frame h.indexed (fun _ => rfl) h.outgoing h.sweeps rfl
  · exact h.frame h.indexed (fun _ => rfl) h.outgoing h.sweeps rfl
  · exact h.frame (Cluster.indexed_answerStatus h.indexed _)
      (fun k => Cluster.hasFinalizer_answerStatus h.indexed _ k _) h.outgoing h.sweeps rfl

/-- The operator goes on with its round, which an exchange is a part of. -/
theorem Minds.goOn (h : w.Minds settings t) {round round' : RoundProgram Operator}
    (hop : w.pipeline.operator = .working round) {e : RoundExchange} {p : Pipeline} {sc : Scene}
    (hindexed : sc.snapshot.Indexed) (hrenderer : p.renderer = w.pipeline.renderer)
    (hsweeps : p.sweeps = w.pipeline.sweeps) (hround : p.operator.round? = some round')
    (hstands : t.Stands settings w.scene.snapshot round →
      Taking.Stands settings { t with log := t.log ++ [e] } sc.snapshot round') :
    Minds settings ⟨p, sc⟩ { t with log := t.log ++ [e] } := by
  refine ⟨hindexed, by rw [hrenderer]; exact h.outgoing, by rw [hsweeps]; exact h.sweeps, ?_⟩
  intro round'' hround''
  cases hround.symm.trans hround''
  exact hstands (h.stands round (by rw [hop]; rfl))

theorem minds_round (h : w.Minds settings t) {round : RoundProgram Operator}
    (hop : w.pipeline.operator = .working round) (room : Nat) :
    Minds settings ⟨(w.pipeline.stepRound Scene.surroundings w.scene round).1,
      (w.pipeline.stepRound Scene.surroundings w.scene round).2⟩
      (w.taking t (.stage .operator room)) := by
  unfold taking Pipeline.operatorDeed?
  rw [hop]
  cases round with
  | done op => exact ⟨h.indexed, h.outgoing, h.sweeps, nofun⟩
  | ask call next =>
    cases call with
    | operator call =>
      cases call with
      | pause n =>
        exact h.goOn hop h.indexed rfl rfl rfl fun hs => hs.call fun _ _ => (Bool.or_false _).symm
      | _ =>
        exact h.goOn hop (Cluster.indexed_answer h.indexed _) rfl rfl rfl fun hs =>
          hs.call fun hcall k => Cluster.hasFinalizer_answer h.indexed hcall k _
    | hand b => exact h.goOn hop h.indexed rfl rfl rfl fun hs => hs.go rfl
    | report => exact h.goOn hop h.indexed rfl rfl rfl fun hs => hs.go rfl

theorem minds_operator (h : w.Minds settings t) (room : Nat) :
    Minds settings ⟨(w.pipeline.stepOperator Scene.surroundings settings w.scene).1,
      (w.pipeline.stepOperator Scene.surroundings settings w.scene).2⟩
      (w.taking t (.stage .operator room)) := by
  unfold Pipeline.stepOperator
  split
  · rename_i op hop
    unfold taking Pipeline.operatorDeed?
    rw [hop]
    split
    · -- a sweep is taken up, and the older ones are dropped
      rename_i sweep hlast
      rw [hlast]
      refine ⟨h.indexed, h.outgoing, nofun, ?_⟩
      rintro _ ⟨⟩
      exact .take op (h.sweeps sweep (List.mem_of_getLast? hlast)) _
    · rename_i hlast
      rw [hlast]
      exact h
  · rename_i round hop
    exact minds_round h hop room
  · -- the pause is over
    rename_i moment round hop
    unfold taking Pipeline.operatorDeed?
    rw [hop]
    refine ⟨h.indexed, h.outgoing, h.sweeps, ?_⟩
    rintro _ ⟨⟩
    exact h.stands round (by rw [hop]; rfl)

/-! ## Every observed world -/

theorem minds_move {m : Move} (h : w.Minds settings t) (hm : w.Spares settings.finalizer m)
    (hmove : w.move settings m = some w') : w'.Minds settings (w.taking t m) := by
  cases m with
  | event e =>
    cases hmove
    exact h.frame (Store.indexed_apply h.indexed) hm h.outgoing h.sweeps rfl
  | tell change =>
    obtain ⟨-, he⟩ := Option.ite_none_right_eq_some.1 hmove
    cases he
    exact h.frame h.indexed (fun _ => rfl) h.outgoing h.sweeps rfl
  | stage stage room =>
    obtain ⟨-, he⟩ := Option.ite_none_right_eq_some.1 hmove
    cases he
    cases stage with
    | renderer => exact minds_renderer h
    | operator => exact minds_operator h room
    | updater => exact minds_updater h
  | retry =>
    simp only [move, afterRetry] at hmove
    split at hmove
    · obtain ⟨-, he⟩ := Option.ite_none_left_eq_some.1 hmove
      cases he
      exact h.frame h.indexed (fun _ => rfl) h.outgoing h.sweeps rfl
    · cases hmove
  | elapse now clock =>
    cases hmove
    exact h.frame h.indexed (fun _ => rfl) h.outgoing h.sweeps rfl
  | visit o =>
    obtain ⟨-, he⟩ := Option.ite_none_right_eq_some.1 hmove
    cases he
    exact h.frame h.indexed (fun _ => rfl) h.outgoing h.sweeps rfl

theorem minds_of_observed (h : Observed settings w t) : w.Minds settings t := by
  induction h with
  | start hc => exact ⟨hc.indexed, nofun, nofun, nofun⟩
  | move _ hm hmove ih => exact minds_move ih hm hmove

/-! ## What is about to be created -/

/-- When the workload of a gateway is about to be applied, the gateway is active in the sweep that
the operator is at work on, and it carries the finalizer unless the sweep shows it with the
finalizer and that was gone when the sweep was taken up. When an artifact is about to be applied,
the same goes for each gateway whose contribution comes from this sweep; any other contribution was
there before, and its gateway was passed over. -/
theorem finalizer_at_creation (h : Observed settings w t) :
    (∀ workload, w.pipeline.operator.write? = some (.applyWorkload workload) →
      ∃ r, t.sweep.gateways.get? workload.gateway = some r ∧ r.state = .active ∧
        r.workload = some workload ∧
        (w.scene.snapshot.hasFinalizer workload.gateway settings.finalizer = true ↔
          t.Timely settings r)) ∧
    ∀ a, w.pipeline.operator.write? = some (.applyArtifact a) →
      ∃ mid : Operator, mid.desired.get? a.key = some a ∧
        ∀ k tracked, mid.gateways.get? k = some tracked → tracked.contribution ≠ none →
          (∃ r, t.sweep.gateways.get? k = some r ∧ r.state = .active ∧
            tracked.target = r.target ∧ tracked.contribution = r.config ∧
            (w.scene.snapshot.hasFinalizer k settings.finalizer = true ↔ t.Timely settings r)) ∨
          t.op.gateways.get? k = some tracked ∧ ∀ r, t.sweep.gateways.get? k = some r →
            r.hasFinalizer = false ∧ given k settings.finalizer (calls t.log) = false := by
  have hminds := minds_of_observed h
  refine ⟨fun workload hw => ?_, fun a hw => ?_⟩
  · obtain ⟨next, hop⟩ := OperatorStage.working_of_write? hw
    have hstands := hminds.stands _ (by rw [hop]; rfl)
    obtain ⟨hask, hholds⟩ := hstands.at_write nofun
    obtain ⟨r, hr, hactive, hworkload, hgiven⟩ := Operator.asks_applyWorkload hstands.sound hask
    exact ⟨r, hr, hactive, hworkload,
      Taking.Stands.timely_iff (hstands.sound _ r hr).1 (hholds _) hgiven⟩
  · obtain ⟨next, hop⟩ := OperatorStage.working_of_write? hw
    have hstands := hminds.stands _ (by rw [hop]; rfl)
    obtain ⟨hask, hholds⟩ := hstands.at_write nofun
    obtain ⟨mid, hmid, hdraws⟩ := Operator.asks_applyArtifact hstands.sound hask
    refine ⟨mid, hmid, fun k tracked htracked hcontribution => ?_⟩
    rcases hdraws k tracked htracked hcontribution with
      ⟨r, hr, hactive, htarget, hconfig, hgiven⟩ | hpassed
    · exact .inl ⟨r, hr, hactive, htarget, hconfig,
        Taking.Stands.timely_iff (hstands.sound _ r hr).1 (hholds k) hgiven⟩
    · exact .inr hpassed

/-! ### A class that comes back -/

/-- The world after a move, with what the operator is at then; a move that cannot be made is left
out. -/
def observe (settings : Settings) (p : World × Taking) (m : Move) : World × Taking :=
  ((p.1.move settings m).map (·, p.1.taking p.2 m)).getD p

/-- Whether a move tells of no gateway: an event tells of one object of another kind. -/
def isElsewhere : Move → Bool
  | .event e => e.resource?.any (·.kind ≠ .gateway)
  | _ => true

theorem spares_of_elsewhere {m : Move} (h : isElsewhere m = true) (finalizer : String) (w : World) :
    w.Spares finalizer m := by
  cases m with
  | event e =>
    intro k
    rcases hr : e.resource? with - | r <;> simp only [isElsewhere, hr] at h
    · cases h
    · have hne : ResourceKey.gateway k ≠ r := by
        rintro rfl
        simp [ResourceKey.gateway] at h
      obtain ⟨-, hget, -⟩ := Store.apply_of_single w.scene.cluster.store hr
      rw [Snapshot.hasFinalizer_eq, Snapshot.hasFinalizer_eq]
      exact congrArg _ ((hget _).trans (if_neg hne))
  | _ => trivial

theorem Observed.after {settings : Settings} {p : World × Taking} (h : Observed settings p.1 p.2)
    {ms : List Move} (hms : ∀ m ∈ ms, isElsewhere m = true) :
    Observed settings (ms.foldl (observe settings) p).1 (ms.foldl (observe settings) p).2 := by
  refine List.foldlRecOn (motive := fun p : World × Taking => Observed settings p.1 p.2) ms _ h
    fun p hp m hm => ?_
  unfold observe
  rcases hmove : p.1.move settings m with - | w'
  · exact hp
  · exact .move hp (spares_of_elsewhere (hms m hm) _ _) hmove

/-- A pipeline that is started on a cluster with these objects, after some moves. -/
def sampleRun (objects : List Object) (ms : List Move) : World × Taking :=
  ms.foldl (observe {}) (start { store := .ofObjects objects, clock := default } true, {})

theorem observed_sampleRun (objects : List Object) {ms : List Move}
    (hms : ∀ m ∈ ms, isElsewhere m = true) :
    Observed {} (sampleRun objects ms).1 (sampleRun objects ms).2 :=
  Observed.after (.start (Store.reachable_ofObjects objects)) hms

/-- The settings object of a class, a relay template, and a gateway with these finalizers. -/
def sampleBasis (finalizers : List String) : List Object :=
  [Operator.sampleConfig "t",
    .dataplane { metadata := { name := some "default" }, spec := { image := "relay" } },
    .gateway {
      metadata := { name := some "g", inNamespace := some "a", finalizers := some finalizers }
      spec := {
        gatewayClassName := "c"
        listeners := [{ name := "l", port := 1, protocol := "TURN-UDP" }] } }]

/-- A stage takes some steps. -/
def steps (stage : Stage) (n : Nat) : List Move := List.replicate n (.stage stage 9)

/-- A gateway without the finalizer is given it before its workload is applied, and then its
artifact. -/
theorem finalizer_at_creation_for_new_gateway :
    ∃ w t w' t' workload a, Observed {} w t ∧
      t.snapshot.hasFinalizer workload.gateway ({} : Settings).finalizer = false ∧
      w.pipeline.operator.write? = some (.applyWorkload workload) ∧
      w.scene.snapshot.hasFinalizer workload.gateway ({} : Settings).finalizer = true ∧
      Observed {} w' t' ∧ w'.pipeline.operator.write? = some (.applyArtifact a) ∧
      a.config.listeners.map (·.name) = ["a/g/l"] ∧
      w'.scene.snapshot.hasFinalizer (.namespaced "a" "g") ({} : Settings).finalizer = true := by
  let objects := sampleBasis [] ++ [Operator.sampleClass]
  let run := sampleRun objects (steps .renderer 3 ++ steps .operator 2)
  let next := sampleRun objects (steps .renderer 3 ++ steps .operator 3)
  let workload := (run.2.sweep.workloads.get? (.namespaced "a" "g")).getD default
  let a := (next.2.sweep.artifacts.get? (.namespaced "a" "t")).getD default
  have hrun : Observed {} run.1 run.2 := observed_sampleRun _ (by decide)
  have hnext : Observed {} next.1 next.2 := observed_sampleRun _ (by decide)
  have hw : run.1.pipeline.operator.write? = some (.applyWorkload workload) := by decide +kernel
  have ha : next.1.pipeline.operator.write? = some (.applyArtifact a) := by decide +kernel
  -- the only gateway was rendered without the finalizer, and nothing was remembered before
  have hlacks : ∀ r ∈ run.2.sweep.gateways.values, r.hasFinalizer = false := by decide +kernel
  have hlacks' : ∀ b ∈ next.2.sweep.gateways.toList,
      b.1 = .namespaced "a" "g" ∧ b.2.hasFinalizer = false := by decide +kernel
  have hempty : next.2.op.gateways.toList = [] := by decide +kernel
  refine ⟨run.1, run.2, next.1, next.2, workload, a, hrun, by decide +kernel, hw, ?_, hnext, ha,
    by decide +kernel, ?_⟩
  · obtain ⟨r, hr, -, -, hiff⟩ := (finalizer_at_creation hrun).1 workload hw
    refine hiff.2 fun hholds => ?_
    rw [hlacks r (SortedMap.mem_values_iff.2 ⟨_, hr⟩)] at hholds
    cases hholds
  · obtain ⟨mid, hmid, hdraws⟩ := (finalizer_at_creation hnext).2 a ha
    obtain ⟨k, tracked, htracked, -, hcontribution⟩ := Operator.contribution_of_desired hmid
    rcases hdraws k tracked htracked hcontribution with ⟨r, hr, -, -, -, hiff⟩ | ⟨hbefore, -⟩
    · obtain ⟨hk, hr'⟩ := hlacks' _ (SortedMap.get?_eq_some_iff.1 hr)
      subst hk
      refine hiff.2 fun hholds => ?_
      rw [hr'] at hholds
      cases hholds
    · have hmem := SortedMap.get?_eq_some_iff.1 hbefore
      rw [hempty] at hmem
      cases hmem

/-- A class is missing, so its gateway is torn down, and it comes before the gateway has lost the
finalizer: what is rendered then is taken up afterwards, and the workload and the artifact are
applied though the gateway does not carry the finalizer any more. -/
theorem creation_without_finalizer :
    ∃ w t w' t' workload a, Observed {} w t ∧
      w.pipeline.operator.write? = some (.applyWorkload workload) ∧
      w.scene.snapshot.hasFinalizer workload.gateway ({} : Settings).finalizer = false ∧
      Observed {} w' t' ∧ w'.pipeline.operator.write? = some (.applyArtifact a) ∧
      a.config.listeners.map (·.name) = ["a/g/l"] ∧
      w'.scene.snapshot.hasFinalizer (.namespaced "a" "g") ({} : Settings).finalizer = false := by
  let moves := steps .renderer 3 ++ steps .operator 6 ++
    [.event (.upsert Operator.sampleClass), .tell ⟨0, .gatewayClass "c"⟩] ++ steps .renderer 3 ++
    steps .updater 5 ++ steps .operator 4
  let run := sampleRun (sampleBasis [({} : Settings).finalizer]) moves
  let next := sampleRun (sampleBasis [({} : Settings).finalizer]) (moves ++ steps .operator 1)
  have hrun : Observed {} run.1 run.2 := observed_sampleRun _ (by decide)
  have hnext : Observed {} next.1 next.2 := observed_sampleRun _ (by decide)
  exact ⟨run.1, run.2, next.1, next.2,
    (run.2.sweep.workloads.get? (.namespaced "a" "g")).getD default,
    (next.2.sweep.artifacts.get? (.namespaced "a" "t")).getD default, hrun, by decide +kernel,
    by decide +kernel, hnext, by decide +kernel, by decide +kernel, by decide +kernel⟩

end World

end RelayFleet
