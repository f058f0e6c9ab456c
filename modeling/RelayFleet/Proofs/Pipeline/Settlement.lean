/-
The finalizer goes last (`finalizer_goes_last`). Before a gateway loses its finalizer, the operator
has torn it down for the sweep that it is at work on, the updater has written the statuses of that
sweep, and the operator has heard in the report that the status of the gateway is settled.
-/
import RelayFleet.Proofs.Operator.Holders
import RelayFleet.Proofs.Pipeline.Awaited

namespace RelayFleet

open Program

variable {settings : Settings}

/-! ## Where the operator stands -/

namespace Pipeline

/-- Where the operator stands after a history: it waits and nobody waits for a report, or it is at
work on the sweep that it took up last. -/
inductive Stands (settings : Settings) (p : Pipeline) (hist : List Deed) : Prop
  | idle (progress : p.operator.round? = none) (quiet : Quiet p.batches p.updater p.report)
  | busy {before : List Deed} {op : Operator} {sweep : Sweep} {h : List Deed}
    {round : RoundProgram Operator} (history : hist = before ++ .takes op sweep :: h)
    (progress : p.operator.round? = some round)
    (work : AtWork settings op sweep h round p.batches p.updater p.report)

/-- Whether all is in order: sweeps are rendered, and the operator stands as it should. -/
structure Orderly (settings : Settings) (p : Pipeline) (hist : List Deed) : Prop where
  sweeps : ∀ sweep ∈ p.sweeps, sweep.Rendered settings
  stands : p.Stands settings hist

variable {σ : Type} {env : Surroundings σ} {p p' : Pipeline} {s : σ} {hist : List Deed}

namespace Orderly

/-- The updater takes a step. -/
theorem serve (ho : p.Orderly settings hist) {d : Deed} (hround : d.round? = none)
    (htakes : ∀ op sweep, d ≠ .takes op sweep) (hsweeps : p'.sweeps = p.sweeps)
    (hoperator : p'.operator = p.operator)
    (hquiet : Quiet p.batches p.updater p.report → Quiet p'.batches p'.updater p'.report)
    (hserves : ∀ statuses h, Serves settings statuses p.batches p.updater p.report h →
      Serves settings statuses p'.batches p'.updater p'.report (h ++ [d])) :
    p'.Orderly settings (hist ++ [d]) := by
  refine ⟨by rw [hsweeps]; exact ho.sweeps, ?_⟩
  cases ho.stands with
  | idle progress quiet => exact .idle (by rw [hoperator, progress]) (hquiet quiet)
  | @busy before op sweep h round history progress work =>
    have hhistory : hist ++ [d] = before ++ .takes op sweep :: (h ++ [d]) := by
      rw [history, List.append_assoc, List.cons_append]
    exact .busy hhistory (by rw [hoperator, progress])
      (work.updater hround htakes hquiet (hserves _))

theorem retry (ho : p.Orderly settings hist) {u : Updater} (hu : p.updater = .waiting u) :
    (p.beginRetry settings u).Orderly settings (hist ++ [.writes u.pending]) := by
  refine ho.serve rfl nofun rfl rfl (fun hq => ?_) fun statuses h hs => ?_
  · exact ⟨hq.batches, UpdaterStage.silent_map _, hq.report⟩
  · rw [hu] at hs
    exact hs.retry

theorem updater (ho : p.Orderly settings hist) :
    (p.stepUpdater env settings s).1.Orderly settings (hist ++ [p.updaterDeed env s]) := by
  unfold stepUpdater
  split
  · -- it takes up what is queued, or tries again what failed
    rename_i u hu
    have hdeed : p.updaterDeed env s =
        .writes (p.batches.getLast?.elim u.pending (·.statuses)) := by
      unfold updaterDeed
      rw [hu]
    rw [hdeed]
    unfold stepIdleUpdater
    split
    · rename_i hnone
      rw [List.isEmpty_iff.1 hnone]
      exact ho.retry hu
    · rename_i hsome
      obtain ⟨b, hlast⟩ : ∃ b, p.batches.getLast? = some b :=
        Option.ne_none_iff_exists'.1 (by simpa using hsome)
      rw [hlast]
      refine ho.serve rfl nofun rfl rfl (fun hq => ?_) fun statuses h hs => ?_
      · rw [hu] at hq
        exact hq.take
      · rw [hu] at hs
        exact hs.take hlast
  · -- it has written everything
    rename_i given u hu
    have hdeed : p.updaterDeed env s = .finishes given := by
      unfold updaterDeed
      rw [hu]
    rw [hdeed]
    refine ho.serve rfl nofun rfl rfl (fun hq => ?_) fun statuses h hs => ?_
    · rw [hu] at hq
      cases hq.silent.done
      exact ⟨hq.batches, trivial, hq.report⟩
    · rw [hu] at hs
      exact hs.done
  · -- it makes a call
    rename_i call next hu
    have hdeed : p.updaterDeed env s = .asks ⟨call, (env.status call s).1⟩ := by
      unfold updaterDeed
      rw [hu]
    rw [hdeed]
    refine ho.serve rfl nofun rfl rfl (fun hq => ?_) fun statuses h hs => ?_
    · rw [hu] at hq
      exact ⟨hq.batches, hq.silent.ask _, hq.report⟩
    · rw [hu] at hs
      exact hs.ask _

/-- The operator goes on with its round, which `d` is a part of. -/
theorem goOn (ho : p.Orderly settings hist) {d : Deed} {round round' : RoundProgram Operator}
    (hp : p.operator = .working round) (hsweeps : p'.sweeps = p.sweeps)
    (hprogress : p'.operator.round? = some round')
    (hwork : ∀ op sweep h, AtWork settings op sweep h round p.batches p.updater p.report →
      AtWork settings op sweep (h ++ [d]) round' p'.batches p'.updater p'.report) :
    p'.Orderly settings (hist ++ [d]) := by
  refine ⟨by rw [hsweeps]; exact ho.sweeps, ?_⟩
  cases ho.stands with
  | idle progress =>
    rw [hp] at progress
    cases progress
  | @busy before op sweep h _ history progress work =>
    rw [hp] at progress
    cases progress
    have hhistory : hist ++ [d] = before ++ .takes op sweep :: (h ++ [d]) := by
      rw [history, List.append_assoc, List.cons_append]
    exact .busy hhistory hprogress (hwork op sweep h work)

theorem round (ho : p.Orderly settings hist) {round : RoundProgram Operator}
    (hp : p.operator = .working round) {room : Nat}
    (hready : p.roundReady { settings with channelCapacity := room } round = true) :
    (p.stepRound env s round).1.Orderly settings (hist ++ (p.operatorDeed? env s).toList) := by
  unfold operatorDeed?
  rw [hp]
  unfold stepRound
  split
  · -- the round has ended
    simp only [Option.toList_none, List.append_nil]
    refine ⟨ho.sweeps, .idle rfl ?_⟩
    cases ho.stands with
    | idle _ quiet => exact quiet
    | busy history progress work =>
      rw [hp] at progress
      cases progress
      exact work.quiet
  · exact ho.goOn hp rfl rfl fun op sweep h hw => hw.call _
  · exact ho.goOn hp rfl rfl fun op sweep h hw => hw.call _
  · exact ho.goOn hp rfl rfl fun op sweep h hw => hw.hand
  · obtain ⟨given, hgiven⟩ := Option.isSome_iff_exists.1 hready
    refine ho.goOn hp rfl rfl fun op sweep h hw => ?_
    rw [hgiven] at hw ⊢
    exact hw.hear

theorem operator (ho : p.Orderly settings hist) {room : Nat}
    (hready : p.operatorReady { settings with channelCapacity := room } = true) :
    (p.stepOperator env settings s).1.Orderly settings (hist ++ (p.operatorDeed? env s).toList) := by
  unfold operatorReady at hready
  unfold stepOperator
  split
  · -- it takes up the newest sweep
    rename_i op hp
    unfold operatorDeed?
    rw [hp]
    dsimp only
    split
    · rename_i sweep hlast
      refine ⟨nofun, ?_⟩
      rw [hlast]
      cases ho.stands with
      | idle _ quiet =>
        exact .busy rfl rfl (.take (ho.sweeps sweep (List.mem_of_getLast? hlast)) quiet)
      | busy _ progress =>
        rw [hp] at progress
        cases progress
    · rename_i hlast
      rw [hlast, Option.map_none, Option.toList_none, List.append_nil]
      exact ho
  · rename_i round hp
    rw [hp] at hready
    exact ho.round hp hready
  · -- the pause is over
    rename_i moment round hp
    unfold operatorDeed?
    rw [hp]
    refine ⟨ho.sweeps, ?_⟩
    cases ho.stands with
    | idle progress =>
      rw [hp] at progress
      cases progress
    | busy history progress work =>
      rw [hp] at progress
      cases progress
      simp only [Option.toList_none, List.append_nil]
      exact .busy history rfl work

theorem stopped (ho : p.Orderly settings hist) (op : Operator) :
    (p.stopped op).Orderly settings hist := by
  refine ⟨ho.sweeps, .idle rfl ⟨fun b hb => ?_, UpdaterStage.silent_unheard _, rfl⟩⟩
  obtain ⟨_, -, rfl⟩ := List.mem_map.1 hb
  rfl

theorem frame (ho : p.Orderly settings hist) (hsweeps : ∀ sweep ∈ p'.sweeps, sweep.Rendered settings)
    (hoperator : p'.operator = p.operator) (hbatches : p'.batches = p.batches)
    (hupdater : p'.updater = p.updater) (hreport : p'.report = p.report) :
    p'.Orderly settings hist := by
  refine ⟨hsweeps, ?_⟩
  cases ho.stands with
  | idle progress quiet =>
    exact .idle (by rw [hoperator, progress]) (by rwa [hbatches, hupdater, hreport])
  | busy history progress work =>
    exact .busy history (by rw [hoperator, progress]) (by rwa [hbatches, hupdater, hreport])

end Orderly

theorem orderly_of_course (h : Course env settings p s hist) : p.Orderly settings hist := by
  induction h with
  | start s => exact ⟨nofun, .idle rfl ⟨nofun, trivial, rfl⟩⟩
  | @sweep p _ _ h sweep hsweep ih =>
    refine ih.frame (fun sweep' hmem => ?_) rfl rfl rfl rfl
    rcases List.mem_append.1 hmem with hmem | hmem
    · exact ih.sweeps sweep' hmem
    · rw [List.mem_singleton.1 hmem]
      exact hsweep
  | change _ _ _ ih => exact ih.frame ih.sweeps rfl rfl rfl rfl
  | operator _ _ hready ih => exact ih.operator hready
  | updater _ _ ih => exact ih.updater
  | retry _ hu ih => exact ih.retry hu
  | stop _ _ op ih => exact ih.stopped op

/-! ## Finalizers -/

/-- Whenever a gateway loses its finalizer, the reconciliation of the sweep that the operator has
taken up last has released it, it is not active in that sweep, and after the statuses of that sweep
were handed over, the updater took them up, wrote them all and nothing else, and came to a report
that the operator has heard, in which the status of the gateway was written, was there already, or
had no object to go to. -/
theorem finalizer_goes_last {before after : List Deed} {gateway : ObjectKey} {finalizer : String}
    {reply : Except Fault Unit} (h : Course env settings p s hist)
    (hremoved : hist =
      before ++ .calls ⟨.write (.removeFinalizer gateway finalizer), reply⟩ :: after) :
    ∃ earlier op sweep h₁ release op' h₂ report h₃,
      before = earlier ++ .takes op sweep ::
        (h₁ ++ .hands (Operator.batch sweep release) :: (h₂ ++ .hears report :: h₃)) ∧
      (∀ op sweep, .takes op sweep ∉ h₁ ++ h₂ ++ h₃) ∧
      Runs (op.reconcile settings sweep) (Deed.operatorLog h₁) (release, op') ∧
      gateway ∈ release ∧
      (∃ r, sweep.gateways.get? gateway = some r ∧ r.state ≠ .active) ∧
      Written settings sweep.statuses report h₂ ∧
      (.gateway gateway ∈ report.patched ∨ .gateway gateway ∈ report.unchanged ∨
        .gateway gateway ∈ report.missing) ∧ .gateway gateway ∉ report.failed := by
  obtain ⟨p, s, next, hcourse, hp⟩ := h.at_call hremoved
  cases (orderly_of_course hcourse).stands with
  | idle progress =>
    rw [hp] at progress
    cases progress
  | @busy earlier op sweep h _ history progress work =>
    rw [hp] at progress
    cases progress
    obtain ⟨h₁, release, op', h₂, report, h₃, rfl, hrun, hmem, hwritten, hsettled⟩ := work.removal
    obtain ⟨r, hr, hidle⟩ := Operator.listed_of_release work.rendered.sound hrun hmem
    refine ⟨earlier, op, sweep, h₁, release, op', h₂, report, h₃, history, fun op sweep hmem => ?_,
      hrun, hmem, ⟨r, hr, hidle⟩, hwritten, ?_, hsettled⟩
    · refine work.latest op sweep ?_
      simp only [List.mem_append, List.mem_cons] at hmem ⊢
      tauto
    · -- the report covers every status of the sweep, and that of the gateway is among them
      obtain ⟨_, _, _, _, -, -, hflush⟩ := hwritten
      obtain ⟨s', rfl⟩ := work.rendered
      obtain ⟨output, -, hrender, -⟩ := Sweep.render_of_get? hr
      have hcovers := Updater.runs_flush_covers hflush (Sweep.get?_statuses_gateway hrender)
      unfold UpdateReport.Covers at hcovers
      tauto

/-! ### A gateway whose class is gone -/

/-- Surroundings that do as they are told. -/
def obliging : Surroundings Unit where
  store _ := {}
  withStore s _ := s
  operator call s := (call.answered (.ok ()), s)
  status
    | .get _, s => (.ok (some { resourceVersion := none, status := none }), s)
    | .patch .., s => (.ok (), s)
    | .now, s => (default, s)

/-- What comes of a pipeline when the operator and the updater take some steps, and the history of
what they do. -/
def walk : List Stage → Pipeline × List Deed → Pipeline × List Deed
  | [], w => w
  | .operator :: rest, (p, hist) =>
    if p.operatorReady {} then
      walk rest ((p.stepOperator obliging {} ()).1, hist ++ (p.operatorDeed? obliging ()).toList)
    else walk rest (p, hist)
  | .updater :: rest, (p, hist) =>
    if p.updaterReady then
      walk rest ((p.stepUpdater obliging {} ()).1, hist ++ [p.updaterDeed obliging ()])
    else walk rest (p, hist)
  | .renderer :: rest, w => walk rest w

theorem Course.walk (h : Course obliging {} p () hist) (stages : List Stage) :
    Course obliging {} (walk stages (p, hist)).1 () (walk stages (p, hist)).2 := by
  induction stages generalizing p hist with
  | nil => exact h
  | cons stage rest ih =>
    cases stage with
    | renderer => exact ih h
    | operator =>
      unfold Pipeline.walk
      split
      · rename_i hready
        exact ih (h.operator _ hready)
      · exact ih h
    | updater =>
      unfold Pipeline.walk
      split
      · rename_i hready
        exact ih (h.updater hready)
      · exact ih h

/-- First the operator has its turn, then the updater, and then the operator again. -/
def turns : List Stage :=
  List.replicate 9 .operator ++ List.replicate 9 .updater ++ List.replicate 9 .operator

/-- The gateway whose finalizer a deed removes, if it does. -/
def removed? : Deed → Option ObjectKey
  | .calls ⟨.write (.removeFinalizer gateway _), _⟩ => some gateway
  | _ => none

theorem exists_removal {hist : List Deed} {gateway : ObjectKey}
    (h : gateway ∈ hist.filterMap removed?) : ∃ before finalizer reply after,
      hist = before ++ .calls ⟨.write (.removeFinalizer gateway finalizer), reply⟩ :: after := by
  obtain ⟨d, hmem, hd⟩ := List.mem_filterMap.1 h
  obtain ⟨before, after, rfl⟩ := List.append_of_mem hmem
  unfold removed? at hd
  split at hd
  · cases hd
    exact ⟨before, _, _, after, rfl⟩
  · cases hd

/-- A gateway without a class is torn down, its status is written, and only then does it lose its
finalizer. -/
theorem finalizer_goes_last_for_gateway :
    ∃ p before finalizer reply after,
      Course obliging {} p ()
        (before ++ .calls ⟨.write (.removeFinalizer (.namespaced "a" "g") finalizer), reply⟩ ::
          after) ∧
      ∃ sweep : Sweep, (∃ r, sweep.gateways.get? (.namespaced "a" "g") = some r ∧
          r.state ≠ .active) ∧
        ∃ report h, Written {} sweep.statuses report h ∧
          .gateway (.namespaced "a" "g") ∉ report.failed := by
  have hstart : Course obliging {} { sweeps := [Operator.sampleSweep [Operator.sampleGateway]] } ()
      [] := (Course.start ()).sweep ⟨_, rfl⟩
  have hcourse := hstart.walk turns
  have hremoved : .namespaced "a" "g" ∈ (walk turns
      ({ sweeps := [Operator.sampleSweep [Operator.sampleGateway]] }, [])).2.filterMap removed? := by
    decide +kernel
  obtain ⟨before, finalizer, reply, after, he⟩ := exists_removal hremoved
  rw [he] at hcourse
  obtain ⟨_, _, sweep, _, _, _, h, report, _, -, -, -, -, hidle, hwritten, -, hsettled⟩ :=
    finalizer_goes_last hcourse rfl
  exact ⟨_, before, finalizer, reply, after, hcourse, sweep, hidle, report, h, hwritten, hsettled⟩

end Pipeline

end RelayFleet
