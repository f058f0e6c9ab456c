/-
Reports that the operator waits for. It hands over one batch in a round, and goes on only after the
report on it, so of all batches that are queued no other is awaited, and the report is on the
statuses of the sweep that the operator is at work on (`AtWork`), however batches were queued up,
whatever the updater tries again meanwhile, and whatever calls fail.
-/
import RelayFleet.Proofs.Pipeline.Course

namespace RelayFleet

open Program

/-! ## Awaited reports -/

/-- Whether some statuses were written: the updater began to write them and wrote nothing else until
it came to this report. -/
def Written (settings : Settings) (statuses : SortedMap ResourceKey ResourceStatus)
    (report : UpdateReport) (h : List Deed) : Prop :=
  ∃ h₁ h₂ h₃ u, h = h₁ ++ .writes statuses :: (h₂ ++ .finishes (some report) :: h₃) ∧
    (∀ others, .writes others ∉ h₂) ∧
    Runs (Updater.flush settings ⟨statuses⟩) (Deed.statusLog h₂) (report, u)

/-- Whether the updater will give no report for what it is at. -/
def UpdaterStage.Silent : UpdaterStage → Prop
  | waiting _ => True
  | writing task => ∀ log result, Runs task log result → result.1 = none

/-- Whether nobody waits for a report. -/
structure Quiet (batches : List StatusBatch) (stage : UpdaterStage) (report : Option UpdateReport) :
    Prop where
  batches : ∀ b ∈ batches, b.awaited = false
  silent : stage.Silent
  report : report = none

/-- How far the updater is with statuses that were handed over, since which `h` has happened, when
somebody waits for the report. -/
inductive Serves (settings : Settings) (statuses : SortedMap ResourceKey ResourceStatus) :
    List StatusBatch → UpdaterStage → Option UpdateReport → List Deed → Prop
  | queued {rest : List StatusBatch} {b : StatusBatch} {stage : UpdaterStage} {h : List Deed}
    (hrest : ∀ b ∈ rest, b.awaited = false) (hb : b.statuses = statuses) (hawaited : b.awaited = true)
    (silent : stage.Silent) : Serves settings statuses (rest ++ [b]) stage none h
  | writing {task : StatusProgram (Option UpdateReport × Updater)} {h₁ h₂ : List Deed}
    (hothers : ∀ others, .writes others ∉ h₂)
    (hruns : ∀ log result, Runs task log result → ∃ report, result.1 = some report ∧
      Runs (Updater.flush settings ⟨statuses⟩) (Deed.statusLog h₂ ++ log) (report, result.2)) :
    Serves settings statuses [] (.writing task) none (h₁ ++ .writes statuses :: h₂)
  | reported {stage : UpdaterStage} {report : UpdateReport} {h : List Deed} (silent : stage.Silent)
    (written : Written settings statuses report h) :
    Serves settings statuses [] stage (some report) h

variable {settings : Settings} {statuses : SortedMap ResourceKey ResourceStatus}
  {batches : List StatusBatch} {stage : UpdaterStage} {report : Option UpdateReport}
  {h : List Deed}

theorem Written.later {report : UpdateReport} (hw : Written settings statuses report h)
    (l : List Deed) : Written settings statuses report (h ++ l) := by
  obtain ⟨h₁, h₂, h₃, u, rfl, hothers, hruns⟩ := hw
  exact ⟨h₁, h₂, h₃ ++ l, u, by simp, hothers, hruns⟩

namespace UpdaterStage

variable {task : StatusProgram (Option UpdateReport × Updater)}

theorem Silent.ask {call : StatusCall}
    {next : call.Reply → StatusProgram (Option UpdateReport × Updater)}
    (hs : (writing (.ask call next)).Silent) (reply : call.Reply) :
    (writing (next reply)).Silent := fun _ result hrun => hs _ result (.ask hrun)

theorem Silent.done {result : Option UpdateReport × Updater}
    (hs : (writing (.done result)).Silent) : result.1 = none := hs _ _ (runs_done _)

theorem silent_map (p : StatusProgram (UpdateReport × Updater)) :
    (writing ((fun (_, u) => (none, u)) <$> p)).Silent := by
  intro log result hrun
  obtain ⟨_, -, rfl⟩ := runs_map_iff.1 hrun
  rfl

theorem silent_unheard (stage : UpdaterStage) : stage.unheard.Silent := by
  cases stage with
  | waiting u => trivial
  | writing task =>
    intro log result hrun
    obtain ⟨_, -, rfl⟩ := runs_map_iff.1 hrun
    rfl

end UpdaterStage

namespace Quiet

theorem take {u : Updater} (hq : Quiet batches (.waiting u) report) :
    Quiet [] (.writing ((fun (report, u) => (report.filter fun _ => batches.any (·.awaited), u)) <$>
      u.receive settings batches)) report := by
  have hnobody : batches.any (·.awaited) = false := by simpa using hq.batches
  refine ⟨nofun, fun log result hrun => ?_, hq.report⟩
  obtain ⟨⟨given, _⟩, -, rfl⟩ := runs_map_iff.1 hrun
  rw [hnobody]
  cases given <;> rfl

end Quiet

namespace Serves

/-- What is not the updater's deed makes no difference. -/
theorem pass (hs : Serves settings statuses batches stage report h) {d : Deed}
    (hstatus : d.status? = none) (hwrites : ∀ others, d ≠ .writes others) :
    Serves settings statuses batches stage report (h ++ [d]) := by
  cases hs with
  | queued hrest hb hawaited silent => exact .queued hrest hb hawaited silent
  | @writing _ h₁ h₂ hothers hruns =>
    rw [List.append_assoc, List.cons_append]
    refine .writing (fun others hmem => ?_) fun log result hrun => ?_
    · rcases List.mem_append.1 hmem with hmem | hmem
      · exact hothers others hmem
      · exact hwrites others (List.mem_singleton.1 hmem).symm
    · have hlog : Deed.statusLog (h₂ ++ [d]) = Deed.statusLog h₂ := by
        simp [Deed.statusLog, hstatus]
      rw [hlog]
      exact hruns log result hrun
  | reported silent written => exact .reported silent (written.later _)

theorem ask {call : StatusCall} {next : call.Reply → StatusProgram (Option UpdateReport × Updater)}
    (hs : Serves settings statuses batches (.writing (.ask call next)) report h)
    (reply : call.Reply) :
    Serves settings statuses batches (.writing (next reply)) report
      (h ++ [.asks ⟨call, reply⟩]) := by
  cases hs with
  | queued hrest hb hawaited silent => exact .queued hrest hb hawaited (silent.ask reply)
  | @writing _ h₁ h₂ hothers hruns =>
    rw [List.append_assoc, List.cons_append]
    refine .writing (fun others hmem => ?_) fun log result hrun => ?_
    · rcases List.mem_append.1 hmem with hmem | hmem
      · exact hothers others hmem
      · cases List.mem_singleton.1 hmem
    · have hlog : Deed.statusLog (h₂ ++ [.asks ⟨call, reply⟩]) ++ log =
          Deed.statusLog h₂ ++ ⟨call, reply⟩ :: log := by
        simp [Deed.statusLog, Deed.status?]
      rw [hlog]
      exact hruns _ result (.ask hrun)
  | reported silent written => exact .reported (silent.ask reply) (written.later _)

theorem done {given : Option UpdateReport} {u : Updater}
    (hs : Serves settings statuses batches (.writing (.done (given, u))) report h) :
    Serves settings statuses batches (.waiting u) (given.or report) (h ++ [.finishes given]) := by
  cases hs with
  | queued hrest hb hawaited silent =>
    cases silent.done
    exact .queued hrest hb hawaited trivial
  | @writing _ h₁ h₂ hothers hruns =>
    obtain ⟨report, hgiven, hrun⟩ := hruns [] _ (runs_done _)
    cases hgiven
    rw [List.append_nil] at hrun
    exact .reported trivial ⟨h₁, h₂, [], u, by simp, hothers, hrun⟩
  | reported silent written =>
    cases silent.done
    exact .reported trivial (written.later _)

theorem retry {u : Updater} (hs : Serves settings statuses batches (.waiting u) report h) :
    Serves settings statuses batches
      (.writing ((fun (_, u) => (none, u)) <$> u.flush settings)) report
      (h ++ [.writes u.pending]) := by
  cases hs with
  | queued hrest hb hawaited _ =>
    exact .queued hrest hb hawaited (UpdaterStage.silent_map _)
  | reported _ written => exact .reported (UpdaterStage.silent_map _) (written.later _)

/-- The updater takes up what is queued. -/
theorem take {u : Updater} {b : StatusBatch}
    (hs : Serves settings statuses batches (.waiting u) report h)
    (hlast : batches.getLast? = some b) :
    Serves settings statuses []
      (.writing ((fun (report, u) => (report.filter fun _ => batches.any (·.awaited), u)) <$>
        u.receive settings batches)) report (h ++ [.writes b.statuses]) := by
  rw [Updater.receive_eq settings u hlast]
  cases hs with
  | @queued rest _ _ _ _ hb hawaited =>
    -- the awaited batch is the newest, so its statuses are those that the others give way to
    rw [List.getLast?_concat] at hlast
    cases hlast
    subst hb
    have hsomebody : (rest ++ [b]).any (·.awaited) = true := by simp [hawaited]
    refine .writing nofun fun log result hrun => ?_
    obtain ⟨_, hreceive, rfl⟩ := runs_map_iff.1 hrun
    obtain ⟨⟨given, u'⟩, hflush, rfl⟩ := runs_map_iff.1 hreceive
    rw [hsomebody]
    exact ⟨given, rfl, hflush⟩
  | reported =>
    -- nothing is queued
    cases hlast

end Serves

/-! ## The operator at work -/

/-- What has come of a sweep that the operator took up as `op`, after the deeds `h`. It has done what
its round asks for, a batch that it handed over is served unless nobody waits for the report, and a
report that it has heard is on the statuses of that sweep, written after they were handed over. -/
structure AtWork (settings : Settings) (op : Operator) (sweep : Sweep) (h : List Deed)
    (round : RoundProgram Operator) (batches : List StatusBatch) (stage : UpdaterStage)
    (report : Option UpdateReport) : Prop where
  rendered : sweep.Rendered settings
  latest : ∀ op sweep, .takes op sweep ∉ h
  reaches : Reaches (op.round settings sweep) (Deed.roundLog h) round
  serves : Quiet batches stage report ∨ ∃ h₁ b h₂, h = h₁ ++ .hands b :: h₂ ∧ b.awaited = true ∧
    (∀ report, .hears report ∉ h) ∧ Serves settings sweep.statuses batches stage report h₂
  heard : ∀ report, .hears report ∈ h → ∃ h₁ b h₂ h₃,
    h = h₁ ++ .hands b :: (h₂ ++ .hears report :: h₃) ∧ Written settings sweep.statuses report h₂

namespace AtWork

variable {op op' : Operator} {sweep : Sweep} {round : RoundProgram Operator}
  {batches' : List StatusBatch} {stage' : UpdaterStage} {report' : Option UpdateReport}

theorem take (hsweep : sweep.Rendered settings) (hq : Quiet batches stage report) :
    AtWork settings op sweep [] (op.round settings sweep) batches stage report :=
  ⟨hsweep, nofun, .here _, .inl hq, nofun⟩

/-- The updater takes a step. -/
theorem updater (hw : AtWork settings op sweep h round batches stage report) {d : Deed}
    (hround : d.round? = none) (htakes : ∀ op sweep, d ≠ .takes op sweep)
    (hquiet : Quiet batches stage report → Quiet batches' stage' report')
    (hserves : ∀ h, Serves settings sweep.statuses batches stage report h →
      Serves settings sweep.statuses batches' stage' report' (h ++ [d])) :
    AtWork settings op sweep (h ++ [d]) round batches' stage' report' := by
  have hlog : Deed.roundLog (h ++ [d]) = Deed.roundLog h := by simp [Deed.roundLog, hround]
  have hhears : ∀ report, .hears report ∈ h ++ [d] → .hears report ∈ h := by
    intro report hmem
    rwa [← Deed.hears_mem_roundLog_iff, hlog, Deed.hears_mem_roundLog_iff] at hmem
  refine ⟨hw.rendered, fun op sweep hmem => ?_, by rw [hlog]; exact hw.reaches, ?_,
    fun report hmem => ?_⟩
  · rcases List.mem_append.1 hmem with hmem | hmem
    · exact hw.latest op sweep hmem
    · exact htakes op sweep (List.mem_singleton.1 hmem).symm
  · rcases hw.serves with hq | ⟨h₁, b, h₂, rfl, hawaited, hunheard, hserve⟩
    · exact .inl (hquiet hq)
    · exact .inr ⟨h₁, b, h₂ ++ [d], by simp, hawaited,
        fun report hmem => hunheard report (hhears report hmem), hserves _ hserve⟩
  · obtain ⟨h₁, b, h₂, h₃, rfl, hwritten⟩ := hw.heard report (hhears report hmem)
    exact ⟨h₁, b, h₂, h₃ ++ [d], by simp, hwritten⟩

theorem not_takes_concat {d : Deed} (h₁ : ∀ op sweep, .takes op sweep ∉ h)
    (h₂ : d.round? ≠ none) : ∀ op sweep, .takes op sweep ∉ h ++ [d] := by
  intro op sweep hmem
  rcases List.mem_append.1 hmem with hmem | hmem
  · exact h₁ op sweep hmem
  · rw [← List.mem_singleton.1 hmem] at h₂
    exact h₂ rfl

/-- The operator makes a call. -/
theorem call {call : OperatorCall} {next : call.Reply → RoundProgram Operator}
    (hw : AtWork settings op sweep h (.ask (.operator call) next) batches stage report)
    (reply : call.Reply) :
    AtWork settings op sweep (h ++ [.calls ⟨call, reply⟩]) (next reply) batches stage report := by
  have hhears : ∀ report, .hears report ∈ h ++ [.calls ⟨call, reply⟩] → .hears report ∈ h := by
    intro report hmem
    simpa using hmem
  refine ⟨hw.rendered, not_takes_concat hw.latest nofun, ?_, ?_, fun report hmem => ?_⟩
  · rw [Deed.roundLog_append]
    exact hw.reaches.snoc reply
  · refine hw.serves.imp_right ?_
    rintro ⟨h₁, b, h₂, rfl, hawaited, hunheard, hserve⟩
    exact ⟨h₁, b, h₂ ++ [.calls ⟨call, reply⟩], by simp, hawaited,
      fun report hmem => hunheard report (hhears report hmem), hserve.pass rfl nofun⟩
  · obtain ⟨h₁, b, h₂, h₃, rfl, hwritten⟩ := hw.heard report (hhears report hmem)
    exact ⟨h₁, b, h₂, h₃ ++ [.calls ⟨call, reply⟩], by simp, hwritten⟩

/-- The operator hands a batch over. -/
theorem hand {b : StatusBatch} {next : Unit → RoundProgram Operator}
    (hw : AtWork settings op sweep h (.ask (.hand b) next) batches stage report) :
    AtWork settings op sweep (h ++ [.hands b]) (next ()) (batches ++ [b]) stage report := by
  obtain ⟨l, release, op', hlog, -, rfl⟩ := (Operator.phase_of_reaches hw.reaches).hand
  -- nothing was handed over or heard before
  have hfresh : ∀ e ∈ Deed.roundLog h, ∃ e', RoundExchange.ofOperator e' = e := by
    intro e he
    rw [hlog] at he
    obtain ⟨e', -, he'⟩ := List.mem_map.1 he
    exact ⟨e', he'⟩
  have hunhanded : ∀ b, .hands b ∉ h := by
    intro b hmem
    obtain ⟨e, he⟩ := hfresh _ (Deed.hands_mem_roundLog_iff.2 hmem)
    cases he
  have hunheard : ∀ report, .hears report ∉ h ++ [.hands (Operator.batch sweep release)] := by
    intro report hmem
    obtain ⟨e, he⟩ := hfresh ⟨.report, report⟩ (Deed.hears_mem_roundLog_iff.2 (by simpa using hmem))
    cases he
  have hq : Quiet batches stage report := by
    refine hw.serves.resolve_right ?_
    rintro ⟨h₁, b, h₂, rfl, -⟩
    exact hunhanded b (by simp)
  refine ⟨hw.rendered, not_takes_concat hw.latest nofun, ?_, ?_,
    fun report hmem => absurd hmem (hunheard report)⟩
  · rw [Deed.roundLog_append]
    exact hw.reaches.snoc ()
  · cases hawaited : (Operator.batch sweep release).awaited with
    | false =>
      refine .inl ⟨fun b hb => ?_, hq.silent, hq.report⟩
      rcases List.mem_append.1 hb with hb | hb
      · exact hq.batches b hb
      · rw [List.mem_singleton.1 hb, hawaited]
    | true =>
      have hserve : Serves settings sweep.statuses (batches ++ [Operator.batch sweep release]) stage
          report [] := by
        rw [hq.report]
        exact .queued hq.batches rfl hawaited hq.silent
      exact .inr ⟨h, _, [], rfl, hawaited, hunheard, hserve⟩

/-- The operator hears a report. -/
theorem hear {given : UpdateReport} {next : UpdateReport → RoundProgram Operator}
    (hw : AtWork settings op sweep h (.ask .report next) batches stage (some given)) :
    AtWork settings op sweep (h ++ [.hears given]) (next given) batches stage none := by
  obtain ⟨h₁, b, h₂, rfl, -, hunheard, hserve⟩ := hw.serves.resolve_left fun hq => by
    cases hq.report
  refine ⟨hw.rendered, not_takes_concat hw.latest nofun, ?_, .inl ?_, fun report hmem => ?_⟩
  · rw [Deed.roundLog_append]
    exact hw.reaches.snoc given
  · cases hserve with
    | reported silent => exact ⟨nofun, silent, rfl⟩
  · rcases List.mem_append.1 hmem with hmem | hmem
    · exact absurd hmem (hunheard report)
    · cases List.mem_singleton.1 hmem
      cases hserve with
      | reported _ written => exact ⟨h₁, b, h₂, [], by simp, written⟩

/-- When the round has ended nobody waits for a report. -/
theorem quiet (hw : AtWork settings op sweep h (.done op') batches stage report) :
    Quiet batches stage report := by
  refine hw.serves.resolve_right ?_
  rintro ⟨h₁, b, h₂, rfl, hawaited, hunheard, -⟩
  obtain ⟨report, hreport⟩ := (Operator.phase_of_reaches hw.reaches).done
    (Deed.hands_mem_roundLog_iff.2 (by simp)) hawaited
  exact hunheard report (Deed.hears_mem_roundLog_iff.1 hreport)

/-- A gateway may lose its finalizer because the round released it, and heard a report on the
statuses of the sweep in which the status of that gateway is settled. -/
theorem removal {gateway : ObjectKey} {finalizer : String}
    {next : Except Fault Unit → RoundProgram Operator}
    (hw : AtWork settings op sweep h
      (.ask (.operator (.write (.removeFinalizer gateway finalizer))) next) batches stage report) :
    ∃ h₁ release op' h₂ report h₃,
      h = h₁ ++ .hands (Operator.batch sweep release) :: (h₂ ++ .hears report :: h₃) ∧
      Runs (op.reconcile settings sweep) (Deed.operatorLog h₁) (release, op') ∧
      gateway ∈ release ∧ Written settings sweep.statuses report h₂ ∧
      .gateway gateway ∉ report.failed := by
  obtain ⟨l, release, op', report, l', hlog, hrun, hmem, hsettled, -⟩ :=
    (Operator.phase_of_reaches hw.reaches).removal hw.rendered.sound
  have hheard : .hears report ∈ h := Deed.hears_mem_roundLog_iff.1 (by rw [hlog]; simp)
  obtain ⟨h₁, b, h₂, h₃, rfl, hwritten⟩ := hw.heard report hheard
  -- a round hands a batch over but once
  have hsplit : Deed.roundLog h₁ ++ ⟨.hand b, ()⟩ :: Deed.roundLog (h₂ ++ .hears report :: h₃) =
      l.map RoundExchange.ofOperator ++ ⟨.hand (Operator.batch sweep release), ()⟩ ::
        ⟨.report, report⟩ :: l'.map RoundExchange.ofOperator := by
    rw [← hlog]
    exact (Deed.roundLog_append h₁ (.hands b :: (h₂ ++ .hears report :: h₃))).symm
  have hbefore : ⟨.hand b, ()⟩ ∉ l.map RoundExchange.ofOperator := by
    intro hmem
    obtain ⟨e, -, he⟩ := List.mem_map.1 hmem
    cases he
  have hafter : ⟨.hand b, ()⟩ ∉ (⟨.report, report⟩ : RoundExchange) ::
      l'.map RoundExchange.ofOperator := by
    intro hmem
    rcases List.mem_cons.1 hmem with he | hmem
    · cases he
    · obtain ⟨e, -, he⟩ := List.mem_map.1 hmem
      cases he
  obtain ⟨hreconciled, hhand, -⟩ := (List.append_cons_inj_of_notMem hbefore hafter).1 hsplit.symm
  cases hhand
  refine ⟨h₁, release, op', h₂, report, h₃, rfl, ?_, hmem, hwritten, ?_⟩
  · unfold Deed.operatorLog
    rw [← hreconciled, RoundExchange.calls_map_ofOperator]
    exact hrun
  · simpa [UpdateReport.settled] using hsettled

end AtWork

end RelayFleet
