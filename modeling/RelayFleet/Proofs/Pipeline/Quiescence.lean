/-
A pipeline that has come to rest has done all of its work. In whatever order the stages took their
steps, and however events and subscribers came in between, once nothing is on its way the cluster
holds what the newest snapshot calls for (`settled_of_quiescent`). So the outcome depends on the
objects alone.
-/
import RelayFleet.Proofs.Pipeline.Custody

namespace RelayFleet

open Program

namespace World

variable {settings : Settings} {w : World} {seen taken handed : Snapshot}

/-- How far the stages have come, and why each will come further. -/
structure Custody (settings : Settings) (w : World) (seen taken handed : Snapshot) : Prop where
  kept : w.scene.cluster.Kept
  watches : w.pipeline.renderer.Watches settings w.scene seen
  queued : Queued settings w.scene.snapshot seen taken w.pipeline.renderer.outgoing
    w.pipeline.sweeps
  takes : taken.Precedes w.scene.snapshot
  follows : w.pipeline.operator.Follows settings w.scene.cluster taken handed
  hands : handed.Precedes w.scene.snapshot
  entrusted : Entrusted settings w.scene.snapshot handed w.pipeline.batches w.pipeline.updater

/-! ## What happens around the pipeline -/

theorem Custody.passes (h : w.Custody settings seen taken handed) {c : Cluster}
    (hc : w.scene.cluster.Passes c) :
    Custody settings { w with scene := w.scene.follow c } seen taken handed where
  kept := hc.kept
  watches := h.watches.follow hc.precedes
  queued := h.queued.later hc.precedes
  takes := h.takes.trans hc.precedes
  follows := h.follows.passes hc h.takes
  hands := h.hands.trans hc.precedes
  entrusted := h.entrusted.later h.hands hc.precedes

theorem custody_event (h : w.Custody settings seen taken handed) {e : StoreEvent} (he : e.Proper) :
    (w.afterEvent e).Custody settings seen taken handed :=
  h.passes ⟨⟨Store.filed_apply h.kept.filed he, h.kept.plan⟩, Store.precedes_apply _ _, rfl,
    fun _ => rfl⟩

theorem custody_tell (h : w.Custody settings seen taken handed) (change : StoreChange) :
    Custody settings { w with scene := { w.scene with
      channel := w.scene.channel.offer change, untold := w.scene.untold - 1 } } seen taken handed :=
  ⟨h.kept, h.watches.tell change, h.queued, h.takes, h.follows, h.hands, h.entrusted⟩

/-- Nothing but the time and subscribers have changed. -/
theorem custody_stays (h : w.Custody settings seen taken handed) {c : Cluster}
    (hc : w.scene.cluster.Passes c) (hs : c.snapshot = w.scene.snapshot) (now : Nat) :
    Custody settings ⟨{ w.pipeline with now }, { w.scene with cluster := c }⟩ seen taken
      handed := by
  have hfollow : w.scene.follow c = { w.scene with cluster := c } := by
    unfold Scene.follow
    rw [hs, Nat.sub_self, Nat.add_zero]
  obtain ⟨hkept, hwatches, hqueued, htaken, hfollows, hhanded, hentrusted⟩ := h.passes hc
  rw [hfollow] at hkept hwatches hqueued htaken hfollows hhanded hentrusted
  exact ⟨hkept, hwatches, hqueued, htaken, hfollows, hhanded, hentrusted⟩

/-! ## Steps of the stages -/

theorem custody_renderer (h : w.Custody settings seen taken handed) :
    ∃ seen', Custody settings
      ⟨(w.pipeline.stepRenderer Scene.surroundings settings w.scene).1,
        (w.pipeline.stepRenderer Scene.surroundings settings w.scene).2⟩ seen' taken handed := by
  unfold Pipeline.stepRenderer
  split
  · rename_i sweep hsweep
    have hsent := h.queued.send h.watches.precedes
    rw [← h.watches.outgoing sweep hsweep] at hsent
    exact ⟨seen, h.kept, h.watches.sent, hsent, h.takes, h.follows, h.hands, h.entrusted⟩
  · rename_i hnone
    split
    · obtain ⟨hwatches, hlook⟩ := h.watches.look
      refine ⟨w.scene.snapshot, h.kept, hwatches, ⟨h.queued.rendered, fun hout => ?_⟩, h.takes,
        h.follows, h.hands, h.entrusted⟩
      rcases hlook with ⟨-, hseen⟩ | hsome
      · rw [← hseen]
        exact h.queued.last hnone
      · exact absurd hout hsome
    · exact ⟨seen, h.kept, h.watches.woken, h.queued, h.takes, h.follows, h.hands, h.entrusted⟩

theorem custody_round (h : w.Custody settings seen taken handed) {op : Operator}
    {before : List OperatorExchange} {log : List RoundExchange} {round : RoundProgram Operator}
    (hround : Underway settings w.scene.cluster taken handed op before log round) :
    ∃ handed', Custody settings
      ⟨(w.pipeline.stepRound Scene.surroundings w.scene round).1,
        (w.pipeline.stepRound Scene.surroundings w.scene round).2⟩ seen taken handed' := by
  unfold Pipeline.stepRound
  split
  · -- the round has ended
    exact ⟨handed, h.kept, h.watches, h.queued, h.takes, hround.done, h.hands, h.entrusted⟩
  · -- a pause is answered like a call that changes nothing
    rename_i n next
    have hanswers := Cluster.answers_answer h.kept (.pause n)
    exact ⟨handed, h.kept, h.watches, h.queued, h.takes,
      .pausing (hround.operator h.takes hanswers), h.hands, h.entrusted⟩
  · -- a call to the cluster
    rename_i call next _
    have hanswers := Cluster.answers_answer h.kept call
    exact ⟨handed, hanswers.kept, h.watches.follow hanswers.precedes,
      h.queued.later hanswers.precedes, h.takes.trans hanswers.precedes,
      .working (hround.operator h.takes hanswers), h.hands.trans hanswers.precedes,
      h.entrusted.later h.hands hanswers.precedes⟩
  · -- the statuses are handed over, so the updater is behind until it takes them up
    obtain ⟨hunderway, hstatuses⟩ := hround.hand
    exact ⟨taken, h.kept, h.watches, h.queued, h.takes, .working hunderway, h.takes,
      .hand hstatuses⟩
  · -- the report is taken in
    exact ⟨handed, h.kept, h.watches, h.queued, h.takes, .working (hround.report _), h.hands,
      h.entrusted⟩

theorem custody_operator (h : w.Custody settings seen taken handed) :
    ∃ taken' handed', Custody settings
      ⟨(w.pipeline.stepOperator Scene.surroundings settings w.scene).1,
        (w.pipeline.stepOperator Scene.surroundings settings w.scene).2⟩ seen taken' handed' := by
  have hfollows := h.follows
  unfold Pipeline.stepOperator
  split
  · rename_i op hop
    rw [hop] at hfollows
    split
    · rename_i sweep hlast
      obtain ⟨s, hs, rfl, hqueued⟩ := h.queued.take h.watches.precedes hlast
      exact ⟨s, handed, h.kept, h.watches, hqueued, hs, hfollows.take s, h.hands, h.entrusted⟩
    · exact ⟨taken, handed, h⟩
  · rename_i round hop
    rw [hop] at hfollows
    cases hfollows with
    | working hround => exact ⟨taken, custody_round h hround⟩
  · rename_i moment round hop
    rw [hop] at hfollows
    cases hfollows with
    | pausing hround =>
      exact ⟨taken, handed, h.kept, h.watches, h.queued, h.takes, .working hround, h.hands,
        h.entrusted⟩

theorem custody_retry (h : w.Custody settings seen taken handed) {u : Updater}
    (hu : w.pipeline.updater = .waiting u) :
    Custody settings { w with pipeline := w.pipeline.beginRetry settings u } seen taken handed := by
  have hentrusted := h.entrusted
  rw [hu] at hentrusted
  exact ⟨h.kept, h.watches, h.queued, h.takes, h.follows, h.hands, hentrusted.last,
    fun hnil he => (hentrusted.tends hnil he).retry⟩

theorem custody_call (h : w.Custody settings seen taken handed) {call : StatusCall}
    {next : call.Reply → StatusProgram (Option UpdateReport × Updater)}
    (hu : w.pipeline.updater = .writing (.ask call next)) :
    Custody settings
      ⟨{ w.pipeline with updater := .writing (next (w.scene.cluster.answerStatus call).1) },
        w.scene.follow (w.scene.cluster.answerStatus call).2⟩ seen taken handed := by
  have hnotes := Cluster.notes_answerStatus h.kept call
  have hentrusted := h.entrusted
  rw [hu] at hentrusted
  obtain ⟨hkept, hwatches, hqueued, htaken, hfollows, hhanded, -⟩ := h.passes hnotes.passes
  refine ⟨hkept, hwatches, hqueued, htaken, hfollows, hhanded, hentrusted.last, fun hnil he => ?_⟩
  -- the updater counts only if the call left the snapshot as it was
  have hsame := h.hands.squeeze hnotes.precedes he
  have htends := (hentrusted.tends hnil (he.trans hsame.symm)).call (hnotes.leaves hsame.symm)
  show UpdaterStage.Tends settings (w.scene.cluster.answerStatus call).2.snapshot _
  rw [← hsame]
  exact htends

theorem custody_updater (h : w.Custody settings seen taken handed) :
    Custody settings
      ⟨(w.pipeline.stepUpdater Scene.surroundings settings w.scene).1,
        (w.pipeline.stepUpdater Scene.surroundings settings w.scene).2⟩ seen taken handed := by
  have hentrusted := h.entrusted
  unfold Pipeline.stepUpdater
  split
  · rename_i u hu
    unfold Pipeline.stepIdleUpdater
    split
    · exact custody_retry h hu
    · rename_i hne
      exact ⟨h.kept, h.watches, h.queued, h.takes, h.follows, h.hands,
        hentrusted.take (by simpa using hne) _⟩
  · rename_i report u hu
    rw [hu] at hentrusted
    exact ⟨h.kept, h.watches, h.queued, h.takes, h.follows, h.hands, hentrusted.last,
      fun hnil he => (hentrusted.tends hnil he).done h.kept.filed⟩
  · rename_i call next hu
    exact custody_call h hu

theorem custody_stage (h : w.Custody settings seen taken handed) (stage : Stage) :
    ∃ seen' taken' handed', Custody settings
      ⟨(w.pipeline.step Scene.surroundings settings w.scene stage).1,
        (w.pipeline.step Scene.surroundings settings w.scene stage).2⟩ seen' taken' handed' := by
  cases stage with
  | renderer =>
    obtain ⟨seen', h'⟩ := custody_renderer h
    exact ⟨seen', taken, handed, h'⟩
  | operator =>
    obtain ⟨taken', handed', h'⟩ := custody_operator h
    exact ⟨seen, taken', handed', h'⟩
  | updater => exact ⟨seen, taken, handed, custody_updater h⟩

/-! ## Every reachable world -/

theorem custody_move {w' : World} {m : Move} (h : w.Custody settings seen taken handed)
    (hm : m.Proper) (hmove : w.move settings m = some w') :
    ∃ seen' taken' handed', w'.Custody settings seen' taken' handed' := by
  cases m with
  | event e =>
    cases hmove
    exact ⟨seen, taken, handed, custody_event h hm⟩
  | tell change =>
    obtain ⟨-, he⟩ := Option.ite_none_right_eq_some.1 hmove
    cases he
    exact ⟨seen, taken, handed, custody_tell h change⟩
  | stage stage room =>
    obtain ⟨-, he⟩ := Option.ite_none_right_eq_some.1 hmove
    cases he
    exact custody_stage h stage
  | retry =>
    simp only [move, afterRetry] at hmove
    split at hmove
    · rename_i u hu
      obtain ⟨-, he⟩ := Option.ite_none_left_eq_some.1 hmove
      cases he
      exact ⟨seen, taken, handed, custody_retry h hu⟩
    · cases hmove
  | elapse now clock =>
    cases hmove
    exact ⟨seen, taken, handed, custody_stays h (c := { w.scene.cluster with clock })
      ⟨⟨h.kept.filed, h.kept.plan⟩, .inl rfl, rfl, fun _ => rfl⟩ rfl now⟩
  | visit o =>
    obtain ⟨ho, he⟩ := Option.ite_none_right_eq_some.1 hmove
    cases he
    let distributor := w.scene.cluster.distributor.after o
    exact ⟨seen, taken, handed, custody_stays h (c := { w.scene.cluster with distributor })
      ⟨⟨h.kept.filed, h.kept.plan⟩, .inl rfl, rfl,
        Distributor.config?_visit (Option.isNone_iff_eq_none.1 ho) _⟩ rfl _⟩

theorem custody_start {c : Cluster} {due : Bool} (hc : c.Fresh)
    (hdue : 0 < c.snapshot.generation → due = true) :
    (start c due).Custody settings {} {} {} := by
  have hprecedes := hc.precedes
  refine ⟨hc.kept, ⟨hprecedes, .inr ⟨rfl, rfl⟩, ?_, by rintro _ ⟨⟩, rfl, Nat.one_pos⟩,
    ⟨by rintro _ ⟨⟩, fun _ => .inl ⟨rfl, rfl⟩⟩, hprecedes, ?_, hprecedes, by rintro _ ⟨⟩,
    fun _ he => ?_⟩
  · rcases Nat.eq_zero_or_pos c.snapshot.generation with hzero | hpos
    · exact .inl (hprecedes.eq hzero.le)
    · exact .inr (.inr (.inl (hdue hpos)))
  · have hderived : c.derived = {} := Derived.ext hc.workloads hc.artifacts
    exact .waiting .start ⟨hderived, hc.documents⟩ (fun _ => hderived) rfl
  · -- there are no statuses of a snapshot without objects
    have he : (start c due).scene.snapshot = {} := he.symm
    rw [he]
    exact .waiting (by rintro r status ⟨⟩)

/-- Some earlier snapshots tell how far the stages have come, in every world. -/
theorem custody_of_reached (h : Reached settings w) :
    ∃ seen taken handed, w.Custody settings seen taken handed := by
  induction h with
  | start hc hdue => exact ⟨{}, {}, {}, custody_start hc hdue⟩
  | move _ hm hmove ih =>
    obtain ⟨seen, taken, handed, h⟩ := ih
    exact custody_move h hm hmove

/-! ## At rest -/

/-- Whether the cluster holds what its objects call for. -/
structure Settled (settings : Settings) (w : World) : Prop where
  workloads : w.scene.cluster.workloads = (Sweep.ofSnapshot settings w.scene.snapshot).workloads
  artifacts : w.scene.cluster.artifacts = (Sweep.ofSnapshot settings w.scene.snapshot).artifacts
  documents : ∀ k, w.scene.cluster.distributor.config? k =
    ((Sweep.ofSnapshot settings w.scene.snapshot).artifacts.get? k).map (·.config)
  statuses : ∀ r status,
    (Sweep.ofSnapshot settings w.scene.snapshot).statuses.get? r = some status →
      ∃ o, w.scene.snapshot.get? r = some o ∧ o.Carries settings.controllerName status

/-- If nothing is on its way, every stage has come to the newest snapshot and done well by it. -/
theorem Custody.settled (h : w.Custody settings seen taken handed) (hq : w.quiescent = true) :
    w.Settled settings := by
  unfold quiescent at hq
  simp only [Bool.and_eq_true, decide_eq_true_eq, List.isEmpty_iff, Bool.not_eq_true',
    Option.isNone_iff_eq_none] at hq
  obtain ⟨⟨⟨⟨⟨⟨⟨⟨hsigns, htold⟩, hdue⟩, hawake⟩, hout⟩, hsweeps⟩, hidle⟩, hbatches⟩, hdone⟩ := hq
  obtain ⟨-, hwatches, hqueued, -, hfollows, -, hentrusted⟩ := h
  have hseen := hwatches.seen_eq hdue hawake hsigns htold
  rw [hout, hsweeps] at hqueued
  have htaken := hqueued.taken_eq.trans hseen
  rcases hop : w.pipeline.operator with op | round | ⟨moment, round⟩ <;> rw [hop] at hidle hfollows
  · obtain ⟨hderived, hdocuments, hhanded⟩ := hfollows.at_rest htaken
    rw [htaken] at hderived hhanded
    have hartifacts := congrArg Derived.artifacts hderived
    have htends := hentrusted.tends hbatches hhanded
    rcases hu : w.pipeline.updater with u | task <;> rw [hu] at htends hdone
    · refine ⟨congrArg Derived.workloads hderived, hartifacts, fun k => ?_,
        fun r status hstatus => htends.at_rest (List.isEmpty_iff.1 hdone) hstatus⟩
      rw [hdocuments, show w.scene.cluster.artifacts = _ from hartifacts]
      rfl
    · cases hdone
  · cases hidle
  · cases hidle

/-- A pipeline that has come to rest, in whatever order its stages took their steps, has done what
the objects call for, and what it has done depends on the objects alone. -/
theorem settled_of_quiescent (h : Reached settings w) (hq : w.quiescent = true) :
    w.Settled settings ∧ ∀ w', Reached settings w' → w'.quiescent = true →
      w'.scene.snapshot.objects = w.scene.snapshot.objects →
        w'.scene.cluster.workloads = w.scene.cluster.workloads ∧
        w'.scene.cluster.artifacts = w.scene.cluster.artifacts ∧
        ∀ k, w'.scene.cluster.distributor.config? k = w.scene.cluster.distributor.config? k := by
  obtain ⟨seen, taken, handed, hcustody⟩ := custody_of_reached h
  have hsettled := hcustody.settled hq
  refine ⟨hsettled, fun w' h' hq' hobjects => ?_⟩
  obtain ⟨seen', taken', handed', hcustody'⟩ := custody_of_reached h'
  have hsettled' := hcustody'.settled hq'
  have hfiled : w.scene.snapshot.Filed := hcustody.kept.filed
  have hfiled' : w'.scene.snapshot.Filed := hcustody'.kept.filed
  have hsweep : Sweep.ofSnapshot settings w'.scene.snapshot = _ :=
    Sweep.ofSnapshot_congr hfiled' hfiled hobjects
  refine ⟨?_, ?_, fun k => ?_⟩
  · rw [hsettled'.workloads, hsettled.workloads, hsweep]
    rfl
  · rw [hsettled'.artifacts, hsettled.artifacts, hsweep]
    rfl
  · rw [hsettled'.documents, hsettled.documents, hsweep]
    rfl

/-! ### A gateway that is created -/

/-- A class, its settings, a relay template and a gateway, which come one by one. -/
def sampleEvents : List Move :=
  [Operator.sampleClass, Operator.sampleConfig "t",
    .dataplane { metadata := { name := some "default" }, spec := { image := "relay" } },
    .gateway {
      metadata := { name := some "g", inNamespace := some "a", resourceVersion := some "1" }
      spec := { gatewayClassName := "c", listeners := [] } }].map fun o => .event (.upsert o)

/-- The renderer has its turn, after it was told of all changes. -/
def rendererTurn : List Move :=
  List.replicate 4 (.tell ⟨0, .gateway default⟩) ++ List.replicate 3 (.stage .renderer 9)

/-- Every stage has its turn. -/
def stagesTurn : List Move :=
  rendererTurn ++ List.replicate 12 (.stage .operator 9) ++ List.replicate 12 (.stage .updater 9)

/-- Whether the renderer saw all events at once or one by one, the pipeline comes to rest with the
same workload. -/
theorem settled_of_quiescent_for_gateway :
    ∃ w w', Reached {} w ∧ w.quiescent = true ∧ Reached {} w' ∧ w'.quiescent = true ∧
      w.Settled {} ∧ w.scene.cluster.workloads ≠ ∅ ∧
      w'.scene.cluster.workloads = w.scene.cluster.workloads := by
  have hfresh : Cluster.Fresh { clock := default } :=
    ⟨⟨[], by rintro _ ⟨⟩, rfl⟩, rfl, rfl, fun _ => rfl, by rintro _ ⟨⟩⟩
  have hstart : Reached {} (start { clock := default } false) := .start hfresh (by rintro ⟨⟩)
  obtain ⟨ms, ms', hproper, hproper', hq, hq', hne, hobjects⟩ : ∃ ms ms' : List Move,
      (∀ m ∈ ms, m.Proper) ∧ (∀ m ∈ ms', m.Proper) ∧
      ((start { clock := default } false).after {} ms).quiescent = true ∧
      ((start { clock := default } false).after {} ms').quiescent = true ∧
      ((start { clock := default } false).after {} ms).scene.cluster.workloads ≠ ∅ ∧
      ((start { clock := default } false).after {} ms').scene.snapshot.objects =
        ((start { clock := default } false).after {} ms).scene.snapshot.objects :=
    ⟨sampleEvents ++ stagesTurn ++ stagesTurn,
      sampleEvents.flatMap (fun m => m :: rendererTurn) ++ stagesTurn ++ stagesTurn,
      by decide +kernel, by decide +kernel, by decide +kernel, by decide +kernel,
      by decide +kernel, by decide +kernel⟩
  have hreached := hstart.after hproper
  have hreached' := hstart.after hproper'
  obtain ⟨hsettled, hsame⟩ := settled_of_quiescent hreached hq
  exact ⟨_, _, hreached, hq, hreached', hq', hsettled, hne, (hsame _ hreached' hq' hobjects).1⟩

end World

end RelayFleet
