/-
What a settled operator does: nothing. After a reconciliation without failures the operator remembers
what its sweep calls for, whatever came before. If the active gateways are those with the finalizer,
then to reconcile the same gateways once more is a program without any call, which releases no
gateway and leaves the operator as it is (`silent_when_settled`).
-/
import RelayFleet.Proofs.Operator.Holders

namespace RelayFleet

open Program OperatorExchange

variable {settings : Settings} {sweep : Sweep}

/-- Whether the active gateways of a sweep have the finalizer, and no others do. -/
def Sweep.ActivesHold (sweep : Sweep) : Prop :=
  ∀ k r, sweep.gateways.get? k = some r → (r.hasFinalizer = true ↔ r.state = .active)

/-! ## One gateway -/

namespace Tracked

variable {r : GatewayRender}

/-- An active gateway with the finalizer that is remembered as it was rendered is left alone. -/
theorem update_ofRender (hactive : r.state = .active) (hholds : r.hasFinalizer = true) :
    update settings r (some (ofRender r)) = pure (some (ofRender r)) := by
  unfold update ensureActive
  rw [hactive]
  dsimp only
  rw [if_pos hholds]
  have hsynced : syncWorkload settings r.gateway r.workload (ofRender r) = pure (ofRender r) :=
    if_pos ⟨rfl, rfl⟩
  show some <$> syncWorkload settings r.gateway r.workload (ofRender r) = _
  rw [hsynced, map_pure]

/-- A gateway that is not active, has no finalizer and is not remembered is left alone. -/
theorem update_none (hidle : r.state ≠ .active) (hlacks : r.hasFinalizer = false) :
    update settings r none = pure none := by
  have htear : tearDown settings r none = pure none := by
    unfold tearDown
    rw [hlacks]
    rfl
  unfold update
  cases hstate : r.state with
  | active => exact absurd hstate hidle
  | invalid => exact htear
  | terminating => exact htear

end Tracked

namespace Operator

variable {op op' : Operator}

/-- To remember what is remembered changes nothing. -/
theorem remember_get? (op : Operator) (k : ObjectKey) :
    op.remember k (op.gateways.get? k) = op := by
  have hgateways : (op.remember k (op.gateways.get? k)).gateways = op.gateways := by
    refine SortedMap.ext_get? fun k' => ?_
    by_cases hk : k' = k
    · rw [hk, get?_remember_self]
    · rw [get?_remember_of_ne op _ hk]
  calc op.remember k (op.gateways.get? k)
      = ⟨(op.remember k (op.gateways.get? k)).gateways,
          (op.remember k (op.gateways.get? k)).artifacts⟩ := rfl
    _ = op := by rw [hgateways, artifacts_remember]

/-! ## The operator that remembers what a sweep calls for -/

theorem ofSweep_congr {next : Sweep} (h : next.gateways = sweep.gateways) :
    ofSweep next = ofSweep sweep := by
  have hactives : next.actives = sweep.actives := congrArg (·.filter fun _ r => r.state = .active) h
  unfold ofSweep Sweep.artifacts Sweep.targets Sweep.merged Sweep.contributors
  rw [hactives]

theorem follow_ofSweep (hs : sweep.Sound) (hholders : sweep.ActivesHold) {r : GatewayRender}
    (hr : r ∈ sweep.gateways.values) : (ofSweep sweep).follow settings r = pure (ofSweep sweep) := by
  have hget := hs.get?_gateway hr
  have hremembered : (ofSweep sweep).gateways.get? r.gateway =
      if r.state = .active then some (Tracked.ofRender r) else none := by
    show (sweep.actives.map Tracked.ofRender).get? r.gateway = _
    rw [SortedMap.get?_map, get?_actives, hget]
    by_cases hactive : r.state = .active
    · rw [if_pos hactive, Option.filter_some_pos (by simpa using hactive)]
      rfl
    · rw [if_neg hactive, Option.filter_some_neg (by simpa using hactive)]
      rfl
  have hsame : Tracked.update settings r ((ofSweep sweep).gateways.get? r.gateway) =
      pure ((ofSweep sweep).gateways.get? r.gateway) := by
    rw [hremembered]
    by_cases hactive : r.state = .active
    · rw [if_pos hactive]
      exact Tracked.update_ofRender hactive ((hholders _ r hget).2 hactive)
    · rw [if_neg hactive]
      exact Tracked.update_none hactive
        (Bool.eq_false_iff.2 fun hholds => hactive ((hholders _ r hget).1 hholds))
  unfold follow
  rw [hsame, map_pure, remember_get?]

theorem vanished_ofSweep (sweep : Sweep) : (ofSweep sweep).vanished sweep = [] := by
  refine List.eq_nil_iff_forall_not_mem.2 fun b hb => ?_
  obtain ⟨hremembered, hnone, -⟩ := mem_vanished_iff.1 hb
  have hget : (sweep.actives.map Tracked.ofRender).get? b.1 = some b.2 := hremembered
  rw [SortedMap.get?_map, get?_actives, hnone] at hget
  cases hget

theorem stale_ofSweep (sweep : Sweep) : (ofSweep sweep).stale sweep.artifacts = [] := by
  refine List.eq_nil_iff_forall_not_mem.2 fun k hk => ?_
  obtain ⟨⟨a, ha⟩ | ⟨t, ht, htarget⟩, hnone⟩ := mem_stale_iff.1 hk
  · cases hnone.symm.trans ha
  · -- what an active gateway is aimed at is among the targets of the sweep
    have ht : t ∈ (sweep.actives.map Tracked.ofRender).values := ht
    rw [SortedMap.values_map] at ht
    obtain ⟨r, hr, rfl⟩ := List.mem_map.1 ht
    have hmem : k ∈ sweep.targets := List.mem_filterMap.2 ⟨r, hr, htarget⟩
    rw [Sweep.get?_artifacts, if_pos hmem] at hnone
    cases hnone

theorem syncArtifacts_ofSweep (hs : sweep.Sound) :
    (ofSweep sweep).syncArtifacts settings = pure (ofSweep sweep, []) := by
  have hdesired : (ofSweep sweep).desired = sweep.artifacts := desired_of_gateways hs rfl
  have hwrites : (ofSweep sweep).desired.values.foldlM (writeArtifact settings)
      (ofSweep sweep, []) = pure (ofSweep sweep, []) := by
    refine foldlM_eq_pure fun a ha => if_pos ?_
    obtain ⟨k, hk⟩ := SortedMap.mem_values_iff.1 ha
    rw [key_of_get?_desired hk]
    exact (congrArg (·.get? k) hdesired).symm.trans hk
  unfold syncArtifacts
  dsimp only
  rw [hwrites, pure_bind, hdesired, stale_ofSweep, List.foldlM_nil]

theorem forget_ofSweep (hs : sweep.Sound) : (ofSweep sweep).forget [] = ofSweep sweep := by
  have hgateways : ((ofSweep sweep).forget []).gateways = (ofSweep sweep).gateways := by
    refine SortedMap.ext_get? fun k => (SortedMap.get?_filter _ _ k).trans ?_
    show ((sweep.actives.map Tracked.ofRender).get? k).filter _ =
      (sweep.actives.map Tracked.ofRender).get? k
    rw [SortedMap.get?_map]
    rcases hget : sweep.actives.get? k with - | r
    · rfl
    · -- an active gateway contributes something
      obtain ⟨hactive, hsound⟩ := sound_of_mem_actives hs (SortedMap.mem_values_iff.2 ⟨k, hget⟩)
      obtain ⟨config, -, hconfig, -⟩ := hsound.contributes hactive
      exact Option.filter_some_pos (by simp [not_isClean_ofRender hconfig])
  exact congrArg (Operator.mk · sweep.artifacts) hgateways

/-- The operator that remembers what a sweep calls for has nothing to do for it. -/
theorem reconcile_ofSweep (hs : sweep.Sound) (hholders : sweep.ActivesHold) :
    (ofSweep sweep).reconcile settings sweep = pure ([], ofSweep sweep) := by
  have hholdsNone : sweep.idleHolders = [] := by
    refine List.eq_nil_iff_forall_not_mem.2 fun k hk => ?_
    obtain ⟨r, hr, hidle, hholds⟩ := Sweep.mem_idleHolders_iff.1 hk
    exact hidle ((hholders k r hr).1 hholds)
  unfold reconcile
  rw [foldlM_eq_pure fun r hr => follow_ofSweep hs hholders hr, pure_bind, vanished_ofSweep,
    List.foldlM_nil, pure_bind, syncArtifacts_ofSweep hs, pure_bind]
  show pure (((ofSweep sweep).forget []).released sweep, (ofSweep sweep).forget []) = _
  rw [forget_ofSweep hs, released_of_gateways hs rfl, hholdsNone]

/-! ## After a reconciliation -/

/-- Whatever an operator remembers, it is right about some cluster. -/
theorem exists_faithful (op : Operator) : ∃ d, op.Faithful d := by
  refine ⟨{ workloads := op.gateways.filterMap (·.workload), artifacts := op.artifacts }, fun k => ?_,
    rfl⟩
  rw [SortedMap.get?_filterMap]
  cases op.gateways.get? k with
  | none => rfl
  | some t => exact fun _ => rfl

/-- An operator in whatever state can reconcile a rendered sweep without failures. If the active
gateways of the sweep have the finalizer and no others do, then the operator is silent afterwards: to
reconcile any sweep with the same gateways is to do nothing at all. -/
theorem silent_when_settled (hsweep : sweep.Rendered settings) (hholders : sweep.ActivesHold)
    (op : Operator) :
    (∃ l result, Runs (op.reconcile settings sweep) l result ∧ Clean l) ∧
      ∀ l release op', Runs (op.reconcile settings sweep) l (release, op') → Clean l →
        ∀ next : Sweep, next.gateways = sweep.gateways →
          op'.reconcile settings next = pure ([], op') := by
  refine ⟨exists_clean_reconcile settings op sweep, fun l release op' hrun hclean next hsame => ?_⟩
  have hfailures : sweep.failures = ∅ := by
    obtain ⟨s, rfl⟩ := hsweep
    exact Sweep.failures_ofSnapshot settings s
  obtain ⟨d, hfaithful⟩ := exists_faithful op
  obtain ⟨mid, failed, hreconciled⟩ := runs_reconcile hsweep.sound hfaithful hrun
  obtain ⟨rfl, -, -⟩ := hreconciled.settled hsweep.sound hfailures hclean hfaithful
  -- soundness and who has the finalizer are read off the gateways alone
  have hs : next.Sound := fun k r hr => hsweep.sound k r (hsame ▸ hr)
  have hholds : next.ActivesHold := fun k r hr => hholders k r (hsame ▸ hr)
  rw [← ofSweep_congr hsame]
  exact reconcile_ofSweep hs hholds

/-- An operator that could write nothing at first is silent once it could write everything. -/
theorem silent_after_refusals :
    ∃ op log l release op', Reached {} (Sweep.Rendered {}) op log ∧ log ≠ [] ∧
      (∀ e ∈ log, ∀ w r, e = ⟨.write w, r⟩ → ¬ e.Succeeds) ∧
      Runs (op.reconcile {} (sampleSweep [sampleClass, sampleConfig "t2", sampleGateway])) l
        (release, op') ∧ Clean l ∧ l ≠ [] ∧
      op'.reconcile {} { sampleSweep [sampleClass, sampleConfig "t2", sampleGateway] with
        generation := 7, statuses := ∅ } = pure ([], op') := by
  have hholders : (sampleSweep [sampleClass, sampleConfig "t2", sampleGateway]).ActivesHold := by
    have hall : ∀ b ∈ (sampleSweep [sampleClass, sampleConfig "t2", sampleGateway]).gateways.toList,
        (b.2.hasFinalizer = true ↔ b.2.state = .active) := by decide +kernel
    exact fun k r hr => hall (k, r) (SortedMap.get?_eq_some_iff.1 hr)
  have hrendered : (sampleSweep [sampleClass, sampleConfig "t2", sampleGateway]).Rendered {} :=
    ⟨_, rfl⟩
  -- the first target is another one, and nothing could be written
  let refusing : Handler OperatorCall OperatorCall.Reply Unit := fun call u =>
    (OperatorCall.answered (.error (.unreachable "")) call, u)
  let first := reconcile {} {} (sampleSweep [sampleClass, sampleConfig "t1", sampleGateway])
  have hlog : first.exchanges refusing () ≠ [] := by decide +kernel
  have hl : ((first.run refusing ()).1.2.reconcile {}
      (sampleSweep [sampleClass, sampleConfig "t2", sampleGateway])).exchanges compliant () ≠ [] := by
    decide +kernel
  have hclean : Clean (((first.run refusing ()).1.2.reconcile {}
      (sampleSweep [sampleClass, sampleConfig "t2", sampleGateway])).exchanges compliant ()) :=
    fun e he => succeeds_of_answered (exchanges_run_const (OperatorCall.answered (.ok ())) _ _ e he)
  have hrun := runs_run compliant ((first.run refusing ()).1.2.reconcile {}
    (sampleSweep [sampleClass, sampleConfig "t2", sampleGateway])) ()
  refine ⟨_, _, _, _, _, .reconcile .start ⟨_, rfl⟩ (runs_run refusing first ()), hlog, ?_, hrun,
    hclean, hl, (silent_when_settled hrendered hholders _).2 _ _ _ hrun hclean _ rfl⟩
  rintro e he w r rfl hs
  have hr : r = .error (.unreachable "") :=
    exchanges_run_const (OperatorCall.answered (.error (.unreachable ""))) _ _ _ he
  subst hr
  exact hs

end Operator

end RelayFleet
