/-
What one reconciliation comes to (`runs_reconcile`), for an operator that knows the cluster: every
gateway is attended to, every artifact is what the contributions add up to or its write was refused,
and the operator still knows the cluster (`Reconciled.knows`). The states that an operator may come
to are those that a history leads to, from an empty cluster and over sweeps of any kind.
-/
import RelayFleet.Proofs.Operator.Artifacts
import RelayFleet.Proofs.Operator.Gateways

namespace RelayFleet.Operator

open Program OperatorExchange

variable {settings : Settings} {op op' mid : Operator} {sweep : Sweep} {d : Derived}
  {log : List OperatorExchange} {release failed : List ObjectKey}

/-! ## One reconciliation -/

/-- Whether what is remembered of the cluster is right. -/
structure Faithful (op : Operator) (d : Derived) : Prop where
  aware : op.Aware d
  artifacts : op.artifacts = d.artifacts

/-- What a reconciliation comes to. In between, after the gateways and before the artifacts, the
operator stands at `mid`. -/
structure Reconciled (sweep : Sweep) (op : Operator) (d : Derived) (log : List OperatorExchange)
    (release : List ObjectKey) (op' mid : Operator) (failed : List ObjectKey) : Prop where
  entries : ∀ k, Attended sweep k (op.gateways.get? k) (d.workloads.get? k) log
    (mid.gateways.get? k) ((d.replay log).workloads.get? k)
  gateways : op'.gateways =
    mid.gateways.filter fun _ t => ! t.isClean || t.target.any failed.contains
  artifacts : op'.artifacts = (d.replay log).artifacts
  written : ∀ k, ¬ Refused k log → failed.contains k = false ∧
    (d.replay log).artifacts.get? k = mid.desired.get? k
  refused : ∀ k, Refused k log → failed.contains k = true ∧
    (d.replay log).artifacts.get? k = d.artifacts.get? k
  release : release = op'.released sweep

theorem attempts_of_spares {k : ObjectKey} (h : ∀ e ∈ log, e.SparesArtifacts) :
    attempts k log = [] := by
  refine List.filter_eq_nil_iff.2 fun e he => ?_
  have hspares := h e he
  obtain ⟨c, r⟩ := e
  cases c with
  | write w => cases w <;> first | exact Bool.false_ne_true | exact absurd hspares id
  | _ => exact Bool.false_ne_true

theorem runs_reconcile (hs : sweep.Sound) (hf : op.Faithful d)
    (h : Runs (op.reconcile settings sweep) log (release, op')) :
    ∃ mid failed, Reconciled sweep op d log release op' mid failed := by
  rw [reconcile_eq] at h
  obtain ⟨mid, l₁, l₂, rfl, hattend, hnext⟩ := runs_bind_iff.1 h
  obtain ⟨s, l₃, l₄, rfl, hsync, hend⟩ := runs_bind_iff.1 hnext
  obtain ⟨rfl, hresult⟩ := runs_pure_iff.1 hend
  cases hresult
  rw [List.append_nil]
  have hentries := runs_attend hs hf.aware hattend
  obtain ⟨hartifacts, hspares⟩ := attend_spares hattend
  have hstored := Derived.artifacts_replay (d := d) hspares
  have hag : mid.artifacts = (d.replay l₁).artifacts := by
    rw [hartifacts, hstored, hf.artifacts]
  obtain ⟨hgateways, hworkloads, hagrees, houtcomes⟩ := runs_syncArtifacts hag hsync
  -- artifacts are attempted at in the last part only
  have hattempts : ∀ k, attempts k (l₁ ++ l₃) = attempts k l₃ := fun k => by
    rw [attempts_append, attempts_of_spares hspares, List.nil_append]
  refine ⟨mid, s.2, fun k => ?_, ?_, ?_, fun k hk => ?_, fun k hk => ?_, rfl⟩
  · rw [Derived.replay_append, hworkloads]
    exact (hentries k).of_part fun e he => List.mem_append_left l₃ he
  · show (s.1.gateways.filter fun _ t => ! t.isClean || t.target.any s.2.contains) = _
    rw [hgateways]
  · rw [Derived.replay_append]
    exact hagrees
  · rw [Derived.replay_append]
    unfold Refused at hk
    rw [hattempts] at hk
    cases houtcomes k with
    | settled _ hstored hfailed => exact ⟨hfailed, hstored⟩
    | refused _ _ _ hall => exact absurd hall hk
  · rw [Derived.replay_append]
    unfold Refused at hk
    rw [hattempts] at hk
    cases houtcomes k with
    | settled _ _ _ hall => exact absurd hk hall
    | refused _ hstored' hfailed => exact ⟨hfailed, hstored'.trans (by rw [← hstored]; rfl)⟩

/-- After a reconciliation the operator knows the cluster again. -/
theorem Reconciled.faithful (h : Reconciled sweep op d log release op' mid failed)
    (hf : op.Faithful d) : op'.Faithful (d.replay log) where
  aware k := by
    have hmid := (h.entries k).knows (hf.aware k)
    rw [h.gateways, SortedMap.get?_filter]
    rcases ht : mid.gateways.get? k with - | t
    · rw [ht] at hmid
      exact hmid
    · rw [ht] at hmid
      rw [Option.filter_some]
      split
      · exact hmid
      · rename_i hforgotten
        -- a gateway is forgotten only if its workload is known to be gone
        have hclean : t.isClean = true := by
          by_contra hdirty
          simp [hdirty] at hforgotten
        unfold Tracked.isClean at hclean
        simp only [Bool.and_eq_true, Option.isNone_iff_eq_none] at hclean
        exact (hmid hclean.1.2).trans hclean.2
  artifacts := h.artifacts

/-! ## Histories -/

/-- The states that an operator may come to from an empty cluster, over sweeps that are admitted,
with the exchanges that it made on the way. -/
inductive Reached (settings : Settings) (admits : Sweep → Prop) :
    Operator → List OperatorExchange → Prop
  | start : Reached settings admits {} []
  | reconcile {op op' : Operator} {sweep : Sweep} {log l : List OperatorExchange}
    {release : List ObjectKey} (h : Reached settings admits op log) (ha : admits sweep)
    (hr : Runs (op.reconcile settings sweep) l (release, op')) :
    Reached settings admits op' (log ++ l)

/-- An operator knows its cluster, whatever calls have failed. -/
theorem Reached.faithful {admits : Sweep → Prop} (hadmits : ∀ sweep, admits sweep → sweep.Sound)
    (h : Reached settings admits op log) : op.Faithful (Derived.replay {} log) := by
  induction h with
  | start => exact ⟨fun k => rfl, rfl⟩
  | reconcile _ ha hr ih =>
    obtain ⟨mid, failed, hreconciled⟩ := runs_reconcile (hadmits _ ha) ih hr
    rw [Derived.replay_append]
    exact hreconciled.faithful ih

end RelayFleet.Operator
