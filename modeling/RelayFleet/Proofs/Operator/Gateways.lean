/-
What becomes of every gateway when the operator follows a sweep (`runs_attend`): a rendered gateway
is followed, a remembered one that the sweep does not know is taken down, and one that could not be
rendered is left as it was. No artifact is touched meanwhile.
-/
import RelayFleet.Operator.Basic
import RelayFleet.Proofs.Operator.Tracked
import RelayFleet.Proofs.Render.Sweep

namespace RelayFleet.Operator

open Program OperatorExchange

variable {settings : Settings} {op op' : Operator} {sweep : Sweep} {d : Derived}
  {log : List OperatorExchange}

/-! ## Remembering -/

@[simp] theorem artifacts_remember (op : Operator) (key : ObjectKey) (t : Option Tracked) :
    (op.remember key t).artifacts = op.artifacts := by
  cases t <;> rfl

theorem get?_remember_self (op : Operator) (key : ObjectKey) (t : Option Tracked) :
    (op.remember key t).gateways.get? key = t := by
  cases t with
  | some t => exact SortedMap.get?_insert_self _ _ _
  | none => exact SortedMap.get?_erase_self _ _

theorem get?_remember_of_ne (op : Operator) {key k : ObjectKey} (t : Option Tracked)
    (h : k ≠ key) : (op.remember key t).gateways.get? k = op.gateways.get? k := by
  cases t with
  | some t => exact SortedMap.get?_insert_of_ne _ _ h
  | none => exact SortedMap.get?_erase_of_ne _ h

/-! ## One gateway after the other -/

/-- What is remembered of a gateway, and the workload that is there after some exchanges. -/
def entry (d : Derived) (k : ObjectKey) (op : Operator) (log : List OperatorExchange) :
    Option Tracked × Option Workload :=
  (op.gateways.get? k, (d.replay log).workloads.get? k)

/-- What is known of the workloads of all gateways is right. -/
def Aware (op : Operator) (d : Derived) : Prop :=
  ∀ k, Tracked.Knows (op.gateways.get? k) (d.workloads.get? k)

theorem serves_follow {r : GatewayRender}
    (h : Runs (op.follow settings r) log op') : ∀ e ∈ log, e.Serves r.gateway r.workload :=
  runs_map_forall (fun _ _ h => Tracked.serves_update h) h

theorem serves_abandon {b : ObjectKey × Tracked}
    (h : Runs (op.abandon settings b) log op') : ∀ e ∈ log, e.Serves b.1 none :=
  runs_map_forall (fun _ _ h => Tracked.serves_vanish h) h

/-- What is done for one gateway leaves the entries of the others as they are. -/
theorem entry_of_ne {key k : ObjectKey} {t : Option Tracked} {workload : Option Workload}
    (hw : ∀ w, workload = some w → w.gateway = key) (h : ∀ e ∈ log, e.Serves key workload)
    (before : List OperatorExchange) (hk : k ≠ key) :
    entry d k (op.remember key t) (before ++ log) = entry d k op before := by
  unfold entry
  rw [get?_remember_of_ne op t hk, Derived.replay_append, Derived.workload_replay hw h hk]

theorem follows_spares {rs : List GatewayRender}
    (h : Runs (rs.foldlM (follow settings) op) log op') :
    op'.artifacts = op.artifacts ∧ ∀ e ∈ log, e.SparesArtifacts := by
  refine ⟨?_, fun e he => ?_⟩
  · refine runs_foldlM_invariant (I := fun c => c.artifacts = op.artifacts) ?_ rfl h
    intro c hc r _ log c' h
    obtain ⟨t, -, rfl⟩ := runs_map_iff.1 h
    rw [artifacts_remember, hc]
  · exact runs_foldlM_forall
      (fun op r _ log op' h e he => (serves_follow h e he).sparesArtifacts) h e he

theorem abandons_spares {bs : List (ObjectKey × Tracked)}
    (h : Runs (bs.foldlM (abandon settings) op) log op') :
    op'.artifacts = op.artifacts ∧ ∀ e ∈ log, e.SparesArtifacts := by
  refine ⟨?_, fun e he => ?_⟩
  · refine runs_foldlM_invariant (I := fun c => c.artifacts = op.artifacts) ?_ rfl h
    intro c hc b _ log c' h
    obtain ⟨t, -, rfl⟩ := runs_map_iff.1 h
    rw [artifacts_remember, hc]
  · exact runs_foldlM_forall
      (fun op b _ log op' h e he => (serves_abandon h e he).sparesArtifacts) h e he

theorem runs_follows (hs : sweep.Sound) (hk : op.Aware d)
    (h : Runs (sweep.gateways.values.foldlM (follow settings) op) log op') :
    ∀ k,
      match sweep.gateways.get? k with
      | some r => Tracked.Follows r (op.gateways.get? k) (d.workloads.get? k) log
          (op'.gateways.get? k) ((d.replay log).workloads.get? k)
      | none => op'.gateways.get? k = op.gateways.get? k ∧
          (d.replay log).workloads.get? k = d.workloads.get? k := by
  have hsound : ∀ r ∈ sweep.gateways.values, r.Sound := fun r hr =>
    (hs _ _ (hs.get?_gateway hr)).2
  obtain ⟨hothers, hkeys⟩ := runs_foldlM_keyed GatewayRender.gateway (entry d)
    (fun r v v' log => Tracked.Knows v.1 v.2 → Tracked.Follows r v.1 v.2 log v'.1 v'.2)
    (by rw [hs.map_gateway]; exact SortedMap.nodup_keys _)
    (fun r hr op log op' h before k hne => by
      have hserves := serves_follow h
      obtain ⟨t, -, rfl⟩ := runs_map_iff.1 h
      exact entry_of_ne (hsound r hr).own hserves before hne)
    (fun r hr op log op' h before hknows => by
      obtain ⟨t, hrun, rfl⟩ := runs_map_iff.1 h
      unfold entry
      rw [get?_remember_self, Derived.replay_append]
      exact Tracked.runs_update (hsound r hr) hrun hknows) h []
  rw [hs.map_gateway] at hothers
  intro k
  split
  · rename_i r hr
    have hmem := SortedMap.mem_values_iff.2 ⟨k, hr⟩
    obtain ⟨part, hpart, hP⟩ := hkeys r hmem
    rw [(hs k r hr).1] at hP
    exact (hP (hk k)).of_part hpart
  · rename_i hr
    have hentry := hothers k fun hmem => by
      obtain ⟨r, hr'⟩ := SortedMap.mem_keys_iff.1 hmem
      rw [hr] at hr'
      cases hr'
    exact ⟨congrArg Prod.fst hentry, congrArg Prod.snd hentry⟩

theorem mem_vanished_iff {b : ObjectKey × Tracked} :
    b ∈ op.vanished sweep ↔ op.gateways.get? b.1 = some b.2 ∧ sweep.gateways.get? b.1 = none ∧
      sweep.failures.contains b.1 = false := by
  unfold vanished
  rw [List.mem_filter, SortedMap.get?_eq_some_iff]
  simp [SortedMap.contains_eq_false_iff]

theorem nodup_vanished (op : Operator) (sweep : Sweep) :
    ((op.vanished sweep).map (·.1)).Nodup := by
  have hsub : ((op.vanished sweep).map (·.1)).Sublist op.gateways.keys :=
    List.filter_sublist.map _
  exact hsub.nodup (SortedMap.nodup_keys _)

theorem runs_abandons (hk : op.Aware d)
    (h : Runs ((op.vanished sweep).foldlM (abandon settings) op) log op') :
    (∀ k, k ∉ (op.vanished sweep).map (·.1) → op'.gateways.get? k = op.gateways.get? k ∧
        (d.replay log).workloads.get? k = d.workloads.get? k) ∧
      ∀ b ∈ op.vanished sweep, ∃ t, op'.gateways.get? b.1 = some t ∧
        Tracked.Sees none { b.2 with contribution := none } (d.workloads.get? b.1) log t
          ((d.replay log).workloads.get? b.1) := by
  obtain ⟨hothers, hkeys⟩ := runs_foldlM_keyed Prod.fst (entry d)
    (fun b v v' log => v.1 = some b.2 → Tracked.Knows v.1 v.2 → ∃ t, v'.1 = some t ∧
      Tracked.Sees none { b.2 with contribution := none } v.2 log t v'.2)
    (nodup_vanished op sweep)
    (fun b _ op log op' h before k hne => by
      have hserves := serves_abandon h
      obtain ⟨t, -, rfl⟩ := runs_map_iff.1 h
      exact entry_of_ne (fun w hw => by cases hw) hserves before hne)
    (fun b _ op log op' h before hb hknows => by
      obtain ⟨t, hrun, rfl⟩ := runs_map_iff.1 h
      refine ⟨t, get?_remember_self _ _ _, ?_⟩
      unfold entry
      rw [Derived.replay_append]
      exact Tracked.runs_vanish hrun (hb ▸ hknows)) h []
  refine ⟨fun k hne => ?_, fun b hb => ?_⟩
  · have hentry := hothers k hne
    exact ⟨congrArg Prod.fst hentry, congrArg Prod.snd hentry⟩
  · obtain ⟨part, hpart, hP⟩ := hkeys b hb
    obtain ⟨t, ht, hsees⟩ := hP (mem_vanished_iff.1 hb).1 (hk b.1)
    exact ⟨t, ht, hsees.of_part hpart⟩

/-! ## All gateways -/

/-- What becomes of a gateway's entry when a sweep is followed: it was rendered, it is not
remembered or could not be rendered, or it is no more. -/
inductive Attended (sweep : Sweep) (k : ObjectKey) (t : Option Tracked) (w : Option Workload)
    (log : List OperatorExchange) : Option Tracked → Option Workload → Prop
  | rendered {r : GatewayRender} {t' : Option Tracked} {w' : Option Workload}
    (hr : sweep.gateways.get? k = some r) (h : Tracked.Follows r t w log t' w') :
    Attended sweep k t w log t' w'
  | spared (hr : sweep.gateways.get? k = none) (h : t = none ∨ sweep.failures.contains k = true) :
    Attended sweep k t w log t w
  | vanished {t₀ t' : Tracked} {w' : Option Workload} (hr : sweep.gateways.get? k = none)
    (ht : t = some t₀) (hf : sweep.failures.contains k = false)
    (h : Tracked.Sees none { t₀ with contribution := none } w log t' w') :
    Attended sweep k t w log (some t') w'

theorem Attended.knows {k : ObjectKey} {t t' : Option Tracked} {w w' : Option Workload}
    (h : Attended sweep k t w log t' w') (hk : Tracked.Knows t w) : Tracked.Knows t' w' := by
  cases h with
  | rendered _ h => exact h.knows hk
  | spared => exact hk
  | vanished _ _ _ h => exact h.knows

theorem Attended.of_part {k : ObjectKey} {t t' : Option Tracked} {w w' : Option Workload}
    {part : List OperatorExchange} (hpart : ∀ e ∈ part, e ∈ log)
    (h : Attended sweep k t w part t' w') : Attended sweep k t w log t' w' := by
  cases h with
  | rendered hr h => exact .rendered hr (h.of_part hpart)
  | spared hr h => exact .spared hr h
  | vanished hr ht hf h => exact .vanished hr ht hf (h.of_part hpart)

/-- What is done for the gateways, before any artifact is looked at. -/
def attend (settings : Settings) (op : Operator) (sweep : Sweep) : OperatorProgram Operator := do
  let op ← sweep.gateways.values.foldlM (follow settings) op
  (op.vanished sweep).foldlM (abandon settings) op

theorem reconcile_eq (settings : Settings) (op : Operator) (sweep : Sweep) :
    op.reconcile settings sweep = (do
      let op ← op.attend settings sweep
      let s ← op.syncArtifacts settings
      pure ((s.1.forget s.2).released sweep, s.1.forget s.2)) := by
  unfold reconcile attend
  exact (Program.bind_assoc _ _ _).symm

/-- What is done for the gateways of any sweep has nothing to do with artifacts. -/
theorem attend_spares (h : Runs (op.attend settings sweep) log op') :
    op'.artifacts = op.artifacts ∧ ∀ e ∈ log, e.SparesArtifacts := by
  obtain ⟨c, l₁, l₂, rfl, hfollow, habandon⟩ := runs_bind_iff.1 h
  obtain ⟨hartifacts₁, hspares₁⟩ := follows_spares hfollow
  obtain ⟨hartifacts₂, hspares₂⟩ := abandons_spares habandon
  refine ⟨hartifacts₂.trans hartifacts₁, fun e he => ?_⟩
  rcases List.mem_append.1 he with he | he
  · exact hspares₁ e he
  · exact hspares₂ e he

theorem runs_attend (hs : sweep.Sound) (hk : op.Aware d)
    (h : Runs (op.attend settings sweep) log op') (k : ObjectKey) :
    Attended sweep k (op.gateways.get? k) (d.workloads.get? k) log (op'.gateways.get? k)
      ((d.replay log).workloads.get? k) := by
  obtain ⟨c, l₁, l₂, rfl, hfollow, habandon⟩ := runs_bind_iff.1 h
  have hentries₁ := runs_follows hs hk hfollow
  have hk₁ : c.Aware (d.replay l₁) := by
    intro k
    have hentry := hentries₁ k
    split at hentry
    · exact hentry.knows (hk k)
    · rw [hentry.1, hentry.2]
      exact hk k
  obtain ⟨hothers₂, hentries₂⟩ := runs_abandons hk₁ habandon
  rw [Derived.replay_append]
  have hentry := hentries₁ k
  split at hentry
  · rename_i r hr
    -- a gateway of the sweep has not vanished
    have hother := hothers₂ k fun hmem => by
      obtain ⟨b, hb, rfl⟩ := List.mem_map.1 hmem
      rw [(mem_vanished_iff.1 hb).2.1] at hr
      cases hr
    rw [hother.1, hother.2]
    exact .rendered hr (hentry.of_part fun e he => List.mem_append_left l₂ he)
  · rename_i hr
    by_cases hmem : k ∈ (c.vanished sweep).map (·.1)
    · obtain ⟨b, hb, rfl⟩ := List.mem_map.1 hmem
      obtain ⟨ht, -, hf⟩ := mem_vanished_iff.1 hb
      obtain ⟨t, ht', hsees⟩ := hentries₂ b hb
      rw [ht', ← hentry.2]
      exact .vanished hr (hentry.1 ▸ ht) hf
        (hsees.of_part fun e he => List.mem_append_right l₁ he)
    · obtain ⟨hgateway, hworkload⟩ := hothers₂ k hmem
      rw [hgateway, hworkload, hentry.1, hentry.2]
      refine .spared hr ?_
      -- had it been remembered and not failed, it would have vanished
      by_cases hf : sweep.failures.contains k = true
      · exact .inr hf
      · refine .inl (Option.eq_none_iff_forall_ne_some.2 fun t ht => hmem ?_)
        refine List.mem_map.2 ⟨(k, t), mem_vanished_iff.2 ⟨?_, hr, by simpa using hf⟩, rfl⟩
        rw [← ht]
        exact hentry.1

end RelayFleet.Operator
