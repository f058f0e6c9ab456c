/-
The order of the calls in one reconciliation (`finalizer_first`). What is done for gateways comes
before all artifacts. For an active gateway without the finalizer, the finalizer is asked for first;
as long as it is refused there is no call for its workload, and what is remembered of it stays as it
is while the artifacts are made up. In the end a gateway of which nothing is left may be forgotten,
also such a one; `forgotten_without_finalizer` is a run in which it is.
-/
import RelayFleet.Proofs.Operator.Creation
import RelayFleet.Proofs.Operator.Release

namespace RelayFleet

open Program

/-! ## Calls for a gateway -/

/-- Whether a write is of the finalizer or of the workload of a gateway. -/
def ClusterWrite.concerns (k : ObjectKey) : ClusterWrite → Bool
  | .addFinalizer gateway _ => gateway = k
  | .removeFinalizer gateway _ => gateway = k
  | .applyWorkload w => w.gateway = k
  | .deleteWorkload gateway => gateway = k
  | .applyArtifact _ => false
  | .deleteArtifact _ => false

namespace OperatorExchange

/-- Whether it is an attempt at writing the finalizer or the workload of a gateway. -/
def concerns (k : ObjectKey) : OperatorExchange → Bool
  | ⟨.write w, _⟩ => w.concerns k
  | _ => false

/-- The attempts at writing the finalizer or the workload of a gateway, in order. -/
def concerning (k : ObjectKey) (log : List OperatorExchange) : List OperatorExchange :=
  log.filter (concerns k)

variable {k key : ObjectKey} {w : ClusterWrite} {workload : Option Workload}
  {e : OperatorExchange} {log l₁ l₂ : List OperatorExchange}

theorem concerning_append : concerning k (l₁ ++ l₂) = concerning k l₁ ++ concerning k l₂ :=
  List.filter_append ..

theorem concerning_eq_nil (h : ∀ e ∈ log, concerns k e = false) : concerning k log = [] :=
  List.filter_eq_nil_iff.2 fun e he => by simp [h e he]

/-- Pauses and attempts at a write of something else do not concern a gateway. -/
theorem concerns_of_attempts (h : e.Attempts w) (hw : w.concerns k = false) :
    concerns k e = false := by
  obtain ⟨c, r⟩ := e
  cases c with
  | write w' =>
    have hsame : w' = w := h
    exact hsame ▸ hw
  | _ => rfl

/-- What is done for one gateway does not concern another one. -/
theorem concerns_of_serves (hne : k ≠ key) (hown : ∀ w, workload = some w → w.gateway = key)
    (h : e.Serves key workload) : concerns k e = false := by
  obtain ⟨c, r⟩ := e
  cases c with
  | write w =>
    cases w with
    | addFinalizer key' f =>
      have hkey : key' = key := h
      exact decide_eq_false (hkey ▸ hne.symm)
    | applyWorkload w =>
      have hkey : w.gateway = key := hown w h
      exact decide_eq_false (hkey ▸ hne.symm)
    | deleteWorkload key' =>
      have hkey : key' = key := h
      exact decide_eq_false (hkey ▸ hne.symm)
    | removeFinalizer key' f => exact absurd h id
    | applyArtifact a => rfl
    | deleteArtifact key' => rfl
  | _ => rfl

/-- Attempts at a write that concern a gateway are no pauses. -/
theorem eq_write_of_attempts (h : e.Attempts w) (hc : concerns k e = true) :
    ∃ r, e = ⟨.write w, r⟩ := by
  obtain ⟨c, r⟩ := e
  cases c with
  | write w' =>
    have hsame : w' = w := h
    exact ⟨r, by rw [hsame]⟩
  | _ => cases hc

/-- Attempts at a write that failed, and concern a gateway, are refusals. -/
theorem eq_refusal_of_idles (h : e.Idles w) (hc : concerns k e = true) :
    ∃ f, e = ⟨.write w, .error f⟩ := by
  obtain ⟨r, rfl⟩ := eq_write_of_attempts h.attempts hc
  cases r with
  | ok u => exact absurd h id
  | error f => exact ⟨f, rfl⟩

end OperatorExchange

open OperatorExchange

/-! ## One gateway without the finalizer -/

namespace Tracked

/-- What becomes of an active gateway without the finalizer, and the calls for it: the finalizer is
refused and what is remembered stays as it is, or it is added, and then the gateway is taken up and
its workload seen to. -/
inductive Secured (finalizer : String) (r : GatewayRender) (before : Option Tracked) :
    List OperatorExchange → Option Tracked → Prop
  | refused {asks : List OperatorExchange} (hasked : asks ≠ [])
    (hasks : ∀ e ∈ asks, ∃ f, e = ⟨.write (.addFinalizer r.gateway finalizer), .error f⟩) :
    Secured finalizer r before asks before
  | added {asks works : List OperatorExchange} {t : Tracked}
    (hasks : ∀ e ∈ asks, ∃ f, e = ⟨.write (.addFinalizer r.gateway finalizer), .error f⟩)
    (hworks : ∀ e ∈ works, ∃ result, e = ⟨.write (writeOf r.gateway r.workload), result⟩)
    (htarget : t.target = r.target) (hcontribution : t.contribution = r.config)
    (howner : t.owner = r.owner) :
    Secured finalizer r before
      (asks ++ ⟨.write (.addFinalizer r.gateway finalizer), .ok ()⟩ :: works) (some t)

variable {settings : Settings} {r : GatewayRender} {before after : Option Tracked}
  {log : List OperatorExchange}

theorem secured_update (hactive : r.state = .active) (hlacks : r.hasFinalizer = false)
    (h : Runs (update settings r before) log after) :
    Secured settings.finalizer r before (concerning r.gateway log) after := by
  unfold update ensureActive at h
  rw [hactive] at h
  dsimp only at h
  rw [if_neg (by simp [hlacks])] at h
  obtain ⟨result, l₁, l₂, rfl, hadd, hnext⟩ := runs_bind_iff.1 h
  obtain ⟨earlier, rfl, hearlier⟩ := OperatorProgram.runs_write hadd
  -- pauses aside, what came before the last attempt was refused
  have hasks : ∀ e ∈ concerning r.gateway earlier,
      ∃ f, e = ⟨.write (.addFinalizer r.gateway settings.finalizer), .error f⟩ := by
    intro e he
    obtain ⟨hmem, hc⟩ := List.mem_filter.1 he
    exact eq_refusal_of_idles (hearlier e hmem) hc
  have hlast : ∀ result : Except Fault Unit,
      concerning r.gateway [⟨.write (.addFinalizer r.gateway settings.finalizer), result⟩] =
        [⟨.write (.addFinalizer r.gateway settings.finalizer), result⟩] := fun _ =>
    List.filter_cons_of_pos (decide_eq_true rfl)
  rw [concerning_append, concerning_append, hlast]
  cases result with
  | error f =>
    -- nothing more is done for the gateway
    obtain ⟨rfl, rfl⟩ := runs_pure_iff.1 hnext
    refine .refused (by simp) fun e he => ?_
    simp only [List.append_assoc, List.mem_append, List.mem_singleton] at he
    rcases he with he | rfl | he
    · exact hasks e he
    · exact ⟨f, rfl⟩
    · cases he
  | ok u =>
    obtain ⟨t, hrun, rfl⟩ := runs_map_iff.1 hnext
    obtain ⟨htarget, hcontribution, howner⟩ := same_syncWorkload hrun
    rw [List.append_assoc, List.singleton_append]
    refine .added hasks (fun e he => ?_) htarget hcontribution howner
    obtain ⟨hmem, hc⟩ := List.mem_filter.1 he
    exact eq_write_of_attempts (attempts_syncWorkload hrun e hmem) hc

end Tracked

/-! ## All gateways -/

namespace Operator

variable {settings : Settings} {op op' mid : Operator} {sweep : Sweep} {k : ObjectKey}
  {r : GatewayRender} {log l : List OperatorExchange} {release : List ObjectKey}

/-- What is remembered of a gateway, and the attempts that concerned it. -/
def courseOf (k : ObjectKey) (op : Operator) (log : List OperatorExchange) :
    Option Tracked × List OperatorExchange :=
  (op.gateways.get? k, concerning k log)

theorem courseOf_of_ne {key : ObjectKey} {workload : Option Workload} {t : Option Tracked}
    (hown : ∀ w, workload = some w → w.gateway = key) (h : ∀ e ∈ log, e.Serves key workload)
    (before : List OperatorExchange) (hne : k ≠ key) :
    courseOf k (op.remember key t) (before ++ log) = courseOf k op before := by
  unfold courseOf
  rw [get?_remember_of_ne op t hne, concerning_append,
    concerning_eq_nil fun e he => concerns_of_serves hne hown (h e he), List.append_nil]

theorem secured_follows (hs : sweep.Keyed)
    (h : Runs (sweep.gateways.values.foldlM (follow settings) op) log mid)
    (hr : sweep.gateways.get? k = some r) (hactive : r.state = .active)
    (hlacks : r.hasFinalizer = false) :
    Tracked.Secured settings.finalizer r (op.gateways.get? k) (concerning k log)
      (mid.gateways.get? k) := by
  have hown : ∀ r ∈ sweep.gateways.values, ∀ w, r.workload = some w → w.gateway = r.gateway := by
    intro r hr w hw
    obtain ⟨k, hk⟩ := SortedMap.mem_values_iff.1 hr
    rw [(hs k r hk).1]
    exact (hs k r hk).2 w hw
  obtain ⟨-, hkeys⟩ := runs_foldlM_keyed GatewayRender.gateway courseOf
    (fun r v v' _ => r.state = .active → r.hasFinalizer = false → v.2 = [] →
      Tracked.Secured settings.finalizer r v.1 v'.2 v'.1)
    (by rw [hs.map_gateway]; exact SortedMap.nodup_keys _)
    (fun r hr op log op' h before k hne => by
      have hserves := serves_follow h
      obtain ⟨t, -, rfl⟩ := runs_map_iff.1 h
      exact courseOf_of_ne (hown r hr) hserves before hne)
    (fun r _ op log op' h before hactive hlacks hfresh => by
      obtain ⟨t, hrun, rfl⟩ := runs_map_iff.1 h
      have hbefore : concerning r.gateway before = [] := hfresh
      unfold courseOf
      rw [get?_remember_self, concerning_append, hbefore, List.nil_append]
      exact Tracked.secured_update hactive hlacks hrun) h []
  obtain ⟨-, -, hsecured⟩ := hkeys r (SortedMap.mem_values_iff.2 ⟨k, hr⟩)
  have hsecured := hsecured hactive hlacks rfl
  rwa [(hs k r hr).1] at hsecured

theorem concerning_abandons {bs : List (ObjectKey × Tracked)} (hk : k ∉ bs.map (·.1))
    (h : Runs (bs.foldlM (abandon settings) op) log mid) : concerning k log = [] := by
  induction bs generalizing op log with
  | nil =>
    rw [(runs_foldlM_nil_iff.1 h).1]
    rfl
  | cons b rest ih =>
    rw [List.map_cons, List.mem_cons, not_or] at hk
    obtain ⟨c, l₁, l₂, rfl, h₁, h₂⟩ := runs_foldlM_cons_iff.1 h
    rw [concerning_append, ih hk.2 h₂, List.append_nil]
    exact concerning_eq_nil fun e he =>
      concerns_of_serves hk.1 (by rintro _ ⟨⟩) (serves_abandon h₁ e he)

theorem secured_attend (hs : sweep.Keyed) (h : Runs (op.attend settings sweep) log mid)
    (hr : sweep.gateways.get? k = some r) (hactive : r.state = .active)
    (hlacks : r.hasFinalizer = false) :
    Tracked.Secured settings.finalizer r (op.gateways.get? k) (concerning k log)
      (mid.gateways.get? k) := by
  obtain ⟨c, l₁, l₂, rfl, hfollow, habandon⟩ := runs_bind_iff.1 h
  -- a gateway of the sweep has not vanished
  have hshown : k ∉ (c.vanished sweep).map (·.1) := by
    intro hmem
    obtain ⟨b, hb, rfl⟩ := List.mem_map.1 hmem
    rw [(mem_vanished_iff.1 hb).2.1] at hr
    cases hr
  rw [concerning_append, concerning_abandons hshown habandon, List.append_nil,
    (contribution_abandons (nodup_vanished c sweep) habandon k).1 hshown]
  exact secured_follows hs hfollow hr hactive hlacks

/-! ## Artifacts -/

theorem Writes.concerns {s s' : Syncing} {key : ObjectKey} {wanted : Option Artifact}
    (h : Writes key wanted s log s') : ∀ e ∈ log, concerns k e = false := by
  intro e he
  rcases h.mem e he with hattempt | rfl
  · refine concerns_of_attempts hattempt ?_
    cases wanted <;> rfl
  · cases wanted <;> rfl

theorem concerning_syncArtifacts {s : Syncing} (h : Runs (op.syncArtifacts settings) log s) :
    concerning k log = [] := by
  refine concerning_eq_nil (runs_bind_forall (fun _ _ h => ?_) (fun _ _ _ h => ?_) h)
  · exact runs_foldlM_forall (fun _ _ _ _ _ h => (runs_writeArtifact h).concerns) h
  · exact runs_foldlM_forall (fun _ _ _ _ _ h => (runs_dropArtifact h).concerns) h

/-- The artifacts that are written are those that the contributions add up to. -/
theorem desired_of_written {s : Syncing} (h : Runs (op.syncArtifacts settings) log s) :
    ∀ e ∈ log, ∀ a result, e = ⟨.write (.applyArtifact a), result⟩ →
      op.desired.get? a.key = some a := by
  refine runs_bind_forall (fun _ _ hwrite => ?_) (fun _ _ _ hdrop => ?_) h
  · refine runs_foldlM_forall (fun s b hb log s' h e he a result ha => ?_) hwrite
    subst ha
    rcases (runs_writeArtifact h).mem _ he with hattempt | htold
    · cases (hattempt : ClusterWrite.applyArtifact a = .applyArtifact b)
      obtain ⟨key, hkey⟩ := SortedMap.mem_values_iff.1 hb
      rwa [key_of_get?_desired hkey]
    · cases htold
  · refine runs_foldlM_forall (fun s key _ log s' h e he a result ha => ?_) hdrop
    subst ha
    rcases (runs_dropArtifact h).mem _ he with hattempt | htold
    · cases (hattempt : ClusterWrite.applyArtifact a = .deleteArtifact key)
    · cases htold

/-- The targets that failed are those of which no write succeeded. -/
theorem failed_iff_refused {s : Syncing} (h : Runs (op.syncArtifacts settings) log s) :
    s.2.contains k = true ↔ Refused k log := by
  have houtcome := (runs_syncArtifacts (d := { artifacts := op.artifacts }) rfl h).2.2.2 k
  cases houtcome with
  | settled _ _ hfailed hall => exact iff_of_false (Bool.eq_false_iff.1 hfailed) hall
  | refused _ _ hfailed hall => exact iff_of_true hfailed hall

/-! ## One reconciliation -/

/-- What a reconciliation does, in two parts: what is done for gateways, by which the operator comes
to `mid`, and then the artifacts that the contributions add up to at `mid`. What is remembered at
`mid` is kept, but for gateways of which nothing is left and whose target was not refused. -/
structure FinalizerFirst (settings : Settings) (sweep : Sweep) (op mid op' : Operator)
    (attended synced : List OperatorExchange) : Prop where
  attends : Runs (op.attend settings sweep) attended mid
  syncs : ∃ s, Runs (mid.syncArtifacts settings) synced s
  gateways_first : ∀ k, attempts k attended = []
  artifacts_last : ∀ k, concerning k synced = []
  artifacts : ∀ e ∈ synced, ∀ a result, e = ⟨.write (.applyArtifact a), result⟩ →
    mid.desired.get? a.key = some a
  secured : ∀ k r, sweep.gateways.get? k = some r → r.state = .active → r.hasFinalizer = false →
    Tracked.Secured settings.finalizer r (op.gateways.get? k) (concerning k attended)
      (mid.gateways.get? k)
  remembered : ∀ k t, op'.gateways.get? k = some t ↔ mid.gateways.get? k = some t ∧
    (t.isClean = true → ∃ target, t.target = some target ∧ Refused target synced)

/-- Whatever is remembered and whatever calls fail, in a reconciliation: all calls for artifacts
come after those for gateways, and an active gateway without the finalizer is given it before its
workload is seen to. If it is refused, its workload is not seen to, and while the artifacts are made
up it is remembered as it was before. -/
theorem finalizer_first (hs : sweep.Keyed)
    (h : Runs (op.reconcile settings sweep) log (release, op')) :
    ∃ mid attended synced, log = attended ++ synced ∧
      FinalizerFirst settings sweep op mid op' attended synced := by
  rw [reconcile_eq] at h
  obtain ⟨mid, l₁, l₂, rfl, hattend, hnext⟩ := runs_bind_iff.1 h
  obtain ⟨s, l₃, l₄, rfl, hsync, hend⟩ := runs_bind_iff.1 hnext
  obtain ⟨rfl, hresult⟩ := runs_pure_iff.1 hend
  cases hresult
  refine ⟨mid, l₁, l₃, by rw [List.append_nil], ?_⟩
  -- the sweep is followed in the first part, and the artifacts are seen to in the second
  refine ⟨hattend, ⟨s, hsync⟩, fun k => attempts_of_spares (attend_spares hattend).2,
    fun k => concerning_syncArtifacts hsync, desired_of_written hsync,
    fun k r hr hactive hlacks => secured_attend hs hattend hr hactive hlacks, fun k t => ?_⟩
  have hgateways := (runs_syncArtifacts (d := { artifacts := mid.artifacts }) rfl hsync).1
  unfold forget
  rw [SortedMap.get?_filter, hgateways, Option.filter_eq_some_iff]
  refine and_congr_right fun _ => ?_
  simp only [Bool.or_eq_true, Bool.not_eq_true', ← Bool.not_eq_true, Option.any_eq_true,
    failed_iff_refused hsync]
  tauto

/-! ### Runs on samples -/

/-- The sample gateway without the finalizer. -/
def bareGateway : Object := .gateway {
  metadata := { name := some "g", inNamespace := some "a", uid := some "u" }
  spec := {
    gatewayClassName := "c"
    listeners := [{ name := "l", port := 1, protocol := "TURN-UDP" }] } }

/-- The sweep of that gateway, with its class and its settings. -/
def bareSweep : Sweep := sampleSweep [sampleClass, sampleConfig "t1", bareGateway]

theorem plainlyRendered_bareSweep : bareSweep.PlainlyRendered {} :=
  plainlyRendered_sampleSweep _ (by decide +kernel)

theorem lacking_bareSweep : ∃ r, bareSweep.gateways.get? (.namespaced "a" "g") = some r ∧
    r.state = .active ∧ r.hasFinalizer = false := by
  have h : ∃ r ∈ bareSweep.gateways.get? (.namespaced "a" "g"),
      r.state = .active ∧ r.hasFinalizer = false := by decide +kernel
  exact h

/-- Surroundings that add no finalizer, and do everything else. -/
def refusingFinalizers : Handler OperatorCall OperatorCall.Reply Unit
  | .write (.addFinalizer gateway _), u => (.error (.notFound gateway.text), u)
  | call, u => compliant call u

/-- A new gateway that does not get the finalizer is not remembered. -/
theorem nothing_without_finalizer :
    ∃ log release op', Runs (({} : Operator).reconcile {} bareSweep) log (release, op') ∧
      given (.namespaced "a" "g") ({} : Settings).finalizer log = false ∧
      op'.gateways.get? (.namespaced "a" "g") = none := by
  obtain ⟨log, release, op', hrun, hgiven⟩ : ∃ log release op',
      Runs (({} : Operator).reconcile {} bareSweep) log (release, op') ∧
        given (.namespaced "a" "g") ({} : Settings).finalizer log = false :=
    ⟨_, _, _, runs_run refusingFinalizers _ (), by decide +kernel⟩
  refine ⟨log, release, op', hrun, hgiven, ?_⟩
  obtain ⟨r, hr, hactive, hlacks⟩ := lacking_bareSweep
  obtain ⟨mid, attended, synced, rfl, hfirst⟩ :=
    finalizer_first plainlyRendered_bareSweep.sound.keyed hrun
  have hsecured := hfirst.secured _ r hr hactive hlacks
  have hkey := (plainlyRendered_bareSweep.sound _ r hr).1
  generalize hcalls : concerning (.namespaced "a" "g") attended = calls at hsecured
  generalize hmid : mid.gateways.get? (.namespaced "a" "g") = after at hsecured
  cases hsecured with
  | refused =>
    refine Option.eq_none_iff_forall_ne_some.2 fun t ht => ?_
    cases hmid.symm.trans ((hfirst.remembered _ t).1 ht).1
  | added =>
    -- then one of the calls would have added the finalizer
    have hmem : ⟨.write (.addFinalizer (.namespaced "a" "g") ({} : Settings).finalizer), .ok ()⟩ ∈
        concerning (.namespaced "a" "g") attended := by
      rw [hcalls, hkey]
      exact List.mem_append_right _ (List.mem_cons_self ..)
    refine absurd (gives_iff.2 rfl) (List.any_eq_false.1 hgiven _ ?_)
    exact List.mem_append_left _ (List.mem_filter.1 hmem).1

/-- A gateway has lost its class and its artifact could not be deleted, so the gateway is
remembered. It comes back without the finalizer, and does not get it. It is not taken up, but its
artifact is deleted now, and it is forgotten. -/
theorem forgotten_without_finalizer :
    ∃ op log l release op', Reached {} (Sweep.PlainlyRendered {}) op log ∧
      bareSweep.PlainlyRendered {} ∧ Runs (op.reconcile {} bareSweep) l (release, op') ∧
      (∃ r, bareSweep.gateways.get? (.namespaced "a" "g") = some r ∧ r.state = .active ∧
        r.hasFinalizer = false) ∧
      given (.namespaced "a" "g") ({} : Settings).finalizer l = false ∧
      op.gateways.get? (.namespaced "a" "g") ≠ none ∧
      op'.gateways.get? (.namespaced "a" "g") = none := by
  have hplain₁ := plainlyRendered_sampleSweep [sampleClass, sampleConfig "t1", sampleGateway]
    (by decide +kernel)
  have hplain₂ := plainlyRendered_sampleSweep [sampleGateway] (by decide +kernel)
  exact ⟨_, _, _, _, _,
    .reconcile (.reconcile .start hplain₁ (runs_run compliant _ ())) hplain₂
      (runs_run (refusingDeletions (.namespaced "a" "t1")) _ 10),
    plainlyRendered_bareSweep, runs_run refusingFinalizers _ (), lacking_bareSweep,
    by decide +kernel, by decide +kernel, by decide +kernel⟩

end Operator

end RelayFleet
