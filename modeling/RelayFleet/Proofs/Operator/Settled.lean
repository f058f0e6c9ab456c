/-
What the operator comes to when nothing fails. A reconciliation without failures of a sweep in which
every gateway could be rendered leads to a state that the sweep alone determines, whatever came
before (`settles_on_sweep`).
-/
import RelayFleet.Proofs.Operator.Reconcile

namespace RelayFleet

/-- Whether a sweep is the rendering of a snapshot. -/
def Sweep.Rendered (settings : Settings) (sweep : Sweep) : Prop :=
  ∃ s, sweep = Sweep.ofSnapshot settings s

theorem Sweep.Rendered.sound {settings : Settings} {sweep : Sweep} (h : sweep.Rendered settings) :
    sweep.Sound := by
  obtain ⟨s, rfl⟩ := h
  exact sound_ofSnapshot settings s

/-- What is remembered of an active gateway whose workload is there. -/
def Tracked.ofRender (r : GatewayRender) : Tracked where
  target := r.target
  contribution := r.config
  owner := r.owner
  workload := r.workload
  synced := true

/-- What a sweep calls for. -/
def Derived.ofSweep (sweep : Sweep) : Derived where
  workloads := sweep.workloads
  artifacts := sweep.artifacts

namespace Operator

open Program OperatorExchange

variable {settings : Settings} {op op' mid : Operator} {sweep : Sweep} {d : Derived}
  {log : List OperatorExchange} {release failed : List ObjectKey}

/-- The operator that remembers what a sweep calls for. -/
def ofSweep (sweep : Sweep) : Operator where
  gateways := sweep.actives.map Tracked.ofRender
  artifacts := sweep.artifacts

/-! ## Contributions of active gateways -/

/-- What contributions to one key add up to. -/
theorem foldl_contributeTo {rs : List GatewayRender} {k : ObjectKey}
    (hrs : ∀ r ∈ rs, ∃ config, r.config = some config) (a : Option Artifact) :
    (rs.map Tracked.ofRender).foldl (contributeTo k) a =
      if (rs.filter fun r => r.target = some k) = [] then a
      else
        let before := a.getD { key := k }
        some { before with
          config := ((rs.filter fun r => r.target = some k).filterMap (·.config)).foldl
            Document.merge before.config
          owners := before.owners ++
            (rs.filter fun r => r.target = some k).filterMap (·.owner) } := by
  induction rs generalizing a with
  | nil => rfl
  | cons r rest ih =>
    obtain ⟨config, hconfig⟩ := hrs r (List.mem_cons_self ..)
    rw [List.map_cons, List.foldl_cons, ih fun r hr => hrs r (List.mem_cons_of_mem _ hr)]
    by_cases htarget : r.target = some k
    · have hstep : contributeTo k a (Tracked.ofRender r) =
          some { a.getD { key := k } with
            config := (a.getD { key := k }).config.merge config
            owners := (a.getD { key := k }).owners ++ r.owner.toList } := by
        unfold contributeTo
        rw [if_pos (show (Tracked.ofRender r).target = some k from htarget),
          show (Tracked.ofRender r).contribution = some config from hconfig]
        rfl
      rw [hstep, List.filter_cons_of_pos (by simpa using htarget)]
      rw [if_neg (List.cons_ne_nil _ _)]
      rw [List.filterMap_cons, hconfig, List.filterMap_cons]
      split
      · rename_i hrest
        rw [hrest]
        cases r.owner <;> simp
      · cases r.owner <;> simp
    · have hstep : contributeTo k a (Tracked.ofRender r) = a := if_neg htarget
      rw [hstep, List.filter_cons_of_neg (by simpa using htarget)]

theorem sound_of_mem_actives (hs : sweep.Sound) {r : GatewayRender}
    (hr : r ∈ sweep.actives.values) : r.state = .active ∧ r.Sound := by
  obtain ⟨k, hk⟩ := SortedMap.mem_values_iff.1 hr
  unfold Sweep.actives at hk
  rw [SortedMap.get?_filter, Option.filter_eq_some_iff] at hk
  exact ⟨by simpa using hk.2, (hs k r hk.1).2⟩

/-- The operator that remembers a sweep's gateways desires the sweep's artifacts. -/
theorem desired_of_gateways (hs : sweep.Sound)
    (h : op.gateways = sweep.actives.map Tracked.ofRender) : op.desired = sweep.artifacts := by
  refine SortedMap.ext_get? fun k => ?_
  have hconfigs : ∀ r ∈ sweep.actives.values, ∃ config, r.config = some config := by
    intro r hr
    obtain ⟨hactive, hsound⟩ := sound_of_mem_actives hs hr
    obtain ⟨config, target, hconfig, -⟩ := hsound.contributes hactive
    exact ⟨config, hconfig⟩
  rw [get?_desired, h, SortedMap.values_map, foldl_contributeTo hconfigs, Sweep.get?_artifacts]
  show (if sweep.contributors k = [] then none else _ : Option Artifact).map tidy = _
  by_cases hk : sweep.contributors k = []
  · rw [if_pos hk, if_neg fun hmem => Sweep.mem_targets_iff.1 hmem hk]
    rfl
  · rw [if_neg hk, if_pos (Sweep.mem_targets_iff.2 hk)]
    rfl

/-! ## Reconciliations without failures -/

theorem get?_actives (sweep : Sweep) (k : ObjectKey) :
    sweep.actives.get? k = (sweep.gateways.get? k).filter (·.state = .active) :=
  SortedMap.get?_filter _ _ k

theorem isClean_seen {t : Tracked} (h : t.contribution = none) :
    ({ t with workload := none, synced := true } : Tracked).isClean = true := by
  unfold Tracked.isClean
  simp [h]

/-- An active gateway that was followed without failures is remembered as it was rendered. -/
theorem follows_active {r : GatewayRender} {t t' : Option Tracked} {w w' : Option Workload}
    (h : Tracked.Follows r t w log t' w') (hc : Clean log) (hactive : r.state = .active) :
    w' = r.workload ∧ t' = some (Tracked.ofRender r) := by
  have haim := Tracked.aimed_of_active hactive t
  cases h with
  | ignored hn =>
    rw [haim] at hn
    cases hn
  | barred _ _ hdirty => exact absurd hc hdirty
  | seen ha h =>
    rw [haim] at ha
    cases ha
    obtain ⟨rfl, rfl⟩ := h.of_clean hc
    exact ⟨rfl, rfl⟩

/-- Of a gateway that is not active nothing but a clean record is left if no call fails. -/
theorem follows_idle {r : GatewayRender} {t t' : Option Tracked} {w w' : Option Workload}
    (h : Tracked.Follows r t w log t' w') (hc : Clean log) (hidle : r.state ≠ .active)
    (hr : r.workload = none) (hk : Tracked.Knows t w) :
    w' = none ∧ ∀ t₁, t' = some t₁ → t₁.isClean = true := by
  cases h with
  | ignored hn =>
    have ht := Tracked.none_of_aimed hn
    subst ht
    exact ⟨hk, by rintro _ ⟨⟩⟩
  | barred hs _ _ => exact absurd hs hidle
  | @seen a _ _ ha h =>
    have hcontribution := Tracked.contribution_aimed ha
    rw [if_neg hidle] at hcontribution
    rw [hr] at h
    obtain ⟨rfl, rfl⟩ := h.of_clean hc
    refine ⟨rfl, ?_⟩
    rintro _ ⟨⟩
    exact isClean_seen hcontribution

/-- What a sweep without failures leaves of a gateway when no call fails: what the sweep calls for,
or nothing but a clean record. -/
theorem Attended.of_clean {k : ObjectKey} {t t' : Option Tracked} {w w' : Option Workload}
    (hs : sweep.Sound) (hfailures : sweep.failures = ∅) (hc : Clean log)
    (h : Attended sweep k t w log t' w') (hk : Tracked.Knows t w) :
    w' = (sweep.actives.get? k).bind (·.workload) ∧
      ((∃ r, sweep.actives.get? k = some r ∧ t' = some (Tracked.ofRender r)) ∨
        sweep.actives.get? k = none ∧ ∀ t₁, t' = some t₁ → t₁.isClean = true) := by
  rw [get?_actives]
  cases h with
  | @rendered r _ _ hr h =>
    rw [hr]
    by_cases hactive : r.state = .active
    · rw [Option.filter_some_pos (by simpa using hactive)]
      obtain ⟨hw, ht⟩ := follows_active h hc hactive
      exact ⟨hw, .inl ⟨r, rfl, ht⟩⟩
    · rw [Option.filter_some_neg (by simpa using hactive)]
      obtain ⟨hw, ht⟩ := follows_idle h hc hactive ((hs k r hr).2.idle hactive).2.2 hk
      exact ⟨hw, .inr ⟨rfl, ht⟩⟩
  | spared hr h =>
    rw [hr]
    -- no gateway failed to be rendered, so nothing was remembered of this one
    have ht : t = none := by
      rcases h with h | h
      · exact h
      · rw [hfailures] at h
        cases h
    subst ht
    exact ⟨hk, .inr ⟨rfl, by rintro _ ⟨⟩⟩⟩
  | vanished hr _ _ h =>
    rw [hr]
    obtain ⟨rfl, rfl⟩ := h.of_clean hc
    refine ⟨rfl, .inr ⟨rfl, ?_⟩⟩
    rintro _ ⟨⟩
    exact isClean_seen rfl

theorem not_isClean_ofRender {r : GatewayRender} {config : Document}
    (h : r.config = some config) : (Tracked.ofRender r).isClean = false := by
  unfold Tracked.isClean Tracked.ofRender
  simp [h]

/-- The gateways that a sweep releases when the operator remembers the active ones. -/
theorem released_of_gateways (hs : sweep.Sound)
    (h : op.gateways = sweep.actives.map Tracked.ofRender) :
    op.released sweep = sweep.idleHolders := by
  unfold released Sweep.idleHolders SortedMap.values
  rw [List.filter_map, List.map_map]
  have hkey : ∀ b ∈ sweep.gateways.entries, b.2.gateway = b.1 := fun b hb =>
    (hs b.1 b.2 (SortedMap.get?_eq_some_iff.2 hb)).1
  have hfilter : sweep.gateways.entries.filter
      ((fun r => r.state ≠ .active && r.hasFinalizer && ! op.gateways.contains r.gateway) ∘
        fun b => b.2) =
      sweep.gateways.entries.filter fun b => b.2.state ≠ .active ∧ b.2.hasFinalizer := by
    refine List.filter_congr fun b hb => ?_
    have hget : sweep.gateways.get? b.1 = some b.2 := SortedMap.get?_eq_some_iff.2 hb
    by_cases hactive : b.2.state = .active
    · simp [hactive]
    · have hforgotten : op.gateways.contains b.2.gateway = false := by
        rw [SortedMap.contains_eq_false_iff, h, SortedMap.get?_map, hkey b hb, get?_actives, hget]
        simp [hactive]
      simp [hactive, hforgotten]
  rw [hfilter]
  exact List.map_congr_left fun b hb => hkey b (List.mem_of_mem_filter hb)

/-- A reconciliation without failures, of a sweep without failures, leads to what the sweep calls
for. -/
theorem Reconciled.settled (h : Reconciled sweep op d log release op' mid failed)
    (hs : sweep.Sound) (hfailures : sweep.failures = ∅) (hc : Clean log) (hf : op.Faithful d) :
    op' = ofSweep sweep ∧ d.replay log = Derived.ofSweep sweep ∧ release = sweep.idleHolders := by
  have hnone : ∀ k, failed.contains k = false := fun k => (h.written k (not_refused_of_clean hc k)).1
  have hentry := fun k => (h.entries k).of_clean hs hfailures hc (hf.aware k)
  -- no artifact failed, so just the clean records are forgotten
  have hkept : ∀ t : Tracked, (! t.isClean || t.target.any failed.contains) = ! t.isClean := by
    intro t
    rcases t.target with - | target
    · simp
    · simp only [Option.any_some, hnone target, Bool.or_false]
  have hgateways : op'.gateways = sweep.actives.map Tracked.ofRender := by
    refine SortedMap.ext_get? fun k => ?_
    rw [h.gateways, SortedMap.get?_filter, SortedMap.get?_map]
    simp only [hkept]
    rcases (hentry k).2 with ⟨r, hr, ht⟩ | ⟨hr, ht⟩
    · have hactive := (get?_actives sweep k).symm.trans hr
      rw [Option.filter_eq_some_iff] at hactive
      obtain ⟨config, target, hconfig, -⟩ :=
        (hs k r hactive.1).2.contributes (by simpa using hactive.2)
      rw [hr, ht, Option.filter_some_pos (by simp [not_isClean_ofRender hconfig])]
      rfl
    · rw [hr]
      refine Option.filter_eq_none_iff.2 fun t₁ ht₁ => ?_
      simp [ht t₁ ht₁]
  -- what is desired was made up before that, but clean records contribute nothing
  have hdesired : mid.desired = sweep.artifacts := by
    rw [← desired_of_gateways hs hgateways, ← desired_forget mid failed]
    unfold desired forget
    rw [h.gateways]
  have hartifacts : (d.replay log).artifacts = sweep.artifacts := by
    refine SortedMap.ext_get? fun k => ?_
    rw [(h.written k (not_refused_of_clean hc k)).2, hdesired]
  have hworkloads : (d.replay log).workloads = sweep.workloads := by
    refine SortedMap.ext_get? fun k => ?_
    rw [(hentry k).1, Sweep.get?_workloads]
  refine ⟨?_, ?_, ?_⟩
  · rw [show op' = ⟨op'.gateways, op'.artifacts⟩ from rfl, hgateways, h.artifacts, hartifacts]
    rfl
  · exact Derived.ext hworkloads hartifacts
  · rw [h.release, released_of_gateways hs hgateways]

/-! ## Independence of the past -/

/-- From every state that an operator may come to, over rendered sweeps and whatever calls have
failed, a reconciliation of a rendered sweep without failures can succeed, and if all of its calls
do, it ends with what the sweep alone calls for. -/
theorem settles_on_sweep {s : Snapshot} (hfailures : (Sweep.ofSnapshot settings s).failures = ∅)
    (h : Reached settings (Sweep.Rendered settings) op log) :
    (∃ l result, Runs (op.reconcile settings (Sweep.ofSnapshot settings s)) l result ∧ Clean l) ∧
      ∀ l release op',
        Runs (op.reconcile settings (Sweep.ofSnapshot settings s)) l (release, op') → Clean l →
          op' = ofSweep (Sweep.ofSnapshot settings s) ∧
          Derived.replay {} (log ++ l) = Derived.ofSweep (Sweep.ofSnapshot settings s) ∧
          release = (Sweep.ofSnapshot settings s).idleHolders := by
  have hs := Sweep.sound_ofSnapshot settings s
  have hf := h.faithful fun sweep hsweep => hsweep.sound
  refine ⟨?_, fun l release op' hrun hc => ?_⟩
  · obtain ⟨l, result, hrun, hl⟩ := exists_runs (OperatorCall.answered (.ok ()))
      (op.reconcile settings (Sweep.ofSnapshot settings s))
    exact ⟨l, result, hrun, fun e he => succeeds_of_answered (hl e he)⟩
  · obtain ⟨mid, failed, hreconciled⟩ := runs_reconcile hs hf hrun
    rw [Derived.replay_append]
    exact hreconciled.settled hs hfailures hc hf

/-! ### An operator that could write nothing at first -/

/-- A class in our charge. -/
def sampleClass : Object := .gatewayClass {
  metadata := { name := some "c" }
  spec := {
    controllerName := "turngate.dev/gateway-operator"
    parametersRef := some
      { group := relayGroup, kind := "GatewayConfig", name := "cfg", inNamespace := some "sys" } } }

/-- The settings object of that class, with the artifact that its gateways contribute to. -/
def sampleConfig (configName : String) : Object := .gatewayConfig {
  metadata := { name := some "cfg", inNamespace := some "sys" }
  spec := { configName := some configName } }

/-- A gateway of that class with the finalizer. -/
def sampleGateway : Object := .gateway {
  metadata := {
    name := some "g"
    inNamespace := some "a"
    uid := some "u"
    finalizers := some ["turngate.dev/gateway-finalizer"] }
  spec := {
    gatewayClassName := "c"
    listeners := [{ name := "l", port := 1, protocol := "TURN-UDP" }] } }

/-- A snapshot of some objects. -/
def sampleSnapshot (objects : List Object) : Snapshot := objects.foldl Snapshot.put {}

/-- After a reconciliation in which no write succeeded, one without failures leads to what its own
sweep calls for. -/
theorem settles_after_refusals :
    ∃ op log op' l, Reached {} (Sweep.Rendered {}) op log ∧ (∀ e ∈ log, ∀ w r, e = ⟨.write w, r⟩ →
      ¬ e.Succeeds) ∧ op' = ofSweep (Sweep.ofSnapshot {}
        (sampleSnapshot [sampleClass, sampleConfig "t2", sampleGateway])) ∧
      Derived.replay {} (log ++ l) = Derived.ofSweep (Sweep.ofSnapshot {}
        (sampleSnapshot [sampleClass, sampleConfig "t2", sampleGateway])) := by
  have hfailures : (Sweep.ofSnapshot {}
      (sampleSnapshot [sampleClass, sampleConfig "t2", sampleGateway])).failures = ∅ := by
    decide +kernel
  obtain ⟨log, ⟨release, op⟩, hrun, hlog⟩ := exists_runs
    (OperatorCall.answered (.error (.unreachable "")))
    (reconcile {} {} (Sweep.ofSnapshot {}
      (sampleSnapshot [sampleClass, sampleConfig "t1", sampleGateway])))
  have hreached : Reached {} (Sweep.Rendered {}) op log := .reconcile .start ⟨_, rfl⟩ hrun
  obtain ⟨⟨l, ⟨release', op'⟩, hclean, hl⟩, hsettles⟩ := settles_on_sweep hfailures hreached
  obtain ⟨hop, hd, -⟩ := hsettles l release' op' hclean hl
  refine ⟨op, log, op', l, hreached, ?_, hop, hd⟩
  rintro _ he w r rfl hs
  have hr : r = .error (.unreachable "") := hlog _ he
  subst hr
  exact hs

end Operator

end RelayFleet
