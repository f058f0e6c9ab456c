/-
What is left of a gateway whose finalizer may go (`release_leaves`). Its workload is gone. A document
may still have a listener of it, namely one that had it before and whose write was refused this time:
the operator looks at the failed writes of the last sweep, and of the targets of a gateway only at
the last one. That this does happen is shown by a run (`released_with_listener`).
-/
import RelayFleet.Proofs.Operator.Published

namespace RelayFleet

/-- Whether a sweep is the rendering of a snapshot whose gateways have admissible keys. -/
def Sweep.PlainlyRendered (settings : Settings) (sweep : Sweep) : Prop :=
  ∃ s, (∀ k ∈ s.gateways.map (·.1), k.Plain) ∧ sweep = Sweep.ofSnapshot settings s

namespace Sweep.PlainlyRendered

variable {settings : Settings} {sweep : Sweep}

theorem sound (h : sweep.PlainlyRendered settings) : sweep.Sound := by
  obtain ⟨s, -, rfl⟩ := h
  exact sound_ofSnapshot settings s

theorem plain (h : sweep.PlainlyRendered settings) {k : ObjectKey} {r : GatewayRender}
    (hr : sweep.gateways.get? k = some r) : k.Plain := by
  obtain ⟨s, hs, rfl⟩ := h
  obtain ⟨output, hk, -, -⟩ := render_of_get? hr
  exact hs k hk

end Sweep.PlainlyRendered

/-- Whether the stored artifact of a key has a listener of a gateway. -/
def Derived.Mentions (d : Derived) (k gateway : ObjectKey) : Prop :=
  ∃ a, d.artifacts.get? k = some a ∧ a.config.Mentions gateway

/-- Whether the latest document of a key has a listener of a gateway. -/
def Distributor.Mentions (d : Distributor) (k gateway : ObjectKey) : Prop :=
  ∃ u, d.latest? k = some u ∧ u.config.Mentions gateway

namespace Operator

open Program OperatorExchange Occurrence

variable {settings : Settings} {op op' mid : Operator} {sweep : Sweep} {d : Derived}
  {log : List OperatorExchange} {release failed : List ObjectKey} {k g : ObjectKey}

/-! ## Contributions -/

/-- Whether what a gateway contributes is its own. -/
def Own (k : ObjectKey) (t : Option Tracked) : Prop :=
  ∀ t₀ c, t = some t₀ → t₀.contribution = some c → k.Plain ∧ ∀ l ∈ c.listeners, l.IsOf k

theorem Attended.own {t t' : Option Tracked} {w w' : Option Workload}
    (h : Attended sweep k t w log t' w') (hs : sweep.Sound)
    (hplain : ∀ r, sweep.gateways.get? k = some r → k.Plain) (ht : Own k t) : Own k t' := by
  cases h with
  | @rendered r _ _ hr h =>
    cases h with
    | ignored hn => rintro _ _ ⟨⟩
    | barred => exact ht
    | seen ha h =>
      rintro t₀ c ⟨⟩ hc
      rw [h.contribution, Tracked.contribution_aimed ha] at hc
      split at hc
      · obtain ⟨hgateway, hsound⟩ := hs k r hr
        exact ⟨hplain r hr, hgateway ▸ hsound.named c hc⟩
      · cases hc
  | spared => exact ht
  | vanished _ _ _ h =>
    rintro t₀ c ⟨⟩ hc
    rw [h.contribution] at hc
    cases hc

/-- What operators remember of contributions is their gateways' own. -/
theorem Reached.own (h : Reached settings (Sweep.PlainlyRendered settings) op log)
    (k : ObjectKey) : Own k (op.gateways.get? k) := by
  induction h with
  | start => rintro _ _ ⟨⟩
  | reconcile h ha hr ih =>
    have hf := h.faithful fun sweep hsweep => hsweep.sound
    obtain ⟨mid, failed, hreconciled⟩ := runs_reconcile ha.sound hf hr
    intro t₀ c ht₀ hc
    rw [hreconciled.gateways, SortedMap.get?_filter, Option.filter_eq_some_iff] at ht₀
    exact (hreconciled.entries k).own ha.sound (fun r hr => ha.plain hr) ih t₀ c ht₀.1 hc

/-- A desired artifact has a listener of a gateway only if some gateway contributes it. -/
theorem mentions_foldl_contributeTo {ts : List Tracked} {a : Option Artifact} {b : Artifact}
    (h : ts.foldl (contributeTo k) a = some b) (hb : b.config.Mentions g) :
    (∃ a', a = some a' ∧ a'.config.Mentions g) ∨
      ∃ t ∈ ts, ∃ c, t.contribution = some c ∧ c.Mentions g := by
  induction ts generalizing a with
  | nil => exact .inl ⟨b, h, hb⟩
  | cons t rest ih =>
    rcases ih h with ⟨a', ha', hmentions⟩ | ⟨t', ht', c, hc⟩
    · unfold contributeTo at ha'
      split at ha'
      · split at ha'
        · rename_i contribution hcontribution
          cases ha'
          rcases Document.mentions_merge.1 hmentions with h | h
          · cases a with
            | none => exact absurd h Document.not_mentions_empty
            | some a => exact .inl ⟨a, rfl, h⟩
          · exact .inr ⟨t, List.mem_cons_self .., contribution, hcontribution, h⟩
        · exact .inl ⟨a', ha', hmentions⟩
      · exact .inl ⟨a', ha', hmentions⟩
    · exact .inr ⟨t', List.mem_cons_of_mem _ ht', c, hc⟩

/-- A gateway that contributes nothing has no listener in what is desired. -/
theorem not_mentions_desired (hown : ∀ k, Own k (op.gateways.get? k)) (hg : g.Plain)
    (hnone : ∀ t, op.gateways.get? g = some t → t.contribution = none) {a : Artifact}
    (ha : op.desired.get? k = some a) : ¬ a.config.Mentions g := by
  intro hmentions
  rw [get?_desired, Option.map_eq_some_iff] at ha
  obtain ⟨b, hb, rfl⟩ := ha
  rcases mentions_foldl_contributeTo (a := none) hb hmentions with ⟨a', ha', -⟩ | ⟨t, ht, c, hc, hmem⟩
  · cases ha'
  · obtain ⟨k', hk'⟩ := SortedMap.mem_values_iff.1 ht
    obtain ⟨l, hl, hlg⟩ := hmem
    obtain ⟨hplain, hlisteners⟩ := hown k' t c hk' hc
    have hsame : k' = g := (hlisteners l hl).unique hplain hg hlg
    rw [hnone t (hsame ▸ hk')] at hc
    cases hc

/-! ## Released gateways -/

theorem mem_released (h : g ∈ op.released sweep) (hs : sweep.Sound) :
    ∃ r, sweep.gateways.get? g = some r ∧ r.state ≠ .active ∧ op.gateways.get? g = none := by
  unfold released at h
  obtain ⟨r, hr, rfl⟩ := List.mem_map.1 h
  obtain ⟨hmem, hr⟩ := List.mem_filter.1 hr
  refine ⟨r, hs.get?_gateway hmem, ?_, ?_⟩
  · simp only [Bool.and_eq_true, decide_eq_true_eq] at hr
    exact hr.1.1
  · simp only [Bool.and_eq_true, Bool.not_eq_true'] at hr
    exact SortedMap.contains_eq_false_iff.1 hr.2

/-- A gateway that must have nothing derived from it contributes nothing. -/
theorem Attended.idle {t t' : Option Tracked} {w w' : Option Workload} {r : GatewayRender}
    (h : Attended sweep k t w log t' w') (hr : sweep.gateways.get? k = some r)
    (hidle : r.state ≠ .active) {t₁ : Tracked} (ht₁ : t' = some t₁) : t₁.contribution = none := by
  cases h with
  | rendered hr' h =>
    cases hr.symm.trans hr'
    cases h with
    | ignored hn => cases ht₁
    | barred hs => exact absurd hs hidle
    | seen ha h =>
      cases ht₁
      rw [h.contribution, Tracked.contribution_aimed ha, if_neg hidle]
  | spared hr' => rw [hr] at hr'; cases hr'
  | vanished hr' => rw [hr] at hr'; cases hr'

/-- Such a gateway keeps the target that it contributed to last. -/
theorem Attended.keeps_target {t₀ : Tracked} {t' : Option Tracked} {w w' : Option Workload}
    {r : GatewayRender} (h : Attended sweep k (some t₀) w log t' w')
    (hr : sweep.gateways.get? k = some r) (hidle : r.state ≠ .active) :
    ∃ t₁, t' = some t₁ ∧ t₁.target = t₀.target := by
  have haim : Tracked.aimed r (some t₀) = some { t₀ with contribution := none } := if_neg hidle
  cases h with
  | rendered hr' h =>
    cases hr.symm.trans hr'
    cases h with
    | ignored hn => rw [haim] at hn; cases hn
    | barred hs => exact absurd hs hidle
    | seen ha h =>
      rw [haim] at ha
      cases ha
      refine ⟨_, rfl, ?_⟩
      cases h <;> rfl
  | spared hr' => rw [hr] at hr'; cases hr'
  | vanished hr' => rw [hr] at hr'; cases hr'

/-- What a reconciliation that releases a gateway leaves of it in the stored artifacts. -/
theorem Reconciled.mentions_iff (h : Reconciled sweep op d log release op' mid failed)
    (hs : sweep.Sound) (hown : ∀ k, Own k (mid.gateways.get? k)) (hplain : g.Plain)
    (hg : g ∈ release) (k : ObjectKey) :
    (d.replay log).Mentions k g ↔ Refused k log ∧ d.Mentions k g := by
  obtain ⟨r, hr, hidle, -⟩ := mem_released (h.release ▸ hg) hs
  have hnone : ∀ t, mid.gateways.get? g = some t → t.contribution = none := fun t ht =>
    (h.entries g).idle hr hidle ht
  unfold Derived.Mentions
  by_cases hk : Refused k log
  · rw [(h.refused k hk).2]
    exact ⟨fun hm => ⟨hk, hm⟩, And.right⟩
  · rw [(h.written k hk).2]
    constructor
    · rintro ⟨a, ha, hm⟩
      exact absurd hm (not_mentions_desired hown hplain hnone ha)
    · rintro ⟨hk', -⟩
      exact absurd hk' hk

/-- The target that a released gateway contributed to last was not refused. -/
theorem Reconciled.not_refused (h : Reconciled sweep op d log release op' mid failed)
    (hs : sweep.Sound) (hg : g ∈ release) {t : Tracked} (ht : op.gateways.get? g = some t)
    (hk : t.target = some k) : ¬ Refused k log := by
  intro hrefused
  obtain ⟨r, hr, hidle, hforgotten⟩ := mem_released (h.release ▸ hg) hs
  obtain ⟨t₁, ht₁, htarget⟩ := (ht ▸ h.entries g).keeps_target hr hidle
  rw [h.gateways, SortedMap.get?_filter, ht₁, Option.filter_eq_none_iff] at hforgotten
  refine hforgotten t₁ rfl ?_
  rw [htarget, hk, Option.any_some, (h.refused k hrefused).1, Bool.or_true]

theorem mentions_replay (buffer : Nat) {os : List Occurrence} (h : Told (calls os)) :
    (Distributor.replay { buffer } os).Mentions k g ↔ (Derived.replay {} (calls os)).Mentions k g := by
  have hagree := config?_of_told buffer h k
  unfold Distributor.config? at hagree
  unfold Distributor.Mentions Derived.Mentions
  constructor
  · rintro ⟨u, hu, hm⟩
    rw [hu, Option.map_some, eq_comm, Option.map_eq_some_iff] at hagree
    obtain ⟨a, ha, hc⟩ := hagree
    exact ⟨a, ha, hc ▸ hm⟩
  · rintro ⟨a, ha, hm⟩
    rw [ha, Option.map_some, Option.map_eq_some_iff] at hagree
    obtain ⟨u, hu, hc⟩ := hagree
    exact ⟨u, hu, hc ▸ hm⟩

/-- Over every history of rendered sweeps and whatever calls have failed: a gateway that may lose
its finalizer has no workload, and a document has a listener of it exactly if it had one before this
reconciliation and its write was refused in it. The target that it contributed to last has none. -/
theorem release_leaves (buffer : Nat) {l : List OperatorExchange}
    (h : Reached settings (Sweep.PlainlyRendered settings) op log)
    (ha : sweep.PlainlyRendered settings)
    (hr : Runs (op.reconcile settings sweep) l (release, op')) (hg : g ∈ release) :
    (Derived.replay {} (log ++ l)).workloads.get? g = none ∧
      (∀ k, (Derived.replay {} (log ++ l)).Mentions k g ↔
        Refused k l ∧ (Derived.replay {} log).Mentions k g) ∧
      (∀ t k, op.gateways.get? g = some t → t.target = some k →
        ¬ (Derived.replay {} (log ++ l)).Mentions k g) ∧
      ∀ os, calls os = log ++ l → ∀ k,
        ((Distributor.replay { buffer } os).Mentions k g ↔
          (Derived.replay {} (log ++ l)).Mentions k g) := by
  have hs := ha.sound
  have hf := h.faithful fun sweep hsweep => hsweep.sound
  obtain ⟨mid, failed, hreconciled⟩ := runs_reconcile hs hf hr
  obtain ⟨r, hgr, hidle, hforgotten⟩ := mem_released (hreconciled.release ▸ hg) hs
  have hown : ∀ k, Own k (mid.gateways.get? k) := fun k =>
    (hreconciled.entries k).own hs (fun r hr => ha.plain hr) (h.own k)
  have hmentions := hreconciled.mentions_iff hs hown (ha.plain hgr) hg
  rw [← Derived.replay_append] at hmentions
  refine ⟨?_, hmentions, fun t k ht hk hm => ?_, fun os hos k => ?_⟩
  · -- a gateway that is forgotten is known to have no workload
    have hknown := (hreconciled.faithful hf).aware g
    rw [hforgotten, ← Derived.replay_append] at hknown
    exact hknown
  · exact hreconciled.not_refused hs hg ht hk ((hmentions k).1 hm).1
  · rw [← hos]
    exact mentions_replay buffer (by rw [hos]; exact h.told.append (told_reconcile hr))

/-! ### Runs on samples -/

/-- The sweep of some objects under the settings that hold by default. -/
def sampleSweep (objects : List Object) : Sweep := .ofSnapshot {} (sampleSnapshot objects)

theorem plainlyRendered_sampleSweep (objects : List Object)
    (h : ∀ k ∈ (sampleSnapshot objects).gateways.map (·.1), k.Plain) :
    (sampleSweep objects).PlainlyRendered {} := ⟨sampleSnapshot objects, h, rfl⟩

/-- A gateway that loses its class is released, and when no call fails nothing is left of it. -/
theorem release_leaves_nothing_when_clean :
    ∃ op log l release op', Reached {} (Sweep.PlainlyRendered {}) op log ∧
      Runs (op.reconcile {} (sampleSweep [sampleGateway])) l (release, op') ∧
      .namespaced "a" "g" ∈ release ∧
      (Derived.replay {} (log ++ l)).workloads.get? (.namespaced "a" "g") = none ∧
      ∀ k, ¬ (Derived.replay {} (log ++ l)).Mentions k (.namespaced "a" "g") := by
  let surroundings : Handler OperatorCall OperatorCall.Reply Unit := fun call u =>
    (OperatorCall.answered (.ok ()) call, u)
  have hplain₁ := plainlyRendered_sampleSweep [sampleClass, sampleConfig "t1", sampleGateway]
    (by decide +kernel)
  have hplain₂ := plainlyRendered_sampleSweep [sampleGateway] (by decide +kernel)
  have hreached : ∃ op log, Reached {} (Sweep.PlainlyRendered {}) op log ∧
      .namespaced "a" "g" ∈
        ((op.reconcile {} (sampleSweep [sampleGateway])).run surroundings ()).1.1 :=
    ⟨_, _, .reconcile .start hplain₁ (runs_run surroundings _ ()), by decide +kernel⟩
  obtain ⟨op, log, hreached, hrelease⟩ := hreached
  have hrun := runs_run surroundings (op.reconcile {} (sampleSweep [sampleGateway])) ()
  have hclean : Clean ((op.reconcile {} (sampleSweep [sampleGateway])).exchanges surroundings ()) :=
    fun e he => succeeds_of_answered (exchanges_run_const (OperatorCall.answered (.ok ())) _ _ e he)
  obtain ⟨hworkload, hmentions, -⟩ := release_leaves 16 hreached hplain₂ hrun hrelease
  refine ⟨op, log, _, _, _, hreached, hrun, hrelease, hworkload, fun k hm => ?_⟩
  exact not_refused_of_clean hclean k ((hmentions k).1 hm).1

/-- Surroundings that do everything. -/
def compliant : Handler OperatorCall OperatorCall.Reply Unit := fun call u =>
  (OperatorCall.answered (.ok ()) call, u)

/-- Surroundings that refuse a number of deletions of an artifact, and nothing else. -/
def refusingDeletions (key : ObjectKey) : Handler OperatorCall OperatorCall.Reply Nat
  | .write (.deleteArtifact key'), n + 1 =>
    if key' = key then (.error (.conflict key.text "no"), n) else (.ok (), n + 1)
  | call, n => (OperatorCall.answered (.ok ()) call, n)

theorem mentions_of_names {d : Derived} {names : List String} {name : String} (rest : String)
    (h : (d.artifacts.get? k).map (fun a => a.config.listeners.map (·.name)) = some names)
    (hname : name ∈ names) (hg : name = g.listenerPrefix ++ rest) : d.Mentions k g := by
  obtain ⟨a, ha, rfl⟩ := Option.map_eq_some_iff.1 h
  obtain ⟨l, hl, rfl⟩ := List.mem_map.1 hname
  exact ⟨a, ha, l, hl, rest, hg⟩

/-- The target of a gateway is renamed, and its old artifact cannot be deleted; then its class is
gone, and again that artifact cannot be deleted. Both times the gateway is remembered with its new
target only, so in the end it is released while the old artifact still has its listener. -/
theorem released_with_listener :
    ∃ op log l release op', Reached {} (Sweep.PlainlyRendered {}) op log ∧
      (sampleSweep [sampleGateway]).PlainlyRendered {} ∧
      Runs (op.reconcile {} (sampleSweep [sampleGateway])) l (release, op') ∧
      .namespaced "a" "g" ∈ release ∧
      (Derived.replay {} (log ++ l)).Mentions (.namespaced "a" "t1") (.namespaced "a" "g") ∧
      (Distributor.replay {} ((log ++ l).map Occurrence.exchange)).Mentions
        (.namespaced "a" "t1") (.namespaced "a" "g") := by
  let surroundings := refusingDeletions (.namespaced "a" "t1")
  have hplain₁ := plainlyRendered_sampleSweep [sampleClass, sampleConfig "t1", sampleGateway]
    (by decide +kernel)
  have hplain₂ := plainlyRendered_sampleSweep [sampleClass, sampleConfig "t2", sampleGateway]
    (by decide +kernel)
  have hplain₃ := plainlyRendered_sampleSweep [sampleGateway] (by decide +kernel)
  obtain ⟨op, log, l, release, op', hreached, hrun, hrelease, hstored⟩ :
      ∃ op log l release op', Reached {} (Sweep.PlainlyRendered {}) op log ∧
        Runs (op.reconcile {} (sampleSweep [sampleGateway])) l (release, op') ∧
        .namespaced "a" "g" ∈ release ∧
        ((Derived.replay {} (log ++ l)).artifacts.get? (.namespaced "a" "t1")).map
          (fun a => a.config.listeners.map (·.name)) = some ["a/g/l"] :=
    ⟨_, _, _, _, _,
      .reconcile (.reconcile .start hplain₁ (runs_run surroundings _ 10)) hplain₂
        (runs_run surroundings _ 10),
      runs_run surroundings _ 5, by decide +kernel, by decide +kernel⟩
  have hmentions : (Derived.replay {} (log ++ l)).Mentions (.namespaced "a" "t1")
      (.namespaced "a" "g") :=
    mentions_of_names "l" hstored (List.mem_singleton.2 rfl) rfl
  refine ⟨op, log, l, release, op', hreached, hplain₃, hrun, hrelease, hmentions, ?_⟩
  have hcalls : calls ((log ++ l).map Occurrence.exchange) = log ++ l :=
    calls_subscribe_map (.namespaced "a" "t1") .latest (log ++ l)
  have htold : Told (calls ((log ++ l).map Occurrence.exchange)) := by
    rw [hcalls]
    exact hreached.told.append (told_reconcile hrun)
  exact (mentions_replay 16 htold).2 (by rw [hcalls]; exact hmentions)

end Operator

end RelayFleet
