/-
What the operator is about to create while it follows a sweep. The workload that it is about to
apply is that of an active gateway (`asks_applyWorkload`), and the contributions to an artifact that
it is about to apply are of active gateways, or they were there before and their gateways were passed
over (`asks_applyArtifact`). In either case the sweep shows the gateway with the finalizer, or the
finalizer was added in this reconciliation.
-/
import RelayFleet.Proofs.Operator.Artifacts
import RelayFleet.Proofs.Operator.Gateways

namespace RelayFleet

open Program

/-! ## Finalizers that were added -/

namespace OperatorExchange

/-- Whether a gateway was given a finalizer. -/
def gives (gateway : ObjectKey) (finalizer : String) : OperatorExchange → Bool
  | ⟨.write (.addFinalizer gateway' finalizer'), .ok _⟩ =>
    gateway' = gateway ∧ finalizer' = finalizer
  | _ => false

/-- Whether a gateway was given a finalizer in some exchanges. -/
def given (gateway : ObjectKey) (finalizer : String) (log : List OperatorExchange) : Bool :=
  log.any (gives gateway finalizer)

variable {k : ObjectKey} {finalizer : String} {log l₁ l₂ : List OperatorExchange}

theorem given_append : given k finalizer (l₁ ++ l₂) = (given k finalizer l₁ || given k finalizer l₂) :=
  List.any_append

theorem gives_iff {e : OperatorExchange} :
    gives k finalizer e = true ↔ e = ⟨.write (.addFinalizer k finalizer), .ok ()⟩ := by
  constructor
  · intro h
    unfold gives at h
    split at h
    · obtain ⟨rfl, rfl⟩ := of_decide_eq_true h
      rfl
    · cases h
  · rintro rfl
    simp [gives]

theorem given_eq_false (h : ⟨.write (.addFinalizer k finalizer), .ok ()⟩ ∉ log) :
    given k finalizer log = false :=
  List.any_eq_false.2 fun _ he hgives => h (gives_iff.1 hgives ▸ he)

/-- Pauses and attempts at another write give no finalizer. -/
theorem given_of_attempts {w : ClusterWrite} (hw : w ≠ .addFinalizer k finalizer)
    (h : ∀ e ∈ log, e.Attempts w) : given k finalizer log = false :=
  given_eq_false fun hmem => hw (h _ hmem).symm

/-- Pauses and attempts that failed give no finalizer. -/
theorem given_of_idles {w : ClusterWrite} (h : ∀ e ∈ log, e.Idles w) :
    given k finalizer log = false :=
  given_eq_false (h _)

end OperatorExchange

open OperatorExchange

variable {settings : Settings} {log : List OperatorExchange}

/-! ## Writes -/

namespace OperatorProgram

variable {w w' : ClusterWrite} {result : Except Fault Unit}

theorem asks_write (h : Asks (write settings w) log (.write w')) : w' = w := by
  obtain ⟨before, last, rfl, h | ⟨n, h⟩⟩ := Retry.asks_repeating h
  · exact OperatorCall.write.inj (asks_call_iff.1 h).2
  · cases (asks_call_iff.1 h).2

theorem given_of_runs_write {k : ObjectKey} {finalizer : String}
    (h : Runs (write settings (.addFinalizer k finalizer)) log result) :
    given k finalizer log = result.toBool := by
  obtain ⟨before, rfl, hbefore⟩ := runs_write h
  rw [given_append, given_of_idles hbefore, Bool.false_or]
  cases result <;> simp [given, gives, Except.toBool]

end OperatorProgram

/-! ## One gateway -/

namespace Tracked

variable {k : ObjectKey} {wanted : Option Workload} {w : ClusterWrite} {r : GatewayRender}
  {t : Tracked} {before after : Option Tracked}

theorem asks_syncWorkload (h : Asks (syncWorkload settings k wanted t) log (.write w)) :
    w = writeOf k wanted := by
  rw [syncWorkload_eq] at h
  split at h
  · exact absurd h (not_asks_pure _)
  · exact OperatorProgram.asks_write (asks_map_iff.1 h)

theorem attempts_syncWorkload {t' : Tracked} (h : Runs (syncWorkload settings k wanted t) log t') :
    ∀ e ∈ log, e.Attempts (writeOf k wanted) := by
  rw [syncWorkload_eq] at h
  split at h
  · exact runs_done_forall h
  · exact runs_map_forall (fun _ _ h => OperatorProgram.attempts_of_runs_write h) h

theorem writeOf_ne (key k : ObjectKey) (finalizer : String) :
    writeOf key wanted ≠ .addFinalizer k finalizer := by
  cases wanted <;> exact nofun

theorem same_syncWorkload {t' : Tracked} (h : Runs (syncWorkload settings k wanted t) log t') :
    t'.target = t.target ∧ t'.contribution = t.contribution ∧ t'.owner = t.owner := by
  rw [syncWorkload_eq] at h
  split at h
  · cases (runs_pure_iff.1 h).2
    exact ⟨rfl, rfl, rfl⟩
  · obtain ⟨result, -, rfl⟩ := runs_map_iff.1 h
    cases result <;> exact ⟨rfl, rfl, rfl⟩

/-- What became of a gateway, as far as its contribution and its finalizer go: it was taken from the
rendering, it was passed over, or it contributes nothing. -/
inductive Draws (r : GatewayRender) (before : Option Tracked) : Option Tracked → Bool → Prop
  | taken {t : Tracked} {added : Bool} (hactive : r.state = .active)
    (hholds : r.hasFinalizer = ! added) (htarget : t.target = r.target)
    (hcontribution : t.contribution = r.config) : Draws r before (some t) added
  | barred (hactive : r.state = .active) (hlacks : r.hasFinalizer = false) : Draws r before before false
  | idle {after : Option Tracked} (h : ∀ t, after = some t → t.contribution = none) :
    Draws r before after false

theorem draws_activate (h : Runs (activate settings r before) log after) :
    given r.gateway settings.finalizer log = false ∧
      ∃ t, after = some t ∧ t.target = r.target ∧ t.contribution = r.config := by
  obtain ⟨t, hrun, rfl⟩ := runs_map_iff.1 h
  obtain ⟨htarget, hcontribution, -⟩ := same_syncWorkload hrun
  exact ⟨given_of_attempts (writeOf_ne _ _ _) (attempts_syncWorkload hrun), t, rfl, htarget,
    hcontribution⟩

theorem asks_activate {workload : Workload}
    (h : Asks (activate settings r before) log (.write (.applyWorkload workload))) :
    r.workload = some workload ∧ given r.gateway settings.finalizer log = false := by
  obtain ⟨rest, after, hrun⟩ := h.extends (OperatorCall.answered (.ok ())) (.ok ())
  have hnone := (draws_activate hrun).1
  rw [given_append, Bool.or_eq_false_iff] at hnone
  have hw := asks_syncWorkload (asks_map_iff.1 h)
  cases hworkload : r.workload <;> rw [hworkload] at hw <;> cases hw
  exact ⟨rfl, hnone.1⟩

theorem not_asks_tearDown {workload : Workload} :
    ¬ Asks (tearDown settings r before) log (.write (.applyWorkload workload)) := by
  intro h
  unfold tearDown at h
  split at h
  · exact not_asks_pure _ h
  · cases asks_syncWorkload (asks_map_iff.1 h)

/-- The workload that is about to be applied for a gateway is its own, the gateway is active, and it
was rendered with the finalizer or else has been given it. -/
theorem asks_update {workload : Workload}
    (h : Asks (update settings r before) log (.write (.applyWorkload workload))) :
    r.state = .active ∧ r.workload = some workload ∧
      r.hasFinalizer = ! given r.gateway settings.finalizer log := by
  unfold update at h
  split at h
  · rename_i hactive
    refine ⟨hactive, ?_⟩
    unfold ensureActive at h
    split at h
    · rename_i hholds
      obtain ⟨hworkload, hnone⟩ := asks_activate h
      exact ⟨hworkload, by rw [hholds, hnone]; rfl⟩
    · rename_i hlacks
      rcases asks_bind_iff.1 h with hadd | ⟨result, l₁, l₂, rfl, hadd, hnext⟩
      · cases OperatorProgram.asks_write hadd
      · cases result with
        | ok u =>
          obtain ⟨hworkload, -⟩ := asks_activate hnext
          rw [given_append, OperatorProgram.given_of_runs_write hadd]
          exact ⟨hworkload, by simpa [Except.toBool] using hlacks⟩
        | error f => exact absurd hnext (not_asks_pure _)
  · exact absurd h not_asks_tearDown
  · exact absurd h not_asks_tearDown

theorem draws_tearDown (h : Runs (tearDown settings r before) log after) :
    Draws r before after (given r.gateway settings.finalizer log) := by
  unfold tearDown at h
  split at h
  · obtain ⟨rfl, rfl⟩ := runs_pure_iff.1 h
    exact .idle (by rintro _ ⟨⟩)
  · obtain ⟨t, hrun, rfl⟩ := runs_map_iff.1 h
    rw [given_of_attempts (writeOf_ne _ _ _) (attempts_syncWorkload hrun)]
    refine .idle ?_
    rintro _ ⟨⟩
    exact (same_syncWorkload hrun).2.1

theorem draws_update (h : Runs (update settings r before) log after) :
    Draws r before after (given r.gateway settings.finalizer log) := by
  unfold update at h
  split at h
  · rename_i hactive
    unfold ensureActive at h
    split at h
    · rename_i hholds
      obtain ⟨hgiven, t, rfl, htarget, hcontribution⟩ := draws_activate h
      rw [hgiven]
      exact .taken hactive hholds htarget hcontribution
    · rename_i hlacks
      obtain ⟨result, l₁, l₂, rfl, hadd, hnext⟩ := runs_bind_iff.1 h
      rw [given_append, OperatorProgram.given_of_runs_write hadd]
      cases result with
      | ok u =>
        obtain ⟨hgiven, t, rfl, htarget, hcontribution⟩ := draws_activate hnext
        rw [hgiven]
        exact .taken hactive (by simpa [Except.toBool] using hlacks) htarget hcontribution
      | error f =>
        obtain ⟨rfl, rfl⟩ := runs_pure_iff.1 hnext
        exact .barred hactive (by simpa using hlacks)
  · exact draws_tearDown h
  · exact draws_tearDown h

end Tracked

/-! ## All gateways -/

namespace Operator

variable {op op' mid : Operator} {sweep : Sweep} {k : ObjectKey}

/-- What is done for another gateway gives a gateway no finalizer. -/
theorem given_of_serves {key k : ObjectKey} {workload : Option Workload} (hne : k ≠ key)
    (h : ∀ e ∈ log, e.Serves key workload) : given k settings.finalizer log = false :=
  given_eq_false fun hmem => hne (h _ hmem)

/-- What is remembered of a gateway, and whether it was given the finalizer in some exchanges. -/
def drawn (settings : Settings) (k : ObjectKey) (op : Operator) (log : List OperatorExchange) :
    Option Tracked × Bool :=
  (op.gateways.get? k, given k settings.finalizer log)

theorem drawn_of_ne {key : ObjectKey} {workload : Option Workload} {t : Option Tracked}
    (h : ∀ e ∈ log, e.Serves key workload) (before : List OperatorExchange) (hne : k ≠ key) :
    drawn settings k (op.remember key t) (before ++ log) = drawn settings k op before := by
  unfold drawn
  rw [get?_remember_of_ne op t hne, given_append, given_of_serves hne h, Bool.or_false]

/-- Following the gateways of a sweep leaves those alone that it does not show, and draws on it for
those that it shows. -/
theorem draws_follows {rs : List GatewayRender} (hnodup : (rs.map (·.gateway)).Nodup)
    (h : Runs (rs.foldlM (follow settings) op) log mid) :
    (∀ k, k ∉ rs.map (·.gateway) → drawn settings k mid log = drawn settings k op []) ∧
      ∀ r ∈ rs, Tracked.Draws r (op.gateways.get? r.gateway) (mid.gateways.get? r.gateway)
        (given r.gateway settings.finalizer log) := by
  obtain ⟨hothers, hkeys⟩ := runs_foldlM_keyed GatewayRender.gateway (drawn settings)
    (fun r v v' _ => v.2 = false → Tracked.Draws r v.1 v'.1 v'.2) hnodup
    (fun r hr op log op' h before k hne => by
      have hserves := serves_follow h
      obtain ⟨t, -, rfl⟩ := runs_map_iff.1 h
      exact drawn_of_ne hserves before hne)
    (fun r hr op log op' h before hfresh => by
      obtain ⟨t, hrun, rfl⟩ := runs_map_iff.1 h
      have hbefore : given r.gateway settings.finalizer before = false := hfresh
      unfold drawn
      rw [get?_remember_self, given_append, hbefore, Bool.false_or]
      exact Tracked.draws_update hrun) h []
  refine ⟨hothers, fun r hr => ?_⟩
  obtain ⟨-, -, hdraws⟩ := hkeys r hr
  exact hdraws rfl

theorem attempts_vanish {key : ObjectKey} {t t' : Tracked}
    (h : Runs (Tracked.vanish settings key t) log t') :
    (∀ e ∈ log, e.Attempts (.deleteWorkload key)) ∧ t'.contribution = none := by
  obtain ⟨t'', l₁, l₂, rfl, hsync, hend⟩ := runs_bind_iff.1 h
  obtain ⟨rfl, rfl⟩ := runs_pure_iff.1 hend
  rw [List.append_nil]
  exact ⟨Tracked.attempts_syncWorkload hsync, rfl⟩

theorem given_abandons {bs : List (ObjectKey × Tracked)}
    (h : Runs (bs.foldlM (abandon settings) op) log mid) (k : ObjectKey) :
    given k settings.finalizer log = false := by
  refine List.any_eq_false.2 (runs_foldlM_forall (fun op b _ log op' h => ?_) h)
  obtain ⟨t, hrun, -⟩ := runs_map_iff.1 h
  exact List.any_eq_false.1
    (given_of_attempts (w := .deleteWorkload b.1) nofun (attempts_vanish hrun).1)

/-- Gateways that the sweep does not show contribute what they did, or nothing any more. -/
theorem contribution_abandons {bs : List (ObjectKey × Tracked)} (hnodup : (bs.map (·.1)).Nodup)
    (h : Runs (bs.foldlM (abandon settings) op) log mid) (k : ObjectKey) :
    (k ∉ bs.map (·.1) → mid.gateways.get? k = op.gateways.get? k) ∧
      (k ∈ bs.map (·.1) → ∀ t, mid.gateways.get? k = some t → t.contribution = none) := by
  obtain ⟨hothers, hkeys⟩ := runs_foldlM_keyed Prod.fst
    (fun k (op : Operator) (_ : List OperatorExchange) => op.gateways.get? k)
    (fun _ _ v' _ => ∀ t, v' = some t → t.contribution = none) hnodup
    (fun b _ op log op' h before k hne => by
      obtain ⟨t, -, rfl⟩ := runs_map_iff.1 h
      exact get?_remember_of_ne _ _ hne)
    (fun b _ op log op' h before => by
      obtain ⟨t, hrun, rfl⟩ := runs_map_iff.1 h
      rw [get?_remember_self]
      rintro _ ⟨⟩
      exact (attempts_vanish hrun).2) h []
  refine ⟨hothers k, fun hmem => ?_⟩
  obtain ⟨b, hb, rfl⟩ := List.mem_map.1 hmem
  obtain ⟨-, -, hnone⟩ := hkeys b hb
  exact hnone

/-- A contribution that is remembered once the gateways were attended to is that of an active gateway
of the sweep, which was rendered with the finalizer or else has been given it, or it was there
before and the gateway was passed over. -/
theorem draws_attend (hs : sweep.Sound) (h : Runs (op.attend settings sweep) log mid) {t : Tracked}
    (ht : mid.gateways.get? k = some t) (hcontribution : t.contribution ≠ none) :
    (∃ r, sweep.gateways.get? k = some r ∧ r.state = .active ∧ t.target = r.target ∧
      t.contribution = r.config ∧ r.hasFinalizer = ! given k settings.finalizer log) ∨
      op.gateways.get? k = some t ∧ ∀ r, sweep.gateways.get? k = some r →
        r.hasFinalizer = false ∧ given k settings.finalizer log = false := by
  obtain ⟨c, l₁, l₂, rfl, hfollow, habandon⟩ := runs_bind_iff.1 h
  have hnodup : (sweep.gateways.values.map (·.gateway)).Nodup := by
    rw [hs.map_gateway]
    exact SortedMap.nodup_keys _
  obtain ⟨hothers, hdraws⟩ := draws_follows hnodup hfollow
  obtain ⟨hkeeps, hgone⟩ := contribution_abandons (nodup_vanished c sweep) habandon k
  rw [given_append, given_abandons habandon, Bool.or_false]
  by_cases hvanished : k ∈ (c.vanished sweep).map (·.1)
  · -- a gateway that is no more contributes nothing
    exact absurd (hgone hvanished t ht) hcontribution
  · rw [hkeeps hvanished] at ht
    rcases hr : sweep.gateways.get? k with - | r
    · -- one that could not be rendered is left as it was
      have hsame := congrArg Prod.fst (hothers k fun hmem => by
        rw [hs.map_gateway] at hmem
        obtain ⟨r, hr'⟩ := SortedMap.mem_keys_iff.1 hmem
        rw [hr] at hr'
        cases hr')
      exact .inr ⟨hsame.symm.trans ht, by rintro _ ⟨⟩⟩
    · have hdraws := hdraws r (SortedMap.mem_values_iff.2 ⟨k, hr⟩)
      rw [(hs k r hr).1, ht] at hdraws
      generalize given k settings.finalizer l₁ = added at hdraws
      generalize hbefore : op.gateways.get? k = before at hdraws
      generalize hafter : some t = after at hdraws
      cases hdraws with
      | taken hactive hholds htarget hconfig =>
        cases hafter
        exact .inl ⟨r, rfl, hactive, htarget, hconfig, hholds⟩
      | barred _ hlacks =>
        refine .inr ⟨rfl, ?_⟩
        rintro _ ⟨⟩
        exact ⟨hlacks, rfl⟩
      | idle hnone => exact absurd (hnone t hafter.symm) hcontribution

/-! ## What is about to be created -/

theorem Writes.given {s s' : Syncing} {key : ObjectKey} {wanted : Option Artifact}
    (h : Writes key wanted s log s') : given k settings.finalizer log = false := by
  refine given_eq_false fun hmem => ?_
  rcases h.mem _ hmem with hattempt | htold
  · have hwrite : .addFinalizer k settings.finalizer = writeOf key wanted := hattempt
    cases wanted <;> cases hwrite
  · cases wanted <;> cases htold

/-- Bringing the artifacts up to date gives no finalizer and spares the workloads. -/
theorem spares_syncArtifacts {s : Syncing} (h : Runs (op.syncArtifacts settings) log s) :
    ∀ e ∈ log, ¬ gives k settings.finalizer e ∧ e.SparesWorkloads := by
  have hwrites : ∀ {key wanted log} {s s' : Syncing}, Writes key wanted s log s' →
      ∀ e ∈ log, ¬ gives k settings.finalizer e ∧ e.SparesWorkloads := fun h e he =>
    ⟨List.any_eq_false.1 h.given e he, h.sparesWorkloads e he⟩
  refine runs_bind_forall (fun _ _ h => ?_) (fun _ _ _ h => ?_) h
  · exact runs_foldlM_forall (fun _ _ _ _ _ h => hwrites (runs_writeArtifact h)) h
  · exact runs_foldlM_forall (fun _ _ _ _ _ h => hwrites (runs_dropArtifact h)) h

/-- A workload that is about to be applied is that of an active gateway of the sweep, which was
rendered with the finalizer or else has been given it. -/
theorem asks_applyWorkload (hs : sweep.Sound) {workload : Workload}
    (h : Asks (op.reconcile settings sweep) log (.write (.applyWorkload workload))) :
    ∃ r, sweep.gateways.get? workload.gateway = some r ∧ r.state = .active ∧
      r.workload = some workload ∧
      r.hasFinalizer = ! given workload.gateway settings.finalizer log := by
  let answer := OperatorCall.answered (.ok ())
  rw [reconcile_eq, asks_bind_iff] at h
  rcases h with hattend | ⟨mid, l₁, l₂, -, -, hrest⟩
  · rcases asks_bind_iff.1 hattend with hfollow | ⟨c, l₁, l₂, -, -, habandon⟩
    · obtain ⟨earlier, r, later, c, l₁, l₂, hvalues, rfl, hrun, hask⟩ := asks_foldlM hfollow
      obtain ⟨hactive, hworkload, hholds⟩ := Tracked.asks_update (asks_map_iff.1 hask)
      have hr := hs.get?_gateway (r := r) (by simp [hvalues])
      have hkey := (hs _ _ hr).2.own _ hworkload
      -- the gateways before this one are others
      have hnodup : (sweep.gateways.values.map (·.gateway)).Nodup := by
        rw [hs.map_gateway]
        exact SortedMap.nodup_keys _
      rw [hvalues, List.map_append, List.map_cons, List.nodup_append] at hnodup
      have hothers := (draws_follows hnodup.1 hrun).1 r.gateway fun hmem =>
        hnodup.2.2 _ hmem _ (List.mem_cons_self ..) rfl
      have hfresh : given r.gateway settings.finalizer l₁ = false := congrArg Prod.snd hothers
      rw [hkey, given_append, hfresh, Bool.false_or]
      exact ⟨r, hr, hactive, hworkload, hholds⟩
    · -- what is abandoned is not created
      obtain ⟨earlier, b, later, c, l₁, l₂, -, -, -, hask⟩ := asks_foldlM habandon
      cases ((asks_map_iff.1 hask).forall answer (fun _ _ h => (attempts_vanish h).1) (.ok ())).2
  · rcases asks_bind_iff.1 hrest with hsync | ⟨s, l₃, l₄, -, -, hend⟩
    · exact absurd (hsync.forall answer
        (fun _ _ h => spares_syncArtifacts (k := workload.gateway) h) (.ok ())).2.2 id
    · exact absurd hend (not_asks_pure _)

/-- An artifact that is about to be applied is one of those that the contributions add up to. -/
theorem asks_syncArtifacts {a : Artifact}
    (h : Asks (op.syncArtifacts settings) log (.write (.applyArtifact a))) :
    op.desired.get? a.key = some a := by
  rcases asks_bind_iff.1 h with hwrite | ⟨s, l₁, l₂, -, -, hdrop⟩
  · obtain ⟨earlier, a', later, s, l₁, l₂, hvalues, -, -, hask⟩ := asks_foldlM hwrite
    have ha' : a' = a := by
      unfold writeArtifact at hask
      split at hask
      · exact absurd hask (not_asks_pure _)
      · rcases asks_bind_iff.1 hask with hask | ⟨result, l₃, l₄, -, -, hnext⟩
        · cases OperatorProgram.asks_write hask
          rfl
        · cases result with
          | ok u =>
            rcases asks_bind_iff.1 hnext with hpublish | ⟨u, l₅, l₆, -, -, hend⟩
            · cases (asks_call_iff.1 hpublish).2
            · exact absurd hend (not_asks_pure _)
          | error f => exact absurd hnext (not_asks_pure _)
    subst ha'
    obtain ⟨key, hkey⟩ := SortedMap.mem_values_iff.1 (hvalues ▸ List.mem_append_right earlier
      (List.mem_cons_self ..) : a' ∈ op.desired.values)
    rwa [key_of_get?_desired hkey]
  · -- what is dropped is not written
    obtain ⟨earlier, key, later, s, l₁, l₂, -, -, -, hask⟩ := asks_foldlM hdrop
    rcases asks_bind_iff.1 hask with hask | ⟨result, l₃, l₄, -, -, hnext⟩
    · cases OperatorProgram.asks_write hask
    · cases result with
      | ok u =>
        rcases asks_bind_iff.1 hnext with hretire | ⟨u, l₅, l₆, -, -, hend⟩
        · cases (asks_call_iff.1 hretire).2
        · exact absurd hend (not_asks_pure _)
      | error f => exact absurd hnext (not_asks_pure _)

/-- The contributions to an artifact that is about to be applied are of active gateways of the sweep,
which were rendered with the finalizer or else have been given it, or they were there before and
their gateways were passed over. -/
theorem asks_applyArtifact (hs : sweep.Sound) {a : Artifact}
    (h : Asks (op.reconcile settings sweep) log (.write (.applyArtifact a))) :
    ∃ mid : Operator, mid.desired.get? a.key = some a ∧
      ∀ k t, mid.gateways.get? k = some t → t.contribution ≠ none →
        (∃ r, sweep.gateways.get? k = some r ∧ r.state = .active ∧ t.target = r.target ∧
          t.contribution = r.config ∧ r.hasFinalizer = ! given k settings.finalizer log) ∨
        op.gateways.get? k = some t ∧ ∀ r, sweep.gateways.get? k = some r →
          r.hasFinalizer = false ∧ given k settings.finalizer log = false := by
  let answer := OperatorCall.answered (.ok ())
  rw [reconcile_eq, asks_bind_iff] at h
  rcases h with hattend | ⟨mid, l₁, l₂, rfl, hattend, hrest⟩
  · exact absurd (hattend.forall answer (fun _ _ h => (attend_spares h).2) (.ok ())).2 id
  · rcases asks_bind_iff.1 hrest with hsync | ⟨s, l₃, l₄, -, -, hend⟩
    · refine ⟨mid, asks_syncArtifacts hsync, fun k t ht hcontribution => ?_⟩
      have hnone : given k settings.finalizer l₂ = false := List.any_eq_false.2 fun e he =>
        ((hsync.forall answer (fun _ _ h => spares_syncArtifacts h) (.ok ())).1 e he).1
      rw [given_append, hnone, Bool.or_false]
      exact draws_attend hs hattend ht hcontribution
    · exact absurd hend (not_asks_pure _)

end Operator

end RelayFleet
