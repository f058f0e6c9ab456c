/-
What the operator does for one gateway. It makes writes for that gateway only (`serves_update`), and
it comes to one of a few outcomes (`runs_update`, `runs_vanish`), in each of which what it knows of
the gateway's workload stays right: nothing remembered means that there is no workload, and a
workload that was synced is there as remembered.
-/
import RelayFleet.Operator.Tracked
import RelayFleet.Proofs.Operator.Write
import RelayFleet.Proofs.Render.Gateway

namespace RelayFleet

/-! ## Exchanges for a gateway -/

namespace OperatorExchange

/-- Whether it is a pause, or a write for a gateway that needs this workload. -/
def Serves (key : ObjectKey) (workload : Option Workload) : OperatorExchange → Prop
  | ⟨.write (.addFinalizer key' _), _⟩ => key' = key
  | ⟨.write (.applyWorkload w), _⟩ => workload = some w
  | ⟨.write (.deleteWorkload key'), _⟩ => key' = key
  | ⟨.pause _, _⟩ => True
  | _ => False

/-- Whether it leaves artifacts, and what was told of them, as they are. -/
def SparesArtifacts : OperatorExchange → Prop
  | ⟨.write (.applyArtifact _), _⟩ => False
  | ⟨.write (.deleteArtifact _), _⟩ => False
  | ⟨.publish _ _, _⟩ => False
  | ⟨.retire _, _⟩ => False
  | _ => True

theorem Serves.sparesArtifacts {key : ObjectKey} {workload : Option Workload}
    {e : OperatorExchange} (h : e.Serves key workload) : e.SparesArtifacts := by
  obtain ⟨c, r⟩ := e
  cases c with
  | write w => cases w <;> trivial
  | pause n => trivial
  | publish k d => exact h
  | retire k => exact h

theorem Serves.of_none {key : ObjectKey} {workload : Option Workload} {e : OperatorExchange}
    (h : e.Serves key none) : e.Serves key workload := by
  obtain ⟨c, r⟩ := e
  cases c with
  | write w =>
    cases w with
    | applyWorkload w => exact absurd h (by rintro ⟨⟩)
    | _ => exact h
  | pause n => trivial
  | publish k d => exact h
  | retire k => exact h

end OperatorExchange

/-! ## Derived resources -/

namespace Derived

theorem artifacts_after {d : Derived} {e : OperatorExchange} (h : e.SparesArtifacts) :
    (d.after e).artifacts = d.artifacts := by
  obtain ⟨c, r⟩ := e
  cases c with
  | write w =>
    cases r with
    | error f => rfl
    | ok u => cases w <;> first | rfl | exact absurd h id
  | pause n => rfl
  | publish k d => rfl
  | retire k => rfl

theorem artifacts_replay {d : Derived} {log : List OperatorExchange}
    (h : ∀ e ∈ log, e.SparesArtifacts) : (d.replay log).artifacts = d.artifacts := by
  induction log generalizing d with
  | nil => rfl
  | cons e rest ih =>
    show ((d.after e).replay rest).artifacts = d.artifacts
    rw [ih fun e he => h e (List.mem_cons_of_mem _ he), artifacts_after (h e (List.mem_cons_self ..))]

theorem workload_after {d : Derived} {key k : ObjectKey} {workload : Option Workload}
    {e : OperatorExchange} (hw : ∀ w, workload = some w → w.gateway = key)
    (h : e.Serves key workload) (hk : k ≠ key) :
    (d.after e).workloads.get? k = d.workloads.get? k := by
  obtain ⟨c, r⟩ := e
  cases c with
  | write w =>
    cases r with
    | error f => rfl
    | ok u =>
      cases w with
      | applyWorkload w =>
        show (d.workloads.insert w.gateway w).get? k = _
        rw [hw w h, SortedMap.get?_insert_of_ne _ _ hk]
      | deleteWorkload key' =>
        have hkey : key' = key := h
        show (d.workloads.erase key').get? k = _
        rw [hkey, SortedMap.get?_erase_of_ne _ hk]
      | _ => rfl
  | pause n => rfl
  | publish k d => rfl
  | retire k => rfl

/-- What is done for one gateway leaves the workloads of the others as they are. -/
theorem workload_replay {d : Derived} {key k : ObjectKey} {workload : Option Workload}
    {log : List OperatorExchange} (hw : ∀ w, workload = some w → w.gateway = key)
    (h : ∀ e ∈ log, e.Serves key workload) (hk : k ≠ key) :
    (d.replay log).workloads.get? k = d.workloads.get? k := by
  induction log generalizing d with
  | nil => rfl
  | cons e rest ih =>
    show ((d.after e).replay rest).workloads.get? k = _
    rw [ih fun e he => h e (List.mem_cons_of_mem _ he),
      workload_after hw (h e (List.mem_cons_self ..)) hk]

end Derived

/-! ## What is known of a workload -/

namespace Tracked

open Program OperatorExchange

variable {settings : Settings} {log : List OperatorExchange}

/-- Whether what is remembered of a gateway is right about its workload. -/
def Knows : Option Tracked → Option Workload → Prop
  | none, w => w = none
  | some t, w => t.synced = true → w = t.workload

/-- What seeing to a workload comes to, for what is remembered and for the workload that is there:
either both are as wanted, or a write failed and the workload is still what it was. -/
inductive Sees (wanted : Option Workload) (t : Tracked) (w : Option Workload)
    (log : List OperatorExchange) : Tracked → Option Workload → Prop
  | settled : Sees wanted t w log { t with workload := wanted, synced := true } wanted
  | failed (h : ¬ Clean log) : Sees wanted t w log { t with synced := false } w

theorem Sees.contribution {wanted w w' : Option Workload} {t t' : Tracked}
    (h : Sees wanted t w log t' w') : t'.contribution = t.contribution := by
  cases h <;> rfl

/-- If no call fails, the workload is as it is wanted. -/
theorem Sees.of_clean {wanted w w' : Option Workload} {t t' : Tracked}
    (h : Sees wanted t w log t' w') (hc : Clean log) :
    t' = { t with workload := wanted, synced := true } ∧ w' = wanted := by
  cases h with
  | settled => exact ⟨rfl, rfl⟩
  | failed hdirty => exact absurd hc hdirty

theorem Sees.knows {wanted w w' : Option Workload} {t t' : Tracked}
    (h : Sees wanted t w log t' w') : Knows (some t') w' := by
  cases h with
  | settled => exact fun _ => rfl
  | failed _ => exact fun h => by cases h

/-- The write that gives a gateway its workload, or none. -/
def writeOf (key : ObjectKey) : Option Workload → ClusterWrite
  | some w => .applyWorkload w
  | none => .deleteWorkload key

theorem syncWorkload_eq (key : ObjectKey) (wanted : Option Workload) (t : Tracked) :
    syncWorkload settings key wanted t =
      if t.synced ∧ t.workload = wanted then pure t
      else t.recording wanted <$> OperatorProgram.write settings (writeOf key wanted) := by
  cases wanted <;> rfl

theorem workload_write (d : Derived) {key : ObjectKey} {wanted : Option Workload}
    (hw : ∀ w, wanted = some w → w.gateway = key) :
    (d.write (writeOf key wanted)).workloads.get? key = wanted := by
  cases wanted with
  | some w =>
    show (d.workloads.insert w.gateway w).get? key = some w
    rw [hw w rfl, SortedMap.get?_insert_self]
  | none => exact SortedMap.get?_erase_self _ _

theorem Sees.of_part {wanted w w' : Option Workload} {t t' : Tracked}
    {part : List OperatorExchange} (hpart : ∀ e ∈ part, e ∈ log)
    (h : Sees wanted t w part t' w') : Sees wanted t w log t' w' := by
  cases h with
  | settled => exact .settled
  | failed hc => exact .failed fun hcl => hc fun e he => hcl e (hpart e he)

/-- The contribution has no part in seeing to a workload. -/
theorem Sees.forgetting {wanted w w' : Option Workload} {t t' : Tracked}
    (h : Sees wanted t w log t' w') :
    Sees wanted { t with contribution := none } w log { t' with contribution := none } w' := by
  cases h with
  | settled => exact .settled
  | failed hc => exact .failed hc

theorem serves_of_attempts {key : ObjectKey} {wanted : Option Workload} {w : ClusterWrite}
    {e : OperatorExchange} (hw : ∀ r, OperatorExchange.Serves key wanted ⟨.write w, r⟩)
    (h : e.Attempts w) : e.Serves key wanted := by
  obtain ⟨c, r⟩ := e
  cases c with
  | write w' =>
    have hww : w' = w := h
    subst hww
    exact hw r
  | pause n => trivial
  | publish k d => exact absurd h id
  | retire k => exact absurd h id

theorem serves_write {key : ObjectKey} {wanted : Option Workload} {w : ClusterWrite}
    (hw : ∀ r, OperatorExchange.Serves key wanted ⟨.write w, r⟩) (log : List OperatorExchange)
    (result : Except Fault Unit) (h : Runs (OperatorProgram.write settings w) log result) :
    ∀ e ∈ log, e.Serves key wanted :=
  fun e he => serves_of_attempts hw (OperatorProgram.attempts_of_runs_write h e he)

theorem serves_syncWorkload {key : ObjectKey} {wanted : Option Workload} {t t' : Tracked}
    (h : Runs (syncWorkload settings key wanted t) log t') :
    ∀ e ∈ log, e.Serves key wanted := by
  rw [syncWorkload_eq] at h
  split at h
  · exact runs_done_forall h
  · refine runs_map_forall (serves_write fun r => ?_) h
    cases wanted <;> rfl

theorem runs_syncWorkload {key : ObjectKey} {wanted : Option Workload} {t t' : Tracked}
    (hw : ∀ w, wanted = some w → w.gateway = key)
    (h : Runs (syncWorkload settings key wanted t) log t') {d : Derived}
    (hk : Knows (some t) (d.workloads.get? key)) :
    Sees wanted t (d.workloads.get? key) log t' ((d.replay log).workloads.get? key) := by
  rw [syncWorkload_eq] at h
  split at h
  · rename_i hs
    obtain ⟨rfl, rfl⟩ := runs_pure_iff.1 h
    obtain ⟨hsynced, rfl⟩ := hs
    have hsettled : Sees t'.workload t' (d.workloads.get? key) []
      { t' with workload := t'.workload, synced := true } t'.workload := .settled
    rw [Derived.replay_nil, hk hsynced]
    rwa [hk hsynced, ← hsynced] at hsettled
  · obtain ⟨result, hrun, rfl⟩ := runs_map_iff.1 h
    rw [OperatorProgram.replay_write hrun]
    cases result with
    | ok u =>
      have hthere : (d.after ⟨.write (writeOf key wanted), .ok u⟩).workloads.get? key = wanted :=
        workload_write d hw
      rw [hthere]
      exact .settled
    | error f =>
      refine .failed fun hc => ?_
      cases OperatorProgram.write_ok_of_clean hrun hc

/-! ## Rendered gateways -/

/-- What is remembered of a rendered gateway before its workload is seen to. -/
def aimed (r : GatewayRender) (t : Option Tracked) : Option Tracked :=
  if r.state = .active then
    some { t.getD {} with target := r.target, contribution := r.config, owner := r.owner }
  else
    (t.orElse fun _ => if r.hasFinalizer then some (unheard r.gateway) else none).map fun t =>
      { t with contribution := none }

theorem aimed_of_active {r : GatewayRender} (h : r.state = .active) (t : Option Tracked) :
    aimed r t = some { t.getD {} with
      target := r.target, contribution := r.config, owner := r.owner } := if_pos h

/-- Nothing is remembered only of gateways of which nothing was. -/
theorem none_of_aimed {r : GatewayRender} {t : Option Tracked} (h : aimed r t = none) :
    t = none := by
  cases t with
  | none => rfl
  | some t =>
    unfold aimed at h
    split at h <;> cases h

theorem contribution_aimed {r : GatewayRender} {t : Option Tracked} {a : Tracked}
    (h : aimed r t = some a) :
    a.contribution = if r.state = .active then r.config else none := by
  unfold aimed at h
  split at h
  · cases h
    rw [if_pos ‹_›]
  · obtain ⟨t₀, -, rfl⟩ := Option.map_eq_some_iff.1 h
    rw [if_neg ‹_›]

/-- What following a rendered gateway comes to: it is not looked after, it did not get the finalizer
and is left as it was, or its workload is seen to. -/
inductive Follows (r : GatewayRender) (t : Option Tracked) (w : Option Workload)
    (log : List OperatorExchange) : Option Tracked → Option Workload → Prop
  | ignored (h : aimed r t = none) : Follows r t w log none w
  | barred (hs : r.state = .active) (hf : r.hasFinalizer = false) (hc : ¬ Clean log) :
    Follows r t w log t w
  | seen {a t' : Tracked} {w' : Option Workload} (ha : aimed r t = some a)
    (h : Sees r.workload a w log t' w') : Follows r t w log (some t') w'

theorem Follows.of_part {r : GatewayRender} {t t' : Option Tracked} {w w' : Option Workload}
    {part : List OperatorExchange} (hpart : ∀ e ∈ part, e ∈ log)
    (h : Follows r t w part t' w') : Follows r t w log t' w' := by
  cases h with
  | ignored h => exact .ignored h
  | barred hs hf hc => exact .barred hs hf fun hcl => hc fun e he => hcl e (hpart e he)
  | seen ha h => exact .seen ha (h.of_part hpart)

theorem Follows.knows {r : GatewayRender} {t t' : Option Tracked} {w w' : Option Workload}
    (h : Follows r t w log t' w') (hk : Knows t w) : Knows t' w' := by
  cases h with
  | ignored h =>
    rw [none_of_aimed h] at hk
    exact hk
  | barred => exact hk
  | seen ha h => exact h.knows

/-- Whether a workload is known does not depend on what its gateway contributes. -/
theorem knows_of_aimed {r : GatewayRender} {t : Option Tracked} {a : Tracked}
    {w : Option Workload} (ha : aimed r t = some a) (hk : Knows t w) : Knows (some a) w := by
  cases t with
  | none =>
    have hfresh : a.synced = false := by
      unfold aimed at ha
      split at ha
      · cases ha
        rfl
      · by_cases hf : r.hasFinalizer
        · simp [hf] at ha
          rw [← ha]
          rfl
        · simp [hf] at ha
    intro hs
    rw [hfresh] at hs
    cases hs
  | some t =>
    have hsame : a.synced = t.synced ∧ a.workload = t.workload := by
      unfold aimed at ha
      split at ha <;> cases ha <;> exact ⟨rfl, rfl⟩
    intro hs
    rw [hsame.2]
    exact hk (hsame.1 ▸ hs)

theorem serves_activate {r : GatewayRender} {t : Option Tracked}
    (log : List OperatorExchange) (t' : Option Tracked)
    (h : Runs (activate settings r t) log t') : ∀ e ∈ log, e.Serves r.gateway r.workload :=
  runs_map_forall (fun _ _ h => serves_syncWorkload h) h

theorem serves_tearDown {r : GatewayRender} {t t' : Option Tracked}
    (h : Runs (tearDown settings r t) log t') :
    ∀ e ∈ log, e.Serves r.gateway r.workload := by
  unfold tearDown at h
  split at h
  · exact runs_done_forall h
  · exact fun e he => (runs_map_forall (fun _ _ h => serves_syncWorkload h) h e he).of_none

/-- Following a gateway makes writes for this gateway only. -/
theorem serves_update {r : GatewayRender} {t t' : Option Tracked}
    (h : Runs (update settings r t) log t') :
    ∀ e ∈ log, e.Serves r.gateway r.workload := by
  unfold update at h
  split at h
  · unfold ensureActive at h
    split at h
    · exact serves_activate _ _ h
    · have hadd : ∀ (log : List OperatorExchange) result,
          Runs (OperatorProgram.write settings (.addFinalizer r.gateway settings.finalizer)) log
            result → ∀ e ∈ log, e.Serves r.gateway r.workload := serves_write fun _ => rfl
      refine runs_bind_forall hadd (fun result log t' h => ?_) h
      cases result with
      | ok u => exact serves_activate log t' h
      | error f => exact runs_done_forall h
  · exact serves_tearDown h
  · exact serves_tearDown h

theorem runs_activate {r : GatewayRender} {t t' : Option Tracked} (hr : r.Sound)
    (ha : r.state = .active) (h : Runs (activate settings r t) log t') {d : Derived}
    (hk : Knows t (d.workloads.get? r.gateway)) :
    Follows r t (d.workloads.get? r.gateway) log t' ((d.replay log).workloads.get? r.gateway) := by
  have haim : aimed r t =
      some { t.getD {} with target := r.target, contribution := r.config, owner := r.owner } :=
    if_pos ha
  obtain ⟨t'', hrun, rfl⟩ := runs_map_iff.1 h
  exact .seen haim (runs_syncWorkload hr.own hrun (knows_of_aimed haim hk))

theorem runs_tearDown {r : GatewayRender} {t t' : Option Tracked} (hr : r.Sound)
    (ha : r.state ≠ .active) (h : Runs (tearDown settings r t) log t') {d : Derived}
    (hk : Knows t (d.workloads.get? r.gateway)) :
    Follows r t (d.workloads.get? r.gateway) log t' ((d.replay log).workloads.get? r.gateway) := by
  have haim : aimed r t =
      (t.orElse fun _ => if r.hasFinalizer then some (unheard r.gateway) else none).map fun t =>
        { t with contribution := none } := if_neg ha
  unfold tearDown at h
  split at h
  · rename_i hnone
    obtain ⟨rfl, rfl⟩ := runs_pure_iff.1 h
    exact .ignored (by rw [haim, hnone]; rfl)
  · rename_i before hsome
    rw [hsome] at haim
    obtain ⟨t'', hrun, rfl⟩ := runs_map_iff.1 h
    have hsees := runs_syncWorkload (fun w hw => by cases hw) hrun (knows_of_aimed haim hk)
    rw [← (hr.idle ha).2.2] at hsees
    exact .seen haim hsees

theorem runs_update {r : GatewayRender} {t t' : Option Tracked} (hr : r.Sound)
    (h : Runs (update settings r t) log t') {d : Derived}
    (hk : Knows t (d.workloads.get? r.gateway)) :
    Follows r t (d.workloads.get? r.gateway) log t' ((d.replay log).workloads.get? r.gateway) := by
  unfold update at h
  split at h
  · rename_i hactive
    unfold ensureActive at h
    split at h
    · exact runs_activate hr hactive h hk
    · rename_i hfinalizer
      obtain ⟨result, l₁, l₂, rfl, hwrite, h⟩ := runs_bind_iff.1 h
      have hsame : d.replay l₁ = d := by
        rw [OperatorProgram.replay_write hwrite]
        cases result <;> rfl
      cases result with
      | ok u =>
        rw [Derived.replay_append, hsame]
        exact (runs_activate hr hactive h hk).of_part fun e he => List.mem_append_right l₁ he
      | error f =>
        obtain ⟨rfl, rfl⟩ := runs_pure_iff.1 h
        rw [List.append_nil, hsame]
        refine .barred hactive (by simpa using hfinalizer) fun hcl => ?_
        cases OperatorProgram.write_ok_of_clean hwrite hcl
  · rename_i hinvalid
    exact runs_tearDown hr (by rw [hinvalid]; decide) h hk
  · rename_i hterminating
    exact runs_tearDown hr (by rw [hterminating]; decide) h hk

/-! ## Vanished gateways -/

theorem serves_vanish {key : ObjectKey} {t t' : Tracked}
    (h : Runs (vanish settings key t) log t') : ∀ e ∈ log, e.Serves key none :=
  runs_bind_forall (fun _ _ h => serves_syncWorkload h) (fun _ _ _ h => runs_done_forall h) h

theorem runs_vanish {key : ObjectKey} {t t' : Tracked} (h : Runs (vanish settings key t) log t')
    {d : Derived} (hk : Knows (some t) (d.workloads.get? key)) :
    Sees none { t with contribution := none } (d.workloads.get? key) log t'
      ((d.replay log).workloads.get? key) := by
  obtain ⟨t'', l₁, l₂, rfl, hsync, h⟩ := runs_bind_iff.1 h
  obtain ⟨rfl, rfl⟩ := runs_pure_iff.1 h
  rw [List.append_nil]
  exact (runs_syncWorkload (fun w hw => by cases hw) hsync hk).forgetting

end Tracked

end RelayFleet
