/-
One gateway's failures do not reach the others (`gateways_apart`). Two reconciliations start from the
same state, and the writes for one gateway may fail in one and not in the other, while all other
writes are answered alike. Then every other gateway has the same share in both, so has every artifact
that this gateway has nothing to do with, and the two can only differ in what is derived from this
gateway, in its targets, and in whether a gateway of which nothing is left has to wait for one of
these targets.
-/
import RelayFleet.Proofs.Operator.Share

namespace RelayFleet

open Program

/-! ## Answers -/

namespace OperatorExchange

/-- The answer to a write, if the exchange is an attempt at it. -/
def answer? (w : ClusterWrite) : OperatorExchange → Option (Except Fault Unit)
  | ⟨.write w', r⟩ => if w' = w then some r else none
  | _ => none

/-- The answers to the attempts at a write, in order. -/
def results (w : ClusterWrite) (log : List OperatorExchange) : List (Except Fault Unit) :=
  log.filterMap (answer? w)

/-- Whether the attempts at a write are answered alike in two logs, as often as both make one. -/
def Concur (w : ClusterWrite) (l₁ l₂ : List OperatorExchange) : Prop :=
  results w l₁ <+: results w l₂ ∨ results w l₂ <+: results w l₁

instance (w : ClusterWrite) (l₁ l₂ : List OperatorExchange) : Decidable (Concur w l₁ l₂) :=
  inferInstanceAs (Decidable (_ ∨ _))

variable {w : ClusterWrite} {log l₁ l₂ : List OperatorExchange} {α : Type}

theorem results_write (w : ClusterWrite) (same : List OperatorExchange) (r : Except Fault Unit)
    (rest : List OperatorExchange) :
    results w (same ++ ⟨.write w, r⟩ :: rest) = results w same ++ r :: results w rest := by
  have hanswer : answer? w ⟨.write w, r⟩ = some r := if_pos rfl
  unfold results
  rw [List.filterMap_append, List.filterMap_cons_some hanswer]

/-- The answers to a write are those among the exchanges that it is among. -/
theorem results_filter {p : OperatorExchange → Bool} (hp : ∀ r, p ⟨.write w, r⟩ = true)
    (log : List OperatorExchange) : results w (log.filter p) = results w log := by
  unfold results
  rw [List.filterMap_filter]
  refine List.filterMap_congr fun e _ => ?_
  obtain ⟨c, r⟩ := e
  cases c with
  | write w' =>
    by_cases hw : w' = w
    · subst hw
      simp [hp]
    · simp [answer?, hw]
  | _ => simp [answer?]

theorem results_eq_nil (h : ∀ r, ⟨.write w, r⟩ ∉ log) : results w log = [] := by
  refine List.filterMap_eq_nil_iff.2 fun e he => ?_
  obtain ⟨c, r⟩ := e
  cases c with
  | write w' =>
    refine if_neg fun hw => h r ?_
    rwa [hw] at he
  | _ => rfl

/-- The write that is attempted, if the exchange is an attempt at one. -/
def write? : OperatorExchange → Option ClusterWrite
  | ⟨.write w, _⟩ => some w
  | _ => none

/-- It is enough to look at the writes that one of the logs makes. -/
theorem concur_of_writes {P : ClusterWrite → Prop}
    (h : ∀ w ∈ l₁.filterMap write?, P w → Concur w l₁ l₂) (w : ClusterWrite) (hw : P w) :
    Concur w l₁ l₂ := by
  by_cases hmade : w ∈ l₁.filterMap write?
  · exact h w hmade hw
  · refine .inl ?_
    rw [results_eq_nil fun r hr => hmade (List.mem_filterMap.2 ⟨_, hr, rfl⟩)]
    exact List.nil_prefix

/-- A program that is answered alike does the same. -/
theorem eq_of_concur {p : OperatorProgram α} {a₁ a₂ : α} (h₁ : Runs p l₁ a₁) (h₂ : Runs p l₂ a₂)
    (h : ∀ w r, ⟨.write w, r⟩ ∈ l₁ → Concur w l₁ l₂) : l₁ = l₂ ∧ a₁ = a₂ := by
  rcases h₁.eq_or_differ h₂ with hsame | ⟨same, i, r₁, r₂, rest₁, rest₂, rfl, rfl, hne⟩
  · exact hsame
  · refine absurd ?_ hne
    cases i with
    | write w =>
      have hc := h w r₁ (List.mem_append_right _ (List.mem_cons_self ..))
      unfold Concur at hc
      rw [results_write, results_write, List.prefix_append_right_inj,
        List.prefix_append_right_inj, List.cons_prefix_cons, List.cons_prefix_cons] at hc
      rcases hc with ⟨hr, -⟩ | ⟨hr, -⟩
      · exact hr
      · exact hr.symm
    | pause n => rfl
    | publish key c => rfl
    | retire key => rfl

/-- A write concerns one gateway at most. -/
theorem concerns_unique {k x : ObjectKey} (hk : w.concerns k = true) (hne : k ≠ x) :
    w.concerns x = false := by
  cases w <;> first
    | exact decide_eq_false ((of_decide_eq_true hk).trans_ne hne)
    | cases hk

end OperatorExchange

open OperatorExchange

/-! ## Targets of a gateway -/

namespace Tracked

variable {settings : Settings} {r : GatewayRender} {t : Option Tracked} {t' : Tracked}
  {log : List OperatorExchange}

/-- What is done for a rendered gateway leaves it the target that is remembered, or the one of its
own name, or gives it the one that was rendered. -/
theorem target_update (h : Runs (update settings r t) log (some t')) :
    (∃ t₀, t = some t₀ ∧ t'.target = t₀.target) ∨
      t = none ∧ t'.target = (unheard r.gateway).target ∨
      t'.target = r.target ∧ t'.contribution = r.config ∧ r.state = .active := by
  have hactivate : ∀ log, r.state = .active → Runs (activate settings r t) log (some t') →
      t'.target = r.target ∧ t'.contribution = r.config ∧ r.state = .active := by
    intro log hactive h
    obtain ⟨t₁, hrun, ht₁⟩ := runs_map_iff.1 h
    cases ht₁
    obtain ⟨htarget, hcontribution, -⟩ := same_syncWorkload hrun
    exact ⟨htarget, hcontribution, hactive⟩
  have htear : ∀ log, Runs (tearDown settings r t) log (some t') →
      (∃ t₀, t = some t₀ ∧ t'.target = t₀.target) ∨
        t = none ∧ t'.target = (unheard r.gateway).target := by
    intro log h
    unfold tearDown at h
    split at h
    · cases (runs_pure_iff.1 h).2
    · rename_i t₁ ht₁
      obtain ⟨t₂, hrun, ht₂⟩ := runs_map_iff.1 h
      cases ht₂
      have htarget := (same_syncWorkload hrun).1
      cases t with
      | some t₀ =>
        cases ht₁
        exact .inl ⟨_, rfl, htarget⟩
      | none =>
        refine .inr ⟨rfl, htarget.trans ?_⟩
        by_cases hholds : r.hasFinalizer = true
        · simp only [hholds] at ht₁
          cases ht₁
          rfl
        · simp [hholds] at ht₁
  unfold update at h
  split at h
  · rename_i hactive
    unfold ensureActive at h
    split at h
    · exact .inr (.inr (hactivate _ hactive h))
    · obtain ⟨result, l₁, l₂, rfl, -, hnext⟩ := runs_bind_iff.1 h
      cases result with
      | ok u => exact .inr (.inr (hactivate _ hactive hnext))
      | error f => exact .inl ⟨t', (runs_pure_iff.1 hnext).2.symm, rfl⟩
  · exact (htear _ h).imp_right .inl
  · exact (htear _ h).imp_right .inl

end Tracked

namespace Operator

variable {settings : Settings} {sweep : Sweep} {op op₁ op₂ mid₁ mid₂ : Operator}
  {k x key : ObjectKey} {t : Option Tracked} {w : ClusterWrite}
  {log part l₁ l₂ : List OperatorExchange}
  {release₁ release₂ failed₁ failed₂ : List ObjectKey}

/-- What a gateway may have to do with in a reconciliation: the artifact of its own name, the target
that is remembered of it, and its target in the sweep. -/
def targetsOf (op : Operator) (sweep : Sweep) (x : ObjectKey) : List ObjectKey :=
  .namespaced x.namespaceText x.name :: ((op.gateways.get? x).bind (·.target)).toList ++
    ((sweep.gateways.get? x).bind (·.target)).toList

/-- After its share a gateway has the target that is remembered of it, or the one of its own name, or
the one in the sweep. -/
theorem target_attendShare (hs : sweep.Keyed) {t' : Tracked}
    (h : Runs (attendShare settings sweep k t) part (some t')) :
    (∃ t₀, t = some t₀ ∧ t'.target = t₀.target) ∨
      t = none ∧ t'.target = (Tracked.unheard k).target ∨
      ∃ r, sweep.gateways.get? k = some r ∧ t'.target = r.target ∧ t'.contribution = r.config ∧
        r.state = .active := by
  obtain ⟨u, l₁, l₂, rfl, hfollow, habandon⟩ := runs_bind_iff.1 h
  unfold followShare at hfollow
  split at hfollow
  · rename_i r hr
    -- a gateway of the sweep is not taken down afterwards
    have hkept : u = some t' := by
      unfold abandonShare at habandon
      split at habandon
      · rw [if_neg fun hgone => by cases hr.symm.trans hgone.1] at habandon
        exact (runs_pure_iff.1 habandon).2.symm
      · cases (runs_pure_iff.1 habandon).2
    subst hkept
    rcases Tracked.target_update hfollow with hbefore | ⟨hnone, htarget⟩ | hactive
    · exact .inl hbefore
    · exact .inr (.inl ⟨hnone, (hs k r hr).1 ▸ htarget⟩)
    · exact .inr (.inr ⟨r, hr, hactive⟩)
  · obtain ⟨-, rfl⟩ := runs_pure_iff.1 hfollow
    unfold abandonShare at habandon
    split at habandon
    · rename_i t₀
      refine .inl ⟨t₀, rfl, ?_⟩
      split at habandon
      · obtain ⟨t₁, hrun, ht₁⟩ := runs_map_iff.1 habandon
        cases ht₁
        obtain ⟨t₂, l₃, l₄, rfl, hsync, hend⟩ := runs_bind_iff.1 hrun
        obtain ⟨rfl, rfl⟩ := runs_pure_iff.1 hend
        exact (Tracked.same_syncWorkload hsync).1
      · cases (runs_pure_iff.1 habandon).2
        rfl
    · cases (runs_pure_iff.1 habandon).2

theorem mem_targetsOf (hs : sweep.Keyed) {t' : Tracked}
    (h : Runs (attendShare settings sweep x (op.gateways.get? x)) part (some t'))
    (hkey : t'.target = some key) : key ∈ op.targetsOf sweep x := by
  unfold targetsOf
  simp only [List.cons_append, List.mem_cons, List.mem_append, Option.mem_toList,
    Option.bind_eq_some_iff]
  rcases target_attendShare hs h with ⟨t₀, ht₀, htarget⟩ | ⟨-, htarget⟩ | ⟨r, hr, htarget, -⟩
  · exact .inr (.inl ⟨t₀, ht₀, htarget ▸ hkey⟩)
  · exact .inl (Option.some.inj (hkey.symm.trans htarget))
  · exact .inr (.inr ⟨r, hr, htarget ▸ hkey⟩)

/-! ## Contributions to an artifact -/

/-- What is wanted of an artifact, and whether anybody is aimed at it, depends on the gateways that
have it as their target. -/
theorem desired_congr (h : ∀ k t, t.target = some key →
    (op₁.gateways.get? k = some t ↔ op₂.gateways.get? k = some t)) :
    op₁.desired.get? key = op₂.desired.get? key ∧ op₁.aims key = op₂.aims key := by
  have hfilter : (op₁.gateways.filter fun _ t => t.target = some key) =
      op₂.gateways.filter fun _ t => t.target = some key := by
    refine SortedMap.ext_get? fun k => Option.ext fun t => ?_
    rw [SortedMap.get?_filter, SortedMap.get?_filter, Option.filter_eq_some_iff,
      Option.filter_eq_some_iff]
    exact and_congr_left fun ht => h k t (of_decide_eq_true ht)
  have hskip : ∀ (_ : ObjectKey) (t : Tracked) a, decide (t.target = some key) = false →
      contributeTo key a t = a := fun _ t a ht => if_neg (of_decide_eq_false ht)
  constructor
  · rw [get?_desired, get?_desired, ← SortedMap.foldl_values_filter hskip, hfilter,
      SortedMap.foldl_values_filter hskip]
  · rw [Bool.eq_iff_iff]
    unfold aims
    simp only [List.any_eq_true, decide_eq_true_eq, SortedMap.mem_values_iff]
    constructor
    · rintro ⟨t, ⟨k, hk⟩, ht⟩
      exact ⟨t, ⟨k, (h k t ht).1 hk⟩, ht⟩
    · rintro ⟨t, ⟨k, hk⟩, ht⟩
      exact ⟨t, ⟨k, (h k t ht).2 hk⟩, ht⟩

/-! ## Two reconciliations -/

theorem results_of_concerns (hk : w.concerns k = true) (h : concerning k log = concerning k part) :
    results w log = results w part := by
  rw [← results_filter (p := concerns k) (fun _ => hk) log,
    ← results_filter (p := concerns k) (fun _ => hk) part]
  exact congrArg (results w) h

/-- Every other gateway has the same share in both. -/
theorem Shares.gateway_eq (hs : sweep.Keyed)
    (h₁ : Shares settings sweep op mid₁ failed₁ l₁ release₁ op₁)
    (h₂ : Shares settings sweep op mid₂ failed₂ l₂ release₂ op₂)
    (hconcur : ∀ w, w.concerns x = false → Concur w l₁ l₂) (hne : k ≠ x) :
    mid₁.gateways.get? k = mid₂.gateways.get? k ∧ concerning k l₁ = concerning k l₂ := by
  obtain ⟨part₁, hrun₁, hcalls₁⟩ := h₁.gateway k
  obtain ⟨part₂, hrun₂, hcalls₂⟩ := h₂.gateway k
  obtain ⟨rfl, hmid⟩ := eq_of_concur hrun₁ hrun₂ fun w r hw => by
    have hk := concerns_attendShare hs hrun₁ _ hw w r rfl
    have hc := hconcur w (concerns_unique hk hne)
    unfold Concur at hc
    rwa [results_of_concerns hk hcalls₁, results_of_concerns hk hcalls₂] at hc
  exact ⟨hmid, hcalls₁.trans hcalls₂.symm⟩

/-- What is remembered in the end was remembered when the artifacts were seen to. -/
theorem Shares.get?_mid (h : Shares settings sweep op mid₁ failed₁ l₁ release₁ op₁) {t : Tracked}
    (ht : op₁.gateways.get? k = some t) : mid₁.gateways.get? k = some t := by
  rw [h.remembered, Option.filter_eq_some_iff] at ht
  exact ht.1

/-- Every artifact that the gateway has nothing to do with has the same share in both. -/
theorem Shares.artifact_eq (hs : sweep.Keyed)
    (h₁ : Shares settings sweep op mid₁ failed₁ l₁ release₁ op₁)
    (h₂ : Shares settings sweep op mid₂ failed₂ l₂ release₂ op₂)
    (hconcur : ∀ w, w.concerns x = false → Concur w l₁ l₂) (hkey : key ∉ op.targetsOf sweep x) :
    op₁.artifacts.get? key = op₂.artifacts.get? key ∧
      failed₁.contains key = failed₂.contains key ∧ dealing key l₁ = dealing key l₂ := by
  obtain ⟨hdesired, haims⟩ : mid₁.desired.get? key = mid₂.desired.get? key ∧
      mid₁.aims key = mid₂.aims key := by
    refine desired_congr fun k t ht => ?_
    by_cases hk : k = x
    · -- the gateway itself has another target in both
      subst hk
      obtain ⟨part₁, hrun₁, -⟩ := h₁.gateway k
      obtain ⟨part₂, hrun₂, -⟩ := h₂.gateway k
      exact ⟨fun h => absurd (mem_targetsOf hs (h ▸ hrun₁) ht) hkey,
        fun h => absurd (mem_targetsOf hs (h ▸ hrun₂) ht) hkey⟩
    · rw [(h₁.gateway_eq hs h₂ hconcur hk).1]
  obtain ⟨part₁, hrun₁, hcalls₁⟩ := h₁.artifact key
  obtain ⟨part₂, hrun₂, hcalls₂⟩ := h₂.artifact key
  rw [← hdesired, ← haims] at hrun₂
  obtain ⟨rfl, hentry⟩ := eq_of_concur hrun₁ hrun₂ fun w r hw => by
    have hwrite := writes_syncShare hrun₁ _ hw w r rfl
    have hother : w.concerns x = false := by
      rw [hwrite]
      cases mid₁.desired.get? key <;> rfl
    have hdeals : ∀ r, deals key ⟨.write w, r⟩ = true := fun r => by
      rw [hwrite, deals_writeOf fun a ha => key_of_get?_desired ha, decide_eq_true rfl]
    have hresults : ∀ {log part : List OperatorExchange}, dealing key log = dealing key part →
        results w log = results w part := fun {log part} h => by
      rw [← results_filter hdeals log, ← results_filter hdeals part]
      exact congrArg (results w) h
    have hc := hconcur w hother
    unfold Concur at hc
    rwa [hresults hcalls₁, hresults hcalls₂] at hc
  exact ⟨congrArg Prod.fst hentry, congrArg Prod.snd hentry, hcalls₁.trans hcalls₂.symm⟩

/-- A gateway of which nothing is left is remembered alike if it does not wait for a target of the
one whose calls failed. -/
theorem Shares.remembered_eq (hs : sweep.Keyed)
    (h₁ : Shares settings sweep op mid₁ failed₁ l₁ release₁ op₁)
    (h₂ : Shares settings sweep op mid₂ failed₂ l₂ release₂ op₂)
    (hconcur : ∀ w, w.concerns x = false → Concur w l₁ l₂) (hne : k ≠ x)
    (htarget : ∀ t key, mid₁.gateways.get? k = some t → t.isClean = true → t.target = some key →
      key ∉ op.targetsOf sweep x) :
    op₁.gateways.get? k = op₂.gateways.get? k := by
  rw [h₁.remembered, h₂.remembered, ← (h₁.gateway_eq hs h₂ hconcur hne).1]
  rcases ht : mid₁.gateways.get? k with - | t
  · rfl
  · have hkept : (! t.isClean || t.target.any failed₁.contains) =
        (! t.isClean || t.target.any failed₂.contains) := by
      cases hclean : t.isClean with
      | false => rfl
      | true =>
        cases hkey : t.target with
        | none => rfl
        | some key => exact (h₁.artifact_eq hs h₂ hconcur (htarget t key ht hclean hkey)).2.1
    rw [Option.filter_some, Option.filter_some, hkept]

/-- A gateway is remembered alike if what is remembered of it afterwards does not have a target of the
one whose calls failed. -/
theorem Shares.remembered_eq_of_after (hs : sweep.Keyed)
    (h₁ : Shares settings sweep op mid₁ failed₁ l₁ release₁ op₁)
    (h₂ : Shares settings sweep op mid₂ failed₂ l₂ release₂ op₂)
    (hconcur : ∀ w, w.concerns x = false → Concur w l₁ l₂) (hne : k ≠ x)
    (hafter : ∀ t, op₁.gateways.get? k = some t ∨ op₂.gateways.get? k = some t →
      ∀ key ∈ op.targetsOf sweep x, t.target ≠ some key) :
    op₁.gateways.get? k = op₂.gateways.get? k := by
  have hmid := (h₁.gateway_eq hs h₂ hconcur hne).1
  by_cases hwaits : ∃ t key, mid₁.gateways.get? k = some t ∧ t.isClean = true ∧
      t.target = some key ∧ key ∈ op.targetsOf sweep x
  · -- then it is remembered in neither, for it would be with one of those targets
    obtain ⟨t, key, ht, -, hkey, hmem⟩ := hwaits
    have hforgotten₁ : op₁.gateways.get? k = none := by
      refine Option.eq_none_iff_forall_ne_some.2 fun t₁ ht₁ => ?_
      cases ht.symm.trans (h₁.get?_mid ht₁)
      exact hafter t (.inl ht₁) key hmem hkey
    have hforgotten₂ : op₂.gateways.get? k = none := by
      refine Option.eq_none_iff_forall_ne_some.2 fun t₂ ht₂ => ?_
      cases ht.symm.trans (hmid.trans (h₂.get?_mid ht₂))
      exact hafter t (.inr ht₂) key hmem hkey
    rw [hforgotten₁, hforgotten₂]
  · exact h₁.remembered_eq hs h₂ hconcur hne fun t key ht hclean hkey hmem =>
      hwaits ⟨t, key, ht, hclean, hkey, hmem⟩

theorem mem_released_iff (hs : sweep.Keyed) : k ∈ op.released sweep ↔
    (∃ r, sweep.gateways.get? k = some r ∧ r.state ≠ .active ∧ r.hasFinalizer = true) ∧
      op.gateways.get? k = none := by
  unfold released
  simp only [List.mem_map, List.mem_filter, Bool.and_eq_true, decide_eq_true_eq, Bool.not_eq_true',
    SortedMap.contains_eq_false_iff]
  constructor
  · rintro ⟨r, ⟨hr, ⟨hidle, hholds⟩, hforgotten⟩, rfl⟩
    exact ⟨⟨r, (own_of_keyed hs hr).1, hidle, hholds⟩, hforgotten⟩
  · rintro ⟨⟨r, hr, hidle, hholds⟩, hforgotten⟩
    have hkey := (hs k r hr).1
    exact ⟨r, ⟨SortedMap.mem_values_iff.2 ⟨k, hr⟩, ⟨hidle, hholds⟩, hkey ▸ hforgotten⟩, hkey⟩

/-- What two reconciliations agree on that differ in the calls for one gateway: the workloads of all
others, the artifacts and the updates of all keys that it has nothing to do with, and what is
remembered of the gateways that do not have one of its targets, and whether they are released. A
gateway that was not heard of before has the target that is remembered of it afterwards. -/
structure Apart (sweep : Sweep) (op : Operator) (x : ObjectKey) (l₁ l₂ : List OperatorExchange)
    (release₁ release₂ : List ObjectKey) (op₁ op₂ : Operator) : Prop where
  workloads : ∀ (d : Derived) k, k ≠ x →
    (d.replay l₁).workloads.get? k = (d.replay l₂).workloads.get? k
  artifacts : ∀ (d : Derived) key, key ∉ op.targetsOf sweep x →
    (d.replay l₁).artifacts.get? key = (d.replay l₂).artifacts.get? key
  updates : ∀ (d : Distributor) os₁ os₂, Occurrence.calls os₁ = l₁ → Occurrence.calls os₂ = l₂ →
    ∀ key, key ∉ op.targetsOf sweep x → (d.replay os₁).updates key = (d.replay os₂).updates key
  /-- Seen from what is remembered before, for sweeps in which every active gateway contributes. -/
  known : sweep.Sound → ∀ k t, k ≠ x → op.gateways.get? k = some t →
    (∀ key ∈ op.targetsOf sweep x, t.target ≠ some key) →
      op₁.gateways.get? k = op₂.gateways.get? k ∧ (k ∈ release₁ ↔ k ∈ release₂)
  /-- Seen from what is remembered afterwards, if anything is. -/
  remembered : ∀ k, k ≠ x →
    (∀ t, op₁.gateways.get? k = some t ∨ op₂.gateways.get? k = some t →
      ∀ key ∈ op.targetsOf sweep x, t.target ≠ some key) →
      op₁.gateways.get? k = op₂.gateways.get? k ∧ (k ∈ release₁ ↔ k ∈ release₂)

/-- From any state, two reconciliations of a sweep whose calls are answered alike, except for those
that are for one gateway, agree on everything that is not its own. -/
theorem gateways_apart (hs : sweep.Keyed)
    (h₁ : Runs (op.reconcile settings sweep) l₁ (release₁, op₁))
    (h₂ : Runs (op.reconcile settings sweep) l₂ (release₂, op₂))
    (hconcur : ∀ w, w.concerns x = false → Concur w l₁ l₂) :
    Apart sweep op x l₁ l₂ release₁ release₂ op₁ op₂ := by
  obtain ⟨mid₁, failed₁, hshares₁⟩ := shares_reconcile hs h₁
  obtain ⟨mid₂, failed₂, hshares₂⟩ := shares_reconcile hs h₂
  have hrelease : ∀ k, op₁.gateways.get? k = op₂.gateways.get? k →
      op₁.gateways.get? k = op₂.gateways.get? k ∧ (k ∈ release₁ ↔ k ∈ release₂) := by
    intro k hk
    rw [hshares₁.release, hshares₂.release, mem_released_iff hs, mem_released_iff hs, hk]
    exact ⟨rfl, Iff.rfl⟩
  refine ⟨fun d k hk => ?_, fun d key hkey => ?_, ?_, fun hsound k t hk ht htarget => ?_,
    fun k hk hafter => ?_⟩
  · exact Derived.workload_replay_congr d (hshares₁.gateway_eq hs hshares₂ hconcur hk).2
  · exact Derived.artifact_replay_congr d (hshares₁.artifact_eq hs hshares₂ hconcur hkey).2.2
  · rintro d os₁ os₂ rfl rfl key hkey
    exact Distributor.updates_replay_congr d (hshares₁.artifact_eq hs hshares₂ hconcur hkey).2.2
  · refine hrelease k (hshares₁.remembered_eq hs hshares₂ hconcur hk fun t₁ key ht₁ hclean hkey => ?_)
    obtain ⟨part, hrun, -⟩ := hshares₁.gateway k
    rw [ht₁, ht] at hrun
    rcases target_attendShare hs hrun with ⟨t₀, ht₀, hsame⟩ | ⟨hnone, -⟩ | ⟨r, hr, -, hconfig, hactive⟩
    · cases ht₀
      exact fun hmem => htarget key hmem (hsame ▸ hkey)
    · cases hnone
    · -- an active gateway contributes something, so something is left of it
      obtain ⟨config, -, hsome, -⟩ := (hsound k r hr).2.contributes hactive
      unfold Tracked.isClean at hclean
      simp [hconfig, hsome] at hclean
  · exact hrelease k (hshares₁.remembered_eq_of_after hs hshares₂ hconcur hk hafter)

/-! ### A gateway that does not get its finalizer -/

/-- Another gateway of the class, in another namespace and with the finalizer. -/
def neighbourGateway : Object := .gateway {
  metadata := {
    name := some "h"
    inNamespace := some "b"
    uid := some "v"
    finalizers := some ["turngate.dev/gateway-finalizer"] }
  spec := {
    gatewayClassName := "c"
    listeners := [{ name := "l", port := 2, protocol := "TURN-UDP" }] } }

/-- The sweep of the bare gateway and that one. -/
def pairSweep : Sweep := sampleSweep [sampleClass, sampleConfig "t1", bareGateway, neighbourGateway]

/-- Whether the bare gateway gets its finalizer or not, its neighbour is taken up alike. -/
theorem neighbour_untouched :
    ∃ l₁ l₂ release₁ release₂ op₁ op₂,
      Runs (({} : Operator).reconcile {} pairSweep) l₁ (release₁, op₁) ∧
      Runs (({} : Operator).reconcile {} pairSweep) l₂ (release₂, op₂) ∧
      (∀ w, w.concerns (.namespaced "a" "g") = false → Concur w l₁ l₂) ∧
      op₁.gateways.get? (.namespaced "a" "g") ≠ op₂.gateways.get? (.namespaced "a" "g") ∧
      op₁.gateways.get? (.namespaced "b" "h") ≠ none ∧
      Apart pairSweep {} (.namespaced "a" "g") l₁ l₂ release₁ release₂ op₁ op₂ := by
  have hs : pairSweep.Keyed := (Sweep.sound_ofSnapshot _ _).keyed
  have h₁ := runs_run compliant (({} : Operator).reconcile {} pairSweep) ()
  have h₂ := runs_run refusingFinalizers (({} : Operator).reconcile {} pairSweep) ()
  have hconcur : ∀ w, w.concerns (.namespaced "a" "g") = false →
      Concur w ((({} : Operator).reconcile {} pairSweep).exchanges compliant ())
        ((({} : Operator).reconcile {} pairSweep).exchanges refusingFinalizers ()) :=
    concur_of_writes (by decide +kernel)
  exact ⟨_, _, _, _, _, _, h₁, h₂, hconcur, by decide +kernel, by decide +kernel,
    gateways_apart hs h₁ h₂ hconcur⟩

end Operator

end RelayFleet
