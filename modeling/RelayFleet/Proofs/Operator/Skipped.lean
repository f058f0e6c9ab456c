/-
When an artifact is left as it is (`skipped_iff`): the last call for its key that succeeded wrote an
equal artifact. A call that failed since then makes no difference, because the operator goes on
remembering what it wrote before. Such a call may have taken effect, and then another artifact is
stored than the one that is wanted; `skipped_after_failure` is a run with such a call.
-/
import RelayFleet.Proofs.Operator.Release

namespace RelayFleet

open Program

/-! ## The last call that succeeded -/

namespace OperatorExchange

instance : DecidablePred Succeeds
  | ⟨.write _, .error _⟩ => isFalse id
  | ⟨.write _, .ok _⟩ => isTrue trivial
  | ⟨.pause _, _⟩ => isTrue trivial
  | ⟨.publish .., _⟩ => isTrue trivial
  | ⟨.retire _, _⟩ => isTrue trivial

/-- A call that wrote an artifact. -/
def applied (a : Artifact) : OperatorExchange := ⟨.write (.applyArtifact a), .ok ()⟩

/-- Whether no attempt at writing or deleting the artifact of a key succeeded. -/
def NoneDone (k : ObjectKey) (log : List OperatorExchange) : Prop :=
  ∀ e ∈ attempts k log, ¬ e.Succeeds

/-- Whether this exchange took place, and no attempt for the key succeeded after it. -/
def LastDone (k : ObjectKey) (e : OperatorExchange) (log : List OperatorExchange) : Prop :=
  ∃ earlier later, log = earlier ++ e :: later ∧ NoneDone k later

variable {k : ObjectKey} {e x : OperatorExchange} {rest log : List OperatorExchange}

theorem noneDone_nil (k : ObjectKey) : NoneDone k [] := fun _ he => absurd he List.not_mem_nil

theorem noneDone_cons_iff :
    NoneDone k (e :: rest) ↔ (touches k e = true → ¬ e.Succeeds) ∧ NoneDone k rest := by
  unfold NoneDone attempts
  by_cases ht : touches k e = true
  · rw [List.filter_cons_of_pos ht, List.forall_mem_cons]
    simp [ht]
  · rw [List.filter_cons_of_neg ht]
    simp [ht]

theorem not_lastDone_nil : ¬ LastDone k x [] := by
  rintro ⟨earlier, later, h, -⟩
  exact absurd h (by simp)

theorem lastDone_cons_iff :
    LastDone k x (e :: rest) ↔ LastDone k x rest ∨ (e = x ∧ NoneDone k rest) := by
  constructor
  · rintro ⟨earlier, later, h, hlater⟩
    cases earlier with
    | nil =>
      obtain ⟨rfl, rfl⟩ := List.cons_eq_cons.1 h
      exact .inr ⟨rfl, hlater⟩
    | cons y earlier =>
      obtain ⟨rfl, rfl⟩ := List.cons_eq_cons.1 h
      exact .inl ⟨earlier, later, rfl, hlater⟩
  · rintro (⟨earlier, later, rfl, hlater⟩ | ⟨rfl, hrest⟩)
    · exact ⟨e :: earlier, later, rfl, hlater⟩
    · exact ⟨[], rest, rfl, hrest⟩

/-- The last call that succeeded is the last call, exactly if the last call succeeded. -/
theorem LastDone.getLast?_iff (h : LastDone k x log) (ht : touches k x = true) (hx : x.Succeeds) :
    (attempts k log).getLast? = some x ↔
      ∀ e, (attempts k log).getLast? = some e → e.Succeeds := by
  constructor
  · rintro hlast e he
    cases hlast.symm.trans he
    exact hx
  · obtain ⟨earlier, later, rfl, hlater⟩ := h
    intro hall
    have hsplit :
        attempts k (earlier ++ x :: later) = attempts k earlier ++ x :: attempts k later := by
      rw [attempts_append]
      exact congrArg (attempts k earlier ++ ·) (List.filter_cons_of_pos ht)
    rw [hsplit, List.getLast?_append_of_ne_nil _ (List.cons_ne_nil _ _)] at hall ⊢
    rcases hlast : (attempts k later).getLast? with - | e
    · rw [List.getLast?_eq_none_iff.1 hlast]
      rfl
    · -- an attempt after this call would have to succeed
      have he := hlater e (List.mem_of_getLast? hlast)
      rw [List.getLast?_cons, hlast] at hall
      exact absurd (hall e rfl) he

end OperatorExchange

open OperatorExchange

/-! ## What is stored, by the calls that were made -/

namespace Derived

variable {k : ObjectKey} {e : OperatorExchange}

theorem get?_after_of_not_done (h : touches k e = true → ¬ e.Succeeds) (d : Derived) :
    (d.after e).artifacts.get? k = d.artifacts.get? k := by
  obtain ⟨c, r⟩ := e
  cases c with
  | write w =>
    cases r with
    | error f => rfl
    | ok u =>
      -- a write that succeeded is of a workload, of a finalizer, or for another key
      cases w with
      | applyArtifact a =>
        refine SortedMap.get?_insert_of_ne _ _ fun hk => ?_
        exact h (decide_eq_true hk.symm) trivial
      | deleteArtifact key =>
        refine SortedMap.get?_erase_of_ne _ fun hk => ?_
        exact h (decide_eq_true hk.symm) trivial
      | _ => rfl
  | _ => rfl

/-- An artifact is stored if its write is the last call for its key that succeeded, or if it was
stored before and no such call succeeded. -/
theorem get?_replay_iff {d : Derived} {log : List OperatorExchange} {a : Artifact}
    (hkey : a.key = k) : (d.replay log).artifacts.get? k = some a ↔
      LastDone k (applied a) log ∨ (d.artifacts.get? k = some a ∧ NoneDone k log) := by
  -- from the front: a call that succeeded is outdone by any later one that did
  induction log generalizing d with
  | nil =>
    rw [replay_nil]
    exact ⟨fun h => .inr ⟨h, noneDone_nil k⟩, fun h => (h.resolve_left not_lastDone_nil).1⟩
  | cons e rest ih =>
    show ((d.after e).replay rest).artifacts.get? k = some a ↔ _
    rw [ih, lastDone_cons_iff, noneDone_cons_iff]
    by_cases hdone : touches k e = true → ¬ e.Succeeds
    · have hne : e ≠ applied a := by
        rintro rfl
        exact hdone (decide_eq_true hkey) trivial
      rw [get?_after_of_not_done hdone, and_iff_right hdone]
      simp only [hne, false_and, or_false]
    · obtain ⟨ht, hok⟩ := Classical.not_imp.1 hdone
      -- the call decides what is stored
      have hstored : (d.after e).artifacts.get? k = some a ↔ e = applied a := by
        obtain ⟨c, r⟩ := e
        cases c with
        | write w =>
          cases r with
          | error f => exact absurd id hok
          | ok u =>
            cases w with
            | applyArtifact b =>
              have hb : b.key = k := of_decide_eq_true ht
              show (d.artifacts.insert b.key b).get? k = some a ↔ _
              rw [hb, SortedMap.get?_insert_self]
              simp [applied]
            | deleteArtifact key =>
              have hd : key = k := of_decide_eq_true ht
              show (d.artifacts.erase key).get? k = some a ↔ _
              rw [hd, SortedMap.get?_erase_self]
              simp [applied]
            | _ => cases ht
        | _ => cases ht
      simp [hstored, ht, Classical.not_not.1 hok]

end Derived

/-! ## Writes that are skipped -/

namespace Operator

variable {settings : Settings} {op op' mid : Operator} {sweep : Sweep} {s s' : Syncing}
  {log l : List OperatorExchange} {release : List ObjectKey} {k : ObjectKey} {a : Artifact}

theorem Writes.attempts_ne_nil {key : ObjectKey} {wanted : Option Artifact}
    (h : Writes key wanted s l s') (hkey : ∀ a, wanted = some a → a.key = key)
    (hunknown : s.1.artifacts.get? key ≠ wanted) : attempts key l ≠ [] := by
  have hself : ∀ r, touches key ⟨.write (writeOf key wanted), r⟩ = true := fun r => by
    rw [touches_writeOf hkey, decide_eq_true rfl]
  cases h with
  | known h => exact absurd h hunknown
  | done h =>
    exact List.ne_nil_of_mem (a := ⟨.write (writeOf key wanted), .ok ()⟩)
      (List.mem_filter.2 ⟨by simp, hself _⟩)
  | @failed before f h =>
    exact List.ne_nil_of_mem (a := ⟨.write (writeOf key wanted), .error f⟩)
      (List.mem_filter.2 ⟨by simp, hself _⟩)

/-- The write of an artifact is skipped if it is what is remembered. -/
theorem attempts_writeArtifact (h : Runs (writeArtifact settings s a) l s') :
    attempts a.key l = [] ↔ s.1.artifacts.get? a.key = some a := by
  constructor
  · intro hnone
    by_contra hunknown
    exact (runs_writeArtifact h).attempts_ne_nil (by rintro _ ⟨⟩; rfl) hunknown hnone
  · intro hknown
    unfold writeArtifact at h
    rw [if_pos hknown] at h
    rw [(runs_pure_iff.1 h).1]
    rfl

/-- A desired artifact is left as it is if it is what is remembered. -/
theorem attempts_syncArtifacts (h : Runs (op.syncArtifacts settings) l s')
    (ha : op.desired.get? k = some a) : attempts k l = [] ↔ op.artifacts.get? k = some a := by
  obtain ⟨c, l₁, l₂, rfl, hwrite, hdrop⟩ := runs_bind_iff.1 h
  have hkey : ∀ a b : Artifact, some a = some b → b.key = a.key := by
    rintro a b ⟨⟩
    rfl
  have hwanted : a.key = k := key_of_get?_desired ha
  -- what is desired is not stale, so it is written or skipped, and not deleted
  have hdropped : attempts k (l₁ ++ l₂) = attempts k l₁ := by
    have hentry := (runs_dropArtifacts (d := {}) (nodup_stale c.1 op.desired) l₁ hdrop).2.2.1 k
      fun hstale => by
        have hnone := (mem_stale_iff.1 hstale).2
        rw [ha] at hnone
        cases hnone
    exact congrArg ArtifactEntry.attempts hentry
  obtain ⟨-, hkeys⟩ := runs_foldlM_keyed Artifact.key (artifactEntry {})
    (fun (a : Artifact) v v' _ =>
      v.attempts = [] → (v'.attempts = [] ↔ v.remembered = some a))
    (by rw [map_key_desired]; exact SortedMap.nodup_keys _)
    (fun a _ s log s' h before k hk => (runs_writeArtifact h).entry_of_ne (hkey a) before hk)
    (fun a _ s log s' h before hbefore => by
      show attempts a.key (before ++ log) = [] ↔ s.1.artifacts.get? a.key = some a
      rw [attempts_append, show attempts a.key before = [] from hbefore, List.nil_append]
      exact attempts_writeArtifact h)
    hwrite []
  obtain ⟨-, -, hstep⟩ := hkeys a (SortedMap.mem_values_iff.2 ⟨k, ha⟩)
  rw [hwanted] at hstep
  rw [hdropped]
  exact hstep rfl

/-- Over every history, of any sweeps and whatever calls have failed: a reconciliation leaves a
desired artifact as it is exactly if the last call for its key that succeeded wrote it. So it is
what the last call for its key wrote, exactly if that call did not fail. What is desired at the end
was desired when the artifacts were written, because what is forgotten contributes nothing. -/
theorem skipped_iff {admits : Sweep → Prop} (h : Reached settings admits op log)
    (hr : Runs (op.reconcile settings sweep) l (release, op'))
    (ha : op'.desired.get? k = some a) :
    (attempts k l = [] ↔ LastDone k (applied a) log) ∧
      (attempts k l = [] → ((attempts k log).getLast? = some (applied a) ↔
        ∀ e, (attempts k log).getLast? = some e → e.Succeeds)) := by
  have hkey := key_of_get?_desired ha
  have hartifacts := h.artifacts
  rw [reconcile_eq] at hr
  obtain ⟨mid, l₁, l₂, rfl, hattend, hnext⟩ := runs_bind_iff.1 hr
  obtain ⟨s, l₃, l₄, rfl, hsync, hend⟩ := runs_bind_iff.1 hnext
  obtain ⟨rfl, hresult⟩ := runs_pure_iff.1 hend
  cases hresult
  obtain ⟨hsame, hspares⟩ := attend_spares hattend
  have hgateways := (runs_syncArtifacts (d := { artifacts := mid.artifacts }) rfl hsync).1
  have hdesired : mid.desired.get? k = some a := by
    rw [desired_forget] at ha
    unfold desired at ha ⊢
    rwa [hgateways] at ha
  have hskipped : attempts k (l₁ ++ (l₃ ++ [])) = [] ↔ LastDone k (applied a) log := by
    rw [List.append_nil, attempts_append, attempts_of_spares hspares, List.nil_append,
      attempts_syncArtifacts hsync hdesired, hsame, hartifacts, Derived.get?_replay_iff hkey]
    -- nothing was stored at the start
    exact ⟨fun h => h.resolve_right nofun, .inl⟩
  exact ⟨hskipped, fun hnone =>
    (hskipped.1 hnone).getLast?_iff (decide_eq_true hkey) trivial⟩

/-! ### Runs on samples -/

/-- The sample gateway with its listener on a port. -/
def sampleGatewayOn (port : Int32) : Object := .gateway {
  metadata := {
    name := some "g"
    inNamespace := some "a"
    uid := some "u"
    finalizers := some ["turngate.dev/gateway-finalizer"] }
  spec := {
    gatewayClassName := "c"
    listeners := [{ name := "l", port, protocol := "TURN-UDP" }] } }

/-- The sweep of that gateway, with its class and its settings. -/
def sampleSweepOn (port : Int32) : Sweep :=
  sampleSweep [sampleClass, sampleConfig "t1", sampleGatewayOn port]

theorem plainlyRendered_sampleSweepOn_one : (sampleSweepOn 1).PlainlyRendered {} :=
  plainlyRendered_sampleSweep _ (by decide +kernel)

theorem plainlyRendered_sampleSweepOn_two : (sampleSweepOn 2).PlainlyRendered {} :=
  plainlyRendered_sampleSweep _ (by decide +kernel)

/-- Surroundings in which no write of an artifact is known to succeed. -/
def refusingArtifacts : Handler OperatorCall OperatorCall.Reply Unit
  | .write (.applyArtifact _), u => (.error (.unreachable "timeout"), u)
  | call, u => compliant call u

/-- What was written is not written once more. -/
theorem skipped_when_written :
    ∃ op log l release op' a, Reached {} (Sweep.PlainlyRendered {}) op log ∧
      Runs (op.reconcile {} (sampleSweepOn 1)) l (release, op') ∧
      op'.desired.get? (.namespaced "a" "t1") = some a ∧
      attempts (.namespaced "a" "t1") l = [] ∧
      LastDone (.namespaced "a" "t1") (applied a) log := by
  obtain ⟨op, log, l, release, op', hreached, hrun, hdesired, hnone⟩ :
      ∃ op log l release op', Reached {} (Sweep.PlainlyRendered {}) op log ∧
        Runs (op.reconcile {} (sampleSweepOn 1)) l (release, op') ∧
        (op'.desired.get? (.namespaced "a" "t1")).isSome = true ∧
        (attempts (.namespaced "a" "t1") l).isEmpty = true :=
    ⟨_, _, _, _, _, .reconcile .start plainlyRendered_sampleSweepOn_one (runs_run compliant _ ()),
      runs_run compliant _ (), by decide +kernel, by decide +kernel⟩
  obtain ⟨a, ha⟩ := Option.isSome_iff_exists.1 hdesired
  have hnone := List.isEmpty_iff.1 hnone
  exact ⟨op, log, l, release, op', a, hreached, hrun, ha, hnone,
    (skipped_iff hreached hrun ha).1.1 hnone⟩

/-- A listener moves to another port, and the write of the artifact fails, which does not say
whether it took effect; then the listener moves back. The artifact is not written although the last
call for its key failed. -/
theorem skipped_after_failure :
    ∃ op log l release op' a e, Reached {} (Sweep.PlainlyRendered {}) op log ∧
      (sampleSweepOn 1).PlainlyRendered {} ∧
      Runs (op.reconcile {} (sampleSweepOn 1)) l (release, op') ∧
      op'.desired.get? (.namespaced "a" "t1") = some a ∧
      attempts (.namespaced "a" "t1") l = [] ∧
      (attempts (.namespaced "a" "t1") log).getLast? = some e ∧ ¬ e.Succeeds := by
  obtain ⟨op, log, l, release, op', hreached, hrun, hdesired, hnone, hlast⟩ :
      ∃ op log l release op', Reached {} (Sweep.PlainlyRendered {}) op log ∧
        Runs (op.reconcile {} (sampleSweepOn 1)) l (release, op') ∧
        (op'.desired.get? (.namespaced "a" "t1")).isSome = true ∧
        (attempts (.namespaced "a" "t1") l).isEmpty = true ∧
        ∃ e ∈ (attempts (.namespaced "a" "t1") log).getLast?, ¬ e.Succeeds :=
    ⟨_, _, _, _, _,
      .reconcile
        (.reconcile .start plainlyRendered_sampleSweepOn_one (runs_run compliant _ ()))
        plainlyRendered_sampleSweepOn_two (runs_run refusingArtifacts _ ()),
      runs_run compliant _ (), by decide +kernel, by decide +kernel, by decide +kernel⟩
  obtain ⟨a, ha⟩ := Option.isSome_iff_exists.1 hdesired
  obtain ⟨e, he, hfailed⟩ := hlast
  exact ⟨op, log, l, release, op', a, e, hreached, plainlyRendered_sampleSweepOn_one, hrun, ha,
    List.isEmpty_iff.1 hnone, he, hfailed⟩

end Operator

end RelayFleet
