/-
What the updater has done when it leaves a snapshot as it is. Of every status that it was to write,
either the object carries it already, or it is still pending (`runs_flush`): a write that succeeded
would have changed the snapshot.
-/
import RelayFleet.Updater.Basic
import RelayFleet.Proofs.Retry
import RelayFleet.Proofs.Render.Statuses

namespace RelayFleet

open Program

/-- A call of the updater with its answer. -/
abbrev StatusExchange := Exchange StatusCall StatusCall.Reply

/-- Whether an exchange is one that leaves a snapshot as it is: a status was read from it, or a
write met a newer version or no object. -/
def StatusExchange.Leaves (s : Snapshot) : StatusExchange → Prop
  | ⟨.get r, answer⟩ => answer = .ok ((s.get? r).map Object.currentStatus)
  | ⟨.patch r _ status, answer⟩ =>
    ∃ f, answer = .error f ∧ (f.isConflict = true ∨ s.get? ⟨status.kind, r.key⟩ = none)
  | ⟨.now, _⟩ => True

variable {settings : Settings} {s : Snapshot} {r : ResourceKey} {o : Object}
  {desired : ResourceStatus} {log : List StatusExchange}

theorem Fault.not_isNotFound {f : Fault} (h : f.isConflict = true) : f.isNotFound = false := by
  cases f <;> first | rfl | cases h

namespace StatusProgram

/-- An attempt that leaves the snapshot as it is meets a newer version, or finds nothing to do. -/
theorem runs_attempt {controller : String} {outcome : Except Fault StatusOutcome}
    (h : Runs (attempt controller r desired) log outcome) (hl : ∀ e ∈ log, StatusExchange.Leaves s e)
    (ho : s.get? r = some o) (hkind : desired.kind = r.kind) :
    (∃ f, outcome = .error f ∧ f.isConflict = true) ∨
      outcome = .ok .unchanged ∧ o.Carries controller desired := by
  obtain ⟨answer, l₁, l₂, rfl, hget, hnext⟩ := runs_bind_iff.1 h
  rw [runs_call_iff.1 hget] at hl
  have hanswer : answer = .ok (some o.currentStatus) := by
    have hanswer : answer = .ok ((s.get? r).map Object.currentStatus) :=
      hl ⟨.get r, answer⟩ (by simp)
    rw [hanswer, ho]
    rfl
  subst hanswer
  obtain ⟨now, l₃, l₄, rfl, -, hrest⟩ := runs_bind_iff.1 hnext
  dsimp only at hrest
  split at hrest
  · rename_i hsame
    obtain ⟨-, rfl⟩ := runs_pure_iff.1 hrest
    refine .inr ⟨rfl, ?_⟩
    have hsame : o.status? = some _ := hsame
    unfold Object.Carries
    rw [hsame, Option.map_some, ResourceStatus.bare_stamped]
  · obtain ⟨written, l₅, l₆, rfl, hpatch, hend⟩ := runs_bind_iff.1 hrest
    obtain ⟨-, rfl⟩ := runs_pure_iff.1 hend
    rw [runs_call_iff.1 hpatch] at hl
    have hwritten : StatusExchange.Leaves s ⟨.patch r o.currentStatus.resourceVersion
        (desired.stamped o.currentStatus.status controller now), written⟩ := hl _ (by simp)
    -- the object is there, so the write met a newer version
    obtain ⟨f, rfl, hf⟩ := hwritten
    refine .inl ⟨f, rfl, hf.resolve_right fun hnone => ?_⟩
    rw [ResourceStatus.kind_stamped, hkind] at hnone
    exact absurd (ho.symm.trans hnone) (Option.some_ne_none o)

theorem runs_write {outcome : Except Fault StatusOutcome}
    (h : Runs (write settings r desired) log outcome) (hl : ∀ e ∈ log, StatusExchange.Leaves s e)
    (ho : s.get? r = some o) (hkind : desired.kind = r.kind) :
    (∃ f, outcome = .error f) ∨ o.Carries settings.controllerName desired := by
  obtain ⟨result, hrun, rfl⟩ := runs_map_iff.1 h
  obtain ⟨before, last, rfl, hlast, -⟩ := Retry.runs_repeating
    (P := fun _ => True) (fun _ _ _ _ _ => trivial) (fun _ _ _ _ _ _ => trivial) hrun
  have hlast := runs_attempt hlast (fun e he => hl e (List.mem_append_right before he)) ho hkind
  rcases hlast with ⟨f, rfl, hf⟩ | ⟨-, hcarries⟩
  · exact .inl ⟨f, if_neg (by rw [Fault.not_isNotFound hf]; exact Bool.false_ne_true)⟩
  · exact .inr hcarries

end StatusProgram

namespace Updater

/-- What is still pending under a key. -/
def remains (r : ResourceKey) (state : UpdateReport × Updater) (_ : List StatusExchange) :
    Option ResourceStatus :=
  state.2.pending.get? r

theorem get?_keep_of_ne (u : Updater) {r r' : ResourceKey} (status : ResourceStatus)
    (outcome : Except Fault StatusOutcome) (h : r' ≠ r) :
    (u.keep r status outcome).pending.get? r' = u.pending.get? r' := by
  cases outcome with
  | ok _ => rfl
  | error f => exact SortedMap.get?_insert_of_ne _ _ h

/-- If the snapshot was left as it is, every status that was to be written is still pending or was
there already. -/
theorem runs_flush {u u' : Updater} {report : UpdateReport}
    (h : Runs (u.flush settings) log (report, u')) (hl : ∀ e ∈ log, StatusExchange.Leaves s e)
    (hr : u.pending.get? r = some desired) (ho : s.get? r = some o)
    (hkind : desired.kind = r.kind) :
    u'.pending.get? r = some desired ∨ o.Carries settings.controllerName desired := by
  obtain ⟨-, hkeys⟩ := runs_foldlM_keyed Prod.fst remains
    (fun b _ v' log => (∀ e ∈ log, StatusExchange.Leaves s e) → ∀ o, s.get? b.1 = some o →
      b.2.kind = b.1.kind → v' = some b.2 ∨ o.Carries settings.controllerName b.2)
    (SortedMap.nodup_keys u.pending)
    (fun b _ state log state' hrun before k hne => by
      obtain ⟨outcome, l₁, l₂, rfl, -, hend⟩ := runs_bind_iff.1 hrun
      obtain ⟨-, rfl⟩ := runs_pure_iff.1 hend
      exact get?_keep_of_ne _ _ _ hne)
    (fun b _ state log state' hrun before hl o ho hkind => by
      obtain ⟨outcome, l₁, l₂, rfl, hwrite, hend⟩ := runs_bind_iff.1 hrun
      obtain ⟨-, rfl⟩ := runs_pure_iff.1 hend
      rcases StatusProgram.runs_write hwrite
        (fun e he => hl e (List.mem_append_left l₂ he)) ho hkind with ⟨f, rfl⟩ | hcarries
      · exact .inl (SortedMap.get?_insert_self _ _ _)
      · exact .inr hcarries) h []
  obtain ⟨part, hpart, houtcome⟩ := hkeys (r, desired) (SortedMap.get?_eq_some_iff.1 hr)
  exact houtcome (fun e he => hl e (hpart e he)) o ho hkind

end Updater

/-! ## Settled statuses -/

/-- Whether an exchange reads what a snapshot has, if it reads a status. -/
def StatusExchange.Reads (s : Snapshot) : StatusExchange → Prop
  | ⟨.get r, answer⟩ => answer = .ok ((s.get? r).map Object.currentStatus)
  | _ => True

/-- Whether a call writes nothing. -/
def StatusCall.IsRead (c : StatusCall) : Prop := ∀ r version status, c ≠ .patch r version status

/-- Whether an object, if it is there, carries a status as it would be stamped at any time. -/
def Snapshot.Settles (s : Snapshot) (controller : String) (r : ResourceKey)
    (desired : ResourceStatus) : Prop :=
  ∀ o, s.get? r = some o → ∀ now, o.status? = some (desired.stamped o.status? controller now)

namespace StatusProgram

/-- An attempt at a status that is settled writes nothing. -/
theorem runs_attempt_settled {controller : String} {outcome : Except Fault StatusOutcome}
    (h : Runs (attempt controller r desired) log outcome) (hl : ∀ e ∈ log, StatusExchange.Reads s e)
    (hs : s.Settles controller r desired) :
    (∀ e ∈ log, e.1.IsRead) ∧ (outcome = .ok .missing ∨ outcome = .ok .unchanged) := by
  obtain ⟨answer, l₁, l₂, rfl, hget, hnext⟩ := runs_bind_iff.1 h
  rw [runs_call_iff.1 hget] at hl ⊢
  have hanswer : answer = .ok ((s.get? r).map Object.currentStatus) :=
    hl ⟨.get r, answer⟩ (by simp)
  subst hanswer
  cases ho : s.get? r with
  | none =>
    rw [ho] at hnext
    obtain ⟨rfl, rfl⟩ := runs_pure_iff.1 hnext
    exact ⟨by simp [StatusCall.IsRead], .inl rfl⟩
  | some o =>
    rw [ho] at hnext
    obtain ⟨now, l₃, l₄, rfl, hnow, hrest⟩ := runs_bind_iff.1 hnext
    rw [runs_call_iff.1 hnow]
    have hsame : o.currentStatus.status =
        some (desired.stamped o.currentStatus.status controller now) := hs o ho now
    dsimp only at hrest
    rw [if_pos hsame] at hrest
    obtain ⟨rfl, rfl⟩ := runs_pure_iff.1 hrest
    exact ⟨by simp [StatusCall.IsRead], .inr rfl⟩

theorem runs_write_settled {outcome : Except Fault StatusOutcome}
    (h : Runs (write settings r desired) log outcome) (hl : ∀ e ∈ log, StatusExchange.Reads s e)
    (hs : s.Settles settings.controllerName r desired) :
    (∀ e ∈ log, e.1.IsRead) ∧ (outcome = .ok .missing ∨ outcome = .ok .unchanged) := by
  obtain ⟨result, hrun, rfl⟩ := runs_map_iff.1 h
  obtain ⟨first, rest, r, rfl, hfirst, hok⟩ := Retry.runs_repeating_first hrun
  obtain ⟨hreads, hr⟩ := runs_attempt_settled hfirst
    (fun e he => hl e (List.mem_append_left rest he)) hs
  rcases hr with rfl | rfl
  · obtain ⟨rfl, rfl⟩ := hok _ rfl
    exact ⟨by simpa using hreads, .inl rfl⟩
  · obtain ⟨rfl, rfl⟩ := hok _ rfl
    exact ⟨by simpa using hreads, .inr rfl⟩

end StatusProgram

namespace Updater

/-- Whether a flush has written nothing and left nothing to be written so far. -/
def Quiet (state : UpdateReport × Updater) : Prop :=
  state.1.patched = [] ∧ state.1.failed = [] ∧ state.2.pending = ∅

theorem runs_flushOne_settled {b : ResourceKey × ResourceStatus} {state state' : UpdateReport × Updater}
    (h : Runs (flushOne settings state b) log state') (hl : ∀ e ∈ log, StatusExchange.Reads s e)
    (hs : s.Settles settings.controllerName b.1 b.2) (hquiet : Quiet state) :
    (∀ e ∈ log, e.1.IsRead) ∧ Quiet state' := by
  obtain ⟨outcome, l₁, l₂, rfl, hwrite, hend⟩ := runs_bind_iff.1 h
  obtain ⟨rfl, rfl⟩ := runs_pure_iff.1 hend
  rw [List.append_nil] at hl ⊢
  obtain ⟨hreads, ho⟩ := StatusProgram.runs_write_settled hwrite hl hs
  rcases ho with rfl | rfl
  · exact ⟨hreads, hquiet⟩
  · exact ⟨hreads, hquiet⟩

/-- A flush of statuses that are settled writes nothing. -/
theorem runs_flush_settled {u : Updater} {state : UpdateReport × Updater}
    (h : Runs (u.flush settings) log state) (hl : ∀ e ∈ log, StatusExchange.Reads s e)
    (hs : ∀ r desired, u.pending.get? r = some desired →
      s.Settles settings.controllerName r desired) :
    (∀ e ∈ log, e.1.IsRead) ∧ Quiet state := by
  have hfold : ∀ (l : List (ResourceKey × ResourceStatus)),
      (∀ b ∈ l, s.Settles settings.controllerName b.1 b.2) → ∀ log start state, Quiet start →
      Runs (l.foldlM (flushOne settings) start) log state →
      (∀ e ∈ log, StatusExchange.Reads s e) → (∀ e ∈ log, e.1.IsRead) ∧ Quiet state := by
    intro l
    induction l with
    | nil =>
      intro _ log start state hquiet h _
      obtain ⟨rfl, rfl⟩ := runs_foldlM_nil_iff.1 h
      exact ⟨by simp, hquiet⟩
    | cons b rest ih =>
      intro hs log start state hquiet h hl
      obtain ⟨next, l₁, l₂, rfl, h₁, h₂⟩ := runs_foldlM_cons_iff.1 h
      obtain ⟨hfirst, hquiet⟩ := runs_flushOne_settled h₁
        (fun e he => hl e (List.mem_append_left l₂ he)) (hs b List.mem_cons_self) hquiet
      obtain ⟨hlater, hquiet⟩ := ih (fun b hb => hs b (List.mem_cons_of_mem _ hb)) l₂ next state
        hquiet h₂ fun e he => hl e (List.mem_append_right l₁ he)
      exact ⟨fun e he => (List.mem_append.1 he).elim (hfirst e) (hlater e), hquiet⟩
  exact hfold _ (fun b hb => hs b.1 b.2 (SortedMap.get?_eq_some_iff.2 hb)) log _ state
    ⟨rfl, rfl, rfl⟩ h hl

end Updater

/-! ## Reports -/

theorem Updater.receive_eq (settings : Settings) (u : Updater) {batches : List StatusBatch}
    {b : StatusBatch} (hlast : batches.getLast? = some b) : u.receive settings batches =
      (fun (report, u) => (some report, u)) <$> Updater.flush settings ⟨b.statuses⟩ := by
  unfold receive
  rw [hlast, map_eq_pure_bind]

/-- Whether a report says what became of a resource. -/
def UpdateReport.Covers (report : UpdateReport) (r : ResourceKey) : Prop :=
  r ∈ report.patched ∨ r ∈ report.unchanged ∨ r ∈ report.missing ∨ r ∈ report.failed

theorem UpdateReport.Covers.add {report : UpdateReport} (h : report.Covers r) (r' : ResourceKey)
    (outcome : Except Fault StatusOutcome) : (report.add r' outcome).Covers r := by
  unfold Covers at h ⊢
  rcases outcome with f | _ | _ | _ <;>
  simp only [UpdateReport.add, List.mem_append] <;> tauto

theorem UpdateReport.covers_add (report : UpdateReport) (r : ResourceKey)
    (outcome : Except Fault StatusOutcome) : (report.add r outcome).Covers r := by
  unfold Covers
  rcases outcome with f | _ | _ | _ <;> simp [UpdateReport.add]

namespace Updater

/-- A flush reports on every status that was to be written. -/
theorem runs_flush_covers {u u' : Updater} {report : UpdateReport}
    (h : Runs (u.flush settings) log (report, u')) (hr : u.pending.get? r = some desired) :
    report.Covers r := by
  have hfold : ∀ l : List (ResourceKey × ResourceStatus), ∀ log start state,
      Runs (l.foldlM (flushOne settings) start) log state →
      (r, desired) ∈ l ∨ start.1.Covers r → state.1.Covers r := by
    intro l
    induction l with
    | nil =>
      intro log start state h hcovers
      rw [(runs_foldlM_nil_iff.1 h).2]
      exact hcovers.resolve_left List.not_mem_nil
    | cons b rest ih =>
      intro log start state h hcovers
      obtain ⟨next, l₁, l₂, rfl, h₁, h₂⟩ := runs_foldlM_cons_iff.1 h
      obtain ⟨outcome, l₃, l₄, -, -, hend⟩ := runs_bind_iff.1 h₁
      obtain ⟨-, rfl⟩ := runs_pure_iff.1 hend
      refine ih _ _ _ h₂ ?_
      rcases hcovers with hmem | hcovers
      · rcases List.mem_cons.1 hmem with rfl | hmem
        · exact .inr (UpdateReport.covers_add _ _ _)
        · exact .inl hmem
      · exact .inr (hcovers.add _ _)
  exact hfold _ log _ _ h (.inl (SortedMap.get?_eq_some_iff.1 hr))

end Updater

end RelayFleet
