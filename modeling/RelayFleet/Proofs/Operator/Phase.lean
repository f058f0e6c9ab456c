/-
Where a round of the operator stands when it is interrupted (`phase_of_reaches`): in its
reconciliation, before or after the report on the statuses that were handed over, or among the
finalizers that are taken. A finalizer is taken only after the report, from a gateway that the
reconciliation has released and whose status is settled by the report (`Phase.removal`).
-/
import RelayFleet.Proofs.Operator.Round

namespace RelayFleet

open Program RoundExchange

theorem RoundProgram.reaches_ofOperator {α : Type} {p : OperatorProgram α}
    {log : List RoundExchange} {q : RoundProgram α} (h : Reaches (ofOperator p) log q) :
    ∃ l p', log = l.map RoundExchange.ofOperator ∧ q = ofOperator p' ∧ Reaches p l p' := by
  induction p generalizing log with
  | done a =>
    obtain ⟨rfl, rfl⟩ := reaches_done_iff.1 h
    exact ⟨[], .done a, rfl, rfl, .here _⟩
  | ask call next ih =>
    cases h with
    | here => exact ⟨[], .ask call next, rfl, rfl, .here _⟩
    | ask h =>
      obtain ⟨l, p', rfl, rfl, hp⟩ := ih _ h
      exact ⟨⟨call, _⟩ :: l, p', rfl, rfl, .ask hp⟩

/-- Whether a gateway that it takes the finalizer from is among those released, with a status that
is settled. -/
def OperatorExchange.Releases (settings : Settings) (gateways : List ObjectKey)
    (report : UpdateReport) : OperatorExchange → Prop
  | ⟨.write (.removeFinalizer key finalizer), _⟩ =>
    key ∈ gateways ∧ report.settled (.gateway key) = true ∧ finalizer = settings.finalizer
  | _ => True

namespace Operator

variable {settings : Settings} {op op' : Operator} {sweep : Sweep} {log : List RoundExchange}
  {q : RoundProgram Operator} {release : List ObjectKey} {report : UpdateReport}
  {l : List OperatorExchange}

/-! ## Phases -/

/-- What a round does after its reconciliation. -/
def conclude (settings : Settings) (sweep : Sweep) :
    List ObjectKey × Operator → RoundProgram Operator
  | (release, op) => do
    .ask (.hand (batch sweep release)) .done
    if release.isEmpty then pure op
    else do
      let report ← .ask .report .done
      .ofOperator (releaseFinalizers settings release report)
      pure op

theorem round_eq (settings : Settings) (op : Operator) (sweep : Sweep) : op.round settings sweep =
    RoundProgram.ofOperator (op.reconcile settings sweep) >>= conclude settings sweep := rfl

/-- Where a round stands, with what was exchanged so far. -/
inductive Phase (settings : Settings) (op : Operator) (sweep : Sweep) :
    List RoundExchange → RoundProgram Operator → Prop
  | reconciling {l : List OperatorExchange} {p : OperatorProgram (List ObjectKey × Operator)}
    (h : Reaches (op.reconcile settings sweep) l p) :
    Phase settings op sweep (l.map ofOperator) (RoundProgram.ofOperator p >>= conclude settings sweep)
  | ended {l : List OperatorExchange} {op' : Operator}
    (h : Runs (op.reconcile settings sweep) l ([], op')) :
    Phase settings op sweep (l.map ofOperator ++ [⟨.hand (batch sweep []), ()⟩]) (.done op')
  | awaiting {l : List OperatorExchange} {release : List ObjectKey} {op' : Operator}
    (h : Runs (op.reconcile settings sweep) l (release, op')) :
    Phase settings op sweep (l.map ofOperator ++ [⟨.hand (batch sweep release), ()⟩])
      (.ask .report fun report =>
        RoundProgram.ofOperator (releaseFinalizers settings release report) >>= fun _ => .done op')
  | releasing {l : List OperatorExchange} {release : List ObjectKey} {op' : Operator}
    {report : UpdateReport} {l' : List OperatorExchange} {p : OperatorProgram Unit}
    (h : Runs (op.reconcile settings sweep) l (release, op'))
    (hp : Reaches (releaseFinalizers settings release report) l' p) :
    Phase settings op sweep
      (l.map ofOperator ++
        ⟨.hand (batch sweep release), ()⟩ :: ⟨.report, report⟩ :: l'.map ofOperator)
      (RoundProgram.ofOperator p >>= fun _ => .done op')

/-- A round stands in one of its phases. -/
theorem phase_of_reaches (h : Reaches (op.round settings sweep) log q) :
    Phase settings op sweep log q := by
  rw [round_eq] at h
  rcases reaches_bind h with ⟨q', hq', rfl⟩ | ⟨⟨release, op'⟩, l₁, l₂, rfl, hrun, hrest⟩
  · obtain ⟨l, p, rfl, rfl, hp⟩ := RoundProgram.reaches_ofOperator hq'
    exact .reconciling hp
  obtain ⟨l, rfl, hl⟩ := RoundProgram.runs_ofOperator_iff.1 hrun
  cases hrest with
  | here =>
    rw [List.append_nil]
    exact .reconciling hl
  | ask hrest =>
    change Reaches (if release.isEmpty then _ else _) _ q at hrest
    split at hrest
    · rename_i hempty
      obtain ⟨rfl, rfl⟩ := reaches_done_iff.1 hrest
      cases List.isEmpty_iff.1 hempty
      exact .ended hl
    · cases hrest with
      | here => exact .awaiting hl
      | @ask _ _ report _ _ hrest =>
        change Reaches (RoundProgram.ofOperator (releaseFinalizers settings release report) >>=
          fun _ => .done op') _ q at hrest
        rcases reaches_bind hrest with ⟨q', hq', rfl⟩ | ⟨u, l₃, l₄, rfl, hremove, hend⟩
        · obtain ⟨l', p, rfl, rfl, hp⟩ := RoundProgram.reaches_ofOperator hq'
          exact .releasing hl hp
        · obtain ⟨l', rfl, hl'⟩ := RoundProgram.runs_ofOperator_iff.1 hremove
          obtain ⟨rfl, rfl⟩ := reaches_done_iff.1 hend
          rw [List.append_nil]
          exact .releasing hl hl'

/-! ## What is asked in which phase -/

theorem releases_releaseFinalizers {u : Unit}
    (h : Runs (releaseFinalizers settings release report) l u) :
    ∀ e ∈ l, e.Releases settings release report := by
  refine runs_forM_forall (fun key hkey _ _ h => ?_) h
  obtain ⟨hmem, hsettled⟩ := List.mem_filter.1 hkey
  refine runs_bind_forall (fun _ _ h e he => ?_) (fun _ _ _ h => runs_done_forall h) h
  have hattempts := OperatorProgram.attempts_of_runs_write h e he
  obtain ⟨c, r⟩ := e
  cases c with
  | write w =>
    have hw : w = .removeFinalizer key settings.finalizer := hattempts
    subst hw
    exact ⟨hmem, hsettled, rfl⟩
  | _ => trivial

namespace Phase

/-- A batch is handed over right after the reconciliation. -/
theorem hand {b : StatusBatch} {next : Unit → RoundProgram Operator}
    (h : Phase settings op sweep log (.ask (.hand b) next)) :
    ∃ l release op', log = l.map ofOperator ∧
      Runs (op.reconcile settings sweep) l (release, op') ∧ b = batch sweep release := by
  generalize hq : (.ask (.hand b) next : RoundProgram Operator) = q at h
  cases h with
  | @reconciling l p h =>
    cases p with
    | done result =>
      obtain ⟨release, op'⟩ := result
      cases hq
      exact ⟨l, release, op', rfl, h, rfl⟩
    | ask call next => cases hq
  | ended => cases hq
  | awaiting => cases hq
  | @releasing _ _ _ _ _ p =>
    cases p with
    | done u => cases hq
    | ask call next => cases hq

/-- A round that has ended has heard the report on a batch that was awaited. -/
theorem done (h : Phase settings op sweep log (.done op')) {b : StatusBatch}
    (hb : ⟨.hand b, ()⟩ ∈ log) (hawaited : b.awaited = true) : ∃ report, ⟨.report, report⟩ ∈ log := by
  generalize hq : (.done op' : RoundProgram Operator) = q at h
  cases h with
  | @reconciling l p h =>
    obtain ⟨e, -, he⟩ := List.mem_map.1 hb
    cases he
  | ended =>
    rcases List.mem_append.1 hb with hb | hb
    · obtain ⟨e, -, he⟩ := List.mem_map.1 hb
      cases he
    · cases List.mem_singleton.1 hb
      cases hawaited
  | awaiting => cases hq
  | releasing => exact ⟨_, List.mem_append_right _ (.tail _ (.head _))⟩

/-- A finalizer is taken from a gateway that was released, after a report in which its status is
settled. -/
theorem removal (hs : sweep.Sound) {gateway : ObjectKey} {finalizer : String}
    {next : Except Fault Unit → RoundProgram Operator}
    (h : Phase settings op sweep log
      (.ask (.operator (.write (.removeFinalizer gateway finalizer))) next)) :
    ∃ l release op' report, ∃ l' : List OperatorExchange,
      log = l.map ofOperator ++
        ⟨.hand (batch sweep release), ()⟩ :: ⟨.report, report⟩ :: l'.map ofOperator ∧
      Runs (op.reconcile settings sweep) l (release, op') ∧ gateway ∈ release ∧
      report.settled (.gateway gateway) = true ∧ finalizer = settings.finalizer := by
  generalize hq : (.ask (.operator (.write (.removeFinalizer gateway finalizer))) next :
    RoundProgram Operator) = q at h
  cases h with
  | @reconciling l p h =>
    cases p with
    | done result => cases hq
    | ask call next' =>
      cases hq
      -- the reconciliation takes no finalizer
      obtain ⟨rest, result, hrun⟩ := (h.snoc (.ok ())).extends (OperatorCall.answered (.ok ()))
      exact absurd (keeps_reconcile hs hrun _ (List.mem_append_left _
        (List.mem_append_right _ (List.mem_singleton.2 rfl)))) id
  | ended => cases hq
  | awaiting => cases hq
  | @releasing l release op' report l' p h hp =>
    cases p with
    | done u => cases hq
    | ask call next' =>
      cases hq
      obtain ⟨rest, u, hrun⟩ := (hp.snoc (.ok ())).extends (OperatorCall.answered (.ok ()))
      obtain ⟨hmem, hsettled, hfinalizer⟩ := releases_releaseFinalizers hrun _
        (List.mem_append_left _ (List.mem_append_right _ (List.mem_singleton.2 rfl)))
      exact ⟨l, release, op', report, l', rfl, h, hmem, hsettled, hfinalizer⟩

end Phase

end Operator

end RelayFleet
