/-
What a round of the operator comes to (`runs_round`): a reconciliation, the statuses of the sweep
handed over, and then nothing but finalizers that are removed. At any point of a round, only the
statuses of the sweep were handed over, and only gateways of the sweep were given the finalizer.
-/
import RelayFleet.Operator.Round
import RelayFleet.Proofs.Operator.Published
import RelayFleet.Proofs.Render.Document

namespace RelayFleet

open Program

/-! ## Exchanges of a round -/

/-- The answer to a call when all writes come out well. -/
def RoundCall.answered : (call : RoundCall) → call.Reply
  | operator call => call.answered (.ok ())
  | hand _ => ()
  | report => {}

/-- A call of a round with its answer. -/
abbrev RoundExchange := Exchange RoundCall RoundCall.Reply

namespace RoundExchange

/-- An exchange of the operator within a round. -/
def ofOperator (e : OperatorExchange) : RoundExchange := ⟨.operator e.1, e.2⟩

/-- The exchange of the operator that it is, if it is one. -/
def operator? : RoundExchange → Option OperatorExchange
  | ⟨.operator call, reply⟩ => some ⟨call, reply⟩
  | _ => none

/-- The exchanges of the operator within a round. -/
def calls (log : List RoundExchange) : List OperatorExchange := log.filterMap operator?

theorem calls_append (l₁ l₂ : List RoundExchange) : calls (l₁ ++ l₂) = calls l₁ ++ calls l₂ :=
  List.filterMap_append

theorem calls_map_ofOperator (l : List OperatorExchange) : calls (l.map ofOperator) = l := by
  show (l.map ofOperator).filterMap operator? = l
  rw [List.filterMap_map]
  exact List.filterMap_some

theorem mem_calls_iff {log : List RoundExchange} {e : OperatorExchange} :
    e ∈ calls log ↔ ofOperator e ∈ log := by
  unfold calls
  rw [List.mem_filterMap]
  constructor
  · rintro ⟨⟨call, reply⟩, hmem, he⟩
    cases call <;> cases he
    exact hmem
  · intro h
    exact ⟨_, h, rfl⟩

/-- Whether it comes after the statuses were handed over: the report, a pause, or a finalizer that
is removed. -/
def Concludes : RoundExchange → Prop
  | ⟨.report, _⟩ => True
  | ⟨.operator (.pause _), _⟩ => True
  | ⟨.operator (.write (.removeFinalizer _ _)), _⟩ => True
  | _ => False

end RoundExchange

namespace OperatorExchange

/-- Whether a gateway that it gives the finalizer is one of a sweep. -/
def Marks (sweep : Sweep) : OperatorExchange → Prop
  | ⟨.write (.addFinalizer key _), _⟩ => ∃ r, sweep.gateways.get? key = some r
  | _ => True

/-- Whether it takes the finalizer from no gateway, and gives it to gateways of a sweep only. -/
def Keeps (sweep : Sweep) : OperatorExchange → Prop
  | ⟨.write (.removeFinalizer ..), _⟩ => False
  | e => e.Marks sweep

theorem Keeps.marks {sweep : Sweep} {e : OperatorExchange} (h : e.Keeps sweep) : e.Marks sweep := by
  obtain ⟨c, r⟩ := e
  cases c with
  | write w => cases w <;> first | exact h | trivial
  | _ => trivial

end OperatorExchange

namespace RoundProgram

open RoundExchange

variable {α : Type} {log : List RoundExchange} {a : α}

theorem runs_ofOperator_iff {p : OperatorProgram α} :
    Runs (ofOperator p) log a ↔ ∃ l : List OperatorExchange,
      log = l.map RoundExchange.ofOperator ∧ Runs p l a := by
  induction p generalizing log with
  | done b =>
    show Runs (.done b) log a ↔ _
    rw [runs_done_iff]
    constructor
    · rintro ⟨rfl, rfl⟩
      exact ⟨[], rfl, runs_done a⟩
    · rintro ⟨l, rfl, h⟩
      obtain ⟨rfl, rfl⟩ := runs_done_iff.1 h
      exact ⟨rfl, rfl⟩
  | ask call next ih =>
    show Runs (.ask (.operator call) fun reply => ofOperator (next reply)) log a ↔ _
    rw [runs_ask_iff]
    constructor
    · rintro ⟨reply, rest, rfl, h⟩
      obtain ⟨l, rfl, hl⟩ := (ih reply).1 h
      exact ⟨⟨call, reply⟩ :: l, rfl, .ask hl⟩
    · rintro ⟨l, rfl, h⟩
      obtain ⟨reply, rest, rfl, hrest⟩ := runs_ask_iff.1 h
      exact ⟨reply, rest.map RoundExchange.ofOperator, rfl, (ih reply).2 ⟨rest, rfl, hrest⟩⟩

theorem asks_ofOperator_iff {p : OperatorProgram α} {call : OperatorCall} :
    Asks (ofOperator p) log (.operator call) ↔ ∃ l : List OperatorExchange,
      log = l.map RoundExchange.ofOperator ∧ Asks p l call := by
  induction p generalizing log with
  | done b =>
    show Asks (.done b) log _ ↔ _
    exact ⟨fun h => absurd h (not_asks_done b), fun ⟨_, _, h⟩ => absurd h (not_asks_done b)⟩
  | ask call' next ih =>
    show Asks (.ask (.operator call') fun reply => ofOperator (next reply)) log _ ↔ _
    rw [asks_ask_iff]
    constructor
    · rintro (⟨rfl, h⟩ | ⟨reply, rest, rfl, h⟩)
      · cases h
        exact ⟨[], rfl, asks_ask_iff.2 (.inl ⟨rfl, rfl⟩)⟩
      · obtain ⟨l, rfl, hl⟩ := (ih reply).1 h
        exact ⟨⟨call', reply⟩ :: l, rfl, asks_ask_iff.2 (.inr ⟨reply, l, rfl, hl⟩)⟩
    · rintro ⟨l, rfl, h⟩
      rcases asks_ask_iff.1 h with ⟨rfl, rfl⟩ | ⟨reply, rest, rfl, hrest⟩
      · exact .inl ⟨rfl, rfl⟩
      · exact .inr ⟨reply, rest.map RoundExchange.ofOperator, rfl, (ih reply).2 ⟨rest, rfl, hrest⟩⟩

end RoundProgram

namespace Operator

open RoundExchange

variable {settings : Settings} {op op' : Operator} {sweep : Sweep} {log : List RoundExchange}

/-! ## Rounds -/

theorem concludes_releaseFinalizers {gateways : List ObjectKey} {report : UpdateReport}
    {l : List OperatorExchange} {u : Unit}
    (h : Runs (releaseFinalizers settings gateways report) l u) :
    ∀ e ∈ l, (ofOperator e).Concludes := by
  refine runs_forM_forall (fun key _ log u h => ?_) h
  refine runs_bind_forall (fun log result h e he => ?_) (fun _ _ _ h => runs_done_forall h) h
  have hattempts := OperatorProgram.attempts_of_runs_write h e he
  obtain ⟨c, r⟩ := e
  cases c with
  | write w =>
    have hw : w = .removeFinalizer key settings.finalizer := hattempts
    subst hw
    trivial
  | pause n => trivial
  | publish k d => exact absurd hattempts id
  | retire k => exact absurd hattempts id

/-- A round is a reconciliation, then the handing over of the sweep's statuses, and then what
concludes it. -/
theorem runs_round (h : Runs (op.round settings sweep) log op') :
    ∃ (release : List ObjectKey) (l : List OperatorExchange) (rest : List RoundExchange),
      log = l.map ofOperator ++ ⟨.hand (batch sweep release), ()⟩ :: rest ∧
      Runs (op.reconcile settings sweep) l (release, op') ∧ ∀ e ∈ rest, e.Concludes := by
  obtain ⟨⟨release, op₁⟩, l₁, l₂, rfl, hreconcile, hnext⟩ := runs_bind_iff.1 h
  obtain ⟨l, rfl, hrun⟩ := RoundProgram.runs_ofOperator_iff.1 hreconcile
  obtain ⟨u, l₃, rest, rfl, hhand, hrest⟩ := runs_bind_iff.1 hnext
  rw [runs_call_iff.1 hhand]
  split at hrest
  · obtain ⟨rfl, rfl⟩ := runs_pure_iff.1 hrest
    exact ⟨release, l, [], rfl, hrun, by simp⟩
  · obtain ⟨report, l₄, l₅, rfl, hreport, hrelease⟩ := runs_bind_iff.1 hrest
    obtain ⟨u', l₆, l₇, rfl, hremove, hend⟩ := runs_bind_iff.1 hrelease
    obtain ⟨rfl, rfl⟩ := runs_pure_iff.1 hend
    obtain ⟨l', rfl, hl'⟩ := RoundProgram.runs_ofOperator_iff.1 hremove
    rw [runs_call_iff.1 hreport]
    refine ⟨release, l, ⟨.report, report⟩ :: l'.map ofOperator, by simp, hrun, fun e he => ?_⟩
    rcases List.mem_cons.1 he with rfl | he
    · trivial
    · obtain ⟨e', he', rfl⟩ := List.mem_map.1 he
      exact concludes_releaseFinalizers hl' e' he'

/-! ## Finalizers during a reconciliation -/

theorem keeps_of_attempts {e : OperatorExchange} {w : ClusterWrite} (h : e.Attempts w)
    (hadd : ∀ key finalizer, w ≠ .addFinalizer key finalizer)
    (hremove : ∀ key finalizer, w ≠ .removeFinalizer key finalizer) : e.Keeps sweep := by
  obtain ⟨c, r⟩ := e
  cases c with
  | write w' =>
    have hww : w' = w := h
    subst hww
    cases w' with
    | addFinalizer key finalizer => exact absurd rfl (hadd key finalizer)
    | removeFinalizer key finalizer => exact absurd rfl (hremove key finalizer)
    | _ => trivial
  | _ => trivial

theorem keeps_of_serves {e : OperatorExchange} {r : GatewayRender} {workload : Option Workload}
    (h : e.Serves r.gateway workload) (hr : sweep.gateways.get? r.gateway = some r) :
    e.Keeps sweep := by
  obtain ⟨c, reply⟩ := e
  cases c with
  | write w =>
    cases w with
    | addFinalizer key finalizer =>
      have hkey : key = r.gateway := h
      subst hkey
      exact ⟨r, hr⟩
    | removeFinalizer key finalizer => exact absurd h id
    | _ => trivial
  | _ => trivial

theorem keeps_abandon {b : ObjectKey × Tracked} {l : List OperatorExchange}
    (h : Runs (op.abandon settings b) l op') : ∀ e ∈ l, e.Keeps sweep := by
  refine runs_map_forall (fun _ _ h => ?_) h
  refine runs_bind_forall (fun _ _ h => ?_) (fun _ _ _ h => runs_done_forall h) h
  rw [Tracked.syncWorkload_eq] at h
  split at h
  · exact runs_done_forall h
  · refine runs_map_forall (fun _ _ h e he => ?_) h
    exact keeps_of_attempts (OperatorProgram.attempts_of_runs_write h e he)
      (by rintro _ _ ⟨⟩) (by rintro _ _ ⟨⟩)

theorem Writes.keeps {s s' : Syncing} {key : ObjectKey} {wanted : Option Artifact}
    {l : List OperatorExchange} (h : Writes key wanted s l s') : ∀ e ∈ l, e.Keeps sweep := by
  intro e he
  rcases h.mem e he with hattempt | rfl
  · refine keeps_of_attempts hattempt ?_ ?_ <;> cases wanted <;> rintro _ _ ⟨⟩
  · cases wanted <;> trivial

/-- A reconciliation gives the finalizer to gateways of the sweep only, and takes it from none. -/
theorem keeps_reconcile (hs : sweep.Sound) {l : List OperatorExchange}
    {result : List ObjectKey × Operator} (h : Runs (op.reconcile settings sweep) l result) :
    ∀ e ∈ l, e.Keeps sweep := by
  refine runs_bind_forall (fun _ _ h => ?_) (fun _ _ _ h => ?_) h
  · refine runs_foldlM_forall (fun _ r hr _ _ h e he => ?_) h
    exact keeps_of_serves (serves_follow h e he) (hs.get?_gateway hr)
  · refine runs_bind_forall (fun _ _ h => ?_) (fun _ _ _ h => ?_) h
    · exact runs_foldlM_forall (fun _ _ _ _ _ h => keeps_abandon h) h
    · refine runs_bind_forall (fun _ _ h => ?_) (fun _ _ _ h => runs_done_forall h) h
      refine runs_bind_forall (fun _ _ h => ?_) (fun _ _ _ h => ?_) h
      · exact runs_foldlM_forall (fun _ _ _ _ _ h => (runs_writeArtifact h).keeps) h
      · exact runs_foldlM_forall (fun _ _ _ _ _ h => (runs_dropArtifact h).keeps) h

/-! ## Interrupted rounds -/

/-- Every round can be brought to an end. -/
theorem extends_round {q : RoundProgram Operator} (h : Reaches (op.round settings sweep) log q) :
    ∃ rest op', Runs (op.round settings sweep) (log ++ rest) op' := h.extends RoundCall.answered

/-- A write that a round has come to is one of its reconciliation, or a finalizer is to be removed. -/
theorem asks_round {w : ClusterWrite}
    (h : Asks (op.round settings sweep) log (.operator (.write w))) :
    (∃ l : List OperatorExchange, log = l.map ofOperator ∧
      Asks (op.reconcile settings sweep) l (.write w)) ∨
      ∃ key finalizer, w = .removeFinalizer key finalizer := by
  rcases asks_bind_iff.1 h with hreconcile | ⟨⟨release, op'⟩, l₁, l₂, -, -, hnext⟩
  · exact .inl (RoundProgram.asks_ofOperator_iff.1 hreconcile)
  · rcases asks_bind_iff.1 hnext with hhand | ⟨u, l₃, l₄, -, -, hrest⟩
    · cases (asks_call_iff.1 hhand).2
    · split at hrest
      · exact absurd hrest (not_asks_pure _)
      · rcases asks_bind_iff.1 hrest with hreport | ⟨report, l₅, l₆, -, -, hrelease⟩
        · cases (asks_call_iff.1 hreport).2
        · rcases asks_bind_iff.1 hrelease with hremove | ⟨u, l₇, l₈, -, -, hend⟩
          · obtain ⟨l, -, hask⟩ := RoundProgram.asks_ofOperator_iff.1 hremove
            have hconcludes := (hask.forall (OperatorCall.answered (.ok ()))
              (fun _ _ h => concludes_releaseFinalizers h) (.ok ())).2
            cases w with
            | removeFinalizer key finalizer => exact .inr ⟨key, finalizer, rfl⟩
            | _ => exact absurd hconcludes id
          · exact absurd hend (not_asks_pure _)

/-- At any point of a round, only the statuses of the sweep were handed over. -/
theorem statuses_of_hand {q : RoundProgram Operator}
    (h : Reaches (op.round settings sweep) log q) {b : StatusBatch} {u : Unit}
    (hb : ⟨.hand b, u⟩ ∈ log) : b.statuses = sweep.statuses := by
  obtain ⟨after, op', hrun⟩ := extends_round h
  obtain ⟨release, l, rest, hlog, -, hrest⟩ := runs_round hrun
  have hmem : (⟨.hand b, u⟩ : RoundExchange) ∈ log ++ after := List.mem_append_left after hb
  rw [hlog, List.mem_append, List.mem_cons] at hmem
  rcases hmem with hmem | hmem | hmem
  · obtain ⟨e, -, he⟩ := List.mem_map.1 hmem
    cases he
  · cases hmem
    rfl
  · exact absurd (hrest _ hmem) id

/-- At any point of a round, only gateways of the sweep were given the finalizer. -/
theorem marks_round (hs : sweep.Sound) {q : RoundProgram Operator}
    (h : Reaches (op.round settings sweep) log q) : ∀ e ∈ calls log, e.Marks sweep := by
  obtain ⟨after, op', hrun⟩ := extends_round h
  obtain ⟨release, l, rest, hlog, hreconcile, hrest⟩ := runs_round hrun
  intro e he
  have hmem : e ∈ calls (log ++ after) := by
    rw [calls_append]
    exact List.mem_append_left _ he
  rw [hlog, calls_append, calls_map_ofOperator, List.mem_append] at hmem
  rcases hmem with hmem | hmem
  · exact (keeps_reconcile hs hreconcile e hmem).marks
  · obtain ⟨c, r⟩ := e
    rcases List.mem_cons.1 (mem_calls_iff.1 hmem) with he | he
    · cases he
    · have hconcludes := hrest _ he
      cases c with
      | write w =>
        cases w with
        | addFinalizer key finalizer => exact absurd hconcludes id
        | _ => trivial
      | _ => trivial

/-! ## Rounds that have ended -/

open OperatorExchange

theorem spares_of_concludes {e : OperatorExchange} (h : (ofOperator e).Concludes) :
    e.SparesArtifacts ∧ e.SparesWorkloads := by
  obtain ⟨c, r⟩ := e
  cases c with
  | write w =>
    cases w with
    | removeFinalizer key finalizer => exact ⟨trivial, trivial⟩
    | _ => exact absurd h id
  | pause n => exact ⟨trivial, trivial⟩
  | publish k d => exact absurd h id
  | retire k => exact absurd h id

theorem foldl_tell_of_spares {l : List OperatorExchange} (h : ∀ e ∈ l, e.SparesArtifacts)
    (news : SortedMap ObjectKey Document) : l.foldl tell news = news := by
  induction l generalizing news with
  | nil => rfl
  | cons e rest ih =>
    have he := h e (List.mem_cons_self ..)
    have hsame : tell news e = news := by
      obtain ⟨c, r⟩ := e
      cases c with
      | publish k d => exact absurd he id
      | retire k => exact absurd he id
      | _ => rfl
    rw [List.foldl_cons, hsame]
    exact ih (fun e he => h e (List.mem_cons_of_mem _ he)) news

/-- A round that has ended leads to where its reconciliation led. If all of its calls came out well,
that is what the sweep calls for. -/
theorem Reached.round {s : Snapshot} {before : List OperatorExchange}
    (h : Reached settings (Sweep.Rendered settings) op before)
    (hr : Runs (op.round settings (Sweep.ofSnapshot settings s)) log op') :
    ∃ l, Reached settings (Sweep.Rendered settings) op' (before ++ l) ∧
      (∀ d : Derived, d.replay (calls log) = d.replay l) ∧
      (∀ news, (calls log).foldl tell news = l.foldl tell news) ∧
      (Clean (calls log) →
        Derived.replay {} (before ++ l) = Derived.ofSweep (Sweep.ofSnapshot settings s)) := by
  obtain ⟨release, l, rest, rfl, hreconcile, hrest⟩ := runs_round hr
  have hcalls : calls (l.map ofOperator ++ ⟨.hand (batch (Sweep.ofSnapshot settings s) release),
      ()⟩ :: rest) = l ++ calls rest := by
    rw [calls_append, calls_map_ofOperator]
    rfl
  have hspares : ∀ e ∈ calls rest, e.SparesArtifacts ∧ e.SparesWorkloads := fun e he =>
    spares_of_concludes (hrest _ (mem_calls_iff.1 he))
  rw [hcalls]
  refine ⟨l, .reconcile h ⟨s, rfl⟩ hreconcile, fun d => ?_, fun news => ?_, fun hc => ?_⟩
  · -- what comes after the reconciliation spares all that is derived
    have hartifacts := Derived.artifacts_replay (d := d.replay l) fun e he => (hspares e he).1
    have hworkloads := Derived.workloads_replay (d := d.replay l) fun e he => (hspares e he).2
    rw [Derived.replay_append]
    exact Derived.ext hworkloads hartifacts
  · rw [List.foldl_append]
    exact foldl_tell_of_spares (fun e he => (hspares e he).1) _
  · have hf := h.faithful fun sweep hsweep => hsweep.sound
    have hs := Sweep.sound_ofSnapshot settings s
    obtain ⟨mid, failed, hreconciled⟩ := runs_reconcile hs hf hreconcile
    rw [Derived.replay_append]
    exact (hreconciled.settled hs (Sweep.failures_ofSnapshot settings s) hc.left hf).2.1

theorem hand_of_runs_round (h : Runs (op.round settings sweep) log op') :
    ∃ b, (⟨.hand b, ()⟩ : RoundExchange) ∈ log := by
  obtain ⟨release, l, rest, rfl, -, -⟩ := runs_round h
  exact ⟨_, List.mem_append_right _ (List.mem_cons_self ..)⟩

end Operator

end RelayFleet
