/-
What the operator and the updater do over a pipeline's queues, one deed after the other. Rendered
sweeps may come at any time, the surroundings may change and answer in any way, queues may have any
room, and the updater may try again at any time. The operator may also be told to stop while it
waits for room or for a report; that report is nobody's then.
-/
import RelayFleet.Pipeline.Basic
import RelayFleet.Proofs.Operator.Phase
import RelayFleet.Proofs.Operator.Settled
import RelayFleet.Proofs.Updater.Flush

namespace RelayFleet

open Program

/-! ## Deeds -/

/-- What the operator or the updater does. -/
inductive Deed where
  /-- The operator takes up a sweep. -/
  | takes (op : Operator) (sweep : Sweep)
  /-- The operator makes a call and is answered. -/
  | calls (e : OperatorExchange)
  /-- The operator hands a batch over. -/
  | hands (b : StatusBatch)
  /-- The operator hears a report. -/
  | hears (report : UpdateReport)
  /-- The updater begins to write statuses. -/
  | writes (statuses : SortedMap ResourceKey ResourceStatus)
  /-- The updater makes a call and is answered. -/
  | asks (e : StatusExchange)
  /-- The updater comes to an end, with a report if somebody waits for it. -/
  | finishes (report : Option UpdateReport)

namespace Deed

/-- The exchange of a round that a deed is, if it is one. -/
def round? : Deed → Option RoundExchange
  | calls e => some (.ofOperator e)
  | hands b => some ⟨.hand b, ()⟩
  | hears report => some ⟨.report, report⟩
  | _ => none

/-- The exchange of the updater that a deed is, if it is one. -/
def status? : Deed → Option StatusExchange
  | asks e => some e
  | _ => none

/-- The exchanges of rounds in a history. -/
def roundLog (h : List Deed) : List RoundExchange := h.filterMap round?

/-- The exchanges of the operator with its surroundings in a history. -/
def operatorLog (h : List Deed) : List OperatorExchange := RoundExchange.calls (roundLog h)

/-- The exchanges of the updater in a history. -/
def statusLog (h : List Deed) : List StatusExchange := h.filterMap status?

variable {h : List Deed}

theorem roundLog_append (h₁ h₂ : List Deed) : roundLog (h₁ ++ h₂) = roundLog h₁ ++ roundLog h₂ :=
  List.filterMap_append

theorem hands_mem_roundLog_iff {b : StatusBatch} : ⟨.hand b, ()⟩ ∈ roundLog h ↔ .hands b ∈ h := by
  unfold roundLog
  rw [List.mem_filterMap]
  constructor
  · rintro ⟨d, hd, he⟩
    cases d <;> cases he
    exact hd
  · exact fun hd => ⟨_, hd, rfl⟩

theorem hears_mem_roundLog_iff {report : UpdateReport} :
    ⟨.report, report⟩ ∈ roundLog h ↔ .hears report ∈ h := by
  unfold roundLog
  rw [List.mem_filterMap]
  constructor
  · rintro ⟨d, hd, he⟩
    cases d <;> cases he
    exact hd
  · exact fun hd => ⟨_, hd, rfl⟩

end Deed

/-! ## Courses -/

namespace OperatorStage

/-- The round that the operator is at work on. -/
def round? : OperatorStage → Option (RoundProgram Operator)
  | waiting _ => none
  | working round => some round
  | pausing _ round => some round

/-- Whether the operator would stop here if it was told to: it waits for room or for a report. -/
def MayStop : OperatorStage → Prop
  | working (.ask (.hand _) _) => True
  | working (.ask .report _) => True
  | _ => False

end OperatorStage

/-- The updater goes on, with nobody who waits for its report. -/
def UpdaterStage.unheard : UpdaterStage → UpdaterStage
  | waiting u => waiting u
  | writing task => writing ((fun result => (none, result.2)) <$> task)

namespace Pipeline

variable {σ : Type} (env : Surroundings σ) (settings : Settings)

/-- What the operator does when it takes a step, unless it only comes to an end. -/
def operatorDeed? (p : Pipeline) (s : σ) : Option Deed :=
  match p.operator with
  | .waiting op => p.sweeps.getLast?.map (.takes op)
  | .working (.ask (.operator call) _) => some (.calls ⟨call, (env.operator call s).1⟩)
  | .working (.ask (.hand b) _) => some (.hands b)
  | .working (.ask .report _) => some (.hears (p.report.getD {}))
  | _ => none

/-- What the updater does when it takes a step. -/
def updaterDeed (p : Pipeline) (s : σ) : Deed :=
  match p.updater with
  | .waiting u => .writes (p.batches.getLast?.elim u.pending (·.statuses))
  | .writing (.done (report, _)) => .finishes report
  | .writing (.ask call _) => .asks ⟨call, (env.status call s).1⟩

/-- The pipeline after the operator was told to stop what it is at. Nobody waits for a report. -/
def stopped (p : Pipeline) (op : Operator) : Pipeline :=
  { p with
    operator := .waiting op
    batches := p.batches.map ({ · with awaited := false })
    updater := p.updater.unheard
    report := none }

/-- A pipeline with its surroundings, and all that the operator and the updater have done. -/
inductive Course : Pipeline → σ → List Deed → Prop
  | start (s : σ) : Course {} s []
  | sweep {p : Pipeline} {s : σ} {hist : List Deed} (h : Course p s hist) {sweep : Sweep}
    (hsweep : sweep.Rendered settings) :
    Course { p with sweeps := p.sweeps ++ [sweep] } s hist
  | change {p : Pipeline} {s : σ} {hist : List Deed} (h : Course p s hist) (s' : σ) (now : Nat) :
    Course { p with now } s' hist
  | operator {p : Pipeline} {s : σ} {hist : List Deed} (h : Course p s hist) (room : Nat)
    (hready : p.operatorReady { settings with channelCapacity := room } = true) :
    Course (p.stepOperator env settings s).1 (p.stepOperator env settings s).2
      (hist ++ (p.operatorDeed? env s).toList)
  | updater {p : Pipeline} {s : σ} {hist : List Deed} (h : Course p s hist)
    (hready : p.updaterReady = true) :
    Course (p.stepUpdater env settings s).1 (p.stepUpdater env settings s).2
      (hist ++ [p.updaterDeed env s])
  | retry {p : Pipeline} {s : σ} {hist : List Deed} {u : Updater} (h : Course p s hist)
    (hu : p.updater = .waiting u) :
    Course (p.beginRetry settings u) s (hist ++ [.writes u.pending])
  | stop {p : Pipeline} {s : σ} {hist : List Deed} (h : Course p s hist)
    (hstop : p.operator.MayStop) (op : Operator) : Course (p.stopped op) s hist

/-! ## Earlier courses -/

variable {env} {settings} {p : Pipeline} {s : σ} {hist before after : List Deed}

theorem of_append_eq {c d : Deed} (h : hist ++ [d] = before ++ c :: after) :
    (before = hist ∧ d = c) ∨ ∃ after', hist = before ++ c :: after' := by
  rcases List.eq_nil_or_concat after with rfl | ⟨after', x, rfl⟩
  · obtain ⟨rfl, he⟩ := List.append_inj' h rfl
    cases he
    exact .inl ⟨rfl, rfl⟩
  · rw [List.concat_eq_append, ← List.cons_append, ← List.append_assoc] at h
    exact .inr ⟨after', (List.append_inj' h rfl).1⟩

theorem asks_of_operatorDeed? {call : OperatorCall} {reply : call.Reply}
    (h : p.operatorDeed? env s = some (.calls ⟨call, reply⟩)) :
    ∃ next, p.operator = .working (.ask (.operator call) next) := by
  unfold operatorDeed? at h
  split at h
  · simp at h
  · rename_i next hp
    cases h
    exact ⟨next, hp⟩
  all_goals cases h

/-- A call that was made at some time was what the operator had come to by then. -/
theorem Course.at_call {call : OperatorCall} {reply : call.Reply} (h : Course env settings p s hist)
    (he : hist = before ++ .calls ⟨call, reply⟩ :: after) :
    ∃ (p : Pipeline) (s : σ) (next : call.Reply → RoundProgram Operator),
      Course env settings p s before ∧ p.operator = .working (.ask (.operator call) next) := by
  induction h generalizing after with
  | start s => simp at he
  | sweep _ _ ih => exact ih he
  | change _ _ _ ih => exact ih he
  | stop _ _ _ ih => exact ih he
  | @operator p s hist h _ _ ih =>
    rcases hdeed : p.operatorDeed? env s with - | d
    · rw [hdeed] at he
      exact ih (by simpa using he)
    · rw [hdeed] at he
      rcases of_append_eq he with ⟨rfl, rfl⟩ | ⟨after', he⟩
      · obtain ⟨next, hp⟩ := asks_of_operatorDeed? hdeed
        exact ⟨p, s, next, h, hp⟩
      · exact ih he
  | @updater p s hist h _ ih =>
    rcases of_append_eq he with ⟨-, hd⟩ | ⟨after', he⟩
    · unfold updaterDeed at hd
      split at hd <;> cases hd
    · exact ih he
  | retry _ _ ih =>
    rcases of_append_eq he with ⟨-, hd⟩ | ⟨after', he⟩
    · cases hd
    · exact ih he

end Pipeline

end RelayFleet
