/-
What the operator's writes lead to. `Derived` is what was derived from gateways in a cluster, seen as
the outcome of the operator's exchanges: a write that succeeded took effect, a write that failed
changed nothing. A write that is repeated has the effect of its last attempt (`replay_write`).
-/
import RelayFleet.Operator.Call
import RelayFleet.Proofs.Retry
import RelayFleet.Proofs.SortedMap

namespace RelayFleet

/-! ## Exchanges of the operator -/

/-- The answer to a call when all writes come out alike. -/
def OperatorCall.answered (result : Except Fault Unit) : (call : OperatorCall) → call.Reply
  | write _ => result
  | pause _ => ()
  | publish .. => ()
  | retire _ => ()

/-- A call of the operator with its answer. -/
abbrev OperatorExchange := Program.Exchange OperatorCall OperatorCall.Reply

namespace OperatorExchange

/-- Whether the call came out well. -/
def Succeeds : OperatorExchange → Prop
  | ⟨.write _, .error _⟩ => False
  | _ => True

/-- Whether all calls came out well. -/
def Clean (log : List OperatorExchange) : Prop := ∀ e ∈ log, e.Succeeds

/-- Whether it is a pause, or an attempt at a write. -/
def Attempts (w : ClusterWrite) : OperatorExchange → Prop
  | ⟨.write w', _⟩ => w' = w
  | ⟨.pause _, _⟩ => True
  | _ => False

/-- Whether it is a pause, or an attempt at a write that failed. -/
def Idles (w : ClusterWrite) : OperatorExchange → Prop
  | ⟨.write w', .error _⟩ => w' = w
  | ⟨.pause _, _⟩ => True
  | _ => False

theorem Idles.attempts {w : ClusterWrite} {e : OperatorExchange} (h : e.Idles w) :
    e.Attempts w := by
  obtain ⟨c, r⟩ := e
  cases c with
  | write w' =>
    cases r with
    | ok u => exact absurd h id
    | error f => exact h
  | pause n => trivial
  | publish k d => exact h
  | retire k => exact h

theorem succeeds_of_answered {e : OperatorExchange} (h : e.2 = OperatorCall.answered (.ok ()) e.1) :
    e.Succeeds := by
  obtain ⟨c, r⟩ := e
  cases c with
  | write w =>
    have hr : r = .ok () := h
    subst hr
    trivial
  | _ => trivial

theorem Clean.left {l₁ l₂ : List OperatorExchange} (h : Clean (l₁ ++ l₂)) : Clean l₁ :=
  fun e he => h e (List.mem_append_left l₂ he)

end OperatorExchange

/-! ## Derived resources -/

/-- What is derived from gateways in a cluster. -/
structure Derived where
  workloads : SortedMap ObjectKey Workload := ∅
  artifacts : SortedMap ObjectKey Artifact := ∅
deriving DecidableEq, Inhabited

namespace Derived

theorem ext {d e : Derived} (hworkloads : d.workloads = e.workloads)
    (hartifacts : d.artifacts = e.artifacts) : d = e := by
  cases d; cases e; cases hworkloads; cases hartifacts; rfl

/-- The effect of a write. -/
def write (d : Derived) : ClusterWrite → Derived
  | .applyWorkload w => { d with workloads := d.workloads.insert w.gateway w }
  | .deleteWorkload key => { d with workloads := d.workloads.erase key }
  | .applyArtifact a => { d with artifacts := d.artifacts.insert a.key a }
  | .deleteArtifact key => { d with artifacts := d.artifacts.erase key }
  | .addFinalizer .. => d
  | .removeFinalizer .. => d

/-- The effect of an exchange; a write that failed has none. -/
def after (d : Derived) : OperatorExchange → Derived
  | ⟨.write w, .ok ()⟩ => d.write w
  | _ => d

/-- The effect of exchanges, one after the other. -/
def replay (d : Derived) (log : List OperatorExchange) : Derived := log.foldl after d

@[simp] theorem replay_nil (d : Derived) : d.replay [] = d := rfl

theorem replay_append (d : Derived) (l₁ l₂ : List OperatorExchange) :
    d.replay (l₁ ++ l₂) = (d.replay l₁).replay l₂ := List.foldl_append

theorem after_idle (d : Derived) {w : ClusterWrite} {e : OperatorExchange} (h : e.Idles w) :
    d.after e = d := by
  obtain ⟨c, r⟩ := e
  cases c with
  | write w' =>
    cases r with
    | ok u => exact absurd h id
    | error f => rfl
  | pause n => rfl
  | publish k c => rfl
  | retire k => rfl

theorem replay_idle (d : Derived) {w : ClusterWrite} {log : List OperatorExchange}
    (h : ∀ e ∈ log, e.Idles w) : d.replay log = d := by
  induction log with
  | nil => rfl
  | cons e rest ih =>
    show (d.after e).replay rest = d
    rw [after_idle d (h e (List.mem_cons_self ..))]
    exact ih fun e he => h e (List.mem_cons_of_mem _ he)

end Derived

/-! ## Repeated writes -/

namespace OperatorProgram

open Program

variable {settings : Settings} {w : ClusterWrite} {log : List OperatorExchange}
  {result : Except Fault Unit}

/-- A write ends with its last attempt. -/
theorem runs_write (h : Runs (write settings w) log result) :
    ∃ before, log = before ++ [⟨.write w, result⟩] ∧ ∀ e ∈ before, e.Idles w := by
  let attempt : OperatorProgram (Except Fault Unit) := .ask (.write w) .done
  have hattempt : ∀ (log : List OperatorExchange) f,
      Runs attempt log (.error f) → ∀ e ∈ log, e.Idles w := by
    intro log f h e he
    rw [runs_call_iff.1 h, List.mem_singleton] at he
    rw [he]
    rfl
  have hpause : ∀ n (log : List OperatorExchange) u,
      Runs (pause settings n) log u → ∀ e ∈ log, e.Idles w := by
    intro n log u h e he
    rw [runs_call_iff.1 h, List.mem_singleton] at he
    rw [he]
    trivial
  obtain ⟨before, last, rfl, hlast, hbefore⟩ := Retry.runs_repeating hattempt hpause h
  exact ⟨before, by rw [runs_call_iff.1 hlast], hbefore⟩

theorem attempts_of_runs_write (h : Runs (write settings w) log result) :
    ∀ e ∈ log, e.Attempts w := by
  obtain ⟨before, rfl, hbefore⟩ := runs_write h
  intro e he
  rcases List.mem_append.1 he with he | he
  · exact (hbefore e he).attempts
  · rw [List.mem_singleton.1 he]
    rfl

/-- A repeated write has the effect of its last attempt. -/
theorem replay_write (h : Runs (write settings w) log result) (d : Derived) :
    d.replay log = d.after ⟨.write w, result⟩ := by
  obtain ⟨before, rfl, hbefore⟩ := runs_write h
  rw [Derived.replay_append, Derived.replay_idle d hbefore]
  rfl

theorem write_ok_of_clean (h : Runs (write settings w) log result)
    (hc : OperatorExchange.Clean log) : result = .ok () := by
  obtain ⟨before, rfl, -⟩ := runs_write h
  have := hc ⟨.write w, result⟩ (by simp)
  cases result with
  | ok u => rfl
  | error f => exact absurd this id

end OperatorProgram

end RelayFleet
