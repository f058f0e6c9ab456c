/-
A round of the operator: what it does for one sweep. It makes the cluster follow the sweep and hands
the statuses over to the updater. If gateways may lose their finalizer, it waits for the report on
those statuses, and removes the finalizer of those whose last status was written.
-/
import RelayFleet.Operator.Basic

namespace RelayFleet

/-- What the operator asks of its surroundings and of the updater. -/
inductive RoundCall where
  | operator (call : OperatorCall)
  /-- The updater shall have a batch. -/
  | hand (batch : StatusBatch)
  /-- The report on the batch that was handed over. -/
  | report

/-- What a call of a round is answered with. -/
abbrev RoundCall.Reply : RoundCall → Type
  | operator call => call.Reply
  | hand _ => Unit
  | report => UpdateReport

/-- A program that makes the calls of a round. -/
abbrev RoundProgram := Program RoundCall RoundCall.Reply

namespace RoundProgram

/-- A program of the operator within a round. -/
def ofOperator {α : Type} : OperatorProgram α → RoundProgram α
  | .done a => .done a
  | .ask call next => .ask (.operator call) fun reply => ofOperator (next reply)

end RoundProgram

namespace Operator

/-- The batch of a sweep after which gateways are to be released. Its report is awaited if there are
any. -/
def batch (sweep : Sweep) (release : List ObjectKey) : StatusBatch where
  generation := sweep.generation
  statuses := sweep.statuses
  awaited := ! release.isEmpty

/-- Does what a sweep calls for. -/
def round (settings : Settings) (op : Operator) (sweep : Sweep) : RoundProgram Operator := do
  let (release, op) ← .ofOperator (op.reconcile settings sweep)
  .ask (.hand (batch sweep release)) .done
  if release.isEmpty then pure op
  else do
    let report ← .ask .report .done
    .ofOperator (releaseFinalizers settings release report)
    pure op

end Operator

end RelayFleet
