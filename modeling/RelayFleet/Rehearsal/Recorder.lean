/-
A rehearsal of the operator: every write is recorded and comes out well unless a fault is planned
for it, and what is published goes to a distributor.
-/
import RelayFleet.Operator.Basic
import RelayFleet.Distribution.Basic
import RelayFleet.Rehearsal.FaultPlan

namespace RelayFleet

/-- A write that was made, and the fault it failed with. -/
structure RecordedWrite where
  write : ClusterWrite
  fault : Option Fault
deriving DecidableEq, Inhabited

/-- Writes down a recorded write. -/
def RecordedWrite.toJson (r : RecordedWrite) : Json :=
  .present [("call", some (.str r.write.name)), ("key", some (.str r.write.key.text)),
    ("arg", r.write.detail?), ("failed", r.fault.map fun f => .str f.label)]

/-- What the operator finds in a rehearsal. -/
structure Recorder where
  plan : FaultPlan := []
  writes : List RecordedWrite := []
  distributor : Distributor := {}

namespace Recorder

/-- Answers a call of the operator. -/
def answer : Program.Handler OperatorCall OperatorCall.Reply Recorder
  | .write w, r =>
    let (fault, plan) := r.plan.strike w.name w.key.text
    (match fault with | some f => .error f | none => .ok (),
      { r with plan, writes := r.writes ++ [⟨w, fault⟩] })
  | .pause _, r => ((), r)
  | .publish key config, r => ((), { r with distributor := (r.distributor.publish key config).2 })
  | .retire key, r => ((), { r with distributor := r.distributor.remove key })

end Recorder

end RelayFleet
