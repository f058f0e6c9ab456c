/-
The updater: it writes the statuses of the newest batch. What could not be written stays pending
until it is written or a newer batch comes.
-/
import RelayFleet.Updater.Call

namespace RelayFleet

/-- The statuses that are still to be written. -/
structure Updater where
  pending : SortedMap ResourceKey ResourceStatus := ∅
deriving DecidableEq, Inhabited

namespace UpdateReport

/-- Adds what became of a resource. -/
def add (r : UpdateReport) (resource : ResourceKey) : Except Fault StatusOutcome → UpdateReport
  | .ok .patched => { r with patched := r.patched ++ [resource] }
  | .ok .unchanged => { r with unchanged := r.unchanged ++ [resource] }
  | .ok .missing => { r with missing := r.missing ++ [resource] }
  | .error _ => { r with failed := r.failed ++ [resource] }

end UpdateReport

namespace Updater

variable (settings : Settings)

/-- Keeps a status pending if it could not be written. -/
def keep (u : Updater) (resource : ResourceKey) (desired : ResourceStatus) :
    Except Fault StatusOutcome → Updater
  | .ok _ => u
  | .error _ => { u with pending := u.pending.insert resource desired }

/-- Tries to write one status. -/
def flushOne (s : UpdateReport × Updater) (b : ResourceKey × ResourceStatus) :
    StatusProgram (UpdateReport × Updater) := do
  let outcome ← StatusProgram.write settings b.1 b.2
  pure (s.1.add b.1 outcome, s.2.keep b.1 b.2 outcome)

/-- Tries once to write every pending status, in order. -/
def flush (u : Updater) : StatusProgram (UpdateReport × Updater) :=
  u.pending.toList.foldlM (flushOne settings) ({}, {})

/-- Takes in queued batches, oldest first. Only the newest counts. The report is for all who wait
for one. -/
def receive (u : Updater) (batches : List StatusBatch) :
    StatusProgram (Option UpdateReport × Updater) :=
  match batches.getLast? with
  | none => pure (none, u)
  | some newest => do
    let (report, u) ← flush settings { pending := newest.statuses }
    pure (some report, u)

end Updater

end RelayFleet
