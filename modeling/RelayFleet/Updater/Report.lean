/-
The outcome of writing statuses, and the batches of statuses that are to be written.
-/
import RelayFleet.Status

namespace RelayFleet

/-- What became of the statuses that were to be written. -/
structure UpdateReport where
  patched : List ResourceKey := []
  /-- Resources that carried their status already. -/
  unchanged : List ResourceKey := []
  /-- Resources that are no more. -/
  missing : List ResourceKey := []
  /-- Resources whose status could not be written and is still to be. -/
  failed : List ResourceKey := []
deriving DecidableEq, Inhabited

namespace UpdateReport

/-- Whether nothing is left to be written for a resource. -/
def settled (r : UpdateReport) (resource : ResourceKey) : Bool := ! r.failed.contains resource

/-- Writes a report. -/
def toJson (r : UpdateReport) : Json :=
  let texts (l : List ResourceKey) : Json := .list (.str ·.text) l
  .obj [("patched", texts r.patched), ("unchanged", texts r.unchanged),
    ("missing", texts r.missing), ("failed", texts r.failed)]

end UpdateReport

/-- The statuses of a sweep. -/
structure StatusBatch where
  generation : Nat := 0
  statuses : SortedMap ResourceKey ResourceStatus := ∅
  /-- Whether somebody waits for the report. -/
  awaited : Bool := false
deriving DecidableEq, Inhabited

end RelayFleet
