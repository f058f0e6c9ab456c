/-
A rehearsal of the updater: resources with a version and a status. Every call is recorded and comes
out well unless a fault is planned for it. A write raises the version by one, whatever version it
was made for.
-/
import RelayFleet.Updater.Basic
import RelayFleet.Rehearsal.FaultPlan
import RelayFleet.Rehearsal.Version

namespace RelayFleet

/-- A call that was made, the version it was made for, and the fault it failed with. -/
structure RecordedStatusCall where
  call : String
  resource : ResourceKey
  /-- The version of a write. -/
  version : Option (Option String) := none
  fault : Option Fault
deriving DecidableEq, Inhabited

/-- Writes down a recorded call. -/
def RecordedStatusCall.toJson (c : RecordedStatusCall) : Json :=
  .present [("call", some (.str c.call)), ("key", some (.str c.resource.text)),
    ("resourceVersion", c.version.map .ofText?), ("failed", c.fault.map fun f => .str f.label)]

/-- What the updater finds in a rehearsal. -/
structure StatusBoard where
  resources : SortedMap ResourceKey CurrentStatus := ∅
  plan : FaultPlan := []
  calls : List RecordedStatusCall := []
  /-- What the clock shows. -/
  clock : Timestamp

namespace StatusBoard

/-- Writes down what is on a board. -/
def toJson (b : StatusBoard) : Json :=
  .list (fun (resource, current) => .obj [("resource", .str (ResourceKey.text resource)),
    ("resourceVersion", .ofText? current.resourceVersion),
    ("status", .orNull ResourceStatus.toJson current.status)]) b.resources.toList

/-- Answers a call of the updater. -/
def answer : Program.Handler StatusCall StatusCall.Reply StatusBoard
  | .get resource, b =>
    let (fault, plan) := b.plan.strike "get_status" resource.text
    (match fault with
      | some f => .error f
      | none => .ok (b.resources.get? resource),
      { b with plan, calls := b.calls ++ [{ call := "get_status", resource, fault }] })
  | .patch resource version status, b =>
    let (planned, plan) := b.plan.strike "patch_status" resource.text
    let fault := planned.orElse fun _ =>
      if b.resources.contains resource then none else some (.notFound resource.text)
    let calls := b.calls ++
      [{ call := "patch_status", resource, version := some version, fault }]
    match fault with
    | some f => (.error f, { b with plan, calls })
    | none => (.ok (), { b with
        plan, calls
        resources := b.resources.insert resource ⟨some (nextVersion version), some status⟩ })
  | .now, b => (b.clock, b)

end StatusBoard

/-! ## Rounds -/

/-- An updater at work in a rehearsal. -/
structure UpdaterRehearsal where
  updater : Updater := {}
  board : StatusBoard

namespace UpdaterRehearsal

variable (settings : Settings)

/-- Tries once to write what is pending. -/
def flush (r : UpdaterRehearsal) : UpdateReport × UpdaterRehearsal :=
  let ((report, updater), board) := (r.updater.flush settings).run StatusBoard.answer r.board
  (report, ⟨updater, board⟩)

/-- Tries again for as long as something is pending, up to a number of times. -/
def retry : Nat → UpdaterRehearsal → UpdaterRehearsal
  | 0, r => r
  | n + 1, r => if r.updater.pending.isEmpty then r else retry n (r.flush settings).2

/-- Queues batches at once and lets time pass, in which there are this many occasions to try again.
Answers with the report for those who wait for one. -/
def round (occasions : Nat) (r : UpdaterRehearsal) (batches : List StatusBatch) :
    Option UpdateReport × UpdaterRehearsal :=
  let ((report, updater), board) :=
    (r.updater.receive settings batches).run StatusBoard.answer r.board
  (report, retry settings occasions ⟨updater, board⟩)

end UpdaterRehearsal

end RelayFleet
