/-
What the updater asks of its surroundings: the present status of a resource, a write of a status
that holds only for the version it was made for, and the time.
-/
import RelayFleet.Updater.Report
import RelayFleet.Retry
import RelayFleet.Settings

namespace RelayFleet

/-- The status that a resource carries, and the version it carries it in. -/
structure CurrentStatus where
  resourceVersion : Option String
  /-- The status, if the resource has one. -/
  status : Option ResourceStatus
deriving DecidableEq, Inhabited

/-- The version of an object and the status it carries in it. -/
def Object.currentStatus (o : Object) : CurrentStatus := ⟨o.resourceVersion, o.status?⟩

/-- What the updater asks of its surroundings. -/
inductive StatusCall where
  | get (resource : ResourceKey)
  | patch (resource : ResourceKey) (version : Option String) (status : ResourceStatus)
  | now
deriving DecidableEq, Inhabited

/-- What a call of the updater is answered with. -/
abbrev StatusCall.Reply : StatusCall → Type
  | get _ => Except Fault (Option CurrentStatus)
  | patch .. => Except Fault Unit
  | now => Timestamp

/-- A program that makes calls of the updater. -/
abbrev StatusProgram := Program StatusCall StatusCall.Reply

/-- What became of a status. -/
inductive StatusOutcome where
  | patched
  | unchanged
  | missing
deriving DecidableEq, Inhabited

namespace StatusProgram

/-- Asks for the status of a resource, which may be no more. -/
def get (resource : ResourceKey) : StatusProgram (Except Fault (Option CurrentStatus)) :=
  .ask (.get resource) .done

/-- Writes the status of a resource in a version. -/
def patch (resource : ResourceKey) (version : Option String) (status : ResourceStatus) :
    StatusProgram (Except Fault Unit) :=
  .ask (.patch resource version status) .done

/-- Asks for the time. -/
def now : StatusProgram Timestamp := .ask .now .done

/-- Reads the status of a resource, and writes the desired one over it if it is another. -/
def attempt (controller : String) (resource : ResourceKey) (desired : ResourceStatus) :
    StatusProgram (Except Fault StatusOutcome) := do
  match ← get resource with
  | .error f => pure (.error f)
  | .ok none => pure (.ok .missing)
  | .ok (some current) =>
    let stamped := desired.stamped current.status controller (← now)
    if current.status = some stamped then pure (.ok .unchanged)
    else do
      let written ← patch resource current.resourceVersion stamped
      pure (written.map fun _ => .patched)

/-- A resource that is gone is no failure. -/
def settle : Except Fault StatusOutcome → Except Fault StatusOutcome
  | .error f => if f.isNotFound then .ok .missing else .error f
  | .ok outcome => .ok outcome

/-- Brings the status of a resource up to date, however often it changes meanwhile, up to the
attempts that are set. -/
def write (settings : Settings) (resource : ResourceKey) (desired : ResourceStatus) :
    StatusProgram (Except Fault StatusOutcome) :=
  settle <$> Retry.onConflict settings.statusRetryAttempts
    (attempt settings.controllerName resource desired)

end StatusProgram

end RelayFleet
