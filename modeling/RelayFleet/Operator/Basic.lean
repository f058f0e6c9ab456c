/-
The operator: it makes the cluster follow a sweep. First the gateways in order, then the gateways
that are no more, then the artifacts that all remembered contributions add up to. It says which
gateways have nothing left and may lose their finalizer.
-/
import RelayFleet.Operator.Tracked
import RelayFleet.Render.Sweep
import RelayFleet.Updater.Report

namespace RelayFleet

/-- What the operator remembers between sweeps. -/
structure Operator where
  gateways : SortedMap ObjectKey Tracked := ∅
  /-- The artifacts as they were written last. -/
  artifacts : SortedMap ObjectKey Artifact := ∅
deriving DecidableEq, Inhabited

namespace Operator

variable (settings : Settings)

/-! ## Gateways -/

/-- Remembers a gateway, or forgets it. -/
def remember (op : Operator) (key : ObjectKey) : Option Tracked → Operator
  | some t => { op with gateways := op.gateways.insert key t }
  | none => { op with gateways := op.gateways.erase key }

/-- Follows a rendered gateway. -/
def follow (op : Operator) (r : GatewayRender) : OperatorProgram Operator :=
  op.remember r.gateway <$> Tracked.update settings r (op.gateways.get? r.gateway)

/-- The remembered gateways that a sweep knows nothing of. -/
def vanished (op : Operator) (sweep : Sweep) : List (ObjectKey × Tracked) :=
  op.gateways.toList.filter fun b => ! sweep.gateways.contains b.1 && ! sweep.failures.contains b.1

/-- Takes down what is left of a gateway that is no more. -/
def abandon (op : Operator) (b : ObjectKey × Tracked) : OperatorProgram Operator :=
  (op.remember b.1 <| some ·) <$> Tracked.vanish settings b.1 b.2

/-! ## Artifacts -/

/-- Adds a contribution to the artifact of its target. -/
def contribute (artifacts : SortedMap ObjectKey Artifact) (t : Tracked) :
    SortedMap ObjectKey Artifact :=
  match t.target, t.contribution with
  | some target, some contribution =>
    let before := (artifacts.get? target).getD { key := target }
    artifacts.insert target
      { before with
        config := before.config.merge contribution
        owners := before.owners ++ t.owner.toList }
  | _, _ => artifacts

/-- Lists the owners of an artifact in order, each once. -/
def tidy (a : Artifact) : Artifact := { a with owners := (SortedSet.ofList a.owners).toList }

/-- The artifacts that the remembered contributions add up to. -/
def desired (op : Operator) : SortedMap ObjectKey Artifact :=
  (op.gateways.values.foldl contribute ∅).map tidy

/-- The artifacts that have to go: those written or aimed at before that nothing contributes to. -/
def stale (op : Operator) (desired : SortedMap ObjectKey Artifact) : List ObjectKey :=
  (SortedSet.ofList (op.artifacts.keys ++ op.gateways.values.filterMap (·.target))).toList.filter
    (! desired.contains ·)

/-- The operator during the writing of artifacts, and the targets whose write failed so far. -/
abbrev Syncing := Operator × List ObjectKey

/-- Writes an artifact and tells its subscribers, unless it is known to be there. -/
def writeArtifact (s : Syncing) (a : Artifact) : OperatorProgram Syncing :=
  if s.1.artifacts.get? a.key = some a then pure s
  else do
    match ← OperatorProgram.write settings (.applyArtifact a) with
    | .ok () =>
      OperatorProgram.publish a.key a.config
      pure ({ s.1 with artifacts := s.1.artifacts.insert a.key a }, s.2)
    | .error _ => pure (s.1, a.key :: s.2)

/-- Deletes an artifact and tells its subscribers. -/
def dropArtifact (s : Syncing) (key : ObjectKey) : OperatorProgram Syncing := do
  match ← OperatorProgram.write settings (.deleteArtifact key) with
  | .ok () =>
    OperatorProgram.retire key
    pure ({ s.1 with artifacts := s.1.artifacts.erase key }, s.2)
  | .error _ => pure (s.1, key :: s.2)

/-- Brings the artifacts up to date. -/
def syncArtifacts (op : Operator) : OperatorProgram Syncing := do
  let desired := op.desired
  let s ← desired.values.foldlM (writeArtifact settings) (op, [])
  (s.1.stale desired).foldlM (dropArtifact settings) s

/-! ## Sweeps -/

/-- Forgets the gateways of which nothing is left, unless the write of their target failed. -/
def forget (op : Operator) (failed : List ObjectKey) : Operator :=
  { op with
    gateways := op.gateways.filter fun _ t => ! t.isClean || t.target.any failed.contains }

/-- The gateways of a sweep that have the finalizer and nothing left. -/
def released (op : Operator) (sweep : Sweep) : List ObjectKey :=
  (sweep.gateways.values.filter fun r =>
    r.state ≠ .active && r.hasFinalizer && ! op.gateways.contains r.gateway).map (·.gateway)

/-- Makes the cluster follow a sweep; answers with the gateways that may lose their finalizer. -/
def reconcile (op : Operator) (sweep : Sweep) : OperatorProgram (List ObjectKey × Operator) := do
  let op ← sweep.gateways.values.foldlM (follow settings) op
  let op ← (op.vanished sweep).foldlM (abandon settings) op
  let (op, failed) ← op.syncArtifacts settings
  let op := op.forget failed
  pure (op.released sweep, op)

/-- Removes the finalizer of gateways whose last status was written. -/
def releaseFinalizers (gateways : List ObjectKey) (report : UpdateReport) :
    OperatorProgram Unit :=
  (gateways.filter fun key => report.settled (.gateway key)).forM fun key => do
    let _ ← OperatorProgram.write settings (.removeFinalizer key settings.finalizer)

end Operator

end RelayFleet
