/-
What the operator remembers about a gateway, and what it does for one gateway. An active gateway
gets its finalizer before anything is created for it. Any other gateway loses its contribution and
its workload. A write that failed may have taken effect, so it is made again.
-/
import RelayFleet.Operator.Call
import RelayFleet.Render.Gateway

namespace RelayFleet

/-- What is remembered about a gateway. -/
structure Tracked where
  /-- The artifact that the gateway contributes to, or did last. -/
  target : Option ObjectKey := none
  contribution : Option Document := none
  owner : Option GatewayOwner := none
  /-- The workload written last; it is only known to be there if `synced`. -/
  workload : Option Workload := none
  synced : Bool := false
deriving DecidableEq, Inhabited

namespace Tracked

variable (settings : Settings)

/-- Whether nothing is left of the gateway, as far as its contribution and workload go. -/
def isClean (t : Tracked) : Bool := t.contribution.isNone && t.synced && t.workload.isNone

/-- What is known of a workload after it was written or deleted. -/
def recording (t : Tracked) (workload : Option Workload) : Except Fault Unit → Tracked
  | .ok () => { t with workload, synced := true }
  | .error _ => { t with synced := false }

/-- Sees to it that a gateway has its workload, or none, unless that is known already. -/
def syncWorkload (key : ObjectKey) (workload : Option Workload) (t : Tracked) :
    OperatorProgram Tracked :=
  if t.synced ∧ t.workload = workload then pure t
  else do
    let result ← match workload with
      | some w => OperatorProgram.write settings (.applyWorkload w)
      | none => OperatorProgram.write settings (.deleteWorkload key)
    pure (t.recording workload result)

/-- Takes in what an active gateway contributes, and sees to its workload. -/
def activate (r : GatewayRender) (t : Option Tracked) : OperatorProgram (Option Tracked) :=
  some <$> syncWorkload settings r.gateway r.workload
    { t.getD {} with target := r.target, contribution := r.config, owner := r.owner }

/-- What is done for an active gateway. Without the finalizer, nothing is. -/
def ensureActive (r : GatewayRender) (t : Option Tracked) : OperatorProgram (Option Tracked) :=
  if r.hasFinalizer then activate settings r t
  else do
    match ← OperatorProgram.write settings (.addFinalizer r.gateway settings.finalizer) with
    | .ok () => activate settings r t
    | .error _ => pure t

/-- What is remembered of a gateway with the finalizer that was not heard of before: it may have
contributed to the artifact of its own name. -/
def unheard (key : ObjectKey) : Tracked :=
  { target := some (.namespaced key.namespaceText key.name) }

/-- What is done for a gateway that must have nothing derived from it. -/
def tearDown (r : GatewayRender) (t : Option Tracked) : OperatorProgram (Option Tracked) :=
  match t.orElse fun _ => if r.hasFinalizer then some (unheard r.gateway) else none with
  | none => pure none
  | some t => some <$> syncWorkload settings r.gateway none { t with contribution := none }

/-- What is done for a rendered gateway. -/
def update (r : GatewayRender) (t : Option Tracked) : OperatorProgram (Option Tracked) :=
  match r.state with
  | .active => ensureActive settings r t
  | .invalid => tearDown settings r t
  | .terminating => tearDown settings r t

/-- What is done for a gateway that is no more. -/
def vanish (key : ObjectKey) (t : Tracked) : OperatorProgram Tracked := do
  let t ← syncWorkload settings key none t
  pure { t with contribution := none }

end Tracked

end RelayFleet
