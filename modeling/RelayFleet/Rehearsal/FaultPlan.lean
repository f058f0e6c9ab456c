/-
Planned faults. A rehearsal lets given calls fail, so that what a stage does about it can be
watched. A planned fault names a call and the text of the key it is about, and strikes a number of
times; several for one call strike in the order they were planned.
-/
import RelayFleet.Fault

namespace RelayFleet

/-- A fault that is to strike. -/
structure PlannedFault where
  call : String
  key : String
  times : Nat := 1
  fault : Fault
deriving DecidableEq, Inhabited

/-- The faults that are still to strike, in the order they were planned. -/
abbrev FaultPlan := List PlannedFault

namespace FaultPlan

/-- The fault that strikes a call about a key, if one does, and the faults after it. -/
def strike (call key : String) : FaultPlan → Option Fault × FaultPlan
  | [] => (none, [])
  | p :: rest =>
    if p.call = call ∧ p.key = key ∧ 0 < p.times then
      (some p.fault, { p with times := p.times - 1 } :: rest)
    else
      let (fault, rest) := strike call key rest
      (fault, p :: rest)

end FaultPlan

end RelayFleet
