/-
Writing again after a fault. A write that may help itself is repeated after a wait, up to a number
of calls; a write that was based on a stale version is repeated at once, since every attempt reads
the present version.
-/
import RelayFleet.Program
import RelayFleet.Fault

namespace RelayFleet

namespace Retry

variable {ι : Type} {ρ : ι → Type} {α : Type}

/-- Makes an attempt, and up to `left` further ones for as long as the fault calls for another.
`wait` is what is done after a number of failures, counted from zero. -/
def repeating (again : Fault → Bool) :
    (wait : Nat → Program ι ρ Unit) → (left : Nat) → Program ι ρ (Except Fault α) →
      Program ι ρ (Except Fault α)
  | _, 0, attempt => attempt
  | wait, left + 1, attempt => do
    match ← attempt with
    | .ok a => pure (.ok a)
    | .error f =>
      if again f then
        wait 0
        repeating again (fun n => wait (n + 1)) left attempt
      else pure (.error f)

/-- Repeats an attempt that failed for want of luck, up to `attempts` calls; one is made anyway. -/
def transient (attempts : Nat) (wait : Nat → Program ι ρ Unit)
    (attempt : Program ι ρ (Except Fault α)) : Program ι ρ (Except Fault α) :=
  repeating Fault.isRetryable wait (attempts - 1) attempt

/-- Repeats an attempt that met a newer version, up to `attempts` calls; at least one is made. -/
def onConflict (attempts : Nat) (attempt : Program ι ρ (Except Fault α)) :
    Program ι ρ (Except Fault α) :=
  repeating Fault.isConflict (fun _ => pure ()) (attempts - 1) attempt

end Retry

end RelayFleet
