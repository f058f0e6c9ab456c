/-
A schedule for the stages of the pipeline. Stages that can take a step stand in line. The first one
takes steps for as long as it can, and only then the next has its turn. A stage that becomes ready
meanwhile joins the line at its end. Time stands still while there is anybody in line.
-/
import RelayFleet.Pipeline.Basic

namespace RelayFleet

/-- A pipeline on its surroundings, and the stages in line. -/
structure Schedule (σ : Type) where
  pipeline : Pipeline := {}
  surroundings : σ
  line : List Stage := Stage.all

namespace Schedule

variable {σ : Type} (env : Surroundings σ) (settings : Settings)

/-- The room for signs of a change: one is enough, since the newest snapshot is looked at. -/
def signs : Nat := 1

/-- Starts a pipeline. Every stage has a turn at the beginning. -/
def start (s : σ) : Schedule σ :=
  let store := (env.store s).attach signs
  { pipeline := { renderer := .start store }, surroundings := env.withStore s store }

/-- Has the stages that are ready and not in line join it. -/
def join (r : Schedule σ) : Schedule σ :=
  let joining := Stage.all.filter fun stage =>
    ! r.line.contains stage && r.pipeline.isReady env settings r.surroundings stage
  { r with line := r.line ++ joining }

/-- Lets time pass up to a moment. -/
def advance (r : Schedule σ) (moment : Nat) : Schedule σ :=
  join env settings { r with pipeline := { r.pipeline with now := moment } }

/-- Has the first stage in line take a step. -/
def stepFirst (r : Schedule σ) (stage : Stage) : Schedule σ :=
  let (pipeline, surroundings) := r.pipeline.step env settings r.surroundings stage
  join env settings { r with pipeline, surroundings }

/-- Runs the pipeline up to a moment, for a number of turns and steps at most. -/
def run (moment : Nat) : Nat → Schedule σ → Schedule σ
  | 0, r => r
  | n + 1, r =>
    match r.line with
    | stage :: rest =>
      if r.pipeline.isReady env settings r.surroundings stage then
        run moment n (r.stepFirst env settings stage)
      else run moment n { r with line := rest }
    | [] =>
      match r.pipeline.nextMoment?.filter (· < moment) with
      | some next => run moment n (r.advance env settings next)
      | none => r.advance env settings moment

end Schedule

end RelayFleet
