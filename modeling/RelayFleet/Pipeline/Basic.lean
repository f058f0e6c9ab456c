/-
The pipeline: the renderer, the operator and the updater, with a queue between each and the next.
Each stage is at some point of its work, and takes a step when what it waits for has come: a sign
from the store, room in a queue, something in a queue, a report, or a moment. A step makes one call
at most, and the stages may take their steps in any order. Of what has queued up only the newest
counts.
-/
import RelayFleet.Operator.Round
import RelayFleet.Pipeline.Renderer
import RelayFleet.Updater.Basic

namespace RelayFleet

/-- What the pipeline works on: a store, and what its calls do. -/
structure Surroundings (σ : Type) where
  store : σ → Store
  withStore : σ → Store → σ
  operator : Program.Handler OperatorCall OperatorCall.Reply σ
  status : Program.Handler StatusCall StatusCall.Reply σ

/-- The stages of the pipeline. -/
inductive Stage where
  | renderer
  | operator
  | updater
deriving DecidableEq, Inhabited

/-- All stages, in the order in which work goes through them. -/
def Stage.all : List Stage := [renderer, operator, updater]

/-- Where the operator is. -/
inductive OperatorStage where
  | waiting (op : Operator)
  | working (round : RoundProgram Operator)
  /-- It pauses up to a moment. -/
  | pausing (moment : Nat) (round : RoundProgram Operator)

/-- Where the updater is. -/
inductive UpdaterStage where
  | waiting (u : Updater)
  /-- It writes statuses; at the end there may be somebody who waits for the report. -/
  | writing (task : StatusProgram (Option UpdateReport × Updater))

/-- A pipeline at work. Moments are nanoseconds since it was started. -/
structure Pipeline where
  renderer : Renderer := {}
  /-- Sweeps on their way to the operator, oldest first. -/
  sweeps : List Sweep := []
  operator : OperatorStage := .waiting {}
  /-- Batches on their way to the updater, oldest first. -/
  batches : List StatusBatch := []
  updater : UpdaterStage := .waiting {}
  /-- A report on its way to the operator. -/
  report : Option UpdateReport := none
  /-- When the updater next tries what could not be written. -/
  occasion : Nat := 0
  /-- The present moment. -/
  now : Nat := 0

namespace Pipeline

variable {σ : Type} (env : Surroundings σ) (settings : Settings)

/-! ## Readiness -/

/-- Whether the renderer can take a step. -/
def rendererReady (p : Pipeline) (s : σ) : Bool :=
  match p.renderer.outgoing with
  | some _ => p.sweeps.length < settings.channelCapacity
  | none => p.renderer.awake || p.renderer.isCalled (env.store s)

/-- Whether the operator can go on with a round. -/
def roundReady (p : Pipeline) : RoundProgram Operator → Bool
  | .done _ => true
  | .ask (.operator _) _ => true
  | .ask (.hand _) _ => p.batches.length < settings.channelCapacity
  | .ask .report _ => p.report.isSome

/-- Whether the operator can take a step. -/
def operatorReady (p : Pipeline) : Bool :=
  match p.operator with
  | .waiting _ => ! p.sweeps.isEmpty
  | .working round => p.roundReady settings round
  | .pausing moment _ => moment ≤ p.now

/-- When statuses are tried again, if some are pending. -/
def nextOccasion? (p : Pipeline) : Option Nat :=
  match p.updater with
  | .waiting u => if u.pending.isEmpty then none else some p.occasion
  | .writing _ => none

/-- Whether the updater can take a step. -/
def updaterReady (p : Pipeline) : Bool :=
  match p.updater with
  | .waiting _ => ! p.batches.isEmpty || p.nextOccasion?.any (· ≤ p.now)
  | .writing _ => true

/-- Whether a stage can take a step. -/
def isReady (p : Pipeline) (s : σ) : Stage → Bool
  | .renderer => p.rendererReady env settings s
  | .operator => p.operatorReady settings
  | .updater => p.updaterReady

/-- The next moment that a stage waits for. -/
def nextMoment? (p : Pipeline) : Option Nat :=
  let pause? := match p.operator with
    | .pausing moment _ => some moment
    | _ => none
  (pause?.toList ++ p.nextOccasion?.toList).min?

/-! ## Steps -/

/-- The renderer takes the signs, looks at the store, or sends what it has rendered. -/
def stepRenderer (p : Pipeline) (s : σ) : Pipeline × σ :=
  match p.renderer.outgoing with
  | some sweep =>
    ({ p with renderer := { p.renderer with outgoing := none }, sweeps := p.sweeps ++ [sweep] }, s)
  | none =>
    if p.renderer.awake then
      ({ p with renderer := p.renderer.look settings (env.store s).snapshot }, s)
    else ({ p with renderer := p.renderer.woken }, env.withStore s (env.store s).drained)

/-- The operator goes on with a round by one call. -/
def stepRound (p : Pipeline) (s : σ) : RoundProgram Operator → Pipeline × σ
  | .done op => ({ p with operator := .waiting op }, s)
  | .ask (.operator (.pause nanoseconds)) next =>
    ({ p with operator := .pausing (p.now + nanoseconds) (next ()) }, s)
  | .ask (.operator call) next =>
    let (reply, s) := env.operator call s
    ({ p with operator := .working (next reply) }, s)
  | .ask (.hand batch) next =>
    ({ p with operator := .working (next ()), batches := p.batches ++ [batch] }, s)
  | .ask .report next =>
    ({ p with operator := .working (next (p.report.getD {})), report := none }, s)

/-- The operator begins a round for the newest sweep, or goes on with one. -/
def stepOperator (p : Pipeline) (s : σ) : Pipeline × σ :=
  match p.operator with
  | .waiting op =>
    match p.sweeps.getLast? with
    | some sweep => ({ p with operator := .working (op.round settings sweep), sweeps := [] }, s)
    | none => (p, s)
  | .working round => p.stepRound env s round
  | .pausing _ round => ({ p with operator := .working round }, s)

/-- How late an occasion may come for the one after it to keep its moment: five milliseconds. -/
def tolerance : Nat := 5000000

/-- The occasion after the present one. -/
def laterOccasion (p : Pipeline) : Nat :=
  settings.statusInterval + if p.occasion + tolerance < p.now then p.now else p.occasion

/-- The updater begins to write what is pending. -/
def beginRetry (p : Pipeline) (u : Updater) : Pipeline :=
  { p with
    updater := .writing ((fun (_, u) => (none, u)) <$> u.flush settings)
    occasion := p.laterOccasion settings }

/-- The updater begins to write what it was handed. -/
def beginBatch (p : Pipeline) (u : Updater) : Pipeline :=
  let awaited := p.batches.any (·.awaited)
  { p with
    updater := .writing
      ((fun (report, u) => (report.filter fun _ => awaited, u)) <$> u.receive settings p.batches)
    batches := [] }

/-- The updater begins to write what it was handed, or else what is pending. -/
def stepIdleUpdater (p : Pipeline) (u : Updater) : Pipeline :=
  if p.batches.isEmpty then p.beginRetry settings u else p.beginBatch settings u

/-- The updater begins to write, goes on by one call, or ends and gives its report. -/
def stepUpdater (p : Pipeline) (s : σ) : Pipeline × σ :=
  match p.updater with
  | .waiting u => (p.stepIdleUpdater settings u, s)
  | .writing (.done (report, u)) =>
    ({ p with updater := .waiting u, report := report.or p.report }, s)
  | .writing (.ask call next) =>
    let (reply, s) := env.status call s
    ({ p with updater := .writing (next reply) }, s)

/-- A stage takes a step. -/
def step (p : Pipeline) (s : σ) : Stage → Pipeline × σ
  | .renderer => p.stepRenderer env settings s
  | .operator => p.stepOperator env settings s
  | .updater => p.stepUpdater env settings s

end Pipeline

end RelayFleet
