/-
A pipeline at work on a cluster, and everything that may happen next. The stages may take their
steps in any order, events may come in between, time may pass, and subscribers may come and go. A
sign of a change may come to the renderer long after the change, and queues may have any room.
-/
import RelayFleet.Proofs.Rehearsal.Cluster

namespace RelayFleet

/-! ## Surroundings -/

/-- A cluster with the channel that tells of the changes to its objects. -/
structure Scene where
  cluster : Cluster
  channel : Trigger := { capacity := Schedule.signs }
  /-- The number of changes that the channel was not told of yet. -/
  untold : Nat := 0

namespace Scene

/-- The snapshot of the cluster. -/
def snapshot (sc : Scene) : Snapshot := sc.cluster.snapshot

/-- The cluster becomes another one. The channel is to be told if its objects were changed. -/
def follow (sc : Scene) (c : Cluster) : Scene :=
  { sc with
    cluster := c
    untold := sc.untold + (c.snapshot.generation - sc.snapshot.generation) }

/-- The pipeline's surroundings: the channel is told of changes some time after they were made. -/
def surroundings : Surroundings Scene where
  store sc := { snapshot := sc.snapshot, trigger := some sc.channel }
  withStore sc store := { sc with channel := store.trigger.getD sc.channel }
  operator call sc := ((sc.cluster.answer call).1, sc.follow (sc.cluster.answer call).2)
  status call sc := ((sc.cluster.answerStatus call).1, sc.follow (sc.cluster.answerStatus call).2)

end Scene

/-! ## Moves -/

/-- A pipeline in its surroundings. -/
structure World where
  pipeline : Pipeline
  scene : Scene

/-- What may happen next. -/
inductive Move where
  /-- An event comes to the store. -/
  | event (event : StoreEvent)
  /-- The channel is told of a change. -/
  | tell (change : StoreChange)
  /-- A stage takes a step. There is this much room in the queues. -/
  | stage (stage : Stage) (room : Nat)
  /-- The updater tries again what is pending, whether or not batches are queued. -/
  | retry
  /-- Time passes. -/
  | elapse (now : Nat) (clock : Timestamp)
  /-- A subscriber comes, asks for what is next, or goes. -/
  | visit (o : Occurrence)

/-- Whether an event brings proper objects only. -/
def Move.Proper : Move → Prop
  | event e => e.Proper
  | _ => True

instance : (m : Move) → Decidable m.Proper
  | .event e => inferInstanceAs (Decidable e.Proper)
  | .tell _ | .stage .. | .retry | .elapse .. | .visit _ => isTrue trivial

namespace World

/-- A pipeline that has been started on a cluster. The renderer may be due to look at the store
without a sign. -/
def start (c : Cluster) (due : Bool) : World where
  pipeline := { renderer := { due } }
  scene := { cluster := c }

/-- The world after an event. -/
def afterEvent (w : World) (e : StoreEvent) : World :=
  let store := (w.scene.cluster.store.apply e).2
  { w with scene := w.scene.follow { w.scene.cluster with store } }

/-- The world after a step of a stage, if there is one to be taken. -/
def afterStage (settings : Settings) (w : World) (stage : Stage) (room : Nat) : Option World :=
  if w.pipeline.isReady Scene.surroundings { settings with channelCapacity := room } w.scene stage
    then
      let (pipeline, scene) := w.pipeline.step Scene.surroundings settings w.scene stage
      some { pipeline, scene }
  else none

/-- The world after the updater began to try again, if something is pending. -/
def afterRetry (settings : Settings) (w : World) : Option World :=
  match w.pipeline.updater with
  | .waiting u =>
    if u.pending.isEmpty then none
    else some { w with pipeline := w.pipeline.beginRetry settings u }
  | .writing _ => none

/-- The world after a move, if it can be made. -/
def move (settings : Settings) (w : World) : Move → Option World
  | .event e => some (w.afterEvent e)
  | .tell change =>
    if 0 < w.scene.untold then
      let channel := w.scene.channel.offer change
      some { w with scene := { w.scene with channel, untold := w.scene.untold - 1 } }
    else none
  | .stage stage room => w.afterStage settings stage room
  | .retry => w.afterRetry settings
  | .elapse now clock =>
    let cluster := { w.scene.cluster with clock }
    some { pipeline := { w.pipeline with now }, scene := { w.scene with cluster } }
  | .visit o =>
    if o.exchange?.isNone then
      let distributor := w.scene.cluster.distributor.after o
      some { w with scene := { w.scene with cluster := { w.scene.cluster with distributor } } }
    else none

end World

/-! ## Reachable worlds -/

namespace Cluster

/-- Whether a cluster was empty but for events that came to it, and no call meets a fault but status
writes newer versions. -/
structure Fresh (c : Cluster) : Prop where
  store : ∃ events : List StoreEvent, (∀ e ∈ events, e.Proper) ∧
    c.store = events.foldl (fun s e => (s.apply e).2) .empty
  workloads : c.workloads = ∅
  artifacts : c.artifacts = ∅
  documents : ∀ k, c.distributor.config? k = none
  plan : c.plan.OnlyConflicts

variable {c : Cluster}

theorem Fresh.kept (h : c.Fresh) : c.Kept := by
  obtain ⟨events, hevents, hstore⟩ := h.store
  refine ⟨?_, h.plan⟩
  unfold snapshot
  rw [hstore]
  refine List.foldlRecOn (motive := fun s : Store => s.snapshot.Filed) events _ .start
    fun s hs e he => ?_
  exact Store.filed_apply hs (hevents e he)

theorem Fresh.precedes (h : c.Fresh) : Snapshot.Precedes {} c.snapshot := by
  obtain ⟨events, -, hstore⟩ := h.store
  unfold snapshot
  rw [hstore]
  refine List.foldlRecOn (motive := fun s : Store => Snapshot.Precedes {} s.snapshot) events _
    (.inl rfl) fun s hs e _ => ?_
  exact hs.trans (Store.precedes_apply s e)

end Cluster

namespace World

/-- The worlds that a pipeline may come to on a cluster that was empty when it was started. The
renderer is due if there is anything to be seen. -/
inductive Reached (settings : Settings) : World → Prop
  | start {c : Cluster} {due : Bool} (hc : c.Fresh)
    (hdue : 0 < c.snapshot.generation → due = true) : Reached settings (start c due)
  | move {w w' : World} {m : Move} (h : Reached settings w) (hm : m.Proper)
    (hmove : w.move settings m = some w') : Reached settings w'

/-- The world after some moves; those that cannot be made are left out. -/
def after (settings : Settings) (w : World) (ms : List Move) : World :=
  ms.foldl (fun w m => (w.move settings m).getD w) w

theorem Reached.after {settings : Settings} {w : World} (h : Reached settings w) {ms : List Move}
    (hms : ∀ m ∈ ms, m.Proper) : Reached settings (w.after settings ms) := by
  refine List.foldlRecOn (motive := Reached settings) ms _ h fun w' h' m hm => ?_
  rcases hmove : w'.move settings m with - | w''
  · exact h'
  · exact .move h' (hms m hm) hmove

/-- Whether the operator waits for a sweep. -/
def isIdle : OperatorStage → Bool
  | .waiting _ => true
  | _ => false

/-- Whether the updater waits for a batch with nothing pending. -/
def isDone : UpdaterStage → Bool
  | .waiting u => u.pending.isEmpty
  | .writing _ => false

/-- Whether nothing is on its way: no sign, sweep or batch is queued, no stage is in the middle of
its work, and the updater has nothing pending. -/
def quiescent (w : World) : Bool :=
  w.scene.channel.pending.isEmpty && w.scene.untold = 0 &&
    ! w.pipeline.renderer.due && ! w.pipeline.renderer.awake &&
    w.pipeline.renderer.outgoing.isNone && w.pipeline.sweeps.isEmpty &&
    isIdle w.pipeline.operator && w.pipeline.batches.isEmpty && isDone w.pipeline.updater

end World

end RelayFleet
