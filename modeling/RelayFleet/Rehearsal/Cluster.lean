/-
A rehearsal of the whole pipeline: a cluster that keeps its objects in the very store that sweeps
are rendered from. Every write raises the version of its object by one, and a status is written only
over the version it was made for. A gateway with finalizers that is deleted stays until it has lost
them.
-/
import RelayFleet.Pipeline.Schedule
import RelayFleet.Distribution.Basic
import RelayFleet.Rehearsal.FaultPlan
import RelayFleet.Rehearsal.Version
import RelayFleet.Store.Basic

namespace RelayFleet

/-- A cluster with the topics that documents are published to. -/
structure Cluster where
  store : Store := {}
  workloads : SortedMap ObjectKey Workload := ∅
  artifacts : SortedMap ObjectKey Artifact := ∅
  distributor : Distributor := {}
  plan : FaultPlan := []
  /-- What the clock shows. -/
  clock : Timestamp

namespace Cluster

/-! ## Objects -/

/-- The object of a resource key. -/
def object? (c : Cluster) (r : ResourceKey) : Option Object := c.store.snapshot.get? r

/-- The version of an object that is written over another. -/
def bumped (stored : Option Object) (o : Object) : Object :=
  o.mapMetadata fun m =>
    { m with resourceVersion := some (nextVersion (stored.bind (·.resourceVersion))) }

/-- Writes an object over the stored one. -/
def put (c : Cluster) (o : Object) : Except Fault Bool × Cluster :=
  let (result, store) := c.store.apply (.upsert (bumped (c.object? o.resource) o))
  (result, { c with store })

/-- Deletes an object. -/
def drop (c : Cluster) (r : ResourceKey) : Except Fault Bool × Cluster :=
  let (result, store) := c.store.apply (.delete r)
  (result, { c with store })

/-! ## Edits -/

/-- What an edit leaves of an object: its status, and the finalizers and the deletion of a
gateway. -/
def kept (o : Object) : Option Object → Object
  | some stored =>
    match o, stored with
    | .gateway o, .gateway stored => .gateway { o with
        status := stored.status
        metadata := { o.metadata with
          finalizers := stored.metadata.finalizers
          deletionTimestamp := stored.metadata.deletionTimestamp } }
    | o, stored => o.withStatus stored.status?
  | none => o

/-- Edits an object. -/
def edit (c : Cluster) (o : Object) : Except Fault Bool × Cluster :=
  c.put (kept o (c.object? o.resource))

/-- Requests the deletion of an object. -/
def delete (c : Cluster) (r : ResourceKey) : Except Fault Bool × Cluster :=
  match c.object? r with
  | some (.gateway g) =>
    if g.metadata.finalizerList.isEmpty then c.drop r
    else c.put (.gateway
      { g with metadata := { g.metadata with deletionTimestamp := some c.clock } })
  | _ => c.drop r

/-! ## Calls -/

/-- The gateway of a key. -/
def gateway? (c : Cluster) (key : ObjectKey) : Option Gateway := c.store.snapshot.gateway? key

/-- Writes a gateway with other finalizers. -/
def putFinalizers (c : Cluster) (g : Gateway) (finalizers : List String) :
    Except Fault Unit × Cluster :=
  let (result, c) := c.put (.gateway
    { g with metadata := { g.metadata with finalizers := some finalizers } })
  (result.map fun _ => (), c)

/-- Makes a write. -/
def write (c : Cluster) : ClusterWrite → Except Fault Unit × Cluster
  | .addFinalizer key finalizer =>
    match c.gateway? key with
    | none => (.error (.notFound key.text), c)
    | some g => c.putFinalizers g (g.metadata.finalizerList ++ [finalizer])
  | .removeFinalizer key finalizer =>
    match c.gateway? key with
    | none => (.ok (), c)
    | some g =>
      let finalizers := g.metadata.finalizerList.filter (· ≠ finalizer)
      if g.metadata.isDeleting ∧ finalizers = [] then (.ok (), (c.drop (.gateway key)).2)
      else c.putFinalizers g finalizers
  | .applyWorkload w => (.ok (), { c with workloads := c.workloads.insert w.gateway w })
  | .deleteWorkload key => (.ok (), { c with workloads := c.workloads.erase key })
  | .applyArtifact a => (.ok (), { c with artifacts := c.artifacts.insert a.key a })
  | .deleteArtifact key => (.ok (), { c with artifacts := c.artifacts.erase key })

/-- Answers a call of the operator. -/
def answer : Program.Handler OperatorCall OperatorCall.Reply Cluster
  | .write w, c =>
    let (fault, plan) := c.plan.strike w.name w.key.text
    let c := { c with plan }
    match fault with
    | some f => (.error f, c)
    | none => c.write w
  | .pause _, c => ((), c)
  | .publish key config, c => ((), { c with distributor := (c.distributor.publish key config).2 })
  | .retire key, c => ((), { c with distributor := c.distributor.remove key })

/-- Writes a status over the version it was made for. -/
def patch (c : Cluster) (resource : ResourceKey) (version : Option String)
    (status : ResourceStatus) : Except Fault Unit × Cluster :=
  match c.object? ⟨status.kind, resource.key⟩ with
  | none => (.error (.notFound resource.text), c)
  | some o =>
    if o.resourceVersion = version then
      let (result, c) := c.put (o.withStatus (some status))
      (result.map fun _ => (), c)
    else (.error (.conflict resource.text "the object has been modified"), c)

/-- The status of a resource, if there is such an object. -/
def currentStatus? (c : Cluster) (resource : ResourceKey) : Option CurrentStatus :=
  (c.object? resource).map Object.currentStatus

/-- Answers a call of the updater. -/
def answerStatus : Program.Handler StatusCall StatusCall.Reply Cluster
  | .get resource, c =>
    let (fault, plan) := c.plan.strike "get_status" resource.text
    (match fault with
      | some f => .error f
      | none => .ok (c.currentStatus? resource), { c with plan })
  | .patch resource version status, c =>
    let (fault, plan) := c.plan.strike "patch_status" resource.text
    let c := { c with plan }
    match fault with
    | some f => (.error f, c)
    | none => c.patch resource version status
  | .now, c => (c.clock, c)

/-! ## Report -/

/-- Writes a map of keys. -/
def mapJson {α : Type} (encode : α → Json) (m : List (ObjectKey × α)) : Json :=
  .obj (m.map fun b => (b.1.text, encode b.2))

/-- Writes down what is in a cluster. -/
def toJson (c : Cluster) : Json :=
  let s := c.store.snapshot
  let statuses (kind : ObjectKind) : List (ObjectKey × Json) :=
    (s.ofKind kind).map fun b => (b.1, .orNull ResourceStatus.toJson b.2.status?)
  .obj [
    ("workloads", mapJson Workload.toJson c.workloads.toList),
    ("artifacts", mapJson Artifact.toJson c.artifacts.toList),
    ("published", mapJson (fun (u : ConfigUpdate) => u.config.toJson)
      (c.distributor.keys.filterMap fun key => (c.distributor.latest? key).map (key, ·))),
    ("gateways", mapJson (fun (g : Gateway) => .obj [
      ("status", .orNull GatewayStatus.toJson g.status),
      ("finalizers", .list .str g.metadata.finalizerList),
      ("deleting", .bool g.metadata.isDeleting)]) s.gateways),
    ("routes", mapJson id (statuses .udpRoute)),
    ("classes", mapJson id (statuses .gatewayClass))]

end Cluster

/-! ## Settling -/

namespace Cluster

/-- The pipeline's surroundings in a rehearsal. -/
def surroundings : Surroundings Cluster where
  store c := c.store
  withStore c store := { c with store }
  operator := answer
  status := answerStatus

end Cluster

/-- A pipeline at work on a cluster. -/
structure PipelineRehearsal where
  settings : Settings
  schedule : Schedule Cluster

namespace PipelineRehearsal

/-- The cluster as it is. -/
def cluster (r : PipelineRehearsal) : Cluster := r.schedule.surroundings

/-- How long a pipeline is given to settle: ten seconds. -/
def span : Nat := 10000000000

/-- How many steps a pipeline is given to settle. -/
def steps : Nat := 10000000

/-- Lets the pipeline work. -/
def settle (r : PipelineRehearsal) : PipelineRehearsal :=
  let moment := r.schedule.pipeline.now + span
  { r with schedule := r.schedule.run Cluster.surroundings r.settings moment steps }

/-- Starts a pipeline on a cluster and lets it work. -/
def start (settings : Settings) (c : Cluster) : PipelineRehearsal :=
  settle { settings, schedule := .start Cluster.surroundings c }

/-- Changes the cluster behind the pipeline's back. -/
def edit (r : PipelineRehearsal) (c : Cluster) : PipelineRehearsal :=
  let schedule := { r.schedule with surroundings := c }
  { r with schedule := schedule.join Cluster.surroundings r.settings }

end PipelineRehearsal

end RelayFleet
