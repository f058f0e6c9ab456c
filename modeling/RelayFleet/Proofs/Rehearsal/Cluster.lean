/-
What calls do to a rehearsed cluster whose faults are nothing but newer versions that status writes
meet. Every write to an object leads to a later snapshot, so a call that leaves the snapshot as it is
came out well, or had nothing to be done to (`answers_answer`, `notes_answerStatus`).
-/
import RelayFleet.Rehearsal.Cluster
import RelayFleet.Proofs.Operator.Published
import RelayFleet.Proofs.Store.Snapshot
import RelayFleet.Proofs.Text.Decimal
import RelayFleet.Proofs.Updater.Flush

namespace RelayFleet

/-! ## Planned faults -/

/-- Whether no fault is planned but newer versions that status writes meet. -/
def FaultPlan.OnlyConflicts (plan : FaultPlan) : Prop :=
  ∀ p ∈ plan, p.call = "patch_status" ∧ p.fault.isConflict = true

theorem FaultPlan.strike_cases {plan : FaultPlan} (h : plan.OnlyConflicts) (call key : String) :
    (plan.strike call key).2.OnlyConflicts ∧
      ∀ f, (plan.strike call key).1 = some f → call = "patch_status" ∧ f.isConflict = true := by
  induction plan with
  | nil => exact ⟨h, by rintro f ⟨⟩⟩
  | cons p rest ih =>
    have hp := h p (List.mem_cons_self ..)
    have hrest : FaultPlan.OnlyConflicts rest := fun q hq => h q (List.mem_cons_of_mem _ hq)
    unfold strike
    split
    · rename_i hstrikes
      refine ⟨fun q hq => ?_, fun f hf => ?_⟩
      · rcases List.mem_cons.1 hq with rfl | hq
        · exact hp
        · exact hrest q hq
      · cases hf
        exact ⟨hstrikes.1 ▸ hp.1, hp.2⟩
    · obtain ⟨hothers, hfault⟩ := ih hrest
      refine ⟨fun q hq => ?_, hfault⟩
      rcases List.mem_cons.1 hq with rfl | hq
      · exact hp
      · exact hothers q hq

/-! ## Versions -/

theorem nextVersion_ne (v : String) : nextVersion (some v) ≠ v := by
  intro h
  have hread := Decimal.word64?_toString ((Decimal.word64? v).getD 0 + 1)
  have hv : toString ((Decimal.word64? v).getD 0 + 1) = v := h
  rw [hv] at hread
  split at hread
  · rw [hread, Option.getD_some] at hread
    have := Option.some.inj hread
    omega
  · rename_i hlarge
    rw [hread] at hlarge
    exact hlarge (by decide)

namespace Object

variable {o o' : Object}

/-- Whether two objects are of one kind, name and namespace. -/
structure SamePlace (o o' : Object) : Prop where
  kind : o.kind = o'.kind
  name : o.metadata.name = o'.metadata.name
  generateName : o.metadata.generateName = o'.metadata.generateName
  inNamespace : o.metadata.inNamespace = o'.metadata.inNamespace

theorem SamePlace.resource (h : o.SamePlace o') : o.resource = o'.resource := by
  unfold Object.resource Object.key Metadata.key Metadata.anyName
  rw [h.kind, h.name, h.generateName, h.inNamespace]

theorem SamePlace.flaw? (h : o.SamePlace o') : o.flaw? = o'.flaw? := by
  have hkey : o.key = o'.key := congrArg ResourceKey.key h.resource
  unfold Object.flaw?
  rw [hkey, h.kind]

theorem SamePlace.proper (h : o.SamePlace o') (ho : o'.Proper) : o.Proper := by
  unfold Proper
  rw [h.kind, h.name, h.inNamespace]
  exact ho

theorem SamePlace.trans {o'' : Object} (h : o.SamePlace o') (h' : o'.SamePlace o'') :
    o.SamePlace o'' :=
  ⟨h.kind.trans h'.kind, h.name.trans h'.name, h.generateName.trans h'.generateName,
    h.inNamespace.trans h'.inNamespace⟩

theorem kind_mapMetadata (f : Metadata → Metadata) (o : Object) : (o.mapMetadata f).kind = o.kind := by
  cases o <;> rfl

theorem metadata_mapMetadata (f : Metadata → Metadata) (o : Object) :
    (o.mapMetadata f).metadata = f o.metadata := by
  cases o <;> rfl

theorem samePlace_withStatus (o : Object) (status : Option ResourceStatus) :
    (o.withStatus status).SamePlace o := by
  have hmetadata : (o.withStatus status).metadata = o.metadata := by
    cases o <;> rcases status with - | (s | s | s) <;> rfl
  refine ⟨?_, by rw [hmetadata], by rw [hmetadata], by rw [hmetadata]⟩
  cases o <;> rcases status with - | (s | s | s) <;> rfl

end Object

namespace Cluster

variable {c : Cluster} {o stored : Object}

theorem samePlace_bumped (stored : Option Object) (o : Object) : (bumped stored o).SamePlace o := by
  unfold bumped
  refine ⟨Object.kind_mapMetadata _ o, ?_, ?_, ?_⟩ <;> rw [Object.metadata_mapMetadata]

/-- An object that is written over another has another version. -/
theorem sameVersion_bumped (stored o : Object) :
    stored.sameVersion (bumped (some stored) o) = false := by
  have hversion : (bumped (some stored) o).resourceVersion =
      some (nextVersion stored.resourceVersion) := by
    unfold bumped Object.resourceVersion
    rw [Object.metadata_mapMetadata]
    rfl
  unfold Object.sameVersion
  rw [hversion]
  rcases hstored : stored.resourceVersion with - | v
  · -- an object without a version differs from every object with one
    refine decide_eq_false fun hcontent => ?_
    have hmetadata := congrArg (fun o => o.metadata.resourceVersion) hcontent
    simp only [Object.metadata_mapMetadata] at hmetadata
    have hnone : stored.resourceVersion = (bumped (some stored) o).resourceVersion := hmetadata
    rw [hversion, hstored] at hnone
    cases hnone
  · exact decide_eq_false (Ne.symm (nextVersion_ne v))

/-! ## Writes to objects -/

/-- The snapshot of a cluster. -/
def snapshot (c : Cluster) : Snapshot := c.store.snapshot

/-- What is derived from gateways in a cluster. -/
def derived (c : Cluster) : Derived := ⟨c.workloads, c.artifacts⟩

/-- Whether the objects of a cluster are filed, and no fault is planned but newer versions. -/
structure Kept (c : Cluster) : Prop where
  filed : c.snapshot.Filed
  plan : c.plan.OnlyConflicts

/-- Whether only objects were changed. -/
structure Overwrites (c c' : Cluster) : Prop where
  kept : c'.Kept
  later : c.snapshot.generation < c'.snapshot.generation
  derived : c'.derived = c.derived
  distributor : c'.distributor = c.distributor

theorem overwrites_put {r : ResourceKey} (h : c.Kept) (hget : c.object? r = some stored)
    (hplace : o.SamePlace stored) : (c.put o).1 = .ok true ∧ c.Overwrites (c.put o).2 := by
  obtain ⟨hflaw, hproper⟩ := h.filed.fit r stored hget
  have hstored : c.object? o.resource = some stored := by
    rw [hplace.resource, h.filed.own r stored hget]
    exact hget
  have hbumped := (samePlace_bumped (some stored) o).trans hplace
  have hput : c.put o = ((c.store.apply (.upsert (bumped (some stored) o))).1,
      { c with store := (c.store.apply (.upsert (bumped (some stored) o))).2 }) := by
    unfold put
    rw [hstored]
  obtain ⟨hresult, hlater⟩ := Store.apply_upsert_changed (s := c.store)
    (hbumped.flaw?.trans hflaw) fun before hbefore => by
      rw [(samePlace_bumped (some stored) o).resource] at hbefore
      rw [Option.some.inj (hbefore.symm.trans hstored)]
      exact sameVersion_bumped stored o
  rw [hput]
  refine ⟨hresult, ⟨Store.filed_apply h.filed fun o' ho' => ?_, h.plan⟩, hlater, rfl, rfl⟩
  rw [List.mem_singleton.1 ho']
  exact hbumped.proper hproper

theorem overwrites_drop {r : ResourceKey} (h : c.Kept) (hget : c.object? r = some stored) :
    c.Overwrites (c.drop r).2 where
  kept := ⟨Store.filed_apply h.filed (by rintro o ⟨⟩), h.plan⟩
  later := Store.apply_delete_changed hget
  derived := rfl
  distributor := rfl

theorem overwrites_putFinalizers {key : ObjectKey} {g : Gateway} (h : c.Kept)
    (hg : c.gateway? key = some g) (finalizers : List String) :
    (c.putFinalizers g finalizers).1 = .ok () ∧
      c.Overwrites (c.putFinalizers g finalizers).2 := by
  obtain ⟨hresult, hoverwrites⟩ := overwrites_put h (Snapshot.gateway?_eq_some_iff.1 hg)
    (o := .gateway { g with metadata := { g.metadata with finalizers := some finalizers } })
    ⟨rfl, rfl, rfl, rfl⟩
  refine ⟨?_, hoverwrites⟩
  show Except.map _ (c.put _).1 = _
  rw [hresult]
  rfl

/-! ## Calls of the operator -/

/-- What a call of the operator leads to. If it leaves the snapshot as it is, it came out well, or
there is no gateway to give the finalizer to. -/
structure Answers (c : Cluster) (e : OperatorExchange) (c' : Cluster) : Prop where
  kept : c'.Kept
  precedes : c.snapshot.Precedes c'.snapshot
  derived : c'.derived = c.derived.after e
  distributor : c'.distributor = c.distributor.after (.exchange e)
  succeeds : c'.snapshot = c.snapshot → e.Succeeds ∨
    ∃ key finalizer r, e = ⟨.write (.addFinalizer key finalizer), r⟩ ∧ c.gateway? key = none

theorem Overwrites.ne {c' : Cluster} (h : c.Overwrites c') : c'.snapshot ≠ c.snapshot := by
  intro he
  have := h.later
  rw [he] at this
  omega

theorem Overwrites.answers {c' : Cluster} {w : ClusterWrite} {r : Except Fault Unit}
    (h : c.Overwrites c') (hw : ∀ d : Derived, d.write w = d) : c.Answers ⟨.write w, r⟩ c' where
  kept := h.kept
  precedes := .inr h.later
  derived := by
    rw [h.derived]
    cases r with
    | ok u => exact (hw _).symm
    | error f => rfl
  distributor := h.distributor
  succeeds he := absurd he h.ne

theorem answers_write (h : c.Kept) (w : ClusterWrite) :
    c.Answers ⟨.write w, (c.write w).1⟩ (c.write w).2 := by
  cases w with
  | addFinalizer key finalizer =>
    unfold write
    dsimp only
    split
    · rename_i hnone
      exact ⟨h, .inl rfl, rfl, rfl, fun _ => .inr ⟨key, finalizer, _, rfl, hnone⟩⟩
    · rename_i g hg
      exact (overwrites_putFinalizers h hg _).2.answers fun _ => rfl
  | removeFinalizer key finalizer =>
    unfold write
    dsimp only
    split
    · exact ⟨h, .inl rfl, rfl, rfl, fun _ => .inl trivial⟩
    · rename_i g hg
      split
      · exact (overwrites_drop h (Snapshot.gateway?_eq_some_iff.1 hg)).answers fun _ => rfl
      · exact (overwrites_putFinalizers h hg _).2.answers fun _ => rfl
  | _ => exact ⟨⟨h.filed, h.plan⟩, .inl rfl, rfl, rfl, fun _ => .inl trivial⟩

theorem answers_answer (h : c.Kept) (call : OperatorCall) :
    c.Answers ⟨call, (c.answer call).1⟩ (c.answer call).2 := by
  cases call with
  | write w =>
    obtain ⟨hplan, hfault⟩ := FaultPlan.strike_cases h.plan w.name w.key.text
    have hnone : (c.plan.strike w.name w.key.text).1 = none := by
      refine Option.eq_none_iff_forall_ne_some.2 fun f hf => ?_
      have hname := (hfault f hf).1
      cases w <;> simp [ClusterWrite.name] at hname
    have hanswer : answer (.write w) c =
        write { c with plan := (c.plan.strike w.name w.key.text).2 } w := by
      unfold answer
      dsimp only
      rw [hnone]
    rw [hanswer]
    have hanswers := answers_write (c := { c with plan := (c.plan.strike w.name w.key.text).2 })
      ⟨h.filed, hplan⟩ w
    exact ⟨hanswers.kept, hanswers.precedes, hanswers.derived, hanswers.distributor,
      hanswers.succeeds⟩
  | _ => exact ⟨⟨h.filed, h.plan⟩, .inl rfl, rfl, rfl, fun _ => .inl trivial⟩

/-! ## Calls of the updater -/

/-- What a call of the updater leads to. If it leaves the snapshot as it is, the answer says so. -/
structure Notes (c : Cluster) (e : StatusExchange) (c' : Cluster) : Prop where
  kept : c'.Kept
  precedes : c.snapshot.Precedes c'.snapshot
  derived : c'.derived = c.derived
  distributor : c'.distributor = c.distributor
  leaves : c'.snapshot = c.snapshot → e.Leaves c.snapshot

theorem notes_patch (h : c.Kept) (r : ResourceKey) (version : Option String)
    (status : ResourceStatus) :
    c.Notes ⟨.patch r version status, (c.patch r version status).1⟩
      (c.patch r version status).2 := by
  unfold patch
  split
  · rename_i hnone
    exact ⟨h, .inl rfl, rfl, rfl, fun _ => ⟨_, rfl, .inr hnone⟩⟩
  · rename_i o hget
    split
    · have hoverwrites := (overwrites_put h hget (Object.samePlace_withStatus o (some status))).2
      exact ⟨hoverwrites.kept, .inr hoverwrites.later, hoverwrites.derived,
        hoverwrites.distributor, fun he => absurd he hoverwrites.ne⟩
    · exact ⟨h, .inl rfl, rfl, rfl, fun _ => ⟨_, rfl, .inl rfl⟩⟩

theorem notes_answerStatus (h : c.Kept) (call : StatusCall) :
    c.Notes ⟨call, (c.answerStatus call).1⟩ (c.answerStatus call).2 := by
  cases call with
  | get r =>
    obtain ⟨hplan, hfault⟩ := FaultPlan.strike_cases h.plan "get_status" r.text
    rcases hstrike : c.plan.strike "get_status" r.text with ⟨fault, plan⟩
    rw [hstrike] at hplan hfault
    have hnone : fault = none := by
      refine Option.eq_none_iff_forall_ne_some.2 fun f hf => ?_
      exact absurd (hfault f hf).1 (by decide)
    have hanswer : c.answerStatus (.get r) = (.ok (c.currentStatus? r), { c with plan }) := by
      unfold answerStatus
      dsimp only
      rw [hstrike, hnone]
    rw [hanswer]
    exact ⟨⟨h.filed, hplan⟩, .inl rfl, rfl, rfl, fun _ => rfl⟩
  | patch r version status =>
    obtain ⟨hplan, hfault⟩ := FaultPlan.strike_cases h.plan "patch_status" r.text
    unfold answerStatus
    dsimp only
    split
    · rename_i f hf
      exact ⟨⟨h.filed, hplan⟩, .inl rfl, rfl, rfl, fun _ => ⟨f, rfl, .inl (hfault f hf).2⟩⟩
    · have hnotes := notes_patch (c := { c with plan := (c.plan.strike "patch_status" r.text).2 })
        ⟨h.filed, hplan⟩ r version status
      exact ⟨hnotes.kept, hnotes.precedes, hnotes.derived, hnotes.distributor, hnotes.leaves⟩
  | now => exact ⟨h, .inl rfl, rfl, rfl, fun _ => trivial⟩

end Cluster

end RelayFleet
