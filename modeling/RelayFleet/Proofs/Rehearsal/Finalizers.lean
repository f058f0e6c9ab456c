/-
Which gateways of a rehearsed cluster carry a finalizer, whatever faults are planned. A call of the
operator that takes no finalizer leaves those that there are, and adds those that it gives
(`hasFinalizer_answer`); a call of the updater changes none (`hasFinalizer_answerStatus`).
-/
import RelayFleet.Proofs.Operator.Creation
import RelayFleet.Proofs.Rehearsal.Cluster
import RelayFleet.Proofs.Store.Reorder

namespace RelayFleet

/-! ## Objects -/

/-- Whether an object is a gateway with a finalizer. -/
def Object.hasFinalizer (o : Object) (finalizer : String) : Bool :=
  o.gateway?.any (·.metadata.hasFinalizer finalizer)

/-- Whether a gateway carries a finalizer. -/
def Snapshot.hasFinalizer (s : Snapshot) (key : ObjectKey) (finalizer : String) : Bool :=
  (s.gateway? key).any (·.metadata.hasFinalizer finalizer)

theorem Snapshot.hasFinalizer_eq (s : Snapshot) (key : ObjectKey) (finalizer : String) :
    s.hasFinalizer key finalizer = (s.get? (.gateway key)).any (·.hasFinalizer finalizer) := by
  unfold hasFinalizer gateway?
  cases s.get? (.gateway key) <;> rfl

theorem Object.hasFinalizer_withStatus (o : Object) (status : Option ResourceStatus)
    (finalizer : String) : (o.withStatus status).hasFinalizer finalizer = o.hasFinalizer finalizer := by
  cases o <;> rcases status with - | (s | s | s) <;> rfl

namespace Cluster

open OperatorExchange

variable {c : Cluster} {o stored : Object} {k : ObjectKey} {finalizer : String}

theorem hasFinalizer_bumped (before : Option Object) (o : Object) (finalizer : String) :
    (bumped before o).hasFinalizer finalizer = o.hasFinalizer finalizer := by
  cases o <;> rfl

/-! ## Writes to objects -/

/-- An object that is written over what is stored is refused, or takes its place. -/
theorem settle_bumped (before : Option Object) (o : Object) :
    (∃ f, StoreEvent.settle before (.upsert (bumped before o)) = (.error f, before)) ∨
      StoreEvent.settle before (.upsert (bumped before o)) = (.ok true, some (bumped before o)) := by
  rcases hflaw : (bumped before o).flaw? with - | flaw
  · have hother : before.any (·.sameVersion (bumped before o)) = false := by
      cases before with
      | none => rfl
      | some stored => exact sameVersion_bumped stored o
    refine .inr ?_
    simp only [StoreEvent.settle, hflaw, hother, Bool.false_eq_true, if_false]
  · refine .inl ⟨.validation (bumped before o).resource.text flaw.text, ?_⟩
    simp only [StoreEvent.settle, hflaw]

/-- An object is refused, or it is there afterwards, with another version. -/
theorem put_cases (c : Cluster) (o : Object) :
    (∃ f, (c.put o).1 = .error f ∧ ∀ r, (c.put o).2.snapshot.get? r = c.snapshot.get? r) ∨
      (c.put o).1 = .ok true ∧ ∀ r, (c.put o).2.snapshot.get? r =
        if r = o.resource then some (bumped (c.object? o.resource) o) else c.snapshot.get? r := by
  have hresource : (StoreEvent.upsert (bumped (c.object? o.resource) o)).resource? =
      some o.resource := congrArg some (samePlace_bumped _ o).resource
  obtain ⟨hanswer, hget, -⟩ := Store.apply_of_single c.store hresource
  rcases settle_bumped (c.object? o.resource) o with ⟨f, hsettle⟩ | hsettle
  · refine .inl ⟨f, hanswer.trans (congrArg Prod.fst hsettle), fun r => (hget r).trans ?_⟩
    split
    · rename_i hr
      rw [hr]
      exact congrArg Prod.snd hsettle
    · rfl
  · refine .inr ⟨hanswer.trans (congrArg Prod.fst hsettle), fun r => (hget r).trans ?_⟩
    split
    · exact congrArg Prod.snd hsettle
    · rfl

theorem hasFinalizer_put (c : Cluster) (o : Object) (k : ObjectKey) (finalizer : String) :
    (c.put o).2.snapshot.hasFinalizer k finalizer =
      if .gateway k = o.resource ∧ (c.put o).1.isOk then o.hasFinalizer finalizer
      else c.snapshot.hasFinalizer k finalizer := by
  rw [Snapshot.hasFinalizer_eq, Snapshot.hasFinalizer_eq]
  rcases put_cases c o with ⟨f, hanswer, hget⟩ | ⟨hanswer, hget⟩
  · rw [hanswer, hget, if_neg (fun h => Bool.false_ne_true h.2)]
  · rw [hanswer, hget]
    split
    · rename_i hk
      rw [if_pos ⟨hk, rfl⟩]
      exact hasFinalizer_bumped _ o finalizer
    · rename_i hk
      rw [if_neg fun h => hk h.1]

/-- An object that is written over one with the same finalizers changes none. -/
theorem hasFinalizer_put_alike {r : ResourceKey} (h : c.snapshot.Indexed)
    (hget : c.snapshot.get? r = some stored) (hplace : o.SamePlace stored)
    (halike : o.hasFinalizer finalizer = stored.hasFinalizer finalizer) (k : ObjectKey) :
    (c.put o).2.snapshot.hasFinalizer k finalizer = c.snapshot.hasFinalizer k finalizer := by
  rw [hasFinalizer_put]
  split
  · rename_i hk
    rw [hplace.resource, h.own r stored hget] at hk
    rw [Snapshot.hasFinalizer_eq, hk.1, hget, halike]
    rfl
  · rfl

theorem indexed_put (h : c.snapshot.Indexed) (o : Object) : (c.put o).2.snapshot.Indexed :=
  Store.indexed_apply h

/-! ## Calls of the operator -/

theorem indexed_write (h : c.snapshot.Indexed) (w : ClusterWrite) :
    (c.write w).2.snapshot.Indexed := by
  cases w with
  | addFinalizer key finalizer =>
    unfold write
    dsimp only
    split
    · exact h
    · exact indexed_put h _
  | removeFinalizer key finalizer =>
    unfold write
    dsimp only
    split
    · exact h
    · split
      · exact Store.indexed_apply h
      · exact indexed_put h _
  | _ => exact h

theorem indexed_answer (h : c.snapshot.Indexed) (call : OperatorCall) :
    (c.answer call).2.snapshot.Indexed := by
  cases call with
  | write w =>
    unfold answer
    dsimp only
    split
    · exact h
    · exact indexed_write (c := { c with plan := (c.plan.strike w.name w.key.text).2 }) h w
  | _ => exact h

theorem hasFinalizer_addFinalizer (h : c.snapshot.Indexed) (k : ObjectKey) (finalizer : String)
    (key : ObjectKey) (finalizer' : String) :
    (c.write (.addFinalizer key finalizer')).2.snapshot.hasFinalizer k finalizer =
      (c.snapshot.hasFinalizer k finalizer ||
        gives k finalizer ⟨.write (.addFinalizer key finalizer'),
          (c.write (.addFinalizer key finalizer')).1⟩) := by
  unfold write
  dsimp only
  split
  · exact (Bool.or_false _).symm
  · rename_i g hg
    let o : Object := .gateway { g with
      metadata := { g.metadata with finalizers := some (g.metadata.finalizerList ++ [finalizer']) } }
    have hget : c.snapshot.get? (.gateway key) = some (.gateway g) :=
      Snapshot.gateway?_eq_some_iff.1 hg
    have hown : o.resource = .gateway key := h.own _ (.gateway g) hget
    have ho : o.hasFinalizer finalizer =
        (g.metadata.hasFinalizer finalizer || decide (finalizer' = finalizer)) := by
      show (g.metadata.finalizerList ++ [finalizer']).contains finalizer = _
      rw [Bool.eq_iff_iff]
      simp [Metadata.hasFinalizer, eq_comm (a := finalizer)]
    unfold putFinalizers
    dsimp only
    rw [hasFinalizer_put]
    show (if .gateway k = o.resource ∧ (c.put o).1.isOk then o.hasFinalizer finalizer
      else c.snapshot.hasFinalizer k finalizer) =
        (_ || gives k finalizer
          ⟨.write (.addFinalizer key finalizer'), (c.put o).1.map fun _ => ()⟩)
    rw [hown, ho]
    rcases (c.put o).1 with f | changed
    · rw [if_neg fun h => Bool.false_ne_true h.2]
      exact (Bool.or_false _).symm
    · by_cases hk : k = key
      · have hg' : c.snapshot.gateway? key = some g := hg
        subst hk
        simp [Except.isOk, Except.toBool, Except.map, gives, Snapshot.hasFinalizer, hg']
      · simp [Except.map, gives, hk, Ne.symm hk, ResourceKey.gateway]

/-- A call that takes no finalizer leaves those that there are, and adds those that it gives. -/
theorem hasFinalizer_answer (h : c.snapshot.Indexed) {call : OperatorCall}
    (hcall : ∀ key finalizer, call ≠ .write (.removeFinalizer key finalizer)) (k : ObjectKey)
    (finalizer : String) :
    (c.answer call).2.snapshot.hasFinalizer k finalizer =
      (c.snapshot.hasFinalizer k finalizer || gives k finalizer ⟨call, (c.answer call).1⟩) := by
  cases call with
  | write w =>
    unfold answer
    dsimp only
    split
    · rw [show gives k finalizer ⟨.write w, .error _⟩ = false by cases w <;> rfl, Bool.or_false]
      rfl
    · cases w with
      | addFinalizer key finalizer' =>
        exact hasFinalizer_addFinalizer
          (c := { c with plan := (c.plan.strike "add_finalizer" key.text).2 }) h k finalizer key
          finalizer'
      | removeFinalizer key finalizer' => exact absurd rfl (hcall key finalizer')
      | _ => exact (Bool.or_false _).symm
  | _ => exact (Bool.or_false _).symm

/-! ## Calls of the updater -/

theorem indexed_answerStatus (h : c.snapshot.Indexed) (call : StatusCall) :
    (c.answerStatus call).2.snapshot.Indexed := by
  cases call with
  | patch r version status =>
    unfold answerStatus
    dsimp only
    split
    · exact h
    · unfold patch
      split
      · exact h
      · split
        · exact indexed_put (c := { c with plan := (c.plan.strike "patch_status" r.text).2 }) h _
        · exact h
  | _ => exact h

theorem hasFinalizer_answerStatus (h : c.snapshot.Indexed) (call : StatusCall) (k : ObjectKey)
    (finalizer : String) : (c.answerStatus call).2.snapshot.hasFinalizer k finalizer =
      c.snapshot.hasFinalizer k finalizer := by
  cases call with
  | patch r version status =>
    unfold answerStatus
    dsimp only
    split
    · rfl
    · unfold patch
      split
      · rfl
      · rename_i o hget
        split
        · let struck : Cluster := { c with plan := (c.plan.strike "patch_status" r.text).2 }
          exact hasFinalizer_put_alike (c := struck) h hget (Object.samePlace_withStatus o _)
            (Object.hasFinalizer_withStatus o _ _) k
        · rfl
  | _ => rfl

end Cluster

end RelayFleet
