/-
What becomes of the gateways that carry the finalizer (`releases_holders`). A sweep lists such a
gateway unless its class is there and names another controller; and a gateway that is listed and not
active loses the finalizer after a reconciliation without failures. A gateway whose class was turned
over to another controller is passed over, so no reconciliation ever lets go of it.
-/
import RelayFleet.Proofs.Operator.Release
import RelayFleet.Proofs.Render.Document

namespace RelayFleet

/-- Whether the class that a gateway names is there and is that of another controller. -/
def Settings.Disowns (settings : Settings) (s : Snapshot) (g : Gateway) : Prop :=
  ∃ c, s.gatewayClass? g.spec.gatewayClassName = some c ∧ settings.owns c = false

variable {settings : Settings} {s : Snapshot} {key : ObjectKey} {g : Gateway}

/-! ## Listing -/

namespace GatewayOutput

variable {output : GatewayOutput} {check : Option ClassCheck}

theorem state_of_ofChecked (h : ofChecked settings s key g check = .ok output)
    (hdeleting : g.metadata.isDeleting = true) : output.render.state = .terminating := by
  unfold ofChecked at h
  dsimp only at h
  rw [if_pos hdeleting] at h
  cases h
  rfl

theorem hasFinalizer_of_ofChecked (h : ofChecked settings s key g check = .ok output) :
    output.render.hasFinalizer = g.metadata.hasFinalizer settings.finalizer := by
  obtain ⟨params, hactive⟩ | ⟨message, rfl⟩ | ⟨policy, rfl⟩ := ofChecked_cases h
  · unfold active at hactive
    dsimp only at hactive
    split at hactive
    · cases hactive
    · cases hactive
      rfl
  · rfl
  · rfl

end GatewayOutput

/-- A gateway with the finalizer is rendered with what is known about its class, or passed over. -/
theorem renderGateway_of_hasFinalizer (hg : s.gateway? key = some g)
    (hholds : g.metadata.hasFinalizer settings.finalizer = true) :
    (settings.Disowns s g ∧ renderGateway settings s key = .ok none) ∨
      ¬ settings.Disowns s g ∧ ∃ check output,
        GatewayOutput.ofChecked settings s key g check = .ok output ∧
        renderGateway settings s key = .ok (some output) := by
  have hrender : ∀ check, ∃ output, GatewayOutput.ofChecked settings s key g check = .ok output :=
    GatewayOutput.ofChecked_ok
  unfold renderGateway Settings.Disowns
  rw [hg]
  dsimp only
  rcases hclass : s.gatewayClass? g.spec.gatewayClassName with - | c
  · obtain ⟨output, ho⟩ := hrender none
    refine .inr ⟨by simp, none, output, ho, ?_⟩
    rw [if_pos hholds, ho]
    rfl
  · by_cases hours : settings.owns c = true
    · obtain ⟨output, ho⟩ := hrender (some (ClassCheck.ofClass s c))
      refine .inr ⟨by simp [hours], _, output, ho, ?_⟩
      dsimp only
      rw [if_pos hours, ho]
      rfl
    · refine .inl ⟨⟨c, rfl, by simpa using hours⟩, ?_⟩
      dsimp only
      rw [if_neg hours]

namespace Sweep

/-- A sweep lists a gateway with the finalizer unless it is disowned, with the finalizer, and as
terminating if its deletion was requested. -/
theorem lists_holder_iff (hg : s.gateway? key = some g)
    (hholds : g.metadata.hasFinalizer settings.finalizer = true) :
    ((∃ r, (ofSnapshot settings s).gateways.get? key = some r) ↔ ¬ settings.Disowns s g) ∧
      ∀ r, (ofSnapshot settings s).gateways.get? key = some r → r.hasFinalizer = true ∧
        (g.metadata.isDeleting = true → r.state = .terminating) := by
  obtain ⟨hdisowned, hnone⟩ | ⟨howned, check, output, hchecked, hrender⟩ :=
    renderGateway_of_hasFinalizer hg hholds
  · have hunlisted : ∀ r, (ofSnapshot settings s).gateways.get? key ≠ some r := by
      intro r hr
      obtain ⟨output, -, hrender, -⟩ := render_of_get? hr
      cases hnone.symm.trans hrender
    exact ⟨⟨fun ⟨r, hr⟩ => absurd hr (hunlisted r), fun h => absurd hdisowned h⟩,
      fun r hr => absurd hr (hunlisted r)⟩
  · have hlisted := get?_gateways_of_render hrender
    refine ⟨⟨fun _ => howned, fun _ => ⟨_, hlisted⟩⟩, fun r hr => ?_⟩
    cases hlisted.symm.trans hr
    exact ⟨(GatewayOutput.hasFinalizer_of_ofChecked hchecked).trans hholds,
      GatewayOutput.state_of_ofChecked hchecked⟩

theorem mem_idleHolders_iff {sweep : Sweep} {key : ObjectKey} : key ∈ sweep.idleHolders ↔
    ∃ r, sweep.gateways.get? key = some r ∧ r.state ≠ .active ∧ r.hasFinalizer = true := by
  unfold idleHolders
  simp only [List.mem_map, List.mem_filter, decide_eq_true_eq]
  constructor
  · rintro ⟨⟨_, r⟩, ⟨hmem, hidle, hholds⟩, rfl⟩
    exact ⟨r, SortedMap.get?_eq_some_iff.2 hmem, hidle, hholds⟩
  · rintro ⟨r, hr, hidle, hholds⟩
    exact ⟨(key, r), ⟨SortedMap.get?_eq_some_iff.1 hr, hidle, hholds⟩, rfl⟩

end Sweep

/-! ## Release -/

namespace Operator

open Program OperatorExchange

variable {op op' : Operator} {sweep : Sweep} {log : List OperatorExchange}
  {release : List ObjectKey}

/-- A reconciliation lets go of gateways of its sweep only. -/
theorem listed_of_release (hs : sweep.Sound)
    (h : Runs (op.reconcile settings sweep) log (release, op')) (hkey : key ∈ release) :
    ∃ r, sweep.gateways.get? key = some r ∧ r.state ≠ .active := by
  rw [reconcile_eq] at h
  obtain ⟨mid, l₁, l₂, rfl, -, hnext⟩ := runs_bind_iff.1 h
  obtain ⟨synced, l₃, l₄, rfl, -, hend⟩ := runs_bind_iff.1 hnext
  obtain ⟨rfl, hresult⟩ := runs_pure_iff.1 hend
  cases hresult
  obtain ⟨r, hr, hidle, -⟩ := mem_released hkey hs
  exact ⟨r, hr, hidle⟩

/-- A reconciliation can come out well. -/
theorem exists_clean_reconcile (settings : Settings) (op : Operator) (sweep : Sweep) :
    ∃ l result, Runs (op.reconcile settings sweep) l result ∧ Clean l := by
  obtain ⟨l, result, hrun, hl⟩ := exists_runs (OperatorCall.answered (.ok ()))
    (op.reconcile settings sweep)
  exact ⟨l, result, hrun, fun e he => succeeds_of_answered (hl e he)⟩

/-- A gateway with the finalizer is listed by the sweep of every snapshot that a store came to, as
terminating if its deletion was requested, unless it names a class that is there and another
controller's. A gateway that is listed and not active is let go by every reconciliation without
failures, whatever came before, and a gateway that is not listed by none at all. -/
theorem releases_holders (settings : Settings) (events : List StoreEvent) {key : ObjectKey}
    {g : Gateway} (hg : (Store.ofEvents events).snapshot.gateway? key = some g)
    (hholds : g.metadata.hasFinalizer settings.finalizer = true) :
    let s := (Store.ofEvents events).snapshot
    let sweep := Sweep.ofSnapshot settings s
    ((∃ r, sweep.gateways.get? key = some r) ↔ ¬ settings.Disowns s g) ∧
      (∀ r, sweep.gateways.get? key = some r → r.hasFinalizer = true ∧
        (g.metadata.isDeleting = true → r.state = .terminating) ∧
        (r.state ≠ .active → ∀ (op : Operator) log, Reached settings (Sweep.Rendered settings) op log →
          (∃ l result, Runs (op.reconcile settings sweep) l result ∧ Clean l) ∧
          ∀ l release op', Runs (op.reconcile settings sweep) l (release, op') → Clean l →
            key ∈ release)) ∧
      (settings.Disowns s g → ∀ (op : Operator) l release op',
        Runs (op.reconcile settings sweep) l (release, op') → key ∉ release) := by
  intro s sweep
  obtain ⟨hlisted, hrender⟩ := Sweep.lists_holder_iff hg hholds
  have hs := Sweep.sound_ofSnapshot settings s
  refine ⟨hlisted, fun r hr => ⟨(hrender r hr).1, (hrender r hr).2, ?_⟩, ?_⟩
  · intro hidle op log hreached
    refine ⟨exists_clean_reconcile settings op sweep, fun l release op' hrun hclean => ?_⟩
    obtain ⟨mid, failed, hreconciled⟩ :=
      runs_reconcile hs (hreached.faithful fun sweep hsweep => hsweep.sound) hrun
    obtain ⟨-, -, hrelease⟩ := hreconciled.settled hs (Sweep.failures_ofSnapshot settings s) hclean
      (hreached.faithful fun sweep hsweep => hsweep.sound)
    rw [hrelease]
    exact Sweep.mem_idleHolders_iff.2 ⟨r, hr, hidle, (hrender r hr).1⟩
  · intro hdisowned op l release op' hrun hkey
    obtain ⟨r, hr, -⟩ := listed_of_release hs hrun hkey
    exact hlisted.1 ⟨r, hr⟩ hdisowned

/-! ### Gateways that are to be deleted -/

/-- A gateway of a class, with the finalizer, whose deletion was requested. -/
def doomedGateway (className : String) : Object := .gateway {
  metadata := {
    name := some "g"
    inNamespace := some "a"
    finalizers := some ["turngate.dev/gateway-finalizer"]
    deletionTimestamp := some { seconds := 0 } }
  spec := { gatewayClassName := className } }

/-- When its class is gone, that gateway is let go. -/
theorem releases_holders_without_class :
    let sweep := Sweep.ofSnapshot {} (Store.ofEvents [.upsert (doomedGateway "c")]).snapshot
    (∃ r, sweep.gateways.get? (.namespaced "a" "g") = some r ∧ r.state = .terminating) ∧
      ∃ l release op', Runs (({} : Operator).reconcile {} sweep) l (release, op') ∧
        .namespaced "a" "g" ∈ release := by
  intro sweep
  have hg : (Store.ofEvents [.upsert (doomedGateway "c")]).snapshot.gateway? (.namespaced "a" "g") =
      (doomedGateway "c").gateway? := by
    decide +kernel
  have hclass : (Store.ofEvents [.upsert (doomedGateway "c")]).snapshot.gatewayClass? "c" = none := by
    decide +kernel
  obtain ⟨hlisted, hrelease, -⟩ := releases_holders {} _ hg (by decide +kernel)
  obtain ⟨r, hr⟩ := hlisted.2 fun ⟨_, hc, _⟩ => by cases hclass.symm.trans hc
  obtain ⟨-, hdeleting, hsettles⟩ := hrelease r hr
  have hstate := hdeleting rfl
  obtain ⟨⟨l, ⟨release, op'⟩, hrun, hclean⟩, hclears⟩ :=
    hsettles (by rw [hstate]; decide) {} [] .start
  exact ⟨⟨r, hr, hstate⟩, l, release, op', hrun, hclears l release op' hrun hclean⟩

/-- A gateway of our class that was turned over to another controller's and then deleted. -/
def turnedOver : List StoreEvent := [
  .upsert sampleClass,
  .upsert (sampleConfig "t1"),
  .upsert sampleGateway,
  .upsert (.gatewayClass {
    metadata := { name := some "other" }, spec := { controllerName := "example.com/other" } }),
  .upsert (doomedGateway "other")]

/-- That gateway is in the snapshot with the finalizer and waits for its deletion, but the sweep
does not list it and no reconciliation lets go of it. -/
theorem stranded_after_turnover :
    let s := (Store.ofEvents turnedOver).snapshot
    let sweep := Sweep.ofSnapshot {} s
    (∃ g, s.gateway? (.namespaced "a" "g") = some g ∧ g.metadata.isDeleting = true ∧
      g.metadata.hasFinalizer (Settings.finalizer {}) = true) ∧
      sweep.gateways.get? (.namespaced "a" "g") = none ∧
      ∀ (op : Operator) l release op', Runs (op.reconcile {} sweep) l (release, op') →
        .namespaced "a" "g" ∉ release := by
  intro s sweep
  have hnone : sweep.gateways.get? (.namespaced "a" "g") = none := by decide +kernel
  have hg : s.gateway? (.namespaced "a" "g") = (doomedGateway "other").gateway? := by decide +kernel
  refine ⟨⟨_, hg, rfl, rfl⟩, hnone, fun op l release op' hrun hkey => ?_⟩
  obtain ⟨r, hr, -⟩ := listed_of_release (Sweep.sound_ofSnapshot {} s) hrun hkey
  cases hnone.symm.trans hr

end Operator

end RelayFleet
