/-
What a sweep calls for: the workloads of its active gateways, and for every target the artifact that
their contributions add up to. The gateways of a rendered sweep are sound and stand under their own
keys (`sound_ofSnapshot`).
-/
import RelayFleet.Render.Sweep
import RelayFleet.Operator.Call
import RelayFleet.Proofs.SortedSet
import RelayFleet.Proofs.Render.Gateway
import RelayFleet.Proofs.Store.Snapshot

namespace RelayFleet.Sweep

/-! ## What a sweep calls for -/

/-- The active gateways. -/
def actives (sweep : Sweep) : SortedMap ObjectKey GatewayRender :=
  sweep.gateways.filter fun _ r => r.state = .active

/-- The workloads of the active gateways. -/
def workloads (sweep : Sweep) : SortedMap ObjectKey Workload :=
  sweep.actives.filterMap (·.workload)

/-- The targets of the active gateways. -/
def targets (sweep : Sweep) : List ObjectKey := sweep.actives.values.filterMap (·.target)

/-- The active gateways that contribute to a target, in the order of their keys. -/
def contributors (sweep : Sweep) (target : ObjectKey) : List GatewayRender :=
  sweep.actives.values.filter fun r => r.target = some target

/-- What the contributions to a target add up to, with its owners in order, each once. -/
def merged (sweep : Sweep) (target : ObjectKey) : Artifact where
  key := target
  config := ((sweep.contributors target).filterMap (·.config)).foldl Document.merge Document.empty
  owners := (SortedSet.ofList ((sweep.contributors target).filterMap (·.owner))).toList

/-- The artifacts that the contributions of the active gateways add up to, by target. -/
def artifacts (sweep : Sweep) : SortedMap ObjectKey Artifact :=
  .ofList (sweep.targets.map fun target => (target, sweep.merged target))

/-- The gateways that are not active and carry the finalizer, in the order of their keys. -/
def idleHolders (sweep : Sweep) : List ObjectKey :=
  (sweep.gateways.toList.filter fun b => b.2.state ≠ .active ∧ b.2.hasFinalizer).map (·.1)

theorem get?_workloads (sweep : Sweep) (k : ObjectKey) :
    sweep.workloads.get? k = (sweep.actives.get? k).bind (·.workload) :=
  SortedMap.get?_filterMap _ _ k

theorem get?_artifacts (sweep : Sweep) (k : ObjectKey) :
    sweep.artifacts.get? k = if k ∈ sweep.targets then some (sweep.merged k) else none :=
  SortedMap.get?_ofList_graph _ _ k

theorem mem_targets_iff {sweep : Sweep} {k : ObjectKey} :
    k ∈ sweep.targets ↔ sweep.contributors k ≠ [] := by
  unfold targets contributors
  rw [List.mem_filterMap, Ne, List.filter_eq_nil_iff]
  push Not
  simp only [decide_eq_true_eq]

/-- The owners of a merged artifact are those of its contributors, in order, each once. -/
theorem owners_merged (sweep : Sweep) (target : ObjectKey) :
    Elements.Sorted (sweep.merged target).owners ∧
      ∀ o, o ∈ (sweep.merged target).owners ↔
        ∃ r ∈ sweep.contributors target, r.owner = some o := by
  refine ⟨(SortedSet.ofList _).sorted, fun o => ?_⟩
  rw [← List.mem_filterMap]
  exact SortedSet.mem_ofList

/-! ## Soundness -/

/-- What holds of the gateways of every rendered sweep. -/
def Sound (sweep : Sweep) : Prop :=
  ∀ k r, sweep.gateways.get? k = some r → r.gateway = k ∧ r.Sound

/-- Whether every rendering of a sweep is under the key of its gateway, and its workload is that of
this gateway. -/
def Keyed (sweep : Sweep) : Prop :=
  ∀ k r, sweep.gateways.get? k = some r →
    r.gateway = k ∧ ∀ w, r.workload = some w → w.gateway = k

variable {settings : Settings} {s : Snapshot}

theorem mem_outputs {key : ObjectKey} {output : GatewayOutput}
    (h : (key, output) ∈ outputs settings s) :
    key ∈ s.gateways.map (·.1) ∧ renderGateway settings s key = .ok (some output) := by
  obtain ⟨⟨key', g⟩, hg, hb⟩ := List.mem_filterMap.1 h
  simp only at hb
  split at hb
  · rename_i o ho
    cases hb
    exact ⟨List.mem_map_of_mem hg, ho⟩
  · cases hb

theorem mem_outputs_of_renderGateway {key : ObjectKey} {output : GatewayOutput}
    (h : renderGateway settings s key = .ok (some output)) : (key, output) ∈ outputs settings s := by
  obtain ⟨g, hg, -⟩ := renderGateway_cases h
  refine List.mem_filterMap.2 ⟨(key, g), ?_, by simp only [h]⟩
  exact Snapshot.mem_gateways_iff.2 (Snapshot.gateway?_eq_some_iff.1 hg)

theorem nodup_outputs (settings : Settings) (s : Snapshot) :
    ((outputs settings s).map (·.1)).Nodup :=
  SortedMap.nodup_keys_filterMap (g := id) s.nodup_gateways Function.injective_id fun b c hc => by
    dsimp only at hc
    split at hc
    · cases hc
      rfl
    · cases hc

theorem get?_gateways_of_render {key : ObjectKey} {output : GatewayOutput}
    (h : renderGateway settings s key = .ok (some output)) :
    (ofSnapshot settings s).gateways.get? key = some output.render := by
  have hkeys : (((outputs settings s).map fun o => (o.1, o.2.render)).map (·.1)).Nodup := by
    rw [List.map_map]
    exact nodup_outputs settings s
  exact (SortedMap.get?_ofList_eq_some_iff hkeys).2
    (List.mem_map.2 ⟨_, mem_outputs_of_renderGateway h, rfl⟩)

/-- A gateway of a rendered sweep is the rendering of a gateway of the snapshot. -/
theorem render_of_get? {k : ObjectKey} {r : GatewayRender}
    (h : (ofSnapshot settings s).gateways.get? k = some r) :
    ∃ output, k ∈ s.gateways.map (·.1) ∧ renderGateway settings s k = .ok (some output) ∧
      output.render = r := by
  have hmem := SortedMap.mem_of_get?_ofList h
  obtain ⟨⟨key, output⟩, ho, he⟩ := List.mem_map.1 hmem
  cases he
  exact ⟨output, (mem_outputs ho).1, (mem_outputs ho).2, rfl⟩

theorem sound_ofSnapshot (settings : Settings) (s : Snapshot) : (ofSnapshot settings s).Sound := by
  intro k r h
  obtain ⟨output, -, ho, rfl⟩ := render_of_get? h
  exact sound_of_renderGateway ho

/-- The gateways of a sweep as a list: different keys, each that of its rendering. -/
theorem Sound.keyed {sweep : Sweep} (h : sweep.Sound) : sweep.Keyed := fun k r hr =>
  ⟨(h k r hr).1, fun w hw => (h k r hr).1 ▸ (h k r hr).2.own w hw⟩

theorem Keyed.map_gateway {sweep : Sweep} (h : sweep.Keyed) :
    sweep.gateways.values.map (·.gateway) = sweep.gateways.keys := by
  unfold SortedMap.values SortedMap.keys
  rw [List.map_map]
  refine List.map_congr_left fun b hb => ?_
  exact (h b.1 b.2 (SortedMap.get?_eq_some_iff.2 hb)).1

theorem Sound.map_gateway {sweep : Sweep} (h : sweep.Sound) :
    sweep.gateways.values.map (·.gateway) = sweep.gateways.keys := h.keyed.map_gateway

theorem Sound.get?_gateway {sweep : Sweep} (h : sweep.Sound) {r : GatewayRender}
    (hr : r ∈ sweep.gateways.values) : sweep.gateways.get? r.gateway = some r := by
  obtain ⟨k, hk⟩ := SortedMap.mem_values_iff.1 hr
  rwa [(h k r hk).1]

end RelayFleet.Sweep
