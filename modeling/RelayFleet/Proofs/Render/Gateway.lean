/-
What a rendered gateway is like: something is derived from an active gateway only, its workload is
its own, and the listeners that it contributes are named after it (`sound_of_renderGateway`).
-/
import RelayFleet.Render.Gateway
import Mathlib.Tactic

namespace RelayFleet

/-! ## Names of listeners -/

namespace ObjectKey

/-- What the names of a gateway's listeners begin with. -/
def listenerPrefix (k : ObjectKey) : String := k.namespaceText ++ "/" ++ k.name ++ "/"

/-- Whether a key is one that the API server admits for a gateway: it has a namespace, and there is
no slash in its parts. -/
def Plain (k : ObjectKey) : Prop :=
  k.inNamespace.isSome ∧ '/' ∉ k.namespaceText.toList ∧ '/' ∉ k.name.toList

instance (k : ObjectKey) : Decidable k.Plain := inferInstanceAs (Decidable (_ ∧ _))

end ObjectKey

theorem eq_of_append_slash {a b a' b' : List Char} (ha : '/' ∉ a) (ha' : '/' ∉ a')
    (h : a ++ '/' :: b = a' ++ '/' :: b') : a = a' ∧ b = b' := by
  induction a generalizing a' with
  | nil =>
    cases a' with
    | nil => exact ⟨rfl, List.tail_eq_of_cons_eq h⟩
    | cons c rest => exact absurd (List.head_eq_of_cons_eq h ▸ List.mem_cons_self ..) ha'
  | cons c rest ih =>
    cases a' with
    | nil => exact absurd (List.head_eq_of_cons_eq h ▸ List.mem_cons_self ..) ha
    | cons c' rest' =>
      obtain ⟨rfl, hrest⟩ := List.cons_eq_cons.1 h
      obtain ⟨rfl, hb⟩ := ih (fun hm => ha (List.mem_cons_of_mem _ hm))
        (fun hm => ha' (List.mem_cons_of_mem _ hm)) hrest
      exact ⟨rfl, hb⟩

/-- Keys with a namespace are told apart by their texts, where no namespace has a slash. -/
theorem ObjectKey.eq_of_text {k k' : ObjectKey} (hns : k.inNamespace = some k.namespaceText)
    (hns' : k'.inNamespace = some k'.namespaceText) (hplain : '/' ∉ k.namespaceText.toList)
    (hplain' : '/' ∉ k'.namespaceText.toList) (h : k.text = k'.text) : k = k' := by
  have htext : ∀ k : ObjectKey, k.inNamespace = some k.namespaceText →
      k.text.toList = k.namespaceText.toList ++ '/' :: k.name.toList := by
    intro k hk
    unfold text
    rw [hk, String.toList_append, String.toList_append, List.append_assoc]
    rfl
  have hchars := congrArg String.toList h
  rw [htext k hns, htext k' hns'] at hchars
  obtain ⟨hspace, hname⟩ := eq_of_append_slash hplain hplain' hchars
  obtain ⟨ns, name⟩ := k
  obtain ⟨ns', name'⟩ := k'
  rw [String.toList_inj] at hspace hname
  exact congr (congrArg ObjectKey.mk ((hns.trans (congrArg some hspace)).trans hns'.symm)) hname

/-- Whether a listener is named after a gateway. -/
def ListenerConfig.IsOf (l : ListenerConfig) (gateway : ObjectKey) : Prop :=
  ∃ rest, l.name = gateway.listenerPrefix ++ rest

/-- A listener is named after one gateway only. -/
theorem ListenerConfig.IsOf.unique {l : ListenerConfig} {k k' : ObjectKey} (hk : k.Plain)
    (hk' : k'.Plain) (h : l.IsOf k) (h' : l.IsOf k') : k = k' := by
  obtain ⟨rest, hl⟩ := h
  obtain ⟨rest', hl'⟩ := h'
  have hchars := congrArg String.toList (hl.symm.trans hl')
  simp only [ObjectKey.listenerPrefix, String.toList_append, List.append_assoc] at hchars
  obtain ⟨hns, hnext⟩ := eq_of_append_slash hk.2.1 hk'.2.1 hchars
  obtain ⟨hname, -⟩ := eq_of_append_slash hk.2.2 hk'.2.2 hnext
  obtain ⟨ns, name⟩ := k
  obtain ⟨ns', name'⟩ := k'
  obtain ⟨ns, rfl⟩ := Option.isSome_iff_exists.1 hk.1
  obtain ⟨ns', rfl⟩ := Option.isSome_iff_exists.1 hk'.1
  rw [String.toList_inj] at hns hname
  exact congr (congrArg ObjectKey.mk (congrArg some hns)) hname

namespace Document

/-- Whether a document has a listener that is named after a gateway. -/
def Mentions (d : Document) (gateway : ObjectKey) : Prop := ∃ l ∈ d.listeners, l.IsOf gateway

theorem mem_sortByName {α : Type} {name : α → String} {l : List α} {a : α} :
    a ∈ sortByName name l ↔ a ∈ l := by
  unfold sortByName
  exact List.mem_mergeSort

theorem mem_listeners_normalize {d : Document} {l : ListenerConfig} :
    l ∈ d.normalize.listeners ↔
      ∃ m ∈ d.listeners, l = { m with routes := (SortedSet.ofList m.routes).toList } := by
  unfold normalize
  rw [mem_sortByName, List.mem_map]
  simp only [eq_comm]

theorem mentions_normalize {d : Document} {gateway : ObjectKey} :
    d.normalize.Mentions gateway ↔ d.Mentions gateway := by
  unfold Mentions
  simp only [mem_listeners_normalize]
  constructor
  · rintro ⟨_, ⟨m, hm, rfl⟩, h⟩
    exact ⟨m, hm, h⟩
  · rintro ⟨m, hm, h⟩
    exact ⟨_, ⟨m, hm, rfl⟩, h⟩

theorem mentions_merge {d e : Document} {gateway : ObjectKey} :
    (d.merge e).Mentions gateway ↔ d.Mentions gateway ∨ e.Mentions gateway := by
  unfold merge
  rw [mentions_normalize]
  unfold Mentions
  simp only [List.mem_append, or_and_right, exists_or]

theorem not_mentions_empty {gateway : ObjectKey} : ¬ empty.Mentions gateway := by
  rintro ⟨l, hl, -⟩
  cases hl

end Document

/-! ## Rendered gateways -/

/-- What holds of every rendered gateway. -/
structure GatewayRender.Sound (r : GatewayRender) : Prop where
  contributes : r.state = .active → ∃ config target, r.config = some config ∧ r.target = some target
  idle : r.state ≠ .active → r.config = none ∧ r.target = none ∧ r.workload = none
  own : ∀ w, r.workload = some w → w.gateway = r.gateway
  named : ∀ config, r.config = some config → ∀ l ∈ config.listeners, l.IsOf r.gateway

namespace GatewayOutput

variable {settings : Settings} {s : Snapshot} {key : ObjectKey} {g : Gateway}
  {output : GatewayOutput}

theorem sound_base {state : GatewayState} (h : state ≠ .active) :
    (base settings key g state).Sound where
  contributes ha := absurd ha h
  idle _ := ⟨rfl, rfl, rfl⟩
  own _ hw := by cases hw
  named _ hc := by cases hc

/-- The listeners of a gateway's document are named after it. -/
theorem named_document {address : Option PublicAddress} {plans : List ListenerPlan}
    {attachments : List RouteAttachment} {l : ListenerConfig}
    (h : l ∈ (document key address plans attachments).listeners) : l.IsOf key := by
  unfold document at h
  obtain ⟨m, hm, rfl⟩ := Document.mem_listeners_normalize.1 h
  obtain ⟨p, -, hp⟩ := List.mem_filterMap.1 hm
  unfold listenerConfig? at hp
  split at hp
  · cases hp
    exact ⟨p.name, rfl⟩
  · cases hp

theorem sound_active {params : GatewayConfig} (h : active settings s key g params = .ok output) :
    output.render.gateway = key ∧ output.render.Sound := by
  unfold active at h
  simp only at h
  split at h
  · cases h
  · cases h
    refine ⟨rfl, fun _ => ⟨_, _, rfl, rfl⟩, fun hs => absurd rfl hs, fun w hw => ?_, fun c hc => ?_⟩
    · obtain ⟨d, -, rfl⟩ := Option.map_eq_some_iff.1 hw
      rfl
    · cases hc
      exact fun l hl => named_document hl

theorem sound_invalid {message : String} :
    (invalid settings s key g message).render.gateway = key ∧
      (invalid settings s key g message).render.Sound :=
  ⟨rfl, sound_base (by decide)⟩

theorem sound_terminating {policy : EndpointPolicy} :
    (terminating settings s key g policy).render.gateway = key ∧
      (terminating settings s key g policy).render.Sound :=
  ⟨rfl, sound_base (by decide)⟩

/-- What the rendering of a gateway may be. -/
theorem ofChecked_cases {check : Option ClassCheck}
    (h : ofChecked settings s key g check = .ok output) :
    (∃ params, active settings s key g params = .ok output) ∨
    (∃ message, output = invalid settings s key g message) ∨
    ∃ policy, output = terminating settings s key g policy := by
  unfold ofChecked at h
  simp only at h
  split at h
  · cases h
    exact .inr (.inr ⟨_, rfl⟩)
  · split at h
    · cases h
      exact .inr (.inl ⟨_, rfl⟩)
    · split at h
      · split at h
        · exact .inl ⟨_, h⟩
        · cases h
          exact .inr (.inl ⟨_, rfl⟩)
      · cases h
        exact .inr (.inl ⟨_, rfl⟩)

end GatewayOutput

/-- A rendered gateway is one of the snapshot, rendered with what is known about its class. -/
theorem checked_of_renderGateway {settings : Settings} {s : Snapshot} {key : ObjectKey}
    {output : GatewayOutput} (h : renderGateway settings s key = .ok (some output)) :
    ∃ g, s.gateway? key = some g ∧ GatewayOutput.ofChecked settings s key g
      ((s.gatewayClass? g.spec.gatewayClassName).map (ClassCheck.ofClass s)) = .ok output := by
  have hmap : ∀ {e : Except Fault GatewayOutput}, e.map some = .ok (some output) →
      e = .ok output := by
    intro e he
    cases e with
    | error f => cases he
    | ok o => cases he; rfl
  unfold renderGateway at h
  split at h
  · cases h
  · rename_i g hg
    refine ⟨g, hg, ?_⟩
    split at h
    · rename_i c hc
      rw [hc]
      split at h
      · exact hmap h
      · cases h
    · rename_i hnone
      rw [hnone]
      split at h
      · exact hmap h
      · cases h

/-- What the rendering of a gateway of a snapshot may be. -/
theorem renderGateway_cases {settings : Settings} {s : Snapshot} {key : ObjectKey}
    {output : GatewayOutput} (h : renderGateway settings s key = .ok (some output)) :
    ∃ g, s.gateway? key = some g ∧
      ((∃ params, GatewayOutput.active settings s key g params = .ok output) ∨
      (∃ message, output = GatewayOutput.invalid settings s key g message) ∨
      ∃ policy, output = GatewayOutput.terminating settings s key g policy) := by
  obtain ⟨g, hg, hchecked⟩ := checked_of_renderGateway h
  exact ⟨g, hg, GatewayOutput.ofChecked_cases hchecked⟩

theorem sound_of_renderGateway {settings : Settings} {s : Snapshot} {key : ObjectKey}
    {output : GatewayOutput} (h : renderGateway settings s key = .ok (some output)) :
    output.render.gateway = key ∧ output.render.Sound := by
  obtain ⟨g, -, ⟨params, ha⟩ | ⟨message, rfl⟩ | ⟨policy, rfl⟩⟩ := renderGateway_cases h
  · exact GatewayOutput.sound_active ha
  · exact GatewayOutput.sound_invalid
  · exact GatewayOutput.sound_terminating

end RelayFleet
