/-
Transition times over any history of stampings. Desired statuses of one kind are stamped one after
the other, each against what the one before came to. Then every condition has the time of the first
stamping since which a condition of its type has been in its place with its status, without a gap,
whatever appeared and vanished before; and the entries of other controllers on a route stay ahead
(`times_of_last_flips`).
-/
import RelayFleet.Proofs.Stamp
import RelayFleet.Proofs.Updater.Contention
import Mathlib.Order.Bounds.Basic

namespace RelayFleet

/-- The first step since which something has held without a gap, seen from the step at which it is
looked for. -/
def since (holds : Nat → Prop) [DecidablePred holds] : Nat → Nat
  | 0 => 0
  | n + 1 => if holds n then since holds n else n + 1

theorem isLeast_since {holds : Nat → Prop} [DecidablePred holds] {n : Nat} (h : holds n) :
    IsLeast {m | m ≤ n ∧ ∀ i, m ≤ i → i ≤ n → holds i} (since holds n) := by
  induction n with
  | zero => exact ⟨⟨le_rfl, fun i _ hi => Nat.le_zero.1 hi ▸ h⟩, fun m _ => Nat.zero_le m⟩
  | succ n ih =>
    rw [since]
    split
    · rename_i hn
      obtain ⟨⟨hle, hall⟩, hleast⟩ := ih hn
      refine ⟨⟨hle.trans n.le_succ, fun i hi hin => ?_⟩, fun m hm => ?_⟩
      · rcases Nat.le_succ_iff.1 hin with hin | rfl
        · exact hall i hi hin
        · exact h
      · rcases Nat.le_succ_iff.1 hm.1 with hmn | rfl
        · exact hleast ⟨hmn, fun i hi hin => hm.2 i hi (hin.trans n.le_succ)⟩
        · exact hle.trans n.le_succ
    · rename_i hn
      refine ⟨⟨le_rfl, fun i hi hin => le_antisymm hi hin ▸ h⟩, fun m hm => ?_⟩
      -- an earlier step would have the gap at the step before
      by_contra hlt
      exact hn (hm.2 n (by omega) n.le_succ)

namespace Condition

/-- Whether the first condition of its type in a list has the same status. -/
def SaidIn (cs : List Condition) (c : Condition) : Prop :=
  (find? cs c.type).map (·.status) = some c.status

instance (cs : List Condition) (c : Condition) : Decidable (c.SaidIn cs) :=
  inferInstanceAs (Decidable (_ = _))

theorem Distinct.stamp {cs : List Condition} (h : Distinct cs) (previous : List Condition)
    (now : Timestamp) : Distinct (stamp previous now cs) := by
  unfold Distinct Condition.stamp
  rw [List.map_map]
  exact h

theorem saidIn_iff {cs : List Condition} (h : Distinct cs) {c : Condition} :
    c.SaidIn cs ↔ ∃ d ∈ cs, d.type = c.type ∧ d.status = c.status := by
  unfold SaidIn
  rw [Option.map_eq_some_iff]
  constructor
  · rintro ⟨d, hd, hstatus⟩
    exact ⟨d, List.mem_of_find?_eq_some hd, type_of_find? hd, hstatus⟩
  · rintro ⟨d, hd, htype, hstatus⟩
    exact ⟨d, find?_of_nodup h hd fun e _ => by rw [beq_iff_eq, htype], hstatus⟩

end Condition

namespace ResourceStatus

variable {controller : String} {s desired : ResourceStatus} {previous : Option ResourceStatus}
  {now : Timestamp} {c : Condition}

/-! ## Look-ups -/

section

variable {ls : List ListenerStatus} {ps : List RouteParentStatus}

theorem listenerConditions_cases (ls : List ListenerStatus) (name : String) :
    listenerConditions ls name = [] ∨
      ∃ l ∈ ls, l.name = name ∧ listenerConditions ls name = l.conditions := by
  unfold listenerConditions
  cases hfound : ls.find? (·.name == name) with
  | none => exact .inl rfl
  | some l =>
    have hname := List.find?_some hfound
    exact .inr ⟨l, List.mem_of_find?_eq_some hfound, beq_iff_eq.1 hname, rfl⟩

theorem listenerConditions_of_mem (h : (ls.map (·.name)).Nodup) {l : ListenerStatus} (hl : l ∈ ls) :
    listenerConditions ls l.name = l.conditions := by
  unfold listenerConditions
  rw [find?_of_nodup h hl fun _ _ => beq_iff_eq]
  rfl

theorem parentConditions_cases (ps : List RouteParentStatus) (controller : String)
    (ref : ParentReference) :
    parentConditions ps controller ref = [] ∨
      ∃ p ∈ ps, p.controllerName = controller ∧ p.parentRef = ref ∧
        parentConditions ps controller ref = p.conditions := by
  unfold parentConditions
  cases hfound : ps.find? fun p => p.controllerName = controller ∧ p.parentRef = ref with
  | none => exact .inl rfl
  | some p =>
    have hsome := List.find?_some hfound
    obtain ⟨hours, href⟩ := of_decide_eq_true hsome
    exact .inr ⟨p, List.mem_of_find?_eq_some hfound, hours, href, rfl⟩

theorem parentConditions_of_mem
    (h : ((ps.filter (·.controllerName = controller)).map (·.parentRef)).Nodup)
    {p : RouteParentStatus} (hp : p ∈ ps) (hours : p.controllerName = controller) :
    parentConditions ps controller p.parentRef = p.conditions := by
  have hfound : (ps.filter (·.controllerName = controller)).find? (·.parentRef = p.parentRef) =
      some p :=
    find?_of_nodup h (List.mem_filter.2 ⟨hp, by simpa using hours⟩) fun _ _ => by simp
  rw [List.find?_filter] at hfound
  simp only [decide_eq_true_eq] at hfound
  unfold parentConditions
  rw [hfound]
  rfl

end

/-! ## Places -/

/-- Where conditions stand in a status. -/
inductive Place where
  | top
  | listener (name : String)
  | parent (ref : ParentReference)

/-- Whether a condition stands in a place; on a route those of one controller count. -/
def Has (controller : String) : ResourceStatus → Place → Condition → Prop
  | gatewayClass s, .top, c => c ∈ s.conditions
  | gateway s, .top, c => c ∈ s.conditions
  | gateway s, .listener name, c => ∃ l ∈ s.listeners, l.name = name ∧ c ∈ l.conditions
  | udpRoute s, .parent ref, c =>
    ∃ p ∈ s.parents, p.controllerName = controller ∧ p.parentRef = ref ∧ c ∈ p.conditions
  | _, _, _ => False

/-- Whether a condition of a type stands in a place with a status. -/
def Shows (controller : String) (s : ResourceStatus) (place : Place) (type : String)
    (status : ConditionStatus) : Prop :=
  ∃ c, s.Has controller place c ∧ c.type = type ∧ c.status = status

/-- Whether the conditions of every list are of different types, the listeners have different names
and the entries of a controller different references. -/
def Orderly (controller : String) : ResourceStatus → Prop
  | gatewayClass s => Condition.Distinct s.conditions
  | gateway s => Condition.Distinct s.conditions ∧ (s.listeners.map (·.name)).Nodup ∧
    ∀ l ∈ s.listeners, Condition.Distinct l.conditions
  | udpRoute s =>
    ((s.parents.filter (·.controllerName = controller)).map (·.parentRef)).Nodup ∧
    ∀ p ∈ s.parents, p.controllerName = controller → Condition.Distinct p.conditions

/-- The conditions that are found in a place. -/
def conditionsAt (controller : String) : Place → Option ResourceStatus → List Condition
  | .top, some (gatewayClass s) => s.conditions
  | .top, some (gateway s) => s.conditions
  | .listener name, some (gateway s) => listenerConditions s.listeners name
  | .parent ref, some (udpRoute s) => parentConditions s.parents controller ref
  | _, _ => []

/-- What is found in a place stands there. -/
theorem has_of_mem {place : Place} (h : c ∈ conditionsAt controller place (some s)) :
    s.Has controller place c := by
  cases s with
  | gatewayClass s =>
    cases place with
    | top => exact h
    | _ => cases h
  | gateway s =>
    cases place with
    | top => exact h
    | listener name =>
      have h : c ∈ listenerConditions s.listeners name := h
      rcases listenerConditions_cases s.listeners name with hnil | ⟨l, hl, hname, hsame⟩
      · rw [hnil] at h
        cases h
      · exact ⟨l, hl, hname, hsame ▸ h⟩
    | parent ref => cases h
  | udpRoute s =>
    cases place with
    | parent ref =>
      have h : c ∈ parentConditions s.parents controller ref := h
      rcases parentConditions_cases s.parents controller ref with hnil | ⟨p, hp, hours, href, hsame⟩
      · rw [hnil] at h
        cases h
      · exact ⟨p, hp, hours, href, hsame ▸ h⟩
    | _ => cases h

namespace Orderly

/-- In an orderly status, whatever stands in a place is found there. -/
theorem has_iff (h : s.Orderly controller) {place : Place} :
    s.Has controller place c ↔ c ∈ conditionsAt controller place (some s) := by
  refine ⟨fun hc => ?_, has_of_mem⟩
  cases s with
  | gatewayClass s =>
    cases place with
    | top => exact hc
    | _ => exact hc.elim
  | gateway s =>
    cases place with
    | top => exact hc
    | listener name =>
      obtain ⟨l, hl, rfl, hc⟩ := hc
      show c ∈ listenerConditions s.listeners l.name
      rwa [listenerConditions_of_mem h.2.1 hl]
    | parent ref => exact hc.elim
  | udpRoute s =>
    cases place with
    | parent ref =>
      obtain ⟨p, hp, hours, rfl, hc⟩ := hc
      show c ∈ parentConditions s.parents controller p.parentRef
      rwa [parentConditions_of_mem h.1 hp hours]
    | _ => exact hc.elim

theorem distinct (h : s.Orderly controller) (place : Place) :
    Condition.Distinct (conditionsAt controller place (some s)) := by
  cases s with
  | gatewayClass s =>
    cases place with
    | top => exact h
    | _ => exact List.nodup_nil
  | gateway s =>
    cases place with
    | top => exact h.1
    | listener name =>
      show Condition.Distinct (listenerConditions s.listeners name)
      rcases listenerConditions_cases s.listeners name with hnil | ⟨l, hl, -, hsame⟩
      · rw [hnil]
        exact List.nodup_nil
      · rw [hsame]
        exact h.2.2 l hl
    | parent ref => exact List.nodup_nil
  | udpRoute s =>
    cases place with
    | parent ref =>
      show Condition.Distinct (parentConditions s.parents controller ref)
      rcases parentConditions_cases s.parents controller ref with hnil | ⟨p, hp, hours, -, hsame⟩
      · rw [hnil]
        exact List.nodup_nil
      · rw [hsame]
        exact h.2 p hp hours
    | _ => exact List.nodup_nil

theorem shows_iff (h : s.Orderly controller) {place : Place} :
    s.Shows controller place c.type c.status ↔ c.SaidIn (conditionsAt controller place (some s)) := by
  rw [Condition.saidIn_iff (h.distinct place)]
  unfold Shows
  simp only [h.has_iff]

end Orderly

/-! ## One stamping -/

/-- Whether a status can be stamped against another one: they are of one kind, or the other one has
nothing to carry over. -/
def Matches (controller : String) (desired : ResourceStatus) (previous : Option ResourceStatus) :
    Prop :=
  ∀ p, previous = some p → p.kind = desired.kind ∨
    ∀ place, conditionsAt controller place (some p) = []

theorem conditionsAt_stamped (h : desired.Matches controller previous) (place : Place) :
    conditionsAt controller place (some (desired.stamped previous controller now)) =
      Condition.stamp (conditionsAt controller place previous) now
        (conditionsAt controller place (some desired)) := by
  -- of another kind nothing is carried over
  have hother : ∀ p, previous = some p → p.kind ≠ desired.kind →
      conditionsAt controller place (some p) = [] :=
    fun p hp hkind => (h p hp).resolve_left hkind place
  cases desired with
  | gatewayClass d =>
    cases place with
    | top =>
      rcases previous with - | p | p | p
      · rfl
      · rfl
      · rw [hother _ rfl nofun]
        rfl
      · rfl
    | _ => rfl
  | gateway d =>
    cases place with
    | top =>
      rcases previous with - | p | p | p
      · rfl
      · rw [hother _ rfl nofun]
        rfl
      · rfl
      · rfl
    | listener name =>
      rcases previous with - | p | p | p <;> exact listenerConditions_stampListeners name
    | parent ref => rfl
  | udpRoute d =>
    cases place with
    | parent ref =>
      rcases previous with - | p | p | p <;> exact parentConditions_stampParents ref
    | _ => rfl

theorem Orderly.stamped (h : desired.Orderly controller) (previous : Option ResourceStatus)
    (now : Timestamp) : (desired.stamped previous controller now).Orderly controller := by
  cases desired with
  | gatewayClass d => exact h.stamp _ _
  | gateway d =>
    obtain ⟨hconditions, hnames, hlisteners⟩ := h
    refine ⟨hconditions.stamp _ _, ?_, ?_⟩
    · show ((d.listeners.map (stampListener _ now)).map (·.name)).Nodup
      rwa [List.map_map]
    · intro l hl
      obtain ⟨l', hl', rfl⟩ := List.mem_map.1 hl
      exact (hlisteners l' hl').stamp _ _
  | udpRoute d =>
    obtain ⟨hrefs, hparents⟩ := h
    have hours := ours_stampedRoute d previous controller now
    refine ⟨?_, fun p hp hp' => ?_⟩
    · show (((stampedRoute d previous controller now).parents.filter _).map _).Nodup
      rw [hours, List.map_map]
      exact hrefs
    · have hmem : p ∈ (stampedRoute d previous controller now).parents.filter
          (·.controllerName = controller) := List.mem_filter.2 ⟨hp, by simpa using hp'⟩
      rw [hours] at hmem
      obtain ⟨q, hq, rfl⟩ := List.mem_map.1 hmem
      exact (hparents q (List.mem_of_mem_filter hq) hp').stamp _ _

/-- With its transition times a status has the entries of others ahead, and then its own. -/
theorem parents_stamped (h : desired.kind = .udpRoute) :
    parents (some (desired.stamped previous controller now)) =
      (parents previous).filter (·.controllerName ≠ controller) ++
        (parents (some desired)).map (stampedParent (parents previous) controller now) := by
  cases desired with
  | udpRoute d => exact parents_stampedRoute d previous controller now
  | _ => cases h

/-- An orderly status with entries of one controller is stamped once. -/
theorem Orderly.stamped_stamped (h : desired.Orderly controller)
    (hours : ∀ p ∈ parents (some desired), p.controllerName = controller)
    (previous : Option ResourceStatus) (now later : Timestamp) :
    desired.stamped (some (desired.stamped previous controller now)) controller later =
      desired.stamped previous controller now := by
  refine ResourceStatus.stamped_stamped ?_ previous now later
  cases desired with
  | gatewayClass d => exact h
  | gateway d => exact h
  | udpRoute d =>
    have hall : d.parents.filter (·.controllerName = controller) = d.parents :=
      List.filter_eq_self.2 fun p hp => by simpa using hours p hp
    refine ⟨?_, fun p hp => ⟨hours p hp, h.2 p hp (hours p hp)⟩⟩
    have hrefs := h.1
    rwa [hall] at hrefs

end ResourceStatus

open ResourceStatus

/-! ## A history -/

/-- Desired statuses of one kind and the times at which they are stamped, one after the other, onto
a resource that carried nothing of ours at first. -/
structure StatusHistory where
  controller : String
  previous : Option ResourceStatus
  desired : Nat → ResourceStatus
  time : Nat → Timestamp
  kind : ∀ n, (desired n).kind = (desired 0).kind
  orderly : ∀ n, (desired n).Orderly controller
  fresh : ∀ p, previous = some p → ∀ place c, ¬ p.Has controller place c

namespace StatusHistory

variable (h : StatusHistory)

/-- What the resource carries when a status is stamped. -/
def before : Nat → Option ResourceStatus
  | 0 => h.previous
  | n + 1 => some ((h.desired n).stamped (before n) h.controller (h.time n))

/-- What a status is stamped to. -/
def result (n : Nat) : ResourceStatus := (h.desired n).stamped (h.before n) h.controller (h.time n)

theorem before_succ (n : Nat) : h.before (n + 1) = some (h.result n) := rfl

/-- The conditions that are desired in a place. -/
def wanted (place : Place) (n : Nat) : List Condition :=
  conditionsAt h.controller place (some (h.desired n))

/-- The stamping since which a condition has been in a place with its status. -/
def start (place : Place) (c : Condition) (n : Nat) : Nat :=
  since (fun i => c.SaidIn (h.wanted place i)) n

theorem conditionsAt_previous (place : Place) :
    conditionsAt h.controller place h.previous = [] := by
  cases hprevious : h.previous with
  | none => cases place <;> rfl
  | some p =>
    exact List.eq_nil_iff_forall_not_mem.2 fun c hc => h.fresh p hprevious place c (has_of_mem hc)

theorem matches_before (n : Nat) : (h.desired n).Matches h.controller (h.before n) := by
  cases n with
  | zero =>
    intro p hp
    have hprevious : h.previous = some p := hp
    exact .inr fun place => hprevious ▸ h.conditionsAt_previous place
  | succ n =>
    rintro p ⟨⟩
    exact .inl (kind_stamped.trans ((h.kind n).trans (h.kind (n + 1)).symm))

theorem conditionsAt_result (place : Place) (n : Nat) :
    conditionsAt h.controller place (some (h.result n)) =
      Condition.stamp (conditionsAt h.controller place (h.before n)) (h.time n) (h.wanted place n) :=
  conditionsAt_stamped (h.matches_before n) place

/-- The time that a condition gets is that of the stamping since which it has been in its place. -/
theorem carriedTime?_before (place : Place) (c : Condition) (n : Nat) :
    (c.carriedTime? (conditionsAt h.controller place (h.before n))).getD (h.time n) =
      h.time (h.start place c n) := by
  induction n with
  | zero =>
    show (c.carriedTime? (conditionsAt h.controller place h.previous)).getD _ = _
    rw [conditionsAt_previous]
    rfl
  | succ n ih =>
    show (c.carriedTime? (conditionsAt h.controller place (some (h.result n)))).getD _ = _
    have hstart : h.start place c (n + 1) =
        if c.SaidIn (h.wanted place n) then h.start place c n else n + 1 := rfl
    have hcarried : c.carriedTime? (conditionsAt h.controller place (some (h.result n))) =
        if c.SaidIn (h.wanted place n) then some (h.time (h.start place c n)) else none := by
      rw [conditionsAt_result, Condition.carriedTime?_stamp, ih]
      rfl
    rw [hcarried, hstart]
    -- the condition finds a time exactly if it was said at the stamping before
    by_cases hsaid : c.SaidIn (h.wanted place n)
    · rw [if_pos hsaid, if_pos hsaid, Option.getD_some]
    · rw [if_neg hsaid, if_neg hsaid, Option.getD_none]

theorem mem_conditionsAt_result {place : Place} {n : Nat} {c : Condition} :
    c ∈ conditionsAt h.controller place (some (h.result n)) ↔
      ∃ d ∈ h.wanted place n,
        c = { d with lastTransitionTime := some (h.time (h.start place d n)) } := by
  rw [conditionsAt_result, Condition.stamp, List.mem_map]
  simp only [carriedTime?_before, eq_comm]

theorem isLeast_start {place : Place} {n : Nat} {d : Condition} (hd : d ∈ h.wanted place n) :
    IsLeast {m | m ≤ n ∧ ∀ i, m ≤ i → i ≤ n →
      (h.desired i).Shows h.controller place d.type d.status} (h.start place d n) := by
  have hsaid : d.SaidIn (h.wanted place n) :=
    (Condition.saidIn_iff ((h.orderly n).distinct place)).2 ⟨d, hd, rfl, rfl⟩
  simp only [(h.orderly _).shows_iff]
  exact isLeast_since hsaid

/-! ## Entries of others -/

/-- The entries of other controllers that a route carries. -/
def others (s : Option ResourceStatus) : List RouteParentStatus :=
  (parents s).filter (·.controllerName ≠ h.controller)

theorem parents_result (hroute : (h.desired 0).kind = .udpRoute) (n : Nat) :
    parents (some (h.result n)) = h.others (h.before n) ++ (parents (some (h.desired n))).map
      (stampedParent (parents (h.before n)) h.controller (h.time n)) :=
  parents_stamped ((h.kind n).trans hroute)

/-- What a route carried at first of others stays ahead. -/
theorem others_prefix (hroute : (h.desired 0).kind = .udpRoute) (n : Nat) :
    h.others h.previous <+: parents (some (h.result n)) := by
  induction n with
  | zero =>
    rw [h.parents_result hroute]
    exact List.prefix_append _ _
  | succ n ih =>
    rw [h.parents_result hroute]
    refine List.IsPrefix.trans ?_ (List.prefix_append _ _)
    have hkept := ih.filter (·.controllerName ≠ h.controller)
    unfold others at hkept
    rw [List.filter_filter] at hkept
    simp only [Bool.and_self] at hkept
    exact hkept

/-- Whether nothing but entries of the controller is desired. -/
def Own : Prop := ∀ n, ∀ p ∈ parents (some (h.desired n)), p.controllerName = h.controller

/-- If only entries of the controller are desired, those of others stay as they were at first. -/
theorem others_before (hroute : (h.desired 0).kind = .udpRoute) (hown : h.Own) (n : Nat) :
    h.others (h.before n) = h.others h.previous := by
  induction n with
  | zero => rfl
  | succ n ih =>
    have hours : ((parents (some (h.desired n))).map
        (stampedParent (parents (h.before n)) h.controller (h.time n))).filter
          (·.controllerName ≠ h.controller) = [] := by
      refine List.filter_eq_nil_iff.2 fun p hp => ?_
      obtain ⟨q, hq, rfl⟩ := List.mem_map.1 hp
      simp [stampedParent, hown n q hq]
    rw [h.before_succ, others, h.parents_result hroute, List.filter_append, hours, List.append_nil,
      ← ih]
    unfold others
    rw [List.filter_filter]
    simp only [Bool.and_self]

/-! ## The whole history -/

/-- What a history of stampings comes to. -/
structure Dated : Prop where
  /-- The conditions of the controller are those that are desired, each with the time of the first
  stamping since which its place has shown a condition of its type with its status. -/
  conditions : ∀ n place c, (h.result n).Has h.controller place c ↔
    ∃ d m, (h.desired n).Has h.controller place d ∧
      IsLeast {m | m ≤ n ∧ ∀ i, m ≤ i → i ≤ n →
        (h.desired i).Shows h.controller place d.type d.status} m ∧
      c = { d with lastTransitionTime := some (h.time m) }
  /-- On a route, what others said at first stays as it was, in its order and ahead. -/
  ahead : (h.desired 0).kind = .udpRoute → ∀ n,
    h.others h.previous <+: parents (some (h.result n))
  /-- After what a route carried of others come the entries that are desired, and nothing else. -/
  behind : (h.desired 0).kind = .udpRoute → ∀ n, ∃ ours,
    parents (some (h.result n)) = h.others (h.before n) ++ ours ∧
      ours.map (fun p => (p.parentRef, p.controllerName)) =
        (parents (some (h.desired n))).map fun p => (p.parentRef, p.controllerName)
  /-- If only entries of the controller are desired, a route carries no more of others. -/
  kept : (h.desired 0).kind = .udpRoute → h.Own → ∀ n, h.others (h.before n) = h.others h.previous
  /-- Stamped again, a status stays as it is. -/
  again : ∀ n later, (∀ p ∈ parents (some (h.desired n)), p.controllerName = h.controller) →
    (h.desired n).stamped (some (h.result n)) h.controller later = h.result n

/-- Over every history of stampings, transition times tell when each condition took its status last,
and the entries of other controllers are carried along. -/
theorem times_of_last_flips : h.Dated where
  conditions n place c := by
    have hresult : (h.result n).Orderly h.controller := (h.orderly n).stamped _ _
    rw [hresult.has_iff, mem_conditionsAt_result]
    constructor
    · rintro ⟨d, hd, rfl⟩
      exact ⟨d, h.start place d n, (h.orderly n).has_iff.2 hd, h.isLeast_start hd, rfl⟩
    · rintro ⟨d, m, hd, hm, rfl⟩
      have hwanted : d ∈ h.wanted place n := (h.orderly n).has_iff.1 hd
      exact ⟨d, hwanted, by rw [hm.unique (h.isLeast_start hwanted)]⟩
  ahead hroute n := h.others_prefix hroute n
  behind hroute n := by
    refine ⟨_, h.parents_result hroute n, ?_⟩
    rw [List.map_map]
    rfl
  kept hroute hown n := h.others_before hroute hown n
  again n later hours := (h.orderly n).stamped_stamped hours _ _ _

/-! ### A route that is taken on again -/

/-- What is said about a route and its gateway. -/
def acceptance (status : ConditionStatus) : Condition where
  type := ConditionType.accepted
  status := status
  reason := Reason.accepted

/-- The entry of a controller for that gateway. -/
def report (controller : String) (conditions : List Condition) : RouteParentStatus where
  parentRef := { name := "g" }
  controllerName := controller
  conditions := conditions

theorem orderly_report (controller : String) (status : ConditionStatus) :
    (udpRoute ⟨[report controller [acceptance status]]⟩).Orderly controller := by
  unfold Orderly Condition.Distinct report
  simp

/-- The route is taken on, then it does not refer to the gateway any more, then it is turned down,
and from the fourth stamping on it is taken on again. Another controller reports on it too. -/
def comeback : StatusHistory where
  controller := "turngate.dev/gateway-operator"
  previous := some (.udpRoute ⟨[report "other" []]⟩)
  desired
    | 1 => .udpRoute {}
    | 2 => .udpRoute ⟨[report "turngate.dev/gateway-operator" [acceptance .false]]⟩
    | _ => .udpRoute ⟨[report "turngate.dev/gateway-operator" [acceptance .true]]⟩
  time n := ⟨n, 0⟩
  kind n := by rcases n with _ | _ | _ | n <;> rfl
  orderly n := by
    rcases n with _ | _ | _ | n
    · exact orderly_report _ _
    · exact ⟨List.nodup_nil, nofun⟩
    · exact orderly_report _ _
    · exact orderly_report _ _
  fresh := by
    rintro _ ⟨⟩ place c hc
    cases place with
    | parent ref =>
      obtain ⟨p, hp, hours, -⟩ := hc
      rw [List.mem_singleton.1 hp] at hours
      exact absurd hours (by decide)
    | _ => exact hc

/-- At the sixth stamping the route has been taken on since the fourth one, though it also was at the
first one, and the entry of the other controller is still ahead. -/
theorem times_of_last_flips_for_comeback :
    (comeback.result 5).Has comeback.controller (.parent { name := "g" })
        { acceptance .true with lastTransitionTime := some ⟨3, 0⟩ } ∧
      [report "other" []] <+: parents (some (comeback.result 5)) := by
  have hdated := times_of_last_flips comeback
  refine ⟨(hdated.conditions 5 _ _).2 ⟨acceptance .true, 3, ?_, ⟨⟨by omega, fun i hi hin => ?_⟩, ?_⟩,
    rfl⟩, hdated.ahead rfl 5⟩
  · exact ⟨_, List.mem_singleton_self _, rfl, rfl, List.mem_singleton_self _⟩
  · interval_cases i <;>
      exact ⟨_, ⟨_, List.mem_singleton_self _, rfl, rfl, List.mem_singleton_self _⟩, rfl, rfl⟩
  · -- at the third stamping it was turned down
    rintro m ⟨-, hall⟩
    by_contra hlt
    obtain ⟨c, ⟨p, hp, -, -, hc⟩, -, hstatus⟩ := hall 2 (by omega) (by omega)
    rw [List.mem_singleton.1 hp] at hc
    rw [List.mem_singleton.1 hc] at hstatus
    cases hstatus

end StatusHistory

end RelayFleet
