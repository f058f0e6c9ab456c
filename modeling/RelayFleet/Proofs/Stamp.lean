/-
Statuses that are stamped again. A coherent status, stamped against what it was stamped to before,
comes out the same at any time (`Coherent.stamped_stamped`), and no other one does
(`coherent_of_stamped_stamped`). Where every entry of a status finds itself, the status is coherent
(`Regular.coherent`).
-/
import RelayFleet.Status
import Mathlib.Tactic

namespace RelayFleet

/-- Where a feature tells the items of a list apart, an item is found by it. -/
theorem find?_of_nodup {α β : Type} {l : List α} {f : α → β} {p : α → Bool} {a : α}
    (h : (l.map f).Nodup) (ha : a ∈ l) (hp : ∀ b ∈ l, (p b = true ↔ f b = f a)) :
    l.find? p = some a := by
  induction l with
  | nil => cases ha
  | cons b rest ih =>
    by_cases hb : p b = true
    · rw [List.find?_cons_of_pos hb,
        List.inj_on_of_nodup_map h List.mem_cons_self ha ((hp b List.mem_cons_self).1 hb)]
    · rw [List.find?_cons_of_neg hb]
      rw [List.map_cons, List.nodup_cons] at h
      rcases List.mem_cons.1 ha with rfl | ha
      · exact absurd ((hp a List.mem_cons_self).2 rfl) hb
      · exact ih h.2 ha fun b hb => hp b (List.mem_cons_of_mem _ hb)

namespace Condition

/-- Whether the conditions of a list are of different types. -/
def Distinct (cs : List Condition) : Prop := (cs.map (·.type)).Nodup

/-- Whether conditions have the status of the first one of their type in a list. -/
def Coherent (first cs : List Condition) : Prop :=
  ∀ c ∈ cs, (find? first c.type).map (·.status) = some c.status

instance (first cs : List Condition) : Decidable (Coherent first cs) :=
  inferInstanceAs (Decidable (∀ c ∈ cs, (find? first c.type).map (·.status) = some c.status))

variable {first cs : List Condition}

theorem Distinct.coherent (h : Distinct cs) : Coherent cs cs := by
  intro c hc
  have hfound : find? cs c.type = some c := find?_of_nodup h hc fun _ _ => beq_iff_eq
  rw [hfound, Option.map_some]

theorem type_of_find? {type : String} {c : Condition} (h : find? cs type = some c) :
    c.type = type := by
  have hsome := List.find?_some (show cs.find? (·.type == type) = some c from h)
  exact beq_iff_eq.1 hsome

/-- What was stamped carries a time over to a condition of the same status. -/
theorem carriedTime?_stamp (previous first : List Condition) (now : Timestamp) (c : Condition) :
    carriedTime? (stamp previous now first) c =
      if (find? first c.type).map (·.status) = some c.status then
        some ((carriedTime? previous c).getD now)
      else none := by
  have hfind : find? (stamp previous now first) c.type = (find? first c.type).map fun d =>
      { d with lastTransitionTime := some ((carriedTime? previous d).getD now) } := List.find?_map
  rw [carriedTime?, hfind]
  cases hfound : find? first c.type with
  | none => rfl
  | some d =>
    have htype : d.type = c.type := type_of_find? hfound
    by_cases hstatus : d.status = c.status
    · have hcarried : carriedTime? previous d = carriedTime? previous c := by
        rw [carriedTime?, carriedTime?, htype, hstatus]
      rw [Option.map_some, Option.map_some, hstatus, if_pos rfl,
        Option.filter_some_pos (by simp), Option.bind_some, hcarried]
    · rw [Option.map_some, Option.map_some, if_neg (mt Option.some.inj hstatus),
        Option.filter_some_neg (by simpa using hstatus), Option.bind_none]

theorem Coherent.stamp_stamp (h : Coherent first cs) (previous : List Condition)
    (now later : Timestamp) :
    stamp (stamp previous now first) later cs = stamp previous now cs := by
  refine List.map_congr_left fun c hc => ?_
  rw [carriedTime?_stamp, if_pos (h c hc), Option.getD_some]

theorem coherent_of_stamp_stamp (previous : List Condition) (now : Timestamp)
    (h : ∀ later : Timestamp, now.seconds < later.seconds →
      stamp (stamp previous now first) later cs = stamp previous now cs) : Coherent first cs := by
  intro c hc
  by_contra hother
  -- a condition that finds no time takes a new one, whenever that is
  obtain ⟨t, ht⟩ : ∃ t, t = (carriedTime? previous c).getD now := ⟨_, rfl⟩
  have hsame := List.map_inj_left.1 (h ⟨max now.seconds t.seconds + 1, 0⟩ (by dsimp only; omega)) c hc
  rw [carriedTime?_stamp, if_neg hother, Option.getD_none, ← ht] at hsame
  have hseconds : max now.seconds t.seconds + 1 = t.seconds :=
    congrArg Timestamp.seconds (Option.some.inj (congrArg lastTransitionTime hsame))
  omega

end Condition

namespace ResourceStatus

/-! ## Listeners -/

section

variable {before ls : List ListenerStatus} {now : Timestamp}

/-- Stamps what is said about a listener, against what was said before under its name. -/
def stampListener (before : List ListenerStatus) (now : Timestamp) (l : ListenerStatus) :
    ListenerStatus :=
  { l with conditions := Condition.stamp (listenerConditions before l.name) now l.conditions }

/-- Stamps what is said about listeners. -/
def stampListeners (before : List ListenerStatus) (now : Timestamp) (ls : List ListenerStatus) :
    List ListenerStatus :=
  ls.map (stampListener before now)

theorem listenerConditions_stampListeners (name : String) :
    listenerConditions (stampListeners before now ls) name =
      Condition.stamp (listenerConditions before name) now (listenerConditions ls name) := by
  have hfind : (stampListeners before now ls).find? (·.name == name) =
      (ls.find? (·.name == name)).map (stampListener before now) := List.find?_map
  rw [listenerConditions, listenerConditions.eq_1 ls, hfind]
  cases hfound : ls.find? (·.name == name) with
  | none => rfl
  | some l =>
    have hsome := List.find?_some hfound
    have hname : l.name = name := beq_iff_eq.1 hsome
    subst hname
    rfl

theorem stampListeners_stampListeners
    (h : ∀ l ∈ ls, Condition.Coherent (listenerConditions ls l.name) l.conditions)
    (later : Timestamp) :
    stampListeners (stampListeners before now ls) later ls = stampListeners before now ls := by
  refine List.map_congr_left fun l hl => ?_
  rw [stampListener, listenerConditions_stampListeners, (h l hl).stamp_stamp]
  rfl

theorem coherent_of_stampListeners (h : ∀ later : Timestamp, now.seconds < later.seconds →
    stampListeners (stampListeners before now ls) later ls = stampListeners before now ls) :
    ∀ l ∈ ls, Condition.Coherent (listenerConditions ls l.name) l.conditions := by
  refine fun l hl => Condition.coherent_of_stamp_stamp (listenerConditions before l.name) now
    fun later hlater => ?_
  have hsame := List.map_inj_left.1 (h later hlater) l hl
  rw [stampListener, listenerConditions_stampListeners] at hsame
  exact congrArg ListenerStatus.conditions hsame

end

/-! ## Parents -/

section

variable {before ps : List RouteParentStatus} {controller : String} {now later : Timestamp}

/-- Stamps a controller's entry on a route, against what it said before about the reference. -/
def stampParent (before : List RouteParentStatus) (controller : String) (now : Timestamp)
    (p : RouteParentStatus) : RouteParentStatus :=
  { p with
    conditions := Condition.stamp (parentConditions before controller p.parentRef) now p.conditions }

/-- Stamps a controller's entries on a route, after those of others. -/
def stampParents (before : List RouteParentStatus) (controller : String) (now : Timestamp)
    (ps : List RouteParentStatus) : List RouteParentStatus :=
  before.filter (·.controllerName ≠ controller) ++ ps.map (stampParent before controller now)

/-- Stamping keeps the entries of others, with those that are put among one's own. -/
theorem others_stampParents :
    (stampParents before controller now ps).filter (·.controllerName ≠ controller) =
      before.filter (·.controllerName ≠ controller) ++
        (ps.filter (·.controllerName ≠ controller)).map (stampParent before controller now) := by
  rw [stampParents, List.filter_append, List.filter_filter, List.filter_map]
  simp only [Bool.and_self]
  rfl

/-- An entry is looked up behind those of other controllers. -/
theorem parentConditions_stampParents (parent : ParentReference) :
    parentConditions (stampParents before controller now ps) controller parent =
      Condition.stamp (parentConditions before controller parent) now
        (parentConditions ps controller parent) := by
  have hothers : (before.filter (·.controllerName ≠ controller)).find? (fun q =>
      q.controllerName = controller ∧ q.parentRef = parent) = none := by
    refine List.find?_eq_none.2 fun q hq => ?_
    have hne := (List.mem_filter.1 hq).2
    simp only [decide_eq_true_eq] at hne ⊢
    exact fun h => hne h.1
  have hfind : (ps.map (stampParent before controller now)).find? (fun q =>
      q.controllerName = controller ∧ q.parentRef = parent) =
        (ps.find? fun q => q.controllerName = controller ∧ q.parentRef = parent).map
          (stampParent before controller now) := List.find?_map
  rw [parentConditions, parentConditions.eq_1 ps, stampParents, List.find?_append, hothers,
    Option.none_or, hfind]
  cases hfound : ps.find? fun q => q.controllerName = controller ∧ q.parentRef = parent with
  | none => rfl
  | some q =>
    have hsome := List.find?_some hfound
    have hparent : q.parentRef = parent := (of_decide_eq_true hsome).2
    subst hparent
    rfl

theorem stampParents_stampParents
    (h : ∀ p ∈ ps, p.controllerName = controller ∧
      Condition.Coherent (parentConditions ps controller p.parentRef) p.conditions) :
    stampParents (stampParents before controller now ps) controller later ps =
      stampParents before controller now ps := by
  have hown : ps.filter (·.controllerName ≠ controller) = [] :=
    List.filter_eq_nil_iff.2 fun p hp => by simp [(h p hp).1]
  rw [stampParents, others_stampParents, hown, List.map_nil, List.append_nil, stampParents]
  refine congrArg _ (List.map_congr_left fun p hp => ?_)
  rw [stampParent, ← stampParents, parentConditions_stampParents, (h p hp).2.stamp_stamp]
  rfl

/-- Entries of others among one's own are written once more each time. -/
theorem own_of_stampParents
    (h : stampParents (stampParents before controller now ps) controller later ps =
      stampParents before controller now ps) :
    ps.filter (·.controllerName ≠ controller) = [] := by
  have hlength := congrArg List.length h
  rw [stampParents, others_stampParents, stampParents] at hlength
  simp only [List.length_append, List.length_map] at hlength
  exact List.length_eq_zero_iff.1 (by omega)

theorem coherent_of_stampParents (h : ∀ later : Timestamp, now.seconds < later.seconds →
    stampParents (stampParents before controller now ps) controller later ps =
      stampParents before controller now ps) :
    ∀ p ∈ ps, p.controllerName = controller ∧
      Condition.Coherent (parentConditions ps controller p.parentRef) p.conditions := by
  have hown := own_of_stampParents (h ⟨now.seconds + 1, 0⟩ (Int.lt_succ _))
  refine fun p hp => ⟨?_, Condition.coherent_of_stamp_stamp
    (parentConditions before controller p.parentRef) now fun later hlater => ?_⟩
  · simpa using List.filter_eq_nil_iff.1 hown p hp
  · have hsame := h later hlater
    rw [stampParents, others_stampParents, hown, List.map_nil, List.append_nil] at hsame
    have hentry := List.map_inj_left.1 (List.append_cancel_left hsame) p hp
    rw [stampParent, parentConditions_stampParents] at hentry
    exact congrArg RouteParentStatus.conditions hentry

end

/-! ## The whole -/

/-- Whether every condition of a status has the status of the first one that it is found by, and the
entries on a route are of one controller. -/
def Coherent (controller : String) : ResourceStatus → Prop
  | gatewayClass s => Condition.Coherent s.conditions s.conditions
  | gateway s => Condition.Coherent s.conditions s.conditions ∧
    ∀ l ∈ s.listeners, Condition.Coherent (listenerConditions s.listeners l.name) l.conditions
  | udpRoute s => ∀ p ∈ s.parents, p.controllerName = controller ∧
    Condition.Coherent (parentConditions s.parents controller p.parentRef) p.conditions

instance (controller : String) : DecidablePred (Coherent controller)
  | gatewayClass s => inferInstanceAs (Decidable (Condition.Coherent s.conditions s.conditions))
  | gateway s => inferInstanceAs (Decidable (Condition.Coherent s.conditions s.conditions ∧
      ∀ l ∈ s.listeners, Condition.Coherent (listenerConditions s.listeners l.name) l.conditions))
  | udpRoute s => inferInstanceAs (Decidable (∀ p ∈ s.parents, p.controllerName = controller ∧
      Condition.Coherent (parentConditions s.parents controller p.parentRef) p.conditions))

variable {desired : ResourceStatus} {controller : String}

/-- A coherent status that was stamped stays as it is when it is stamped again. -/
theorem Coherent.stamped_stamped (h : desired.Coherent controller)
    (previous : Option ResourceStatus) (now later : Timestamp) :
    desired.stamped (some (desired.stamped previous controller now)) controller later =
      desired.stamped previous controller now := by
  cases desired with
  | gatewayClass s =>
    exact congrArg (fun conditions => gatewayClass { s with conditions })
      (Condition.Coherent.stamp_stamp h _ now later)
  | gateway s =>
    exact congrArg₂ (fun conditions listeners => gateway { s with conditions, listeners })
      (Condition.Coherent.stamp_stamp h.1 _ now later) (stampListeners_stampListeners h.2 later)
  | udpRoute s =>
    exact congrArg (fun parents => udpRoute { parents }) (stampParents_stampParents h)

/-- A status that is not coherent does not stay as it is for good. -/
theorem coherent_of_stamped_stamped {previous : Option ResourceStatus} {now : Timestamp}
    (h : ∀ later : Timestamp, now.seconds < later.seconds →
      desired.stamped (some (desired.stamped previous controller now)) controller later =
        desired.stamped previous controller now) : desired.Coherent controller := by
  cases desired with
  | gatewayClass s =>
    exact Condition.coherent_of_stamp_stamp _ now fun later hlater =>
      congrArg GatewayClassStatus.conditions (gatewayClass.inj (h later hlater))
  | gateway s =>
    exact ⟨Condition.coherent_of_stamp_stamp _ now fun later hlater =>
        congrArg GatewayStatus.conditions (gateway.inj (h later hlater)),
      coherent_of_stampListeners fun later hlater =>
        congrArg GatewayStatus.listeners (gateway.inj (h later hlater))⟩
  | udpRoute s =>
    exact coherent_of_stampParents fun later hlater =>
      congrArg RouteStatus.parents (udpRoute.inj (h later hlater))

/-- Whether the entries of a status are told apart by what they are found by, and those on a route
are of one controller. -/
def Regular (controller : String) : ResourceStatus → Prop
  | gatewayClass s => Condition.Distinct s.conditions
  | gateway s => Condition.Distinct s.conditions ∧ (s.listeners.map (·.name)).Nodup ∧
    ∀ l ∈ s.listeners, Condition.Distinct l.conditions
  | udpRoute s => (s.parents.map (·.parentRef)).Nodup ∧
    ∀ p ∈ s.parents, p.controllerName = controller ∧ Condition.Distinct p.conditions

theorem Regular.coherent (h : desired.Regular controller) : desired.Coherent controller := by
  cases desired with
  | gatewayClass s => exact Condition.Distinct.coherent h
  | gateway s =>
    obtain ⟨hconditions, hnames, hdistinct⟩ := h
    refine ⟨hconditions.coherent, fun l hl => ?_⟩
    have hfound : listenerConditions s.listeners l.name = l.conditions := by
      rw [listenerConditions, find?_of_nodup hnames hl fun _ _ => beq_iff_eq]
      rfl
    rw [hfound]
    exact (hdistinct l hl).coherent
  | udpRoute s =>
    obtain ⟨hrefs, hparents⟩ := h
    refine fun p hp => ⟨(hparents p hp).1, ?_⟩
    have hfound : parentConditions s.parents controller p.parentRef = p.conditions := by
      rw [parentConditions,
        find?_of_nodup hrefs hp fun q hq => by simp [(hparents q hq).1]]
      rfl
    rw [hfound]
    exact (hparents p hp).2.coherent

/-- A regular status that was stamped stays as it is when it is stamped again. -/
theorem stamped_stamped (h : desired.Regular controller) (previous : Option ResourceStatus)
    (now later : Timestamp) :
    desired.stamped (some (desired.stamped previous controller now)) controller later =
      desired.stamped previous controller now :=
  h.coherent.stamped_stamped previous now later

end ResourceStatus

end RelayFleet
