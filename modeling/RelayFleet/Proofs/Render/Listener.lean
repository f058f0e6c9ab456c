/-
What holds of the planned listeners of a gateway: their names differ (`nodup_names_ofGateway`), an
accepted one has a protocol and a port (`accepted_iff`), and no two that are served share a port over
one transport (`slots_ofGateway`).
-/
import RelayFleet.Render.Listener
import Mathlib.Tactic

namespace RelayFleet

/-! ## The first of every name -/

namespace ListenerPlan

theorem firstOfName_names (l : List Listener) : ((firstOfName l).map (·.name)).Nodup := by
  induction l with
  | nil => exact List.nodup_nil
  | cons l rest ih =>
    rw [firstOfName, List.map_cons, List.nodup_cons]
    refine ⟨fun hmem => ?_, (List.filter_sublist.map _).nodup ih⟩
    obtain ⟨l', hl', hname⟩ := List.mem_map.1 hmem
    have := (List.mem_filter.1 hl').2
    simp only [decide_eq_true_eq] at this
    exact this hname

theorem firstOfName_sublist (l : List Listener) : (firstOfName l).Sublist l := by
  induction l with
  | nil => exact .slnil
  | cons l rest ih => exact (List.filter_sublist.trans ih).cons_cons l

theorem mem_names_firstOfName {l : List Listener} {name : String} :
    name ∈ (firstOfName l).map (·.name) ↔ name ∈ l.map (·.name) := by
  induction l with
  | nil => exact .rfl
  | cons l rest ih =>
    rw [firstOfName, List.map_cons, List.map_cons, List.mem_cons, List.mem_cons, ← ih]
    simp only [List.mem_map, List.mem_filter, decide_eq_true_eq]
    constructor
    · rintro (h | ⟨l', ⟨hl', -⟩, rfl⟩)
      · exact .inl h
      · exact .inr ⟨l', hl', rfl⟩
    · rintro (h | ⟨l', hl', rfl⟩)
      · exact .inl h
      · by_cases hname : l'.name = l.name
        · exact .inl hname
        · exact .inr ⟨l', ⟨hl', hname⟩, rfl⟩

/-! ## Marks of conflicts -/

section

variable (generation : Option Int64) (plans : List ListenerPlan) (names : List String)
  (p : ListenerPlan)

/-- A mark leaves a listener as it is, or says that it is in conflict. It leaves only those as they
are that share their slot with no other one. -/
theorem markShared_cases :
    (markShared generation plans p = p ∧
      ∀ slot, p.slot? = some slot → (plans.filter (·.slot? = some slot)).length ≤ 1) ∨
    ∃ c : Condition, c.type = ConditionType.conflicted ∧ c.isTrue = true ∧
      markShared generation plans p = { p with conflicted := c } := by
  unfold markShared
  split
  · rename_i hnone
    refine .inl ⟨rfl, fun slot hslot => ?_⟩
    rw [hnone] at hslot
    cases hslot
  · rename_i slot hsome
    dsimp only
    split
    · rename_i hle
      refine .inl ⟨rfl, fun slot' hslot' => ?_⟩
      cases hsome.symm.trans hslot'
      exact hle
    · exact .inr ⟨_, rfl, rfl, rfl⟩

theorem markRepeated_cases :
    markRepeated generation names p = p ∨
    ∃ c : Condition, c.type = ConditionType.conflicted ∧ c.isTrue = true ∧
      markRepeated generation names p = { p with conflicted := c } := by
  unfold markRepeated
  dsimp only
  split
  · exact .inl rfl
  · exact .inr ⟨_, rfl, rfl, rfl⟩

end

section

variable (s : Snapshot) (key : ObjectKey) (g : Gateway)

/-- The listeners of a gateway by themselves, the first of every name. -/
def planned : List ListenerPlan :=
  (firstOfName g.spec.listeners).map (ofListener g.metadata.generation s key.namespaceText)

/-- A listener of a gateway with its conflicts. -/
def marked (p : ListenerPlan) : ListenerPlan :=
  markRepeated g.metadata.generation (g.spec.listeners.map (·.name))
    (markShared g.metadata.generation (planned s key g) p)

theorem ofGateway_eq : ofGateway s key g = (planned s key g).map (marked s key g) := rfl

/-- A mark changes only what is said about conflicts, and without one no slot is shared. -/
theorem marked_cases (p : ListenerPlan) :
    ∃ c, marked s key g p = { p with conflicted := c } ∧
      (c = p.conflicted ∧ (∀ slot, p.slot? = some slot →
        ((planned s key g).filter (·.slot? = some slot)).length ≤ 1) ∨
      c.type = ConditionType.conflicted ∧ c.isTrue = true) := by
  unfold marked
  rcases markShared_cases g.metadata.generation (planned s key g) p with
    ⟨hshared, hslot⟩ | ⟨c, htype, hc, hshared⟩
  · rw [hshared]
    rcases markRepeated_cases g.metadata.generation (g.spec.listeners.map (·.name)) p with
      hrepeated | ⟨c, htype, hc, hrepeated⟩
    · exact ⟨p.conflicted, hrepeated, .inl ⟨rfl, hslot⟩⟩
    · exact ⟨c, hrepeated, .inr ⟨htype, hc⟩⟩
  · rw [hshared]
    rcases markRepeated_cases g.metadata.generation (g.spec.listeners.map (·.name))
      { p with conflicted := c } with hrepeated | ⟨c', htype', hc', hrepeated⟩
    · exact ⟨c, hrepeated, .inr ⟨htype, hc⟩⟩
    · exact ⟨c', hrepeated, .inr ⟨htype', hc'⟩⟩

theorem name_marked (p : ListenerPlan) : (marked s key g p).name = p.name := by
  obtain ⟨c, hc, -⟩ := marked_cases s key g p
  rw [hc]

theorem slot?_marked (p : ListenerPlan) : (marked s key g p).slot? = p.slot? := by
  obtain ⟨c, hc, -⟩ := marked_cases s key g p
  rw [hc]
  rfl

theorem names_ofGateway :
    (ofGateway s key g).map (·.name) = (firstOfName g.spec.listeners).map (·.name) := by
  rw [ofGateway_eq, List.map_map, planned, List.map_map]
  exact List.map_congr_left fun l _ => name_marked s key g _

/-- The planned listeners of a gateway have different names. -/
theorem nodup_names_ofGateway : ((ofGateway s key g).map (·.name)).Nodup := by
  rw [names_ofGateway]
  exact firstOfName_names g.spec.listeners

end

/-! ## Planned listeners -/

variable {s : Snapshot} {key : ObjectKey} {g : Gateway} {p : ListenerPlan}

/-- What is planned about a listener, but for conflicts, is said of it by itself. -/
theorem exists_ofListener (h : p ∈ ofGateway s key g) :
    ∃ l ∈ g.spec.listeners, ∃ c, c.type = ConditionType.conflicted ∧
      p = { ofListener g.metadata.generation s key.namespaceText l with conflicted := c } := by
  rw [ofGateway_eq, planned, List.map_map] at h
  obtain ⟨l, hl, rfl⟩ := List.mem_map.1 h
  obtain ⟨c, hc, hconflict⟩ :=
    marked_cases s key g (ofListener g.metadata.generation s key.namespaceText l)
  refine ⟨l, (firstOfName_sublist _).subset hl, c, ?_, hc⟩
  rcases hconflict with ⟨rfl, -⟩ | ⟨htype, -⟩
  · rfl
  · exact htype

theorem type_acceptance (generation : Option Int64) (l : Listener) (protocol : Option Protocol)
    (port : Option UInt16) : (acceptance generation l protocol port).type = ConditionType.accepted := by
  unfold acceptance
  cases protocol <;> cases port <;> rfl

theorem isTrue_acceptance (generation : Option Int64) (l : Listener) (protocol : Option Protocol)
    (port : Option UInt16) :
    (acceptance generation l protocol port).isTrue = (protocol.isSome && port.isSome) := by
  unfold acceptance
  cases protocol <;> cases port <;> rfl

theorem type_resolution (generation : Option Int64) (s : Snapshot) (ns : String) (l : Listener)
    (protocol : Option Protocol) :
    (resolution generation s ns l protocol).type = ConditionType.resolvedRefs := by
  unfold resolution
  dsimp only
  split
  · rfl
  · split <;> rfl

theorem types_ofGateway (h : p ∈ ofGateway s key g) :
    p.accepted.type = ConditionType.accepted ∧ p.resolvedRefs.type = ConditionType.resolvedRefs ∧
      p.conflicted.type = ConditionType.conflicted := by
  obtain ⟨l, -, c, hc, rfl⟩ := exists_ofListener h
  exact ⟨type_acceptance .., type_resolution .., hc⟩

/-- A listener is accepted exactly if it has a protocol and a port that can be served. -/
theorem accepted_iff (h : p ∈ ofGateway s key g) :
    p.accepted.isTrue = true ↔ ∃ protocol port, p.protocol = some protocol ∧ p.port = some port := by
  obtain ⟨l, -, c, -, rfl⟩ := exists_ofListener h
  show (acceptance ..).isTrue = true ↔ _
  rw [isTrue_acceptance, Bool.and_eq_true, Option.isSome_iff_exists, Option.isSome_iff_exists]
  constructor
  · rintro ⟨⟨protocol, hprotocol⟩, port, hport⟩
    exact ⟨protocol, port, hprotocol, hport⟩
  · rintro ⟨protocol, port, hprotocol, hport⟩
    exact ⟨⟨protocol, hprotocol⟩, port, hport⟩

theorem port_ne_zero (h : p ∈ ofGateway s key g) {port : UInt16} (hport : p.port = some port) :
    port ≠ 0 := by
  obtain ⟨l, -, c, -, rfl⟩ := exists_ofListener h
  simpa using (Option.filter_eq_some_iff.1 hport).2

theorem isReady_iff : p.isReady = true ↔
    p.accepted.isTrue = true ∧ p.resolvedRefs.isTrue = true ∧ p.conflicted.isTrue = false := by
  unfold isReady
  rw [Bool.and_eq_true, Bool.and_eq_true, and_assoc, Bool.not_eq_true']

/-- The slot of a listener that is served. -/
theorem slot?_of_isReady (hready : p.isReady = true) {protocol : Protocol} {port : UInt16}
    (hprotocol : p.protocol = some protocol) (hport : p.port = some port) :
    p.slot? = some (port, protocol.transport) := by
  unfold slot?
  rw [if_pos (isReady_iff.1 hready).1, hprotocol, hport]
  rfl

/-- No two listeners that are served share a port over one transport. -/
theorem slots_ofGateway (s : Snapshot) (key : ObjectKey) (g : Gateway) :
    (ofGateway s key g).Pairwise fun p q => p.isReady = true → q.isReady = true →
      ∀ slot, p.slot? = some slot → q.slot? ≠ some slot := by
  rw [ofGateway_eq]
  refine List.pairwise_map.2 (List.pairwise_iff_forall_sublist.2 fun {p q} hsub hp hq slot => ?_)
  rw [slot?_marked, slot?_marked]
  intro hpslot hqslot
  -- two listeners of one slot are both marked, since both are found there
  have hshared : 2 ≤ ((planned s key g).filter (·.slot? = some slot)).length := by
    have := (hsub.filter (·.slot? = some slot)).length_le
    simpa [hpslot, hqslot] using this
  obtain ⟨c, hc, hconflict⟩ := marked_cases s key g p
  rcases hconflict with ⟨-, hslot⟩ | ⟨-, htrue⟩
  · have := hslot slot hpslot
    omega
  · have hfree := (isReady_iff.1 hp).2.2
    rw [hc] at hfree
    exact absurd htrue (by rw [hfree]; exact Bool.false_ne_true)

end ListenerPlan

end RelayFleet
