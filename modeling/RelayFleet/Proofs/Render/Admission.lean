/-
Which listeners of a gateway are served, and what is said of the others (`planned_ofGateway`). The
first listener of every name is planned. It is in conflict if its name is used again, or if it is
accepted and another accepted one has its port over the same transport; nothing else that is said of
it depends on the other listeners.
-/
import RelayFleet.Proofs.Render.Agreement

namespace RelayFleet

/-! ## One listener by itself -/

namespace Protocol

/-- The names of a protocol in capital letters: the full one, and that of the transport alone. -/
def names : Protocol → List String
  | turnUdp => ["TURN-UDP", "UDP"]
  | turnTcp => ["TURN-TCP", "TCP"]
  | turnTls => ["TURN-TLS", "TLS"]
  | turnDtls => ["TURN-DTLS", "DTLS"]

/-- A protocol is read from its names, whatever the case of their letters. -/
theorem parse?_eq_some_iff {s : String} {p : Protocol} :
    parse? s = some p ↔ Ascii.upper s ∈ p.names := by
  unfold parse?
  dsimp only
  generalize Ascii.upper s = name
  cases p <;> grind [names]

theorem requiresCertificate_iff {p : Protocol} :
    p.requiresCertificate = true ↔ p = turnTls ∨ p = turnDtls := by
  cases p <;> decide

end Protocol

/-- A number of 16 bits is the same number of 32 bits. -/
theorem word16OfInt32?_eq_some_iff {n : Int32} {port : UInt16} :
    word16OfInt32? n = some port ↔ (port.toNat : Int) = n.toInt := by
  unfold word16OfInt32?
  have hlt := port.toNat_lt
  constructor
  · intro h
    split at h
    · cases h
      rw [UInt16.toNat_ofNat']
      omega
    · cases h
  · intro h
    rw [if_pos (by omega), ← h, Int.toNat_natCast, UInt16.ofNat_toNat]

/-- A port can be used if it is one of 16 bits and not zero. -/
theorem usablePort_eq_some_iff {n : Int32} {port : UInt16} :
    (word16OfInt32? n).filter (· ≠ 0) = some port ↔ port ≠ 0 ∧ (port.toNat : Int) = n.toInt := by
  rw [Option.filter_eq_some_iff, decide_eq_true_eq, and_comm, word16OfInt32?_eq_some_iff]

namespace Listener

/-- Whether a listener takes routes of the kind that is supported. -/
def TakesUdpRoutes (l : Listener) : Prop :=
  l.requestedKinds = [] ∨
    ∃ k ∈ l.requestedKinds, k.kind = "UDPRoute" ∧
      ∀ group, k.group = some group → group = gatewayGroup

/-- Whether a listener has a protocol that is known and a port that can be used. -/
structure Usable (l : Listener) : Prop where
  protocol : ∃ p : Protocol, Ascii.upper l.protocol ∈ p.names
  port : 1 ≤ l.port.toInt ∧ l.port.toInt ≤ 65535

/-- Whether a reference to a certificate leads to a secret that is stored, in a namespace unless the
reference names one. -/
structure Certified (s : Snapshot) (ns : String) (r : SecretReference) : Prop where
  group : ∀ group, r.group = some group → group = ""
  kind : ∀ kind, r.kind = some kind → kind = "Secret"
  stored : ∃ secret, s.secret? (.namespaced (r.inNamespace.getD ns) r.name) = some secret

/-- Whether a listener takes supported routes, and has the certificates that its protocol asks
for. -/
structure Resolved (s : Snapshot) (ns : String) (l : Listener) : Prop where
  kinds : l.TakesUdpRoutes
  certificates : ∀ p : Protocol, Ascii.upper l.protocol ∈ p.names → p = .turnTls ∨ p = .turnDtls →
    l.certificateRefs ≠ [] ∧ ∀ r ∈ l.certificateRefs, Certified s ns r

end Listener

namespace ListenerPlan

/-- Whether a planned listener says of a listener by itself what there is to say. -/
structure Describes (s : Snapshot) (ns : String) (l : Listener) (p : ListenerPlan) : Prop where
  name : p.name = l.name
  protocol : ∀ protocol : Protocol, p.protocol = some protocol ↔
    Ascii.upper l.protocol ∈ protocol.names
  port : ∀ port : UInt16, p.port = some port ↔ port ≠ 0 ∧ (port.toNat : Int) = l.port.toInt
  admitted : p.admitted = l.admittedNamespaces
  kinds : p.supportedKinds ≠ [] ↔ l.TakesUdpRoutes
  accepted : p.accepted.isTrue = true ↔ l.Usable
  resolvedRefs : p.resolvedRefs.isTrue = true ↔ l.Resolved s ns

section

variable {generation : Option Int64} {s : Snapshot} {ns : String} {l : Listener}

theorem kindsOf_ne_nil_iff : kindsOf l ≠ [] ↔ l.TakesUdpRoutes := by
  have hany : l.requestedKinds.any (·.isUdpRoute) = true ↔
      ∃ k ∈ l.requestedKinds, k.kind = "UDPRoute" ∧
        ∀ group, k.group = some group → group = gatewayGroup := by
    simp only [List.any_eq_true, RouteGroupKind.isUdpRoute, Bool.and_eq_true, beq_iff_eq,
      Option.all_eq_true]
  unfold kindsOf Listener.TakesUdpRoutes
  rw [← hany, ← List.isEmpty_iff, ← Bool.or_eq_true]
  split
  · rename_i h
    exact ⟨fun _ => h, fun _ => List.cons_ne_nil _ _⟩
  · rename_i h
    exact ⟨fun hne => absurd rfl hne, fun h' => absurd h' h⟩

theorem certificateFlaw?_eq_none_iff {r : SecretReference} :
    certificateFlaw? s ns r = none ↔ Listener.Certified s ns r := by
  have hsecret : r.isSecret = true ↔
      (∀ group, r.group = some group → group = "") ∧
        ∀ kind, r.kind = some kind → kind = "Secret" := by
    simp only [SecretReference.isSecret, Bool.and_eq_true, Option.all_eq_true, beq_iff_eq]
  have hstored : (s.secret? (r.key ns)).isSome = true ↔
      ∃ secret, s.secret? (.namespaced (r.inNamespace.getD ns) r.name) = some secret :=
    Option.isSome_iff_exists
  unfold certificateFlaw?
  constructor
  · intro h
    split at h
    · rename_i hs
      split at h
      · rename_i hfound
        exact ⟨(hsecret.1 hs).1, (hsecret.1 hs).2, hstored.1 hfound⟩
      · cases h
    · cases h
  · intro h
    rw [if_pos (hsecret.2 ⟨h.group, h.kind⟩), if_pos (hstored.2 h.stored)]

theorem certificatesFlaw?_eq_none_iff : certificatesFlaw? s ns l = none ↔
    l.certificateRefs ≠ [] ∧ ∀ r ∈ l.certificateRefs, Listener.Certified s ns r := by
  unfold certificatesFlaw?
  split
  · rename_i hempty
    exact ⟨nofun, fun h => absurd (List.isEmpty_iff.1 hempty) h.1⟩
  · rename_i hsome
    rw [List.findSome?_eq_none_iff]
    simp only [certificateFlaw?_eq_none_iff]
    exact ⟨fun h => ⟨fun hnil => hsome (List.isEmpty_iff.2 hnil), h⟩, And.right⟩

theorem isTrue_resolution_iff :
    (resolution generation s ns l (Protocol.parse? l.protocol)).isTrue = true ↔
      l.Resolved s ns := by
  -- certificates are looked at where there is a protocol, and it asks for them
  have hneeded : (Protocol.parse? l.protocol).any (·.requiresCertificate) = true ↔
      ∃ p : Protocol, Ascii.upper l.protocol ∈ p.names ∧ (p = .turnTls ∨ p = .turnDtls) := by
    simp only [Option.any_eq_true, Protocol.parse?_eq_some_iff, Protocol.requiresCertificate_iff]
  have hresolved : l.Resolved s ns ↔ l.TakesUdpRoutes ∧
      ((Protocol.parse? l.protocol).any (·.requiresCertificate) = true →
        certificatesFlaw? s ns l = none) := by
    rw [hneeded, certificatesFlaw?_eq_none_iff]
    constructor
    · rintro ⟨hkinds, hcertificates⟩
      exact ⟨hkinds, fun ⟨p, hp, htls⟩ => hcertificates p hp htls⟩
    · rintro ⟨hkinds, hcertificates⟩
      exact ⟨hkinds, fun p hp htls => hcertificates ⟨p, hp, htls⟩⟩
  rw [hresolved, ← kindsOf_ne_nil_iff]
  unfold resolution
  dsimp only
  split
  · rename_i hempty
    exact ⟨nofun, fun h => absurd (List.isEmpty_iff.1 hempty) h.1⟩
  · rename_i hkinds
    rw [List.isEmpty_iff] at hkinds
    split
    · rename_i message hflaw
      split at hflaw
      · rename_i hneeds
        refine ⟨nofun, fun h => ?_⟩
        rw [h.2 hneeds] at hflaw
        cases hflaw
      · cases hflaw
    · rename_i hnone
      refine ⟨fun _ => ⟨hkinds, fun hneeds => ?_⟩, fun _ => rfl⟩
      rwa [if_pos hneeds] at hnone

theorem usable_iff_isSome : l.Usable ↔ (Protocol.parse? l.protocol).isSome = true ∧
    ((word16OfInt32? l.port).filter (· ≠ 0)).isSome = true := by
  simp only [Option.isSome_iff_exists, Protocol.parse?_eq_some_iff, usablePort_eq_some_iff]
  constructor
  · rintro ⟨hprotocol, hlow, hhigh⟩
    refine ⟨hprotocol, UInt16.ofNat l.port.toInt.toNat, fun hzero => ?_, ?_⟩
    · have := congrArg UInt16.toNat hzero
      rw [UInt16.toNat_ofNat'] at this
      have : (0 : UInt16).toNat = 0 := rfl
      omega
    · rw [UInt16.toNat_ofNat']
      omega
  · rintro ⟨hprotocol, port, hne, hport⟩
    have hlt := port.toNat_lt
    have hpos : port.toNat ≠ 0 := fun h => hne (UInt16.toNat_inj.1 h)
    exact ⟨hprotocol, by omega, by omega⟩

/-- What is planned about a listener by itself describes it, whatever is said of conflicts. -/
theorem describes_ofListener (c : Condition) :
    Describes s ns l { ofListener generation s ns l with conflicted := c } where
  name := rfl
  protocol _ := Protocol.parse?_eq_some_iff
  port _ := usablePort_eq_some_iff
  admitted := rfl
  kinds := kindsOf_ne_nil_iff
  accepted := by
    show (acceptance ..).isTrue = true ↔ _
    rw [isTrue_acceptance, Bool.and_eq_true, usable_iff_isSome]
  resolvedRefs := isTrue_resolution_iff

end

/-! ## The first of every name -/

theorem mem_firstOfName_iff {ls : List Listener} {l : Listener} :
    l ∈ firstOfName ls ↔ ls.find? (·.name == l.name) = some l := by
  induction ls with
  | nil => simp [firstOfName]
  | cons a rest ih =>
    rw [firstOfName, List.mem_cons, List.mem_filter, ih, decide_eq_true_eq]
    by_cases hname : a.name = l.name
    · rw [List.find?_cons_of_pos (by simpa using hname)]
      simp [hname, eq_comm]
    · rw [List.find?_cons_of_neg (by simpa using hname)]
      constructor
      · rintro (rfl | h)
        · exact absurd rfl hname
        · exact h.1
      · exact fun h => .inr ⟨h, Ne.symm hname⟩

/-- The first listeners of the names come in the order in which the names come first. -/
theorem ordered_firstOfName (ls : List Listener) :
    ((firstOfName ls).map (·.name)).Pairwise fun a b =>
      (ls.map (·.name)).idxOf a < (ls.map (·.name)).idxOf b := by
  induction ls with
  | nil => exact .nil
  | cons l rest ih =>
    simp only [firstOfName, List.map_cons, List.pairwise_cons]
    have hlater : ∀ name, name ≠ l.name → (l.name :: rest.map (·.name)).idxOf name =
        (rest.map (·.name)).idxOf name + 1 := fun name hne =>
      List.idxOf_cons_ne _ (Ne.symm hne)
    have hother : ∀ {name}, name ∈ ((firstOfName rest).filter (·.name ≠ l.name)).map (·.name) →
        name ≠ l.name := by
      intro name hmem
      obtain ⟨l', hl', rfl⟩ := List.mem_map.1 hmem
      simpa using (List.mem_filter.1 hl').2
    constructor
    · intro name hmem
      rw [hlater name (hother hmem), List.idxOf_cons_self]
      exact Nat.succ_pos _
    · refine (ih.sublist (List.filter_sublist.map _)).imp_of_mem fun {a b} ha hb hlt => ?_
      rw [hlater a (hother ha), hlater b (hother hb)]
      exact Nat.succ_lt_succ hlt

/-! ## Conflicts -/

/-- Whether a planned listener is accepted, and so is another one of a list that has its port over
the same transport. -/
structure Clashes (plans : List ListenerPlan) (p : ListenerPlan) : Prop where
  accepted : p.accepted.isTrue = true
  other : ∃ q ∈ plans, q.name ≠ p.name ∧ q.accepted.isTrue = true ∧ q.port = p.port ∧
    q.protocol.map (·.transport) = p.protocol.map (·.transport)

theorem slot?_eq_some_iff {p : ListenerPlan} {slot : UInt16 × Transport} : p.slot? = some slot ↔
    p.accepted.isTrue = true ∧ p.port = some slot.1 ∧
      p.protocol.map (·.transport) = some slot.2 := by
  obtain ⟨port, transport⟩ := slot
  unfold slot?
  split
  · rename_i haccepted
    cases p.protocol <;> cases p.port <;> simp [haccepted, and_comm]
  · rename_i hrefused
    simp [hrefused]

/-- Of a list whose items are told apart by a feature, one passes a test alone exactly if no other
one passes it. -/
theorem length_filter_le_one_iff {α β : Type} {l : List α} {f : α → β} {p : α → Bool} {a : α}
    (hnodup : (l.map f).Nodup) (ha : a ∈ l) (hp : p a = true) :
    (l.filter p).length ≤ 1 ↔ ∀ b ∈ l, p b = true → f b = f a := by
  have hmem : a ∈ l.filter p := List.mem_filter.2 ⟨ha, hp⟩
  have hfiltered : ((l.filter p).map f).Nodup := (List.filter_sublist.map f).nodup hnodup
  have hall : (∀ b ∈ l, p b = true → f b = f a) ↔ ∀ b ∈ l.filter p, f b = f a := by
    simp only [List.mem_filter, and_imp]
  rw [hall]
  clear hall
  generalize l.filter p = passing at hmem hfiltered ⊢
  rcases passing with - | ⟨x, - | ⟨y, rest⟩⟩
  · cases hmem
  · cases List.mem_singleton.1 hmem
    simp
  · rw [List.map_cons, List.map_cons, List.nodup_cons] at hfiltered
    refine ⟨fun h => absurd h (by simp), fun h => absurd ?_ hfiltered.1⟩
    rw [h x (by simp), ← h y (by simp)]
    exact List.mem_cons_self ..

section

variable {plans : List ListenerPlan} {p : ListenerPlan}

theorem clashes_iff (hnodup : (plans.map (·.name)).Nodup) (hp : p ∈ plans)
    {slot : UInt16 × Transport} (hslot : p.slot? = some slot) :
    Clashes plans p ↔ ¬ (plans.filter (·.slot? = some slot)).length ≤ 1 := by
  rw [length_filter_le_one_iff hnodup hp (by simpa using hslot)]
  obtain ⟨haccepted, hport, htransport⟩ := slot?_eq_some_iff.1 hslot
  simp only [decide_eq_true_eq, slot?_eq_some_iff, not_forall]
  constructor
  · rintro ⟨-, q, hq, hne, hqaccepted, hqport, hqtransport⟩
    exact ⟨q, hq, ⟨hqaccepted, hqport.trans hport, hqtransport.trans htransport⟩, hne⟩
  · rintro ⟨q, hq, ⟨hqaccepted, hqport, hqtransport⟩, hne⟩
    exact ⟨haccepted, q, hq, hne, hqaccepted, hqport.trans hport.symm,
      hqtransport.trans htransport.symm⟩

/-- A listener is marked for its port exactly if it clashes with another one. -/
theorem conflicted_markShared (generation : Option Int64) (hnodup : (plans.map (·.name)).Nodup)
    (hp : p ∈ plans) (hslot : p.accepted.isTrue = true → ∃ slot, p.slot? = some slot) :
    (Clashes plans p → (markShared generation plans p).conflicted.isTrue = true ∧
      (markShared generation plans p).conflicted.reason = Reason.protocolConflict) ∧
    (¬ Clashes plans p → (markShared generation plans p).conflicted = p.conflicted) := by
  unfold markShared
  split
  · rename_i hnone
    refine ⟨fun h => ?_, fun _ => rfl⟩
    obtain ⟨slot, hsome⟩ := hslot h.accepted
    rw [hnone] at hsome
    cases hsome
  · rename_i slot hsome
    rw [clashes_iff hnodup hp hsome]
    dsimp only
    split
    · rename_i hle
      exact ⟨fun h => absurd hle h, fun _ => rfl⟩
    · rename_i hlt
      exact ⟨fun _ => ⟨rfl, rfl⟩, fun h => absurd hlt h⟩

/-- A listener is marked for its name exactly if the name is used more than once. -/
theorem conflicted_markRepeated (generation : Option Int64) (names : List String)
    (p : ListenerPlan) :
    (1 < names.count p.name → (markRepeated generation names p).conflicted.isTrue = true ∧
      (markRepeated generation names p).conflicted.reason = Reason.listenerNameConflict) ∧
    (names.count p.name ≤ 1 → markRepeated generation names p = p) := by
  unfold markRepeated
  dsimp only
  split
  · rename_i hle
    exact ⟨fun h => absurd hle (Nat.not_le_of_lt h), fun _ => rfl⟩
  · rename_i hlt
    exact ⟨fun _ => ⟨rfl, rfl⟩, fun h => absurd h hlt⟩

end

end ListenerPlan

/-- The names of a gateway's listeners, in their order. -/
def Gateway.listenerNames (g : Gateway) : List String := g.spec.listeners.map (·.name)

namespace ListenerPlan

variable {s : Snapshot} {key : ObjectKey} {g : Gateway} {p : ListenerPlan}

theorem nodup_planned : ((planned s key g).map (·.name)).Nodup := by
  unfold planned
  rw [List.map_map]
  exact firstOfName_names g.spec.listeners

/-- A mark changes nothing but what is said of conflicts. -/
theorem exists_marked_eq (s : Snapshot) (key : ObjectKey) (g : Gateway) (p : ListenerPlan) :
    ∃ c, marked s key g p = { p with conflicted := c } := by
  obtain ⟨c, hc, -⟩ := marked_cases s key g p
  exact ⟨c, hc⟩

/-- Marks change nothing about who clashes. -/
theorem clashes_marked : Clashes (ofGateway s key g) (marked s key g p) ↔
    Clashes (planned s key g) p := by
  have hmarked : ∀ q, (marked s key g q).name = q.name ∧ (marked s key g q).accepted = q.accepted ∧
      (marked s key g q).port = q.port ∧ (marked s key g q).protocol = q.protocol := by
    intro q
    obtain ⟨c, hc⟩ := exists_marked_eq s key g q
    rw [hc]
    exact ⟨rfl, rfl, rfl, rfl⟩
  have hmem : ∀ {P : ListenerPlan → Prop}, (∃ q ∈ ofGateway s key g, P q) ↔
      ∃ q ∈ planned s key g, P (marked s key g q) := by
    intro P
    simp only [ofGateway_eq, List.mem_map, exists_exists_and_eq_and]
  obtain ⟨hname, haccepted, hport, hprotocol⟩ := hmarked p
  have hother : ∀ q, ((marked s key g q).name ≠ p.name ∧ (marked s key g q).accepted.isTrue = true ∧
      (marked s key g q).port = p.port ∧
      (marked s key g q).protocol.map (·.transport) = p.protocol.map (·.transport)) ↔
      (q.name ≠ p.name ∧ q.accepted.isTrue = true ∧ q.port = p.port ∧
        q.protocol.map (·.transport) = p.protocol.map (·.transport)) := by
    intro q
    obtain ⟨hqname, hqaccepted, hqport, hqprotocol⟩ := hmarked q
    rw [hqname, hqaccepted, hqport, hqprotocol]
  constructor
  · rintro ⟨h, hex⟩
    rw [hname, hport, hprotocol, hmem] at hex
    exact ⟨haccepted ▸ h, by simpa only [hother] using hex⟩
  · rintro ⟨h, hex⟩
    refine ⟨haccepted.symm ▸ h, ?_⟩
    rw [hname, hport, hprotocol, hmem]
    simpa only [hother] using hex

/-- A planned listener comes of the first listener of its name. -/
theorem exists_first (h : p ∈ ofGateway s key g) : ∃ l q, q ∈ planned s key g ∧
    p = marked s key g q ∧ g.spec.listeners.find? (·.name == p.name) = some l ∧
      q = ofListener g.metadata.generation s key.namespaceText l := by
  rw [ofGateway_eq] at h
  obtain ⟨q, hq, rfl⟩ := List.mem_map.1 h
  obtain ⟨l, hl, rfl⟩ := List.mem_map.1 hq
  refine ⟨l, _, hq, rfl, ?_, rfl⟩
  rw [name_marked]
  exact mem_firstOfName_iff.1 hl

/-- What is said of conflicts about a planned listener: its name counts first, then its port. -/
theorem conflicted_of_mem (h : p ∈ ofGateway s key g) :
    (1 < g.listenerNames.count p.name → p.conflicted.isTrue = true ∧
      p.conflicted.reason = Reason.listenerNameConflict) ∧
    (g.listenerNames.count p.name ≤ 1 → Clashes (ofGateway s key g) p →
      p.conflicted.isTrue = true ∧ p.conflicted.reason = Reason.protocolConflict) ∧
    (g.listenerNames.count p.name ≤ 1 → ¬ Clashes (ofGateway s key g) p →
      p.conflicted.isTrue = false) := by
  obtain ⟨l, q, hq, rfl, -, rfl⟩ := exists_first h
  rw [clashes_marked, name_marked]
  have hslot : (ofListener g.metadata.generation s key.namespaceText l).accepted.isTrue = true →
      ∃ slot, (ofListener g.metadata.generation s key.namespaceText l).slot? = some slot := by
    intro haccepted
    have hsome : (acceptance ..).isTrue = true := haccepted
    rw [isTrue_acceptance, Bool.and_eq_true, Option.isSome_iff_exists,
      Option.isSome_iff_exists] at hsome
    obtain ⟨⟨protocol, hprotocol⟩, port, hport⟩ := hsome
    exact ⟨(port, protocol.transport),
      slot?_eq_some_iff.2 ⟨haccepted, hport, congrArg (Option.map (·.transport)) hprotocol⟩⟩
  have hfree : (ofListener g.metadata.generation s key.namespaceText l).conflicted.isTrue = false :=
    rfl
  generalize ofListener g.metadata.generation s key.namespaceText l = q at hq hslot hfree ⊢
  have hname : (markShared g.metadata.generation (planned s key g) q).name = q.name := by
    rcases markShared_cases g.metadata.generation (planned s key g) q with ⟨h, -⟩ | ⟨c, -, -, h⟩ <;>
    rw [h]
  obtain ⟨hrepeated, honce⟩ := conflicted_markRepeated g.metadata.generation g.listenerNames
    (markShared g.metadata.generation (planned s key g) q)
  obtain ⟨hshared, hapart⟩ :=
    conflicted_markShared g.metadata.generation nodup_planned hq hslot
  rw [hname] at hrepeated honce
  have hmarked : marked s key g q = markRepeated g.metadata.generation g.listenerNames
    (markShared g.metadata.generation (planned s key g) q) := rfl
  rw [hmarked]
  refine ⟨hrepeated, fun hle hclash => ?_, fun hle hclash => ?_⟩
  · rw [honce hle]
    exact hshared hclash
  · rw [honce hle, hapart hclash]
    exact hfree

end ListenerPlan

/-! ## The listeners of a gateway -/

/-- Whether a listener of a gateway can be served among the others: its name is its own, it can be
served by itself, and it does not clash with a planned listener. -/
structure Gateway.Serves (s : Snapshot) (key : ObjectKey) (g : Gateway) (plans : List ListenerPlan)
    (l : Listener) : Prop where
  once : g.listenerNames.count l.name = 1
  usable : l.Usable
  resolved : l.Resolved s key.namespaceText
  free : ∀ p ∈ plans, p.name = l.name → ¬ p.Clashes plans

/-- Whether the planned listeners of a gateway are what its listeners come to. -/
structure Gateway.Planned (s : Snapshot) (key : ObjectKey) (g : Gateway)
    (plans : List ListenerPlan) : Prop where
  /-- Every name is planned, once and in the order in which the names come first. -/
  names : ∀ name, name ∈ plans.map (·.name) ↔ name ∈ g.listenerNames
  ordered : (plans.map (·.name)).Pairwise fun a b =>
    g.listenerNames.idxOf a < g.listenerNames.idxOf b
  first : ∀ p ∈ plans, ∃ l, g.spec.listeners.find? (·.name == p.name) = some l ∧
    p.Describes s key.namespaceText l
  conflicted : ∀ p ∈ plans, p.conflicted.isTrue = true ↔
    1 < g.listenerNames.count p.name ∨ p.Clashes plans
  repeated : ∀ p ∈ plans, 1 < g.listenerNames.count p.name →
    p.conflicted.reason = Reason.listenerNameConflict
  shared : ∀ p ∈ plans, g.listenerNames.count p.name = 1 → p.Clashes plans →
    p.conflicted.reason = Reason.protocolConflict
  ready : ∀ l ∈ g.spec.listeners,
    (∃ p ∈ plans, p.name = l.name ∧ p.isReady = true) ↔ g.Serves s key plans l
  /-- The document of the gateway, when it is active, has the listeners that can be served. -/
  rendered : ∀ settings params, ∃ output config,
    GatewayOutput.active settings s key g params = .ok output ∧
      output.render.config = some config ∧
      (∀ c ∈ config.listeners, ∃ l ∈ g.spec.listeners, c.name = key.listenerPrefix ++ l.name) ∧
      ∀ l ∈ g.spec.listeners, (∃ c ∈ config.listeners, c.name = key.listenerPrefix ++ l.name) ↔
        g.Serves s key plans l
  /-- The other listeners, whatever is wrong with them, change nothing about whether one is accepted
  and where its references lead. -/
  unaffected : ∀ (key' : ObjectKey) (g' : Gateway), key'.namespaceText = key.namespaceText →
    g'.metadata.generation = g.metadata.generation → ∀ p ∈ plans,
      ∀ p' ∈ ListenerPlan.ofGateway s key' g', p'.name = p.name →
        g'.spec.listeners.find? (·.name == p.name) = g.spec.listeners.find? (·.name == p.name) →
        p'.accepted = p.accepted ∧ p'.resolvedRefs = p.resolvedRefs

namespace ListenerPlan

variable {s : Snapshot} {key : ObjectKey} {g : Gateway} {p : ListenerPlan}

theorem describes_of_mem (h : p ∈ ofGateway s key g) : ∃ l,
    g.spec.listeners.find? (·.name == p.name) = some l ∧
      p.Describes s key.namespaceText l := by
  obtain ⟨l, q, -, hp, hl, rfl⟩ := exists_first h
  obtain ⟨c, hc⟩ := exists_marked_eq s key g
    (ofListener g.metadata.generation s key.namespaceText l)
  refine ⟨l, hl, ?_⟩
  rw [hp, hc]
  exact describes_ofListener c

/-- A name that is used once leads to the listener itself. -/
theorem eq_of_count_eq_one {l l' : Listener} (hl : l ∈ g.spec.listeners)
    (honce : g.listenerNames.count l.name = 1)
    (hfound : g.spec.listeners.find? (·.name == l.name) = some l') : l' = l := by
  have hlength : (g.spec.listeners.filter (·.name == l.name)).length = 1 := by
    rw [← List.countP_eq_length_filter, ← honce, Gateway.listenerNames, List.count, List.countP_map]
    rfl
  obtain ⟨only, honly⟩ := List.length_eq_one_iff.1 hlength
  have hmem : ∀ m ∈ g.spec.listeners, (m.name == l.name) = true → m = only := fun m hm hname =>
    List.mem_singleton.1 (honly ▸ List.mem_filter.2 ⟨hm, hname⟩)
  have hname : (l'.name == l.name) = true :=
    List.find?_some (p := fun m : Listener => m.name == l.name) hfound
  rw [hmem l hl (beq_self_eq_true _), hmem l' (List.mem_of_find?_eq_some hfound) hname]

theorem listed_ofGateway (name : String) :
    name ∈ (ofGateway s key g).map (·.name) ↔ name ∈ g.listenerNames := by
  rw [names_ofGateway, mem_names_firstOfName]
  rfl

/-- A listener is served exactly if it can be served among the others. -/
theorem isReady_iff_serves {l : Listener} (hl : l ∈ g.spec.listeners) :
    (∃ p ∈ ofGateway s key g, p.name = l.name ∧ p.isReady = true) ↔
      g.Serves s key (ofGateway s key g) l := by
  have hused : l.name ∈ g.listenerNames := List.mem_map_of_mem hl
  constructor
  · rintro ⟨p, hp, hname, hready⟩
    obtain ⟨haccepted, hresolved, hfree⟩ := isReady_iff.1 hready
    obtain ⟨l', hfound, hdescribes⟩ := describes_of_mem hp
    obtain ⟨hrepeated, hshared, -⟩ := conflicted_of_mem hp
    rw [hname] at hfound hrepeated hshared
    have hle : g.listenerNames.count l.name ≤ 1 := by
      by_contra hlt
      rw [(hrepeated (Nat.lt_of_not_le hlt)).1] at hfree
      cases hfree
    have honce : g.listenerNames.count l.name = 1 :=
      Nat.le_antisymm hle (List.count_pos_iff.2 hused)
    cases eq_of_count_eq_one hl honce hfound
    refine ⟨honce, hdescribes.accepted.1 haccepted, hdescribes.resolvedRefs.1 hresolved,
      fun q hq hqname hclash => ?_⟩
    cases List.inj_on_of_nodup_map (nodup_names_ofGateway s key g) hq hp (hqname.trans hname.symm)
    rw [(hshared hle hclash).1] at hfree
    cases hfree
  · rintro ⟨honce, husable, hresolved, hfree⟩
    obtain ⟨p, hp, hname⟩ := List.mem_map.1 ((listed_ofGateway l.name).2 hused)
    obtain ⟨l', hfound, hdescribes⟩ := describes_of_mem hp
    rw [hname] at hfound
    cases eq_of_count_eq_one hl honce hfound
    refine ⟨p, hp, hname, isReady_iff.2 ⟨hdescribes.accepted.2 husable,
      hdescribes.resolvedRefs.2 hresolved, ?_⟩⟩
    exact (conflicted_of_mem hp).2.2 (hname.symm ▸ honce.le) (hfree p hp hname)

/-- What is planned for the listeners of a gateway is what they come to, whatever they are. -/
theorem planned_ofGateway (s : Snapshot) (key : ObjectKey) (g : Gateway) :
    g.Planned s key (ofGateway s key g) where
  names := listed_ofGateway
  ordered := by
    rw [names_ofGateway]
    exact ordered_firstOfName g.spec.listeners
  first _ := describes_of_mem
  conflicted p hp := by
    obtain ⟨hrepeated, hshared, hfree⟩ := conflicted_of_mem hp
    rcases Nat.lt_or_ge 1 (g.listenerNames.count p.name) with hlt | hle
    · exact ⟨fun _ => .inl hlt, fun _ => (hrepeated hlt).1⟩
    · refine ⟨fun h => .inr (by_contra fun hclash => ?_), ?_⟩
      · rw [hfree hle hclash] at h
        cases h
      · rintro (hlt | hclash)
        · exact absurd hle (Nat.not_le_of_lt hlt)
        · exact (hshared hle hclash).1
  repeated p hp hlt := ((conflicted_of_mem hp).1 hlt).2
  shared p hp honce hclash := ((conflicted_of_mem hp).2.1 honce.le hclash).2
  ready _ := isReady_iff_serves
  rendered settings params := by
    obtain ⟨output, ho⟩ : ∃ output, GatewayOutput.active settings s key g params = .ok output :=
      GatewayOutput.active_ok params
    refine ⟨output, _, ho, (GatewayOutput.served_of_active ho).config, fun c hc => ?_,
      fun l hl => ?_⟩
    · obtain ⟨p, hp, -, hpresents⟩ := GatewayOutput.served_of_mem hc
      obtain ⟨l, hfound, hdescribes⟩ := describes_of_mem hp
      exact ⟨l, List.mem_of_find?_eq_some hfound, hdescribes.name ▸ hpresents.name⟩
    · rw [← isReady_iff_serves hl]
      constructor
      · rintro ⟨c, hc, hname⟩
        obtain ⟨p, hp, hready, hpresents⟩ := GatewayOutput.served_of_mem hc
        exact ⟨p, hp, (String.append_right_inj _).1 (hpresents.name.symm.trans hname), hready⟩
      · rintro ⟨p, hp, hname, hready⟩
        rw [← hname]
        exact (GatewayOutput.isReady_iff_mem hp).1 hready
  unaffected key' g' hns hgeneration p hp p' hp' hname hfound := by
    obtain ⟨l, q, -, hpq, hl, rfl⟩ := exists_first hp
    obtain ⟨l', q', -, hpq', hl', rfl⟩ := exists_first hp'
    rw [hname, hfound, hl] at hl'
    cases hl'
    obtain ⟨c, hc⟩ := exists_marked_eq s key g
      (ofListener g.metadata.generation s key.namespaceText l)
    obtain ⟨c', hc'⟩ := exists_marked_eq s key' g'
      (ofListener g'.metadata.generation s key'.namespaceText l)
    rw [hpq, hpq', hc, hc', hns, hgeneration]
    exact ⟨rfl, rfl⟩

/-- A repeated name counts before a port that is taken, a listener without its certificate takes its
port all the same, and one with a protocol that is not known does not. -/
example : (ofGateway {} (.namespaced "a" "g") {
    metadata := {}
    spec := { gatewayClassName := "c", listeners := [
      { name := "udp", protocol := "udp", port := 3478 },
      { name := "two", protocol := "TURN-TCP", port := 80 },
      { name := "two", protocol := "UDP", port := 3478 },
      { name := "tls", protocol := "tls", port := 80 },
      { name := "odd", protocol := "QUIC", port := 3478 }] } }).map
        (fun p => (p.name, p.conflicted.reason, p.isReady)) =
    [("udp", Reason.noConflicts, true), ("two", Reason.listenerNameConflict, false),
      ("tls", Reason.protocolConflict, false), ("odd", Reason.noConflicts, false)] := by
  decide +kernel

end ListenerPlan

end RelayFleet
