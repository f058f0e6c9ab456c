/-
How clients come to the listeners of a gateway where its service is opened on the nodes. The service
is written for the workload of one rendering, and its ports are read back in another, by transport
and number: a listener of the gateway gets the node port of its own service port
(`exposes_of_active`).
-/
import RelayFleet.Proofs.Render.Admission
import RelayFleet.Proofs.Workload.Manifest

namespace RelayFleet

/-! ## Services that are opened on the nodes -/

/-- Whether clients have to come to a gateway through the nodes: it asks for no address, its service
is stored, and a node can be reached from outside. -/
structure Snapshot.OnNodes (s : Snapshot) (key : ObjectKey) (g : Gateway) (service : Service) :
    Prop where
  gateway : s.gateway? key = some g
  unaddressed : ∀ a ∈ g.spec.addresses, a.value = ""
  stored : s.get? (Object.service service).resource = some (.service service)
  external : ∃ n ∈ s.nodes, ∃ a ∈ n.addresses, a.type = "ExternalIP" ∧ a.address ≠ ""

/-- Whether clients use, for a listener, what a service opened on the nodes for the one port of the
listener's transport and number. -/
def ListenerConfig.ReachedThrough (l : ListenerConfig) (service : Service) : Prop :=
  ∃ p ∈ service.ports, p.IsFor l.protocol.transport l.port ∧
    (∀ q ∈ service.ports, q.IsFor l.protocol.transport l.port → q = p) ∧
    ∃ (n : UInt16) (node : Int32), l.publicPort = some n ∧ p.nodePort = some node ∧
      (n.toNat : Int) = node.toInt

namespace PublicAddress

variable {s : Snapshot} {key : ObjectKey} {g : Gateway} {service : Service} {a : PublicAddress}
  {protocol : Protocol} {port n : UInt16}

/-- Clients use for a listener what is said of its transport and number, if one thing is said. -/
theorem publicPort_of_mem (hmem : ((protocol.transport.text, port), n) ∈ a.nodePorts)
    (hsame : ∀ b ∈ a.nodePorts, b.1 = (protocol.transport.text, port) → b.2 = n) :
    a.publicPort protocol port = n := by
  unfold publicPort
  rcases hfound : a.nodePorts.reverse.find? (·.1 = (protocol.transport.text, port)) with - | b
  · have hmissed := List.find?_eq_none.1 hfound _ (List.mem_reverse.2 hmem)
    simp at hmissed
  · rw [hfound]
    exact hsame b (List.mem_reverse.1 (List.mem_of_find?_eq_some hfound))
      (by simpa using List.find?_some hfound)

theorem publicPort_of_forall_ne
    (h : ∀ b ∈ a.nodePorts, b.1 ≠ (protocol.transport.text, port)) :
    a.publicPort protocol port = port := by
  have hfound : a.nodePorts.reverse.find? (·.1 = (protocol.transport.text, port)) = none := by
    rw [List.find?_eq_none]
    intro b hb
    simpa using h b (List.mem_reverse.1 hb)
  unfold publicPort
  rw [hfound]
  rfl

theorem mem_nodePortsOf_iff {b : (String × UInt16) × UInt16} :
    b ∈ nodePortsOf service ↔ ∃ p ∈ service.ports, ∃ node : Int32, p.nodePort = some node ∧
      p.protocol.getD "TCP" = b.1.1 ∧ (b.1.2.toNat : Int) = p.port.toInt ∧
        (b.2.toNat : Int) = node.toInt := by
  obtain ⟨⟨text, port⟩, nodePort⟩ := b
  unfold nodePortsOf
  rw [List.mem_filterMap]
  refine exists_congr fun p => and_congr_right fun _ => ?_
  simp only [Option.bind_eq_bind, Option.bind_eq_some_iff, word16OfInt32?_eq_some_iff,
    Option.pure_def, Option.some.injEq, Prod.mk.injEq]
  constructor
  · rintro ⟨_, hport, node, hnode, _, hnumber, ⟨rfl, rfl⟩, rfl⟩
    exact ⟨node, hnode, rfl, hport, hnumber⟩
  · rintro ⟨node, hnode, hprotocol, hport, hnumber⟩
    exact ⟨port, hport, node, hnode, nodePort, hnumber, ⟨hprotocol, rfl⟩, rfl⟩

/-- A node that can be reached from outside is found. -/
theorem exists_ofNode? (h : ∃ n ∈ s.nodes, ∃ a ∈ n.addresses, a.type = "ExternalIP" ∧ a.address ≠ "") :
    ∃ a, s.nodes.findSome? ofNode? = some a := by
  obtain ⟨n, hn, a, ha, hexternal⟩ := h
  rcases hfound : s.nodes.findSome? ofNode? with - | found
  · have hnone := List.findSome?_eq_none_iff.1 hfound n hn
    unfold ofNode? at hnone
    rw [Option.map_eq_none_iff, List.find?_eq_none] at hnone
    exact absurd (decide_eq_true hexternal) (hnone a ha)
  · exact ⟨found, rfl⟩

/-- The address of a gateway on the nodes carries the ports that its service opened there. -/
theorem exists_ofGateway? (h : s.OnNodes key g service) (hkey : service.metadata.key = key)
    (htype : service.hasType "NodePort" = true) (hingress : service.ingress = []) :
    ∃ a, ofGateway? s key g = some a ∧ a.nodePorts = nodePortsOf service := by
  have hrequested : g.spec.addresses.find? (·.value ≠ "") = none := by
    rw [List.find?_eq_none]
    intro a ha
    simpa using h.unaddressed a ha
  have hservice : s.service? key = some service := by
    have hstored : s.get? ⟨.service, service.metadata.key⟩ = some (.service service) := h.stored
    unfold Snapshot.service?
    rw [← hkey, hstored]
    rfl
  obtain ⟨found, hfound⟩ := exists_ofNode? h.external
  refine ⟨{ found with nodePorts := nodePortsOf service }, ?_, rfl⟩
  unfold ofGateway?
  rw [hrequested, hservice]
  show ofService? s service = _
  unfold ofService?
  rw [hingress, htype, hfound]
  rfl

end PublicAddress

namespace Workload

variable {w : Workload} {service : Service} {a : PublicAddress} {l : ListenerConfig}

/-- A listener is reached through the service port of its own transport and number, or, where the
service has none, through its own port. -/
theorem reachedThrough_or (hslots : (w.ports.map fun p => (p.protocol.transport, p.port)).Nodup)
    (h : service.OpenedFrom w.service) (hports : a.nodePorts = PublicAddress.nodePortsOf service)
    (hl : l.publicPort = some (a.publicPort l.protocol l.port)) :
    l.ReachedThrough service ∨
      (∀ p ∈ service.ports, ¬ p.IsFor l.protocol.transport l.port) ∧ l.publicPort = some l.port := by
  -- what the service says of the listener's transport and number, it says of a port for them
  have hentry : ∀ {b}, b ∈ a.nodePorts → b.1 = (l.protocol.transport.text, l.port) →
      ∃ p ∈ service.ports, p.IsFor l.protocol.transport l.port ∧
        ∃ node : Int32, p.nodePort = some node ∧ (b.2.toNat : Int) = node.toInt := by
    rintro ⟨slot, n⟩ hb rfl
    rw [hports] at hb
    obtain ⟨p, hp, node, hnode, hprotocol, hport, hnumber⟩ := PublicAddress.mem_nodePortsOf_iff.1 hb
    obtain ⟨c, -, hclosed⟩ := exists_of_mem_ports h hp
    have hwritten : p.protocol = some c.protocol.transport.text :=
      congrArg ServicePort.protocol hclosed
    rw [hwritten] at hprotocol
    exact ⟨p, hp, ⟨hwritten.trans (congrArg some hprotocol), hport.symm⟩, node, hnode, hnumber⟩
  by_cases hex : ∃ p ∈ service.ports, p.IsFor l.protocol.transport l.port
  · left
    obtain ⟨p, hp, hfor⟩ := hex
    have honly : ∀ q ∈ service.ports, q.IsFor l.protocol.transport l.port → q = p :=
      fun q hq hqfor => eq_of_isFor hslots h hq hp hqfor hfor
    obtain ⟨node, hnode, hlow, hhigh⟩ := h.opened p hp
    obtain ⟨n, hn⟩ : ∃ n : UInt16, (n.toNat : Int) = node.toInt := by
      refine ⟨UInt16.ofNat node.toInt.toNat, ?_⟩
      rw [UInt16.toNat_ofNat']
      omega
    refine ⟨p, hp, hfor, honly, n, node, ?_, hnode, hn⟩
    rw [hl, PublicAddress.publicPort_of_mem (n := n)]
    · rw [hports, PublicAddress.mem_nodePortsOf_iff]
      refine ⟨p, hp, node, hnode, ?_, hfor.port.symm, hn⟩
      rw [hfor.protocol]
      rfl
    · intro b hb hslot
      obtain ⟨q, hq, hqfor, node', hnode', hn'⟩ := hentry hb hslot
      cases honly q hq hqfor
      cases hnode.symm.trans hnode'
      exact UInt16.toNat_inj.1 (Int.ofNat.inj (hn'.trans hn.symm))
  · right
    refine ⟨fun p hp hfor => hex ⟨p, hp, hfor⟩, ?_⟩
    rw [hl, PublicAddress.publicPort_of_forall_ne]
    intro b hb hslot
    obtain ⟨p, hp, hfor, -⟩ := hentry hb hslot
    exact hex ⟨p, hp, hfor⟩

end Workload

/-! ## The same listeners in two snapshots -/

namespace ListenerPlan

variable {s s' : Snapshot} {key : ObjectKey} {g g' : Gateway} {p p' : ListenerPlan}

/-- What a gateway's listeners ask for decides, in any snapshot, over which transport and number one
is planned, and whether it is accepted. -/
theorem alike_of_name (hlisteners : g'.spec.listeners = g.spec.listeners)
    (hp : p ∈ ofGateway s key g) (hp' : p' ∈ ofGateway s' key g') (hname : p'.name = p.name) :
    p'.protocol = p.protocol ∧ p'.port = p.port ∧ p'.accepted.isTrue = p.accepted.isTrue := by
  obtain ⟨l, q, -, hpq, hfound, rfl⟩ := exists_first hp
  obtain ⟨l', q', -, hpq', hfound', rfl⟩ := exists_first hp'
  rw [hname, hlisteners, hfound] at hfound'
  cases hfound'
  obtain ⟨c, hc⟩ := exists_marked_eq s key g
    (ofListener g.metadata.generation s key.namespaceText l)
  obtain ⟨c', hc'⟩ := exists_marked_eq s' key g'
    (ofListener g'.metadata.generation s' key.namespaceText l)
  rw [hpq, hpq', hc, hc']
  refine ⟨rfl, rfl, ?_⟩
  show (acceptance ..).isTrue = (acceptance ..).isTrue
  rw [isTrue_acceptance, isTrue_acceptance]

theorem exists_alike (hlisteners : g'.spec.listeners = g.spec.listeners)
    (hp : p ∈ ofGateway s key g) : ∃ p' ∈ ofGateway s' key g', p'.name = p.name := by
  have hlisted : p.name ∈ g'.listenerNames := by
    unfold Gateway.listenerNames
    rw [hlisteners]
    exact (listed_ofGateway p.name).1 (List.mem_map_of_mem hp)
  exact List.mem_map.1 ((listed_ofGateway p.name).2 hlisted)

/-- Listeners that clash do so in every snapshot. -/
theorem Clashes.alike (hlisteners : g'.spec.listeners = g.spec.listeners)
    (hp : p ∈ ofGateway s key g) (h : p.Clashes (ofGateway s key g))
    (hp' : p' ∈ ofGateway s' key g') (hname : p'.name = p.name) :
    p'.Clashes (ofGateway s' key g') := by
  obtain ⟨haccepted, q, hq, hne, hqaccepted, hqport, hqtransport⟩ := h
  obtain ⟨hprotocol, hport, hsame⟩ := alike_of_name hlisteners hp hp' hname
  obtain ⟨q', hq', hqname⟩ : ∃ q' ∈ ofGateway s' key g', q'.name = q.name :=
    exists_alike hlisteners hq
  obtain ⟨hqprotocol', hqport', hqsame⟩ := alike_of_name hlisteners hq hq' hqname
  refine ⟨hsame.trans haccepted, q', hq', ?_, hqsame.trans hqaccepted, ?_, ?_⟩
  · rwa [hqname, hname]
  · rw [hqport', hport, hqport]
  · rw [hqprotocol', hprotocol, hqtransport]

/-- A listener that is served was served before, unless a certificate of its was found since. -/
theorem exists_isReady_of_certified (hlisteners : g'.spec.listeners = g.spec.listeners)
    (hcertified : ∀ l ∈ g.spec.listeners, ∀ r ∈ l.certificateRefs,
      Listener.Certified s' key.namespaceText r → Listener.Certified s key.namespaceText r)
    (hp' : p' ∈ ofGateway s' key g') (hready : p'.isReady = true) :
    ∃ p ∈ ofGateway s key g, p.name = p'.name ∧ p.isReady = true := by
  obtain ⟨l, hfound, hdescribes⟩ := describes_of_mem hp'
  have hl' := List.mem_of_find?_eq_some hfound
  have hl : l ∈ g.spec.listeners := hlisteners ▸ hl'
  obtain ⟨honce, husable, hresolved, hfree⟩ :=
    (isReady_iff_serves hl').1 ⟨p', hp', hdescribes.name, hready⟩
  rw [hdescribes.name]
  refine (isReady_iff_serves hl).2 ⟨?_, husable, ⟨hresolved.kinds, fun protocol hnamed htls => ?_⟩,
    fun p hp hname hclash => ?_⟩
  · unfold Gateway.listenerNames at honce ⊢
    rwa [hlisteners] at honce
  · obtain ⟨hnonempty, hall⟩ := hresolved.certificates protocol hnamed htls
    exact ⟨hnonempty, fun r hr => hcertified l hl r hr (hall r hr)⟩
  · have hsame : p'.name = p.name := hdescribes.name.trans hname.symm
    exact hfree p' hp' hdescribes.name (hclash.alike hlisteners hp hp' hsame)

end ListenerPlan

/-! ## Workloads and the rendering they come from -/

/-- Whether the listeners of a gateway's document in a snapshot are reached through a service that was
written for the gateway `g` of another snapshot, where its document was `config`. -/
structure Service.Reaches (service : Service) (key : ObjectKey) (s : Snapshot) (g : Gateway)
    (config : Document) (s' : Snapshot) (g' : Gateway) (config' : Document) : Prop where
  /-- Of the same listeners all are, unless a certificate was found since. -/
  all : g'.spec.listeners = g.spec.listeners →
    (∀ l ∈ g.spec.listeners, ∀ r ∈ l.certificateRefs,
      Listener.Certified s' key.namespaceText r → Listener.Certified s key.namespaceText r) →
    ∀ l ∈ config'.listeners, l.ReachedThrough service
  /-- In any case those are that were served before. -/
  kept : g'.spec.listeners = g.spec.listeners → ∀ l ∈ config'.listeners,
    (∃ m ∈ config.listeners, m.name = l.name) → l.ReachedThrough service
  /-- Whatever the listeners have become, none is led to the port of another one. -/
  own : ∀ l ∈ config'.listeners, l.ReachedThrough service ∨
    (∀ p ∈ service.ports, ¬ p.IsFor l.protocol.transport l.port) ∧ l.publicPort = some l.port

namespace GatewayOutput

variable {settings settings' : Settings} {s s' : Snapshot} {key : ObjectKey} {g g' : Gateway}
  {params params' : GatewayConfig} {output : GatewayOutput} {w : Workload} {service : Service}
  {l : ListenerConfig}

/-- A workload has a port for a transport and a number exactly if the document has a listener. -/
theorem Served.exists_port_iff (h : Served settings s key g params output)
    (hw : output.render.workload = some w) {transport : Transport} {port : UInt16} :
    (∃ p ∈ w.ports, p.protocol.transport = transport ∧ p.port = port) ↔
      ∃ l ∈ (contribution settings s key g params).listeners,
        l.protocol.transport = transport ∧ l.port = port := by
  constructor
  · rintro ⟨p, hp, hslot⟩
    obtain ⟨l, hl, rfl⟩ := List.mem_map.1 ((h.perm_ports hw).mem_iff.1 hp)
    exact ⟨l, hl, hslot⟩
  · rintro ⟨l, hl, hslot⟩
    exact ⟨_, (h.perm_ports hw).mem_iff.2 (List.mem_map_of_mem hl), hslot⟩

/-- A listener that is served in two snapshots has its transport and number in both. -/
theorem exists_slot (hlisteners : g'.spec.listeners = g.spec.listeners)
    (hl : l ∈ (contribution settings' s' key g' params').listeners)
    (hserved : ∃ p ∈ ListenerPlan.ofGateway s key g, p.isReady = true ∧
      l.name = key.listenerPrefix ++ p.name) :
    ∃ m ∈ (contribution settings s key g params).listeners,
      m.protocol.transport = l.protocol.transport ∧ m.port = l.port := by
  obtain ⟨p', hp', -, hpresents'⟩ := served_of_mem hl
  obtain ⟨p, hp, hready, hname⟩ := hserved
  obtain ⟨m, hm, hpresents⟩ : ∃ m ∈ (contribution settings s key g params).listeners, _ :=
    exists_mem_contribution hp hready
  have hsame : p'.name = p.name :=
    (String.append_right_inj _).1 (hpresents'.name.symm.trans hname)
  obtain ⟨hprotocol, hport, -⟩ := ListenerPlan.alike_of_name hlisteners hp hp' hsame
  rw [hpresents'.protocol, hpresents.protocol] at hprotocol
  rw [hpresents'.port, hpresents.port] at hport
  exact ⟨m, hm, by rw [Option.some.inj hprotocol], (Option.some.inj hport).symm⟩

/-- The service of a workload that was opened on the nodes leads to the listeners that the gateway
has in another snapshot. -/
theorem Served.reaches (h : Served settings s key g params output)
    (hw : output.render.workload = some w) (hkey : w.service.metadata.key = key)
    (hopened : service.OpenedFrom w.service) (hnodes : s'.OnNodes key g' service) :
    service.Reaches key s g (contribution settings s key g params) s' g'
      (contribution settings' s' key g' params') := by
  obtain ⟨a, ha, hports⟩ := PublicAddress.exists_ofGateway? hnodes (hopened.key.trans hkey)
    hopened.type hopened.ingress
  have hown : ∀ l ∈ (contribution settings' s' key g' params').listeners,
      l.ReachedThrough service ∨
        (∀ p ∈ service.ports, ¬ p.IsFor l.protocol.transport l.port) ∧
          l.publicPort = some l.port := by
    intro l hl
    obtain ⟨p, -, -, hpresents⟩ := served_of_mem hl
    refine Workload.reachedThrough_or (h.nodup_slots hw) hopened hports ?_
    rw [hpresents.publicPort, ha]
    rfl
  -- a listener that was served has its port, so nothing but that port is left for it
  have hserved : g'.spec.listeners = g.spec.listeners →
      ∀ l ∈ (contribution settings' s' key g' params').listeners,
        (∃ p ∈ ListenerPlan.ofGateway s key g, p.isReady = true ∧
          l.name = key.listenerPrefix ++ p.name) → l.ReachedThrough service := by
    intro hlisteners l hl hbefore
    obtain ⟨p, hp, hfor⟩ := (Workload.exists_isFor_iff hopened).2
      ((h.exists_port_iff hw).2 (exists_slot hlisteners hl hbefore))
    exact (hown l hl).resolve_right fun hnone => hnone.1 p hp hfor
  refine ⟨fun hlisteners hcertified l hl => ?_, fun hlisteners l hl => ?_, hown⟩
  · obtain ⟨p', hp', hready', hpresents'⟩ := served_of_mem hl
    obtain ⟨p, hp, hname, hready⟩ :=
      ListenerPlan.exists_isReady_of_certified hlisteners hcertified hp' hready'
    exact hserved hlisteners l hl ⟨p, hp, hready, hname ▸ hpresents'.name⟩
  · rintro ⟨m, hm, hname⟩
    obtain ⟨p, hp, hready, hpresents⟩ := served_of_mem hm
    exact hserved hlisteners l hl ⟨p, hp, hready, hname ▸ hpresents.name⟩

end GatewayOutput

end RelayFleet
