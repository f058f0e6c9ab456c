/-
The backends of a route as a set (`resolves_ofRoute`): which services the references lead to decides
the type of the cluster, its endpoints and whether all references are resolved. So nothing depends on
the order of the references, on repetitions among them, or on how they are spread over rules.
-/
import RelayFleet.Proofs.Render.Mode

namespace RelayFleet

/-! ## Services -/

namespace Service

/-- Whether a service stands for a host outside of the cluster. -/
def IsExternal (o : Service) : Prop :=
  ∃ spec, o.spec = some spec ∧ spec.type = some "ExternalName"

/-- Whether a service names this host. -/
def Names (o : Service) (host : String) : Prop :=
  ∃ spec, o.spec = some spec ∧ spec.externalName = some host ∧ host ≠ ""

/-- Whether a service has this address in the cluster; a headless one has none. -/
def HasClusterIp (o : Service) (ip : String) : Prop :=
  ∃ spec, o.spec = some spec ∧ spec.clusterIp = some ip ∧ ip ≠ "" ∧ ip ≠ "None"

variable {o : Service}

/-- A service names one host only. -/
theorem Names.unique {host host' : String} (h : o.Names host) (h' : o.Names host') :
    host = host' := by
  obtain ⟨spec, hspec, hname, -⟩ := h
  obtain ⟨spec', hspec', hname', -⟩ := h'
  cases hspec.symm.trans hspec'
  exact Option.some.inj (hname.symm.trans hname')

theorem hasType_iff_isExternal : o.hasType "ExternalName" = true ↔ o.IsExternal := by
  unfold hasType IsExternal
  rw [beq_iff_eq, Option.bind_eq_some_iff]

theorem host_eq_some_iff {host : String} :
    (o.spec.bind (·.externalName)).filter (· ≠ "") = some host ↔ o.Names host := by
  unfold Names
  simp [Option.filter_eq_some_iff, Option.bind_eq_some_iff, ← and_assoc, exists_and_right]

theorem clusterIp?_eq_some_iff {ip : String} :
    Backend.clusterIp? o = some ip ↔ o.HasClusterIp ip := by
  unfold Backend.clusterIp? HasClusterIp
  simp [Option.filter_eq_some_iff, Option.bind_eq_some_iff, ← and_assoc, exists_and_right]

end Service

/-- Whether a service has an endpoint at an address that is not marked as unready. -/
def Snapshot.Serves (s : Snapshot) (service : ObjectKey) (x : String) : Prop :=
  ∃ slice ∈ s.slicesForService service, ∃ e ∈ slice.endpoints,
    (∀ c, e.conditions = some c → c.ready ≠ some false) ∧ x ∈ e.addresses

theorem Endpoint.isReady_iff {e : Endpoint} :
    e.isReady = true ↔ ∀ c, e.conditions = some c → c.ready ≠ some false := by
  unfold isReady
  rcases e.conditions with - | ⟨ready, -, -⟩
  · simp
  · rcases ready with - | - | - <;> simp

namespace Backend

variable {s : Snapshot} {policy : EndpointPolicy} {service : ObjectKey} {o : Service} {x : String}

theorem mem_readyAddresses_iff : x ∈ readyAddresses s service ↔ s.Serves service x := by
  unfold readyAddresses Snapshot.Serves
  simp only [List.mem_flatMap, List.mem_filter, Endpoint.isReady_iff]
  constructor
  · rintro ⟨e, ⟨⟨slice, hslice, he⟩, hready⟩, hx⟩
    exact ⟨slice, hslice, e, he, hready, hx⟩
  · rintro ⟨slice, hslice, e, he, hready, hx⟩
    exact ⟨e, ⟨⟨slice, hslice, he⟩, hready⟩, hx⟩

theorem mem_addresses_iff_halves : x ∈ addresses s policy service o ↔
    (policy.relayToClusterIp = true ∧ o.HasClusterIp x) ∨
      (policy.discovery = true ∧ s.Serves service x) := by
  unfold addresses
  rw [List.mem_append, ← Service.clusterIp?_eq_some_iff, ← mem_readyAddresses_iff]
  rcases policy with ⟨_ | _, _ | _⟩ <;> simp

end Backend

/-! ## One reference -/

namespace BackendRef

/-- Whether a reference means a core service; group and kind may be left out. -/
def MeansService (ref : BackendRef) : Prop :=
  (∀ group, ref.group = some group → group = "") ∧ ∀ kind, ref.kind = some kind → kind = "Service"

/-- Whether a reference of a route in a namespace leads to this service. -/
def LeadsTo (s : Snapshot) (ns : String) (ref : BackendRef) (o : Service) : Prop :=
  ref.MeansService ∧ s.service? (ref.serviceKey ns) = some o

/-- Whether a reference leads to a service, and to a host if that is outside of the cluster. -/
def IsResolved (s : Snapshot) (ns : String) (ref : BackendRef) : Prop :=
  ∃ o, ref.LeadsTo s ns o ∧ (o.IsExternal → ∃ host, o.Names host)

variable {s : Snapshot} {ns : String} {ref : BackendRef} {o o' : Service}

theorem isService_iff : ref.isService = true ↔ ref.MeansService := by
  unfold isService MeansService
  simp only [Bool.and_eq_true, Option.all_eq_true, beq_iff_eq]

theorem LeadsTo.unique (h : ref.LeadsTo s ns o) (h' : ref.LeadsTo s ns o') : o = o' :=
  Option.some.inj (h.2.symm.trans h'.2)

end BackendRef

namespace Backend

variable {s : Snapshot} {policy : EndpointPolicy} {ns : String} {ref : BackendRef} {x : String}

/-- What a reference may come to, by the service that it leads to. -/
inductive Outcome (s : Snapshot) (policy : EndpointPolicy) (ns : String) (ref : BackendRef) :
    Backend → Prop
  | unresolved {reason message : String} (h : ¬ ref.IsResolved s ns) :
    Outcome s policy ns ref (unresolved reason message)
  | external {o : Service} {host : String} (ho : ref.LeadsTo s ns o) (hout : o.IsExternal)
    (hhost : o.Names host) : Outcome s policy ns ref (external (ref.serviceKey ns) host)
  | internal {o : Service} (ho : ref.LeadsTo s ns o) (hin : ¬ o.IsExternal) :
    Outcome s policy ns ref (internal (addresses s policy (ref.serviceKey ns) o))

theorem outcome_resolve (s : Snapshot) (policy : EndpointPolicy) (ns : String)
    (ref : BackendRef) : Outcome s policy ns ref (resolve s policy ns ref) := by
  unfold resolve
  dsimp only
  split
  · rename_i hmeans
    have hmeans := BackendRef.isService_iff.1 hmeans
    split
    · rename_i hget
      refine .unresolved ?_
      rintro ⟨o, ⟨-, ho⟩, -⟩
      cases hget.symm.trans ho
    · rename_i o hget
      have ho : ref.LeadsTo s ns o := ⟨hmeans, hget⟩
      -- a service outside of the cluster is of use with a host only
      split
      · rename_i hout
        have hout := Service.hasType_iff_isExternal.1 hout
        split
        · rename_i host hhost
          exact .external ho hout (Service.host_eq_some_iff.1 hhost)
        · rename_i hnone
          refine .unresolved ?_
          rintro ⟨o', ho', hhost⟩
          cases ho.unique ho'
          obtain ⟨host, hhost⟩ := hhost hout
          cases hnone.symm.trans (Service.host_eq_some_iff.2 hhost)
      · rename_i hin
        exact .internal ho fun h => hin (Service.hasType_iff_isExternal.2 h)
  · rename_i hmeans
    refine .unresolved ?_
    rintro ⟨o, ⟨h, -⟩, -⟩
    exact hmeans (BackendRef.isService_iff.2 h)

theorem failure?_resolve : (resolve s policy ns ref).failure? = none ↔ ref.IsResolved s ns := by
  have h := outcome_resolve s policy ns ref
  generalize resolve s policy ns ref = b at h
  cases h with
  | unresolved h => exact ⟨nofun, fun h' => absurd h' h⟩
  | external ho hout hhost => exact ⟨fun _ => ⟨_, ho, fun _ => ⟨_, hhost⟩⟩, fun _ => rfl⟩
  | internal ho hin => exact ⟨fun _ => ⟨_, ho, fun hout => absurd hout hin⟩, fun _ => rfl⟩

theorem resolve_eq_external_iff {k : ObjectKey} {host : String} :
    resolve s policy ns ref = .external k host ↔
      k = ref.serviceKey ns ∧ ∃ o, ref.LeadsTo s ns o ∧ o.IsExternal ∧ o.Names host := by
  have h := outcome_resolve s policy ns ref
  generalize resolve s policy ns ref = b at h
  cases h with
  | unresolved h =>
    refine ⟨nofun, ?_⟩
    rintro ⟨-, o, ho, -, hhost⟩
    exact absurd ⟨o, ho, fun _ => ⟨host, hhost⟩⟩ h
  | external ho hout hhost =>
    constructor
    · rintro ⟨⟩
      exact ⟨rfl, _, ho, hout, hhost⟩
    · rintro ⟨rfl, o', ho', -, hhost'⟩
      cases ho.unique ho'
      rw [hhost.unique hhost']
  | internal ho hin =>
    refine ⟨nofun, ?_⟩
    rintro ⟨-, o', ho', hout, -⟩
    exact absurd (ho.unique ho' ▸ hout) hin

theorem resolve_eq_internal_iff {l : List String} :
    resolve s policy ns ref = .internal l ↔
      ∃ o, ref.LeadsTo s ns o ∧ ¬ o.IsExternal ∧ l = addresses s policy (ref.serviceKey ns) o := by
  have h := outcome_resolve s policy ns ref
  generalize resolve s policy ns ref = b at h
  cases h with
  | unresolved h =>
    refine ⟨nofun, ?_⟩
    rintro ⟨o, ho, hin, -⟩
    exact absurd ⟨o, ho, fun hout => absurd hout hin⟩ h
  | external ho hout hhost =>
    refine ⟨nofun, ?_⟩
    rintro ⟨o', ho', hin, -⟩
    exact absurd (ho.unique ho' ▸ hout) hin
  | internal ho hin =>
    constructor
    · rintro ⟨⟩
      exact ⟨_, ho, hin, rfl⟩
    · rintro ⟨o', ho', -, rfl⟩
      rw [ho.unique ho']

theorem external?_eq_some_iff {b : Backend} {k : ObjectKey} {host : String} :
    b.external? = some (k, host) ↔ b = .external k host := by
  cases b <;> simp [external?]

theorem internal?_eq_some_iff {b : Backend} {l : List String} :
    b.internal? = some l ↔ b = .internal l := by
  cases b <;> simp [internal?]

end Backend

/-! ## All references -/

namespace ResolvedBackends

section

variable (s : Snapshot) (ns : String) (refs : List BackendRef)

/-- Whether some reference leads to a service outside of the cluster. -/
def LeadsOut : Prop := ∃ ref ∈ refs, ∃ o, ref.LeadsTo s ns o ∧ o.IsExternal

/-- Whether some reference leads to a service outside of the cluster that names this host. -/
def LeadsToHost (host : String) : Prop :=
  ∃ ref ∈ refs, ∃ o, ref.LeadsTo s ns o ∧ o.IsExternal ∧ o.Names host

/-- Whether some reference leads to a service within the cluster. -/
def LeadsIn : Prop := ∃ ref ∈ refs, ∃ o, ref.LeadsTo s ns o ∧ ¬ o.IsExternal

/-- Whether some reference leads to a service within the cluster that brings in this address: its
own, if traffic goes there, or that of an endpoint, if endpoints are discovered. -/
def LeadsToAddress (policy : EndpointPolicy) (x : String) : Prop :=
  ∃ ref ∈ refs, ∃ o, ref.LeadsTo s ns o ∧ ¬ o.IsExternal ∧
    ((policy.relayToClusterIp = true ∧ o.HasClusterIp x) ∨
      (policy.discovery = true ∧ s.Serves (ref.serviceKey ns) x))

end

/-- What the references of a route come to, told by the services that they lead to. -/
structure Resolves (s : Snapshot) (policy : EndpointPolicy) (key : ObjectKey)
    (refs : List BackendRef) (b : ResolvedBackends) : Prop where
  name : b.cluster.name = key.text
  dns_iff : b.cluster.type = .strictDns ↔
    (∃ host, LeadsToHost s key.namespaceText refs host) ∧ ¬ LeadsIn s key.namespaceText refs
  hosts : b.cluster.type = .strictDns →
    ∀ x, x ∈ b.cluster.endpoints ↔ LeadsToHost s key.namespaceText refs x
  addresses : b.cluster.type = .static →
    ∀ x, x ∈ b.cluster.endpoints ↔ LeadsToAddress s key.namespaceText refs policy x
  condition : b.resolvedRefs.type = ConditionType.resolvedRefs
  resolved_iff : b.resolvedRefs.status = .true ↔
    (∀ ref ∈ refs, ref.IsResolved s key.namespaceText) ∧
      ¬ (LeadsOut s key.namespaceText refs ∧ LeadsIn s key.namespaceText refs)
  unresolved : b.resolvedRefs.status ≠ .true → b.resolvedRefs.status = .false

variable {s : Snapshot} {policy : EndpointPolicy} {key : ObjectKey} {ns : String}
  {refs refs' : List BackendRef} {r : UdpRoute}

/-! ### What the references come to, one by one -/

theorem failures_eq_nil_iff (policy : EndpointPolicy) :
    (refs.map (Backend.resolve s policy ns)).filterMap Backend.failure? = [] ↔
      ∀ ref ∈ refs, ref.IsResolved s ns := by
  simp only [List.filterMap_eq_nil_iff, List.forall_mem_map, Backend.failure?_resolve]

theorem mem_externals_iff {k : ObjectKey} {host : String} :
    (k, host) ∈ (refs.map (Backend.resolve s policy ns)).filterMap Backend.external? ↔
      ∃ ref ∈ refs, k = ref.serviceKey ns ∧
        ∃ o, ref.LeadsTo s ns o ∧ o.IsExternal ∧ o.Names host := by
  simp only [List.mem_filterMap, List.mem_map, exists_exists_and_eq_and,
    Backend.external?_eq_some_iff, Backend.resolve_eq_external_iff]

theorem mem_hosts_iff (policy : EndpointPolicy) {host : String} :
    host ∈ ((refs.map (Backend.resolve s policy ns)).filterMap Backend.external?).map (·.2) ↔
      LeadsToHost s ns refs host := by
  unfold LeadsToHost
  rw [List.mem_map]
  constructor
  · rintro ⟨⟨k, host⟩, hmem, rfl⟩
    obtain ⟨ref, href, -, o, ho⟩ := mem_externals_iff.1 hmem
    exact ⟨ref, href, o, ho⟩
  · rintro ⟨ref, href, o, ho⟩
    exact ⟨(_, host), mem_externals_iff.2 ⟨ref, href, rfl, o, ho⟩, rfl⟩

theorem isEmpty_externals (policy : EndpointPolicy) :
    ((refs.map (Backend.resolve s policy ns)).filterMap Backend.external?).isEmpty = false ↔
      ∃ host, LeadsToHost s ns refs host := by
  simp only [← mem_hosts_iff policy, ← List.isEmpty_eq_false_iff_exists_mem,
    List.isEmpty_map]

theorem mem_internals_iff {l : List String} :
    l ∈ (refs.map (Backend.resolve s policy ns)).filterMap Backend.internal? ↔
      ∃ ref ∈ refs, ∃ o, ref.LeadsTo s ns o ∧ ¬ o.IsExternal ∧
        l = Backend.addresses s policy (ref.serviceKey ns) o := by
  simp only [List.mem_filterMap, List.mem_map, exists_exists_and_eq_and,
    Backend.internal?_eq_some_iff, Backend.resolve_eq_internal_iff]

theorem isEmpty_internals (policy : EndpointPolicy) :
    ((refs.map (Backend.resolve s policy ns)).filterMap Backend.internal?).isEmpty = false ↔
      LeadsIn s ns refs := by
  unfold LeadsIn
  rw [List.isEmpty_eq_false_iff_exists_mem]
  constructor
  · rintro ⟨l, hl⟩
    obtain ⟨ref, href, o, ho, hin, -⟩ := mem_internals_iff.1 hl
    exact ⟨ref, href, o, ho, hin⟩
  · rintro ⟨ref, href, o, ho, hin⟩
    exact ⟨_, mem_internals_iff.2 ⟨ref, href, o, ho, hin, rfl⟩⟩

/-! ### What they come to together -/

theorem status_condition_iff {generation : Option Int64} {failures : List (String × String)} :
    (condition generation failures).status = .true ↔ failures = [] := by
  cases failures with
  | nil => exact iff_of_true rfl rfl
  | cons first rest => exact iff_of_false nofun nofun

theorem status_condition_ne {generation : Option Int64} {failures : List (String × String)}
    (h : (condition generation failures).status ≠ .true) :
    (condition generation failures).status = .false := by
  cases failures with
  | nil => exact absurd rfl h
  | cons first rest => rfl

/-- When all references are resolved, one that leads out of the cluster leads to a host. -/
theorem leadsOut_iff_of_resolved (h : ∀ ref ∈ refs, ref.IsResolved s ns) :
    LeadsOut s ns refs ↔ ∃ host, LeadsToHost s ns refs host := by
  constructor
  · rintro ⟨ref, href, o, ho, hout⟩
    obtain ⟨o', ho', hhost⟩ := h ref href
    cases ho.unique ho'
    obtain ⟨host, hhost⟩ := hhost hout
    exact ⟨host, ref, href, o, ho, hout, hhost⟩
  · rintro ⟨host, ref, href, o, ho, hout, -⟩
    exact ⟨ref, href, o, ho, hout⟩

/-- The test by which a route gets a cluster of host names. -/
theorem isDns_iff (policy : EndpointPolicy) :
    (((refs.map (Backend.resolve s policy ns)).filterMap Backend.internal?).isEmpty = true ∧
      ¬ ((refs.map (Backend.resolve s policy ns)).filterMap Backend.external?).isEmpty = true) ↔
        (∃ host, LeadsToHost s ns refs host) ∧ ¬ LeadsIn s ns refs := by
  rw [← isEmpty_externals policy, ← isEmpty_internals policy, and_comm,
    Bool.not_eq_true, Bool.not_eq_false]

theorem type_ofRoute_iff : (ofRoute s policy key r).cluster.type = .strictDns ↔
    (∃ host, LeadsToHost s key.namespaceText r.backendRefs host) ∧
      ¬ LeadsIn s key.namespaceText r.backendRefs := by
  rw [← isDns_iff policy]
  unfold ofRoute
  dsimp only
  split
  · rename_i hdns
    exact iff_of_true rfl hdns
  · rename_i hdns
    exact iff_of_false (fun h => by cases h) hdns

theorem mem_endpoints_of_dns (h : (ofRoute s policy key r).cluster.type = .strictDns)
    {x : String} : x ∈ (ofRoute s policy key r).cluster.endpoints ↔
      LeadsToHost s key.namespaceText r.backendRefs x := by
  unfold ofRoute at h ⊢
  dsimp only at h ⊢
  split at h
  · rename_i hdns
    rw [if_pos hdns]
    exact SortedSet.mem_ofList.trans (mem_hosts_iff policy)
  · cases h

theorem mem_endpoints_of_static (h : (ofRoute s policy key r).cluster.type = .static)
    {x : String} : x ∈ (ofRoute s policy key r).cluster.endpoints ↔
      LeadsToAddress s key.namespaceText r.backendRefs policy x := by
  rw [mem_endpoints_iff h]
  unfold LeadsToAddress
  simp only [Backend.internal?_eq_some_iff, Backend.resolve_eq_internal_iff,
    ← Backend.mem_addresses_iff_halves]
  constructor
  · rintro ⟨ref, href, l, ⟨o, ho, hin, rfl⟩, hx⟩
    exact ⟨ref, href, o, ho, hin, hx⟩
  · rintro ⟨ref, href, o, ho, hin, hx⟩
    exact ⟨ref, href, _, ⟨o, ho, hin, rfl⟩, hx⟩

theorem status_ofRoute_iff : (ofRoute s policy key r).resolvedRefs.status = .true ↔
    (∀ ref ∈ r.backendRefs, ref.IsResolved s key.namespaceText) ∧
      ¬ (LeadsOut s key.namespaceText r.backendRefs ∧
        LeadsIn s key.namespaceText r.backendRefs) := by
  rw [← failures_eq_nil_iff policy]
  unfold ofRoute
  dsimp only
  split
  · rename_i hdns
    -- without a service within the cluster, there is nothing to mix
    have hin := ((isDns_iff policy).1 hdns).2
    exact status_condition_iff.trans ⟨fun h => ⟨h, fun hmixed => hin hmixed.2⟩, And.left⟩
  · rename_i hdns
    refine status_condition_iff.trans ?_
    rw [List.append_eq_nil_iff, List.map_eq_nil_iff]
    refine and_congr_right fun hfailures => ?_
    rw [leadsOut_iff_of_resolved ((failures_eq_nil_iff policy).1 hfailures)]
    -- what leads to a host is mixed here, or the cluster would be one of host names
    rw [isDns_iff policy] at hdns
    rw [← List.isEmpty_iff, ← Bool.not_eq_false, isEmpty_externals policy]
    tauto

theorem status_ofRoute_ne (h : (ofRoute s policy key r).resolvedRefs.status ≠ .true) :
    (ofRoute s policy key r).resolvedRefs.status = .false := by
  unfold ofRoute at h ⊢
  dsimp only at h ⊢
  split at h
  · rename_i hdns
    rw [if_pos hdns]
    exact status_condition_ne h
  · rename_i hdns
    rw [if_neg hdns]
    exact status_condition_ne h

theorem resolves_refs (s : Snapshot) (policy : EndpointPolicy) (key : ObjectKey) (r : UdpRoute) :
    (ofRoute s policy key r).Resolves s policy key r.backendRefs where
  name := name_cluster_ofRoute s policy key r
  dns_iff := type_ofRoute_iff
  hosts h _ := mem_endpoints_of_dns h
  addresses h _ := mem_endpoints_of_static h
  condition := type_resolvedRefs_ofRoute s policy key r
  resolved_iff := status_ofRoute_iff
  unresolved := status_ofRoute_ne

/-! ### References as a set -/

theorem Resolves.congr {b : ResolvedBackends} (h : b.Resolves s policy key refs)
    (hrefs : ∀ ref, ref ∈ refs' ↔ ref ∈ refs) : b.Resolves s policy key refs' := by
  obtain ⟨hname, hdns, hhosts, haddresses, hcondition, hresolved, hunresolved⟩ := h
  unfold LeadsToHost LeadsIn at hdns
  unfold LeadsToHost at hhosts
  unfold LeadsToAddress at haddresses
  unfold LeadsOut LeadsIn at hresolved
  simp only [← hrefs] at hdns hhosts haddresses hresolved
  exact ⟨hname, hdns, hhosts, haddresses, hcondition, hresolved, hunresolved⟩

/-- The services that references lead to decide the cluster and the status of the condition. -/
theorem Resolves.unique {b b' : ResolvedBackends} (h : b.Resolves s policy key refs)
    (h' : b'.Resolves s policy key refs) :
    b.cluster = b'.cluster ∧ b.resolvedRefs.status = b'.resolvedRefs.status := by
  have htype : b.cluster.type = .strictDns ↔ b'.cluster.type = .strictDns :=
    h.dns_iff.trans h'.dns_iff.symm
  have hstatus : b.resolvedRefs.status = .true ↔ b'.resolvedRefs.status = .true :=
    h.resolved_iff.trans h'.resolved_iff.symm
  refine ⟨?_, ?_⟩
  · have hname := h.name.trans h'.name.symm
    have hhosts := h.hosts
    have hhosts' := h'.hosts
    have haddresses := h.addresses
    have haddresses' := h'.addresses
    obtain ⟨⟨name, type, endpoints⟩, condition⟩ := b
    obtain ⟨⟨name', type', endpoints'⟩, condition'⟩ := b'
    cases hname
    cases type with
    | strictDns =>
      cases htype.1 rfl
      have hsame : endpoints = endpoints' :=
        SortedSet.ext_mem fun x => (hhosts rfl x).trans (hhosts' rfl x).symm
      rw [hsame]
    | static =>
      cases type' with
      | strictDns => cases htype.2 rfl
      | static =>
        have hsame : endpoints = endpoints' :=
          SortedSet.ext_mem fun x => (haddresses rfl x).trans (haddresses' rfl x).symm
        rw [hsame]
  · by_cases htrue : b.resolvedRefs.status = .true
    · rw [htrue, hstatus.1 htrue]
    · rw [h.unresolved htrue, h'.unresolved fun ht => htrue (hstatus.2 ht)]

/-- The cluster of a route and the status of its condition are what the services tell that its
references lead to, whatever the snapshot, the policy and the route are; so another route with the
same references, in any order, repeated, and in other rules, comes to the same. The slices of a
service, in a snapshot that a store comes to, are those stored in its namespace with its label. -/
theorem resolves_ofRoute (s : Snapshot) (policy : EndpointPolicy) (key : ObjectKey) (r : UdpRoute) :
    (ofRoute s policy key r).Resolves s policy key r.backendRefs ∧
      (∀ r' : UdpRoute,
        (∀ ref, (∃ rule ∈ r'.spec.rules, ref ∈ rule.backendRefs) ↔
          ∃ rule ∈ r.spec.rules, ref ∈ rule.backendRefs) →
        (ofRoute s policy key r').cluster = (ofRoute s policy key r).cluster ∧
          (ofRoute s policy key r').resolvedRefs.status =
            (ofRoute s policy key r).resolvedRefs.status) ∧
      ∀ events, s = (Store.ofEvents events).snapshot → ∀ service slice,
        slice ∈ s.slicesForService service ↔
          s.get? ⟨.endpointSlice, slice.metadata.key⟩ = some (.endpointSlice slice) ∧
            slice.metadata.inNamespace = service.inNamespace ∧
            slice.metadata.label? EndpointSlice.serviceLabel = some service.name := by
  have hr := resolves_refs s policy key r
  refine ⟨hr, fun r' hrefs => ?_, ?_⟩
  · refine (resolves_refs s policy key r').unique (hr.congr fun ref => ?_)
    unfold UdpRoute.backendRefs
    rw [List.mem_flatMap, List.mem_flatMap, hrefs]
  · rintro events rfl
    exact (Store.indexed_ofEvents events).exact.slices

/-! ### Services of both kinds -/

/-- A service outside of the cluster, and one within it with two endpoints, of which one is not
ready. -/
def mixedServices : List StoreEvent :=
  [.upsert <| .service {
    metadata := { name := some "far", inNamespace := some "a" }
    spec := some { type := some "ExternalName", externalName := some "far.example" } },
  .upsert <| .service {
    metadata := { name := some "near", inNamespace := some "a" }
    spec := some { type := some "ClusterIP", clusterIp := some "10.96.0.9" } },
  .upsert <| .endpointSlice {
    metadata := {
      name := some "near-1"
      inNamespace := some "a"
      labels := some (.ofList [(EndpointSlice.serviceLabel, "near")]) }
    endpoints := [{ addresses := ["10.1.0.5"] },
      { addresses := ["10.1.0.6"], conditions := some { ready := some false } }] }]

/-- A route that leads to these services, with its references spread over rules. -/
def leadingTo (rules : List (List String)) : UdpRoute where
  metadata := { name := some "r", inNamespace := some "a" }
  spec := { rules := rules.map fun names => { backendRefs := names.map fun name => { name } } }

/-- A route that leads to services of both kinds has the addresses of the one within the cluster, and
not all of its references are resolved, in whatever order and rules they are. -/
theorem resolves_ofRoute_for_mixed :
    (ofRoute (Store.ofEvents mixedServices).snapshot ⟨true, true⟩ (.namespaced "a" "r")
      (leadingTo [["near"], ["far", "near"]])).cluster =
        { name := "a/r", type := .static, endpoints := .ofList ["10.1.0.5", "10.96.0.9"] } ∧
      (ofRoute (Store.ofEvents mixedServices).snapshot ⟨true, true⟩ (.namespaced "a" "r")
        (leadingTo [["near"], ["far", "near"]])).resolvedRefs.status = .false := by
  obtain ⟨-, hsame, -⟩ := resolves_ofRoute (Store.ofEvents mixedServices).snapshot ⟨true, true⟩
    (.namespaced "a" "r") (leadingTo [["far", "near"]])
  obtain ⟨hcluster, hstatus⟩ := hsame (leadingTo [["near"], ["far", "near"]])
    (by simp [leadingTo])
  rw [hcluster, hstatus]
  decide +kernel

end ResolvedBackends

end RelayFleet
