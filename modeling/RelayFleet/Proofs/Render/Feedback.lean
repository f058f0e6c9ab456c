/-
Statuses that are written back. The next rendering reads them, but only to see which routes have
been reported on, so it comes to the same gateways and to no other statuses, and there is nothing
left to be written (`settles_after_writeBack`).
-/
import RelayFleet.Proofs.Render.Regular
import RelayFleet.Proofs.Render.Essence
import RelayFleet.Proofs.Updater.Flush

namespace RelayFleet

open Program

/-! ## Writing back -/

/-- An object after its status was stamped and written, in a version that the write may have
changed. -/
def Object.writtenBack (o : Object) (controller : String) (now : Timestamp)
    (version : Option String) (desired : ResourceStatus) : Object :=
  (o.withStatus (some (desired.stamped o.status? controller now))).mapMetadata fun m =>
    { m with resourceVersion := version }

section

variable {o : Object} {controller : String} {now : Timestamp} {version : Option String}
  {desired : ResourceStatus}

theorem Object.essence_writtenBack (h : desired.kind = o.kind) :
    (o.writtenBack controller now version desired).essence = o.essence := by
  cases o <;> cases desired <;> first | rfl | cases h

theorem Object.status?_writtenBack (h : desired.kind = o.kind) :
    (o.writtenBack controller now version desired).status? =
      some (desired.stamped o.status? controller now) := by
  cases o <;> cases desired <;> first | rfl | cases h

end

namespace Snapshot

/-- An object after the statuses of a sweep were written. -/
def update (controller : String) (now : Timestamp) (versions : ResourceKey → Option String)
    (statuses : SortedMap ResourceKey ResourceStatus) (o : Object) : Object :=
  match statuses.get? o.resource with
  | some desired => o.writtenBack controller now (versions o.resource) desired
  | none => o

/-- A snapshot after the statuses of a sweep were written. -/
def writtenBack (s : Snapshot) (controller : String) (now : Timestamp)
    (versions : ResourceKey → Option String) (statuses : SortedMap ResourceKey ResourceStatus) :
    Snapshot :=
  { s with objects := s.objects.map (update controller now versions statuses) }

section

variable {s : Snapshot} {controller : String} {now : Timestamp}
  {versions : ResourceKey → Option String} {statuses : SortedMap ResourceKey ResourceStatus}

theorem get?_writtenBack (r : ResourceKey) :
    (s.writtenBack controller now versions statuses).get? r =
      (s.get? r).map (update controller now versions statuses) :=
  SortedMap.get?_map _ s.objects r

variable (hkinds : ∀ r desired, statuses.get? r = some desired → desired.kind = r.kind)

include hkinds

theorem essence_update (o : Object) :
    (update controller now versions statuses o).essence = o.essence := by
  unfold update
  split
  · rename_i desired hdesired
    exact Object.essence_writtenBack (hkinds _ _ hdesired)
  · rfl

/-- Writing statuses leaves the essence of a snapshot as it is. -/
theorem essence_writtenBack :
    (s.writtenBack controller now versions statuses).essence = s.essence := by
  have hobjects : (s.objects.map (update controller now versions statuses)).map Object.essence =
      s.objects.map Object.essence := by
    refine SortedMap.ext_get? fun r => ?_
    rw [SortedMap.get?_map, SortedMap.get?_map, SortedMap.get?_map, Option.map_map]
    exact congrArg (Option.map · (s.objects.get? r)) (funext (essence_update hkinds))
  exact congrArg (fun objects => { s with objects }) hobjects

/-- What is under a key after statuses were written. -/
theorem writtenBack_cases (hs : s.Indexed) {r : ResourceKey} {o : Object}
    (h : (s.writtenBack controller now versions statuses).get? r = some o) :
    (statuses.get? r = none ∧ s.get? r = some o) ∨
    ∃ desired before, statuses.get? r = some desired ∧ s.get? r = some before ∧
      o.status? = some (desired.stamped before.status? controller now) := by
  rw [get?_writtenBack] at h
  obtain ⟨before, hbefore, rfl⟩ := Option.map_eq_some_iff.1 h
  unfold update
  rw [hs.own r before hbefore]
  rcases hdesired : statuses.get? r with - | desired
  · exact .inl ⟨rfl, hbefore⟩
  · refine .inr ⟨desired, before, rfl, hbefore, Object.status?_writtenBack ?_⟩
    rw [hkinds r desired hdesired, ← hs.own r before hbefore]
    rfl

end

end Snapshot

/-! ## The next sweep -/

namespace Sweep

variable {settings : Settings} {s : Snapshot}

theorem outputs_congr {t : Snapshot} (h : t.essence = s.essence) :
    outputs settings t = outputs settings s := by
  rw [← outputs_essence, h, outputs_essence]

theorem failed_congr {t : Snapshot} (h : t.essence = s.essence) :
    failed settings t = failed settings s := by
  rw [← failed_essence, h, failed_essence]

theorem standing_congr {t : Snapshot} (h : t.essence = s.essence) :
    standing settings t = standing settings s := by
  unfold standing
  rw [outputs_congr h, ← classStatuses_essence, h, classStatuses_essence]

theorem missingParents_congr {t : Snapshot} (h : t.essence = s.essence) {k : ObjectKey}
    {r r' : UdpRoute} (hr : r'.essence = r.essence) :
    missingParents settings t k r' = missingParents settings s k r := by
  rw [← missingParents_essence, h, hr, missingParents_essence]

theorem parentGateways_congr {r r' : UdpRoute} (hr : r'.essence = r.essence) :
    r'.parentGateways = r.parentGateways := by
  have hessence : r'.essence.parentGateways = r.essence.parentGateways := by rw [hr]
  exact hessence

/-- The snapshot after the statuses of its sweep were written. -/
def fedBack (settings : Settings) (s : Snapshot) (now : Timestamp)
    (versions : ResourceKey → Option String) : Snapshot :=
  s.writtenBack settings.controllerName now versions (ofSnapshot settings s).statuses

variable {now : Timestamp} {versions : ResourceKey → Option String}

theorem essence_fedBack : (fedBack settings s now versions).essence = s.essence :=
  Snapshot.essence_writtenBack fun _ _ => kind_of_status

/-- A route that carries a report after the statuses were written carried one before, or was given
one since something is reported about it. -/
theorem reportedBy_of_fedBack (hs : s.Indexed) {k : ObjectKey} {r r' : UdpRoute}
    (hr : s.route? k = some r) (hr' : (fedBack settings s now versions).route? k = some r')
    (hreported : r'.reportedBy settings.controllerName = true) :
    reported (outputs settings s) k ≠ [] ∨ r.reportedBy settings.controllerName = true := by
  have hget := Snapshot.route?_eq_some_iff.1 hr
  rcases Snapshot.writtenBack_cases (fun _ _ => kind_of_status) hs
    (Snapshot.route?_eq_some_iff.1 hr') with ⟨-, hbefore⟩ | ⟨desired, -, hdesired, -, -⟩
  · cases hget.symm.trans hbefore
    exact .inr hreported
  · -- the route had a status in the sweep, and so a reason for it
    obtain ⟨_, _, hroute, hstatus, -⟩ := get?_statuses_route_iff.1 hdesired
    cases hr.symm.trans hroute
    exact (routeStatus?_eq_some_iff.1 hstatus).2.1

/-- A status of the next sweep is one of the sweep before. -/
theorem status_of_fedBack (hs : s.Indexed) {r : ResourceKey} {desired : ResourceStatus}
    (h : (ofSnapshot settings (fedBack settings s now versions)).statuses.get? r = some desired) :
    (ofSnapshot settings s).statuses.get? r = some desired := by
  have hessence : (fedBack settings s now versions).essence = s.essence := essence_fedBack
  by_cases hkind : r.kind = .udpRoute
  · obtain ⟨kind, k⟩ := r
    cases hkind
    obtain ⟨route', status, hroute', hstatus, rfl⟩ := get?_statuses_route_iff.1 h
    obtain ⟨route, hroute, hsame⟩ := Snapshot.route?_of_essence hessence hroute'
    -- the contents depend on essences only; whether there is a status at all does not
    obtain ⟨hfine, hreported, rfl⟩ := routeStatus?_eq_some_iff.1 hstatus
    rw [outputs_congr hessence] at hreported ⊢
    rw [failed_congr hessence, parentGateways_congr hsame.symm] at hfine
    rw [missingParents_congr hessence hsame.symm]
    have hbefore : reported (outputs settings s) k ≠ [] ∨
        route.reportedBy settings.controllerName = true :=
      hreported.elim .inl (reportedBy_of_fedBack hs hroute hroute')
    exact get?_statuses_route_iff.2
      ⟨route, _, hroute, routeStatus?_eq_some_iff.2 ⟨hfine, hbefore, rfl⟩, rfl⟩
  · rw [get?_statuses_of_ne hkind, standing_congr hessence] at h
    rwa [get?_statuses_of_ne hkind]

/-- Statuses that were written are settled. -/
theorem settles_fedBack (hs : s.Indexed) {r : ResourceKey} {desired : ResourceStatus}
    (h : (ofSnapshot settings s).statuses.get? r = some desired) :
    (fedBack settings s now versions).Settles settings.controllerName r desired := by
  intro o ho later
  rcases Snapshot.writtenBack_cases (fun _ _ => kind_of_status) hs ho with
    ⟨hnone, -⟩ | ⟨desired', before, hdesired, -, hstatus⟩
  · rw [h] at hnone
    cases hnone
  · cases h.symm.trans hdesired
    rw [hstatus, ResourceStatus.stamped_stamped (regular_of_status h)]

/-- After the statuses of a sweep were written back, the next sweep has the same gateways and
failures, and every status of it is one of the sweep before and would be stamped at any time as it
is carried now. So the updater reads what is there and writes nothing. -/
theorem settles_after_writeBack (settings : Settings) (events : List StoreEvent) (now : Timestamp)
    (versions : ResourceKey → Option String) :
    let s := (Store.ofEvents events).snapshot
    let sweep := ofSnapshot settings s
    let s' := s.writtenBack settings.controllerName now versions sweep.statuses
    let sweep' := ofSnapshot settings s'
    sweep'.gateways = sweep.gateways ∧ sweep'.failures = sweep.failures ∧
    (∀ r desired, sweep'.statuses.get? r = some desired → sweep.statuses.get? r = some desired ∧
      s'.Settles settings.controllerName r desired) ∧
    ∀ log report u, Runs (Updater.flush settings { pending := sweep'.statuses }) log (report, u) →
      (∀ e ∈ log, StatusExchange.Reads s' e) →
      (∀ e ∈ log, e.1.IsRead) ∧ report.patched = [] ∧ report.failed = [] ∧ u.pending = ∅ := by
  intro s sweep s' sweep'
  have hs : s.Indexed := Store.indexed_ofEvents events
  have hessence : s'.essence = s.essence := essence_fedBack
  have hstatuses : ∀ r desired, sweep'.statuses.get? r = some desired →
      sweep.statuses.get? r = some desired ∧ s'.Settles settings.controllerName r desired := by
    intro r desired h
    have hbefore : sweep.statuses.get? r = some desired := status_of_fedBack hs h
    exact ⟨hbefore, settles_fedBack hs hbefore⟩
  refine ⟨?_, ?_, hstatuses, fun log report u hrun hreads => ?_⟩
  · exact congrArg (fun outputs => SortedMap.ofList (outputs.map fun o => (o.1, o.2.render)))
      (outputs_congr hessence)
  · exact congrArg SortedMap.ofList (failed_congr hessence)
  · exact Updater.runs_flush_settled hrun hreads fun r desired h => (hstatuses r desired h).2

/-- A route that was reported on is reported on again, and an updater that looks at it leaves it. -/
theorem settles_after_writeBack_for_fleet :
    let s := (Store.ofEvents Store.fleetEvents).snapshot
    let sweep := ofSnapshot {} s
    let s' := s.writtenBack "turngate.dev/gateway-operator" default (fun _ => some "2")
      sweep.statuses
    let sweep' := ofSnapshot {} s'
    ∃ desired, sweep'.statuses.get? (.udpRoute (.namespaced "a" "r")) = some desired ∧
      sweep.statuses.get? (.udpRoute (.namespaced "a" "r")) = some desired ∧
      s'.Settles "turngate.dev/gateway-operator" (.udpRoute (.namespaced "a" "r")) desired ∧
      ∃ log report u, Runs (Updater.flush {} { pending := sweep'.statuses }) log (report, u) ∧
        (∀ e ∈ log, StatusExchange.Reads s' e) ∧ (∀ e ∈ log, e.1.IsRead) ∧ report.patched = [] := by
  intro s sweep s' sweep'
  have hsome : (sweep'.statuses.get? (.udpRoute (.namespaced "a" "r"))).isSome = true := by
    decide +kernel
  obtain ⟨desired, hdesired⟩ := Option.isSome_iff_exists.1 hsome
  obtain ⟨-, -, hstatuses, hupdater⟩ := settles_after_writeBack {} Store.fleetEvents default
    fun _ => some "2"
  obtain ⟨hbefore, hsettles⟩ := hstatuses _ desired hdesired
  obtain ⟨log, ⟨report, u⟩, hrun, hanswers⟩ := exists_runs
    (StatusCall.rec (motive := StatusCall.Reply)
      (fun r => .ok ((s'.get? r).map Object.currentStatus)) (fun _ _ _ => .ok ()) default)
    (Updater.flush {} { pending := sweep'.statuses })
  have hreads : ∀ e ∈ log, StatusExchange.Reads s' e := by
    rintro ⟨c, answer⟩ he
    cases c <;> first | exact hanswers _ he | trivial
  obtain ⟨hread, hpatched, -, -⟩ := hupdater log report u hrun hreads
  exact ⟨desired, hdesired, hbefore, hsettles, log, report, u, hrun, hreads, hread, hpatched⟩

end Sweep

end RelayFleet
