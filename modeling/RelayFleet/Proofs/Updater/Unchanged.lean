/-
A status that the updater wrote is what it finds when it looks again. Every status is read as it was
written, and whether the updater takes what it reads for what it desires is told by the desired
status alone: it does whatever the time is, if that status is coherent, as all of a sweep are, and
not for good, if it is not (`read_as_written`).
-/
import RelayFleet.Updater.Call
import RelayFleet.Proofs.Resource.Wire
import RelayFleet.Proofs.Render.Regular
import RelayFleet.Proofs.Retry

namespace RelayFleet

open Program

/-! ## Times that are put in -/

theorem Condition.dated_stamp {previous : List Condition} {now : Timestamp}
    (hprevious : ∀ c ∈ previous, c.Dated) (hnow : now.Sound) (cs : List Condition) :
    ∀ c ∈ stamp previous now cs, c.Dated := by
  intro c hc t ht
  obtain ⟨c, -, rfl⟩ := List.mem_map.1 hc
  obtain rfl := Option.some.inj ht
  cases hcarried : carriedTime? previous c with
  | none => exact hnow
  | some t =>
    obtain ⟨d, hd, htime⟩ := Option.bind_eq_some_iff.1 hcarried
    have hfound := (Option.filter_eq_some_iff.1 hd).1
    exact hprevious d (List.mem_of_find?_eq_some hfound) t htime

namespace ResourceStatus

/-- What is found under a name or a reference is in the list. -/
theorem mem_of_mem_found {α : Type} {l : List α} {p : α → Bool} {conditions : α → List Condition}
    {c : Condition} (h : c ∈ ((l.find? p).map conditions).getD []) : ∃ a ∈ l, c ∈ conditions a := by
  cases hfound : l.find? p with
  | none =>
    rw [hfound] at h
    cases h
  | some a =>
    rw [hfound] at h
    exact ⟨a, List.mem_of_find?_eq_some hfound, h⟩

section

variable {now : Timestamp} (hnow : now.Sound)

include hnow

theorem dated_stampedGateway (s before : GatewayStatus) (h : (gateway before).Dated) :
    (gateway (stampedGateway s (some (gateway before)) now)).Dated := by
  refine ⟨Condition.dated_stamp h.1 hnow _, fun l hl => ?_⟩
  obtain ⟨l, -, rfl⟩ := List.mem_map.1 hl
  refine Condition.dated_stamp (fun c hc => ?_) hnow _
  obtain ⟨l', hl', hc⟩ := mem_of_mem_found hc
  exact h.2 l' hl' c hc

theorem dated_stampedRoute (s before : RouteStatus) (h : (udpRoute before).Dated)
    (controller : String) :
    (udpRoute (stampedRoute s (some (udpRoute before)) controller now)).Dated := by
  intro p hp
  rcases List.mem_append.1 hp with hp | hp
  · exact h p (List.mem_of_mem_filter hp)
  · obtain ⟨p, -, rfl⟩ := List.mem_map.1 hp
    refine Condition.dated_stamp (fun c hc => ?_) hnow _
    obtain ⟨p', hp', hc⟩ := mem_of_mem_found hc
    exact h p' hp' c hc

/-- What is stamped has sound times, if what it is stamped against has. -/
theorem dated_stamped {previous : Option ResourceStatus} (hprevious : ∀ p ∈ previous, p.Dated)
    (desired : ResourceStatus) (controller : String) :
    (desired.stamped previous controller now).Dated := by
  have hgateway : (gateway {}).Dated := ⟨List.forall_mem_nil _, List.forall_mem_nil _⟩
  have hroute : (udpRoute {}).Dated := List.forall_mem_nil _
  -- a status of another kind counts as an empty one
  cases desired with
  | gatewayClass s =>
    refine Condition.dated_stamp ?_ hnow _
    split
    · exact hprevious _ rfl
    · exact List.forall_mem_nil _
  | gateway s =>
    rcases previous with _ | _ | before | _
    · exact dated_stampedGateway hnow s {} hgateway
    · exact dated_stampedGateway hnow s {} hgateway
    · exact dated_stampedGateway hnow s before (hprevious _ rfl)
    · exact dated_stampedGateway hnow s {} hgateway
  | udpRoute s =>
    rcases previous with _ | _ | _ | before
    · exact dated_stampedRoute hnow s {} hroute controller
    · exact dated_stampedRoute hnow s {} hroute controller
    · exact dated_stampedRoute hnow s {} hroute controller
    · exact dated_stampedRoute hnow s before (hprevious _ rfl) controller

end

end ResourceStatus

/-! ## Looking again -/

/-- How the updater finds its surroundings when it looks at a resource: the version and the status
that it reads, and the time. -/
def StatusExchange.looking (r : ResourceKey) (current : CurrentStatus) (later : Timestamp) :
    List (Exchange StatusCall StatusCall.Reply) :=
  [⟨.get r, .ok (some current)⟩, ⟨.now, later⟩]

namespace StatusProgram

variable {settings : Settings} {r : ResourceKey} {desired : ResourceStatus}
  {current : CurrentStatus} {later : Timestamp}

/-- The updater writes the desired status as it is stamped, unless it reads just that. -/
theorem asks_write_looking
    (h : current.status ≠ some (desired.stamped current.status settings.controllerName later)) :
    Asks (write settings r desired) (StatusExchange.looking r current later)
      (.patch r current.resourceVersion
        (desired.stamped current.status settings.controllerName later)) := by
  refine asks_map_iff.2 (Retry.asks_repeating_of_first (asks_ask_iff.2 (.inr ⟨_, _, rfl,
    asks_ask_iff.2 (.inr ⟨_, _, rfl, ?_⟩)⟩)) _)
  show Asks (ite (_ = some (desired.stamped current.status _ later)) _ _) [] _
  rw [if_neg h]
  exact ⟨_, .here _⟩

theorem runs_write_looking_iff :
    Runs (write settings r desired) (StatusExchange.looking r current later) (.ok .unchanged) ↔
      current.status = some (desired.stamped current.status settings.controllerName later) := by
  refine ⟨fun h => by_contra fun hother => (asks_write_looking hother).not_runs _ h, fun h => ?_⟩
  refine runs_map_iff.2 ⟨_, Retry.runs_repeating_of_ok (.ask (.ask ?_)) _, rfl⟩
  show Reaches (ite (_ = some (desired.stamped current.status _ later)) _ _) [] _
  rw [if_pos h]
  exact .here _

end StatusProgram

/-! ## What was written -/

namespace ResourceStatus

/-- Every status whose times have a text is read as it was written, from the value and from its
text. So the updater that has written a desired status reads it when it looks again. If the desired
status is coherent, as every status of a sweep is, the updater finds it unchanged whatever the time
is, and writes nothing; if it is not, it does not find it unchanged at every later time. -/
theorem read_as_written (settings : Settings) :
    (∀ s : ResourceStatus, s.Dated → ofJson? s.kind s.toJson = some s ∧
      (Json.parse? s.toJson.render).bind (ofJson? s.kind) = some s) ∧
    (∀ (r : ResourceKey) (desired : ResourceStatus) (previous : Option ResourceStatus)
        (now : Timestamp), (∀ p ∈ previous, p.Dated) → now.Sound →
      let written := desired.stamped previous settings.controllerName now
      let read := ofJson? desired.kind written.toJson
      let looking := fun status version time => StatusExchange.looking r ⟨version, status⟩ time
      (previous ≠ some written → ∀ version,
        Asks (StatusProgram.write settings r desired) (looking previous version now)
          (.patch r version written)) ∧
      read = some written ∧
      (desired.Coherent settings.controllerName → ∀ version later,
        Runs (StatusProgram.write settings r desired) (looking read version later)
          (.ok .unchanged)) ∧
      ((∀ version later, now.seconds < later.seconds →
        Runs (StatusProgram.write settings r desired) (looking read version later)
          (.ok .unchanged)) → desired.Coherent settings.controllerName)) ∧
    ∀ s r desired, (Sweep.ofSnapshot settings s).statuses.get? r = some desired →
      desired.Coherent settings.controllerName := by
  refine ⟨fun s h => ⟨ofJson?_toJson h, ?_⟩, fun r desired previous now hprevious hnow => ?_,
    fun s r desired h => (Sweep.regular_of_status h).coherent⟩
  · rw [Json.parse?_render s.readable_toJson, Option.bind_some, ofJson?_toJson h]
  · intro written read looking
    have hread : read = some written := by
      have hkind : written.kind = desired.kind := kind_stamped
      show ofJson? desired.kind written.toJson = some written
      rw [← hkind]
      exact ofJson?_toJson (dated_stamped hnow hprevious desired settings.controllerName)
    have hfinds : ∀ version later, Runs (StatusProgram.write settings r desired)
        (looking read version later) (.ok .unchanged) ↔
          desired.stamped (some written) settings.controllerName later = written := by
      intro version later
      refine StatusProgram.runs_write_looking_iff.trans ?_
      dsimp only
      rw [hread, Option.some_inj, eq_comm]
    refine ⟨fun h version => StatusProgram.asks_write_looking h, hread, fun h version later => ?_,
      fun h => ?_⟩
    · exact (hfinds version later).2 (h.stamped_stamped previous now later)
    · exact coherent_of_stamped_stamped fun later hlater => (hfinds none later).1 (h none later hlater)

/-- A route that another controller has reported on since the middle of a leap second. -/
def leaping : ResourceStatus :=
  .udpRoute { parents := [⟨{ name := "g", port := some 0 }, "other", [{
    type := "Accepted", status := .unknown, reason := "\x22", observedGeneration := some (-1),
    lastTransitionTime := some ⟨1483228799, 1500000000⟩ }]⟩] }

/-- What a controller that is left its default name has to say about the route. -/
def accepting : ResourceStatus :=
  .udpRoute { parents := [⟨{ name := "g", port := some 0 }, ({} : Settings).controllerName, [{
    type := "Accepted", status := .true, reason := "Accepted" }]⟩] }

/-- A report joins one since a leap second, and stays; so would one on a route of a fleet. -/
theorem read_as_written_for_leaping :
    let r : ResourceKey := .udpRoute (.namespaced "a" "r")
    let written := accepting.stamped (some leaping) ({} : Settings).controllerName ⟨0, 1⟩
    ofJson? .udpRoute leaping.toJson = some leaping ∧
    Asks (StatusProgram.write {} r accepting)
      (StatusExchange.looking r ⟨none, some leaping⟩ ⟨0, 1⟩) (.patch r none written) ∧
    ofJson? .udpRoute written.toJson = some written ∧
    (∀ version later, Runs (StatusProgram.write {} r accepting)
      (StatusExchange.looking r ⟨version, ofJson? .udpRoute written.toJson⟩ later)
      (.ok .unchanged)) ∧
    accepting.Coherent ({} : Settings).controllerName ∧
    ∃ desired, (Sweep.ofSnapshot {} (Store.ofEvents Store.fleetEvents).snapshot).statuses.get? r =
      some desired ∧ desired.Coherent ({} : Settings).controllerName := by
  intro r written
  have hdated : leaping.Dated := by decide +kernel
  have hsound : Timestamp.Sound ⟨0, 1⟩ := by decide +kernel
  have hcoherent : accepting.Coherent ({} : Settings).controllerName := by decide +kernel
  have hsome : ((Sweep.ofSnapshot {} (Store.ofEvents Store.fleetEvents).snapshot).statuses.get?
      r).isSome = true := by decide +kernel
  obtain ⟨desired, hdesired⟩ := Option.isSome_iff_exists.1 hsome
  obtain ⟨hread, hwrite, hsweep⟩ := read_as_written {}
  obtain ⟨hasks, hwritten, hfinds, hcoherent'⟩ := hwrite r accepting (some leaping) ⟨0, 1⟩
    (fun p hp => Option.some.inj hp ▸ hdated) hsound
  have hfound := hfinds hcoherent
  exact ⟨(hread leaping hdated).1, hasks (by decide +kernel) none, hwritten, hfound,
    hcoherent' fun version later _ => hfound version later, desired, hdesired,
    hsweep _ r desired hdesired⟩

/-- A class of which one thing is said twice, and differently. -/
def wavering : ResourceStatus :=
  .gatewayClass ⟨[{ type := "Accepted", status := .true, reason := "Accepted" },
    { type := "Accepted", status := .false, reason := "Accepted" }]⟩

/-- Two conditions of one type that say different things are written again, though they are read as
they were written: the second one finds no time to keep. -/
theorem not_unchanged_for_wavering :
    let r : ResourceKey := .gatewayClass "c"
    let written := wavering.stamped none ({} : Settings).controllerName ⟨0, 0⟩
    Asks (StatusProgram.write {} r wavering) (StatusExchange.looking r ⟨some "1", none⟩ ⟨0, 0⟩)
      (.patch r (some "1") written) ∧
    ofJson? .gatewayClass written.toJson = some written ∧
    ¬ Runs (StatusProgram.write {} r wavering)
      (StatusExchange.looking r ⟨some "2", ofJson? .gatewayClass written.toJson⟩ ⟨1, 0⟩)
      (.ok .unchanged) := by
  intro r written
  have hdated : written.Dated := by decide +kernel
  have hread : ofJson? .gatewayClass written.toJson = some written := ofJson?_toJson hdated
  refine ⟨StatusProgram.asks_write_looking (by decide +kernel), hread, fun h => ?_⟩
  have hsame := StatusProgram.runs_write_looking_iff.1 h
  rw [hread] at hsame
  exact absurd hsame (by decide +kernel)

end ResourceStatus

end RelayFleet
