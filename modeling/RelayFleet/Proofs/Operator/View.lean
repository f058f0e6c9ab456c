/-
What one key sees of exchanges. The workload of a gateway changes by attempts that concern the
gateway, the artifact of a key by what is done about it, and the updates of a key by what is told of
it: two logs that agree on these lead to the same (`workload_replay_congr`, `artifact_replay_congr`,
`updates_replay_congr`).
-/
import RelayFleet.Proofs.Distribution.Calls
import RelayFleet.Proofs.Operator.Precedence

namespace RelayFleet

open Program

/-- What is seen of the outcome of some items depends on those that matter for it. -/
theorem foldl_view_congr {σ ε ν : Type} {f : σ → ε → σ} (view : σ → ν) {matters : ε → Bool}
    (hskip : ∀ s e, matters e = false → view (f s e) = view s)
    (hstep : ∀ s s' e, view s = view s' → view (f s e) = view (f s' e)) {l l' : List ε}
    (h : l.filter matters = l'.filter matters) {s s' : σ} (hs : view s = view s') :
    view (l.foldl f s) = view (l'.foldl f s') := by
  have hfilter : ∀ (l : List ε) (s s' : σ), view s = view s' →
      view (l.foldl f s) = view ((l.filter matters).foldl f s') := by
    intro l
    induction l with
    | nil => exact fun s s' hs => hs
    | cons e rest ih =>
      intro s s' hs
      cases hm : matters e with
      | true =>
        rw [List.filter_cons_of_pos hm]
        exact ih _ _ (hstep s s' e hs)
      | false =>
        rw [List.filter_cons_of_neg (by simp [hm])]
        exact ih _ _ ((hskip s e hm).trans hs)
  rw [hfilter l s s rfl, h]
  exact (hfilter l' s' s hs.symm).symm

/-! ## Exchanges about an artifact -/

namespace OperatorExchange

/-- Whether it is an attempt at writing or deleting the artifact of a key, or tells of it. -/
def deals (k : ObjectKey) : OperatorExchange → Bool
  | ⟨.write (.applyArtifact a), _⟩ => a.key = k
  | ⟨.write (.deleteArtifact key), _⟩ => key = k
  | ⟨.publish key _, _⟩ => key = k
  | ⟨.retire key, _⟩ => key = k
  | _ => false

/-- What is done about the artifact of a key, in order. -/
def dealing (k : ObjectKey) (log : List OperatorExchange) : List OperatorExchange :=
  log.filter (deals k)

variable {k : ObjectKey} {log l₁ l₂ : List OperatorExchange}

theorem dealing_append : dealing k (l₁ ++ l₂) = dealing k l₁ ++ dealing k l₂ :=
  List.filter_append ..

theorem dealing_eq_nil (h : ∀ e ∈ log, deals k e = false) : dealing k log = [] :=
  List.filter_eq_nil_iff.2 fun e he => by simp [h e he]

theorem dealing_of_spares (h : ∀ e ∈ log, e.SparesArtifacts) : dealing k log = [] := by
  refine dealing_eq_nil fun e he => ?_
  have hspares := h e he
  obtain ⟨c, r⟩ := e
  cases c with
  | write w => cases w <;> first | rfl | exact absurd hspares id
  | pause n => rfl
  | publish key c => exact absurd hspares id
  | retire key => exact absurd hspares id

/-- Whatever serves a gateway concerns it, pauses aside. -/
theorem concerns_of_serves_self {workload : Option Workload}
    (hown : ∀ w, workload = some w → w.gateway = k) {w : ClusterWrite} {r : Except Fault Unit}
    (h : Serves k workload ⟨.write w, r⟩) : w.concerns k = true := by
  cases w with
  | addFinalizer key f => exact decide_eq_true h
  | removeFinalizer key f => exact absurd h id
  | applyWorkload w => exact decide_eq_true (hown w h)
  | deleteWorkload key => exact decide_eq_true h
  | applyArtifact a => exact absurd h id
  | deleteArtifact key => exact absurd h id

end OperatorExchange

open OperatorExchange

namespace Derived

variable {k : ObjectKey}

theorem workload_after_of_not_concerns (d : Derived) {e : OperatorExchange}
    (h : concerns k e = false) : (d.after e).workloads.get? k = d.workloads.get? k := by
  obtain ⟨c, r⟩ := e
  cases c with
  | write w =>
    cases r with
    | error f => rfl
    | ok u =>
      cases w with
      | applyWorkload w =>
        exact SortedMap.get?_insert_of_ne _ _ (Ne.symm (of_decide_eq_false h))
      | deleteWorkload key => exact SortedMap.get?_erase_of_ne _ (Ne.symm (of_decide_eq_false h))
      | _ => rfl
  | _ => rfl

theorem workload_after_congr {d d' : Derived} (e : OperatorExchange)
    (h : d.workloads.get? k = d'.workloads.get? k) :
    (d.after e).workloads.get? k = (d'.after e).workloads.get? k := by
  obtain ⟨c, r⟩ := e
  cases c with
  | write w =>
    cases r with
    | error f => exact h
    | ok u =>
      cases w with
      | applyWorkload w =>
        show (d.workloads.insert _ _).get? k = (d'.workloads.insert _ _).get? k
        rw [SortedMap.get?_insert, SortedMap.get?_insert, h]
      | deleteWorkload key =>
        show (d.workloads.erase _).get? k = (d'.workloads.erase _).get? k
        rw [SortedMap.get?_erase, SortedMap.get?_erase, h]
      | _ => exact h
  | _ => exact h

/-- What becomes of a workload is told by the attempts that concern its gateway. -/
theorem workload_replay_congr (d : Derived) {l l' : List OperatorExchange}
    (h : concerning k l = concerning k l') :
    (d.replay l).workloads.get? k = (d.replay l').workloads.get? k :=
  foldl_view_congr (fun d : Derived => d.workloads.get? k)
    (fun d _ => workload_after_of_not_concerns d) (fun _ _ e => workload_after_congr e) h rfl

theorem artifact_after_of_not_deals (d : Derived) {e : OperatorExchange} (h : deals k e = false) :
    (d.after e).artifacts.get? k = d.artifacts.get? k := by
  obtain ⟨c, r⟩ := e
  cases c with
  | write w =>
    cases r with
    | error f => rfl
    | ok u =>
      cases w with
      | applyArtifact a => exact SortedMap.get?_insert_of_ne _ _ (Ne.symm (of_decide_eq_false h))
      | deleteArtifact key => exact SortedMap.get?_erase_of_ne _ (Ne.symm (of_decide_eq_false h))
      | _ => rfl
  | _ => rfl

theorem artifact_after_congr {d d' : Derived} (e : OperatorExchange)
    (h : d.artifacts.get? k = d'.artifacts.get? k) :
    (d.after e).artifacts.get? k = (d'.after e).artifacts.get? k := by
  obtain ⟨c, r⟩ := e
  cases c with
  | write w =>
    cases r with
    | error f => exact h
    | ok u =>
      cases w with
      | applyArtifact a =>
        show (d.artifacts.insert _ _).get? k = (d'.artifacts.insert _ _).get? k
        rw [SortedMap.get?_insert, SortedMap.get?_insert, h]
      | deleteArtifact key =>
        show (d.artifacts.erase _).get? k = (d'.artifacts.erase _).get? k
        rw [SortedMap.get?_erase, SortedMap.get?_erase, h]
      | _ => exact h
  | _ => exact h

/-- What becomes of an artifact is told by what is done about it. -/
theorem artifact_replay_congr (d : Derived) {l l' : List OperatorExchange}
    (h : dealing k l = dealing k l') :
    (d.replay l).artifacts.get? k = (d.replay l').artifacts.get? k :=
  foldl_view_congr (fun d : Derived => d.artifacts.get? k)
    (fun d _ => artifact_after_of_not_deals d) (fun _ _ e => artifact_after_congr e) h rfl

end Derived

/-! ## Updates of a key -/

namespace Distributor

variable {k : ObjectKey} {d d' : Distributor}

/-- Which update a document makes under a key depends on the updates that are there. -/
theorem created?_congr (h : d.updates k = d'.updates k) (c : Document) :
    d.created? k c = d'.created? k c := by
  have hadd : ∀ d : Distributor, d.created? k c =
      if (d.updates k).getLast?.map (·.config) = some c then none
      else some ⟨(d.updates k).length + 1, c⟩ := by
    intro d
    have hhead : (d.topicOf k).1.documents.head? =
        (d.topicOf k).1.latest?.map (·.config) := by
      unfold Topic.latest?
      rw [Option.map_map]
      exact Option.map_id'.symm
    rw [created?_eq, Topic.addition?, hhead, ← Topic.getLast?_updates, ← Topic.length_updates,
      updates_of_topicOf]
  rw [hadd, hadd, h]

/-- Whether an occurrence may change the updates of a key. -/
def informs (k : ObjectKey) : Occurrence → Bool
  | .exchange ⟨.publish key _, _⟩ => key = k
  | .exchange ⟨.retire key, _⟩ => key = k
  | _ => false

theorem updates_after_of_not_informs (d : Distributor) {o : Occurrence} (h : informs k o = false) :
    (d.after o).updates k = d.updates k := by
  cases o with
  | exchange e =>
    obtain ⟨c, r⟩ := e
    cases c with
    | publish key c =>
      show (d.publish key c).2.updates k = _
      rw [updates_publish, if_neg (of_decide_eq_false h), Option.toList_none, List.append_nil]
    | retire key =>
      show (d.remove key).updates k = _
      rw [updates_remove, if_neg (of_decide_eq_false h)]
    | _ => rfl
  | subscribe key policy =>
    exact (updates_congr (d := (d.topicOf key).2) rfl k).trans (updates_topicOf d key k)
  | next n => exact updates_congr (topics_next d n) k
  | leave n => exact updates_unsubscribe d n k

theorem updates_after_congr (o : Occurrence) (h : d.updates k = d'.updates k) :
    (d.after o).updates k = (d'.after o).updates k := by
  cases hinforms : informs k o with
  | false => rw [updates_after_of_not_informs d hinforms, updates_after_of_not_informs d' hinforms, h]
  | true =>
    cases o with
    | exchange e =>
      obtain ⟨c, r⟩ := e
      cases c with
      | publish key c =>
        show (d.publish key c).2.updates k = (d'.publish key c).2.updates k
        rw [updates_publish, updates_publish, h, created?_congr h]
      | retire key =>
        show (d.remove key).updates k = (d'.remove key).updates k
        rw [updates_remove, updates_remove, h]
      | _ => cases hinforms
    | _ => cases hinforms

/-- What becomes of the updates of a key is told by what is done about its artifact. -/
theorem updates_replay_congr (d : Distributor) {os os' : List Occurrence}
    (h : dealing k (Occurrence.calls os) = dealing k (Occurrence.calls os')) :
    (d.replay os).updates k = (d.replay os').updates k := by
  -- attempts at writing the artifact aside, the same occurrences tell of it
  have hinforms : ∀ os : List Occurrence, os.filter (informs k) =
      ((dealing k (Occurrence.calls os)).map Occurrence.exchange).filter (informs k) := by
    intro os
    induction os with
    | nil => rfl
    | cons o rest ih =>
      cases o with
      | exchange e =>
        have hcalls : Occurrence.calls (.exchange e :: rest) = e :: Occurrence.calls rest := rfl
        rw [hcalls]
        unfold dealing at ih ⊢
        cases hdeals : deals k e with
        | true =>
          rw [List.filter_cons_of_pos hdeals, List.map_cons, List.filter_cons, List.filter_cons, ih]
        | false =>
          have hneutral : informs k (.exchange e) = false := by
            obtain ⟨c, r⟩ := e
            cases c <;> first | rfl | exact hdeals
          rw [List.filter_cons_of_neg (by simp [hneutral]),
            List.filter_cons_of_neg (by simp [hdeals]), ih]
      | subscribe key policy => exact ih
      | next n => exact ih
      | leave n => exact ih
  exact foldl_view_congr (fun d : Distributor => d.updates k)
    (fun d _ => updates_after_of_not_informs d) (fun _ _ o => updates_after_congr o)
    (by rw [hinforms os, hinforms os', h]) rfl

end Distributor

end RelayFleet
