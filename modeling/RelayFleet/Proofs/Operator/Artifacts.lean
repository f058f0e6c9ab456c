/-
What becomes of every artifact when the operator brings them up to date (`runs_syncArtifacts`): it
is what the remembered contributions add up to, or its write was refused and it is what it was.
-/
import RelayFleet.Operator.Basic
import RelayFleet.Proofs.SortedSet
import RelayFleet.Proofs.Operator.Write

namespace RelayFleet

open Program OperatorExchange

/-! ## Exchanges for an artifact -/

namespace OperatorExchange

/-- Whether it is an attempt at writing or deleting the artifact of a key. -/
def touches (k : ObjectKey) : OperatorExchange → Bool
  | ⟨.write (.applyArtifact a), _⟩ => a.key = k
  | ⟨.write (.deleteArtifact key), _⟩ => key = k
  | _ => false

/-- The attempts at writing or deleting the artifact of a key. -/
def attempts (k : ObjectKey) (log : List OperatorExchange) : List OperatorExchange :=
  log.filter (touches k)

/-- Whether there were attempts, and all of them failed. -/
def AllFailed (log : List OperatorExchange) : Prop := log ≠ [] ∧ ∀ e ∈ log, ¬ e.Succeeds

/-- Whether the artifact of a key could not be written or deleted, for all attempts. -/
def Refused (k : ObjectKey) (log : List OperatorExchange) : Prop := AllFailed (attempts k log)

/-- Whether it leaves workloads as they are. -/
def SparesWorkloads : OperatorExchange → Prop
  | ⟨.write (.applyWorkload _), _⟩ => False
  | ⟨.write (.deleteWorkload _), _⟩ => False
  | _ => True

theorem not_refused_of_clean {log : List OperatorExchange} (hc : Clean log) (k : ObjectKey) :
    ¬ Refused k log := by
  rintro ⟨hne, hfailed⟩
  obtain ⟨e, he⟩ := List.exists_mem_of_ne_nil _ hne
  exact hfailed e he (hc e (List.mem_of_mem_filter he))

theorem attempts_append (k : ObjectKey) (l₁ l₂ : List OperatorExchange) :
    attempts k (l₁ ++ l₂) = attempts k l₁ ++ attempts k l₂ := List.filter_append ..

end OperatorExchange

theorem Derived.workloads_replay {d : Derived} {log : List OperatorExchange}
    (h : ∀ e ∈ log, e.SparesWorkloads) : (d.replay log).workloads = d.workloads := by
  induction log generalizing d with
  | nil => rfl
  | cons e rest ih =>
    show ((d.after e).replay rest).workloads = d.workloads
    rw [ih fun e he => h e (List.mem_cons_of_mem _ he)]
    have he := h e (List.mem_cons_self ..)
    obtain ⟨c, r⟩ := e
    cases c with
    | write w =>
      cases r with
      | error f => rfl
      | ok u => cases w <;> first | rfl | exact absurd he id
    | pause n => rfl
    | publish k d => rfl
    | retire k => rfl

namespace Operator

variable {settings : Settings} {s s' : Syncing} {d : Derived} {key k : ObjectKey}
  {wanted : Option Artifact} {log : List OperatorExchange}

/-! ## One artifact -/

/-- The write that leads to an artifact under a key, or none. -/
def writeOf (key : ObjectKey) : Option Artifact → ClusterWrite
  | some a => .applyArtifact a
  | none => .deleteArtifact key

/-- What subscribers of a key are told about its artifact. -/
def tidings (key : ObjectKey) : Option Artifact → OperatorExchange
  | some a => ⟨.publish key a.config, ()⟩
  | none => ⟨.retire key, ()⟩

/-- With an artifact under a key, or none. -/
def recording (op : Operator) (key : ObjectKey) : Option Artifact → Operator
  | some a => { op with artifacts := op.artifacts.insert key a }
  | none => { op with artifacts := op.artifacts.erase key }

/-- What seeing to the artifact of a key comes to: it is known to be as wanted, it was written and
told of, or it could not be written. -/
inductive Writes (key : ObjectKey) (wanted : Option Artifact) (s : Syncing) :
    List OperatorExchange → Syncing → Prop
  | known (h : s.1.artifacts.get? key = wanted) : Writes key wanted s [] s
  | done {before : List OperatorExchange} (h : ∀ e ∈ before, e.Idles (writeOf key wanted)) :
    Writes key wanted s
      (before ++ [⟨.write (writeOf key wanted), .ok ()⟩, tidings key wanted])
      (s.1.recording key wanted, s.2)
  | failed {before : List OperatorExchange} {f : Fault}
    (h : ∀ e ∈ before, e.Idles (writeOf key wanted)) :
    Writes key wanted s (before ++ [⟨.write (writeOf key wanted), .error f⟩]) (s.1, key :: s.2)

theorem runs_writeArtifact {a : Artifact} (h : Runs (writeArtifact settings s a) log s') :
    Writes a.key (some a) s log s' := by
  unfold writeArtifact at h
  split at h
  · rename_i hknown
    obtain ⟨rfl, rfl⟩ := runs_pure_iff.1 h
    exact .known hknown
  · obtain ⟨result, l₁, l₂, rfl, hwrite, hnext⟩ := runs_bind_iff.1 h
    obtain ⟨before, rfl, hbefore⟩ := OperatorProgram.runs_write hwrite
    cases result with
    | ok u =>
      obtain ⟨u', l₃, l₄, rfl, hpublish, hend⟩ := runs_bind_iff.1 hnext
      obtain ⟨rfl, rfl⟩ := runs_pure_iff.1 hend
      rw [runs_call_iff.1 hpublish, List.append_assoc]
      exact .done hbefore
    | error f =>
      obtain ⟨rfl, rfl⟩ := runs_pure_iff.1 hnext
      rw [List.append_nil]
      exact .failed hbefore

theorem runs_dropArtifact (h : Runs (dropArtifact settings s key) log s') :
    Writes key none s log s' := by
  obtain ⟨result, l₁, l₂, rfl, hwrite, hnext⟩ := runs_bind_iff.1 h
  obtain ⟨before, rfl, hbefore⟩ := OperatorProgram.runs_write hwrite
  cases result with
  | ok u =>
    obtain ⟨u', l₃, l₄, rfl, hretire, hend⟩ := runs_bind_iff.1 hnext
    obtain ⟨rfl, rfl⟩ := runs_pure_iff.1 hend
    rw [runs_call_iff.1 hretire, List.append_assoc]
    exact .done hbefore
  | error f =>
    obtain ⟨rfl, rfl⟩ := runs_pure_iff.1 hnext
    rw [List.append_nil]
    exact .failed hbefore

theorem Writes.gateways (h : Writes key wanted s log s') : s'.1.gateways = s.1.gateways := by
  cases h with
  | known => rfl
  | done => cases wanted <;> rfl
  | failed => rfl

/-- Seeing to an artifact is attempts at its write, and tidings of it. -/
theorem Writes.mem (h : Writes key wanted s log s') :
    ∀ e ∈ log, e.Attempts (writeOf key wanted) ∨ e = tidings key wanted := by
  intro e he
  cases h with
  | known => cases he
  | done h =>
    simp only [List.mem_append, List.mem_cons, List.not_mem_nil, or_false] at he
    rcases he with he | rfl | rfl
    · exact .inl (h e he).attempts
    · exact .inl rfl
    · exact .inr rfl
  | failed h =>
    rw [List.mem_append, List.mem_singleton] at he
    rcases he with he | rfl
    · exact .inl (h e he).attempts
    · exact .inl rfl

theorem sparesWorkloads_of_attempts {e : OperatorExchange}
    (h : e.Attempts (writeOf key wanted)) : e.SparesWorkloads := by
  obtain ⟨c, r⟩ := e
  cases c with
  | write w =>
    have hw : w = writeOf key wanted := h
    subst hw
    cases wanted <;> trivial
  | pause n => trivial
  | publish k d => trivial
  | retire k => trivial

theorem Writes.sparesWorkloads (h : Writes key wanted s log s') :
    ∀ e ∈ log, e.SparesWorkloads := by
  intro e he
  rcases h.mem e he with hattempt | rfl
  · exact sparesWorkloads_of_attempts hattempt
  · cases wanted <;> trivial

/-! ## Entries -/

/-- What is remembered of an artifact, what is stored, whether its write failed, and the attempts
at writing it. -/
structure ArtifactEntry where
  remembered : Option Artifact
  stored : Option Artifact
  failed : Bool
  attempts : List OperatorExchange

/-- The entry of a key after some exchanges. -/
def artifactEntry (d : Derived) (k : ObjectKey) (s : Syncing) (log : List OperatorExchange) :
    ArtifactEntry where
  remembered := s.1.artifacts.get? k
  stored := (d.replay log).artifacts.get? k
  failed := s.2.contains k
  attempts := OperatorExchange.attempts k log

/-- What becomes of the entry of an artifact that was not tried before: it is as wanted, or all
attempts failed and it is what it was. -/
inductive ArtifactEntry.Outcome (wanted : Option Artifact) (v v' : ArtifactEntry) : Prop
  | settled (hr : v'.remembered = wanted) (hs : v'.stored = wanted) (hf : v'.failed = false)
    (ha : ¬ AllFailed v'.attempts)
  | refused (hr : v'.remembered = v.remembered) (hs : v'.stored = v.stored)
    (hf : v'.failed = true) (ha : AllFailed v'.attempts)

/-- Whether the entry of an artifact that was not tried becomes what is wanted, or is refused. -/
def ArtifactEntry.Attempted (wanted : Option Artifact) (v v' : ArtifactEntry) : Prop :=
  v.failed = false → v.attempts = [] → v.remembered = v.stored → v.Outcome wanted v'

theorem touches_writeOf (hkey : ∀ a, wanted = some a → a.key = key) (r : Except Fault Unit) :
    touches k ⟨.write (writeOf key wanted), r⟩ = decide (key = k) := by
  cases wanted with
  | some a =>
    show decide (a.key = k) = _
    rw [hkey a rfl]
  | none => rfl

/-- Failed attempts at one artifact are no attempts at another one. -/
theorem attempts_of_idles_ne (hkey : ∀ a, wanted = some a → a.key = key) (hk : k ≠ key)
    (h : ∀ e ∈ log, e.Idles (writeOf key wanted)) : attempts k log = [] := by
  refine List.filter_eq_nil_iff.2 fun e he => ?_
  have hidle := h e he
  obtain ⟨c, r⟩ := e
  cases c with
  | write w =>
    cases r with
    | ok u => exact absurd hidle id
    | error f =>
      have hw : w = writeOf key wanted := hidle
      subst hw
      rw [touches_writeOf hkey]
      simpa using hk.symm
  | _ => exact Bool.false_ne_true

theorem not_succeeds_of_idles {w : ClusterWrite} {e : OperatorExchange} (h : e.Idles w)
    (ht : touches k e = true) : ¬ e.Succeeds := by
  obtain ⟨c, r⟩ := e
  cases c with
  | write w' =>
    cases r with
    | ok u => exact absurd h id
    | error f => exact id
  | pause n => cases ht
  | publish k d => cases ht
  | retire k => cases ht

theorem attempts_tidings (wanted : Option Artifact) : attempts k [tidings key wanted] = [] := by
  cases wanted <;> rfl

theorem get?_recording_self (op : Operator) (key : ObjectKey) (wanted : Option Artifact) :
    (op.recording key wanted).artifacts.get? key = wanted := by
  cases wanted with
  | some a => exact SortedMap.get?_insert_self _ _ _
  | none => exact SortedMap.get?_erase_self _ _

theorem get?_recording_of_ne (op : Operator) (wanted : Option Artifact) (hk : k ≠ key) :
    (op.recording key wanted).artifacts.get? k = op.artifacts.get? k := by
  cases wanted with
  | some a => exact SortedMap.get?_insert_of_ne _ _ hk
  | none => exact SortedMap.get?_erase_of_ne _ hk

theorem replay_done (hbefore : ∀ e ∈ log, e.Idles (writeOf key wanted)) (d : Derived) :
    d.replay (log ++ [⟨.write (writeOf key wanted), .ok ()⟩, tidings key wanted]) =
      d.write (writeOf key wanted) := by
  rw [Derived.replay_append, Derived.replay_idle d hbefore]
  cases wanted <;> rfl

theorem replay_failed {f : Fault} (hbefore : ∀ e ∈ log, e.Idles (writeOf key wanted))
    (d : Derived) : d.replay (log ++ [⟨.write (writeOf key wanted), .error f⟩]) = d := by
  rw [Derived.replay_append, Derived.replay_idle d hbefore]
  rfl

theorem artifact_write_self (hkey : ∀ a, wanted = some a → a.key = key) (d : Derived) :
    (d.write (writeOf key wanted)).artifacts.get? key = wanted := by
  cases wanted with
  | some a =>
    show (d.artifacts.insert a.key a).get? key = some a
    rw [hkey a rfl, SortedMap.get?_insert_self]
  | none => exact SortedMap.get?_erase_self _ _

theorem artifact_write_of_ne (hkey : ∀ a, wanted = some a → a.key = key) (d : Derived)
    (hk : k ≠ key) : (d.write (writeOf key wanted)).artifacts.get? k = d.artifacts.get? k := by
  cases wanted with
  | some a =>
    show (d.artifacts.insert a.key a).get? k = _
    rw [hkey a rfl, SortedMap.get?_insert_of_ne _ _ hk]
  | none => exact SortedMap.get?_erase_of_ne _ hk

/-- Seeing to one artifact leaves the entries of the others as they are. -/
theorem Writes.entry_of_ne (h : Writes key wanted s log s')
    (hkey : ∀ a, wanted = some a → a.key = key) (before : List OperatorExchange) (hk : k ≠ key) :
    artifactEntry d k s' (before ++ log) = artifactEntry d k s before := by
  have htouch : ∀ r, attempts k [⟨.write (writeOf key wanted), r⟩] = [] := fun r => by
    unfold attempts
    rw [List.filter_singleton, touches_writeOf hkey, decide_eq_false hk.symm]
    rfl
  unfold artifactEntry
  cases h with
  | known => rw [List.append_nil]
  | done h =>
    rw [Derived.replay_append, replay_done h, artifact_write_of_ne hkey _ hk,
      get?_recording_of_ne _ _ hk, attempts_append, attempts_append, attempts_of_idles_ne hkey hk h,
      ← List.singleton_append, attempts_append, htouch, attempts_tidings]
    simp
  | failed h =>
    rw [Derived.replay_append, replay_failed h, attempts_append, attempts_append,
      attempts_of_idles_ne hkey hk h, htouch]
    simp [hk]

theorem Writes.entry_self (h : Writes key wanted s log s')
    (hkey : ∀ a, wanted = some a → a.key = key) (before : List OperatorExchange) :
    (artifactEntry d key s before).Attempted wanted (artifactEntry d key s' (before ++ log)) := by
  intro hf ha hag
  have hself : ∀ r, touches key ⟨.write (writeOf key wanted), r⟩ = true := fun r => by
    rw [touches_writeOf hkey, decide_eq_true rfl]
  cases h with
  | known hknown =>
    rw [List.append_nil]
    refine .settled hknown (hag.symm.trans hknown) hf ?_
    rintro ⟨hne, -⟩
    exact hne ha
  | done h =>
    refine .settled (get?_recording_self _ _ _) ?_ hf ?_
    · show (d.replay (before ++ _)).artifacts.get? key = wanted
      rw [Derived.replay_append, replay_done h, artifact_write_self hkey]
    · rintro ⟨-, hall⟩
      exact hall ⟨.write (writeOf key wanted), .ok ()⟩
        (List.mem_filter.2 ⟨by simp, hself _⟩) trivial
  | @failed idle f h =>
    refine .refused rfl ?_ (by simp [artifactEntry]) ⟨?_, ?_⟩
    · show (d.replay (before ++ _)).artifacts.get? key = (d.replay before).artifacts.get? key
      rw [Derived.replay_append, replay_failed h]
    · exact List.ne_nil_of_mem (a := ⟨.write (writeOf key wanted), .error f⟩)
        (List.mem_filter.2 ⟨by simp, hself _⟩)
    · intro e he
      have hmem : e ∈ attempts key (before ++ (idle ++ [⟨.write (writeOf key wanted), .error f⟩])) :=
        he
      rw [attempts_append, show attempts key before = [] from ha, List.nil_append] at hmem
      obtain ⟨hin, ht⟩ := List.mem_filter.1 hmem
      rw [List.mem_append, List.mem_singleton] at hin
      rcases hin with hin | rfl
      · exact not_succeeds_of_idles (h e hin) ht
      · exact id

/-! ## Desired artifacts -/

/-- Adds a contribution to the artifact of one key, if it goes there. -/
def contributeTo (k : ObjectKey) (a : Option Artifact) (t : Tracked) : Option Artifact :=
  if t.target = some k then
    match t.contribution with
    | some contribution =>
      let before := a.getD { key := k }
      some { before with
        config := before.config.merge contribution
        owners := before.owners ++ t.owner.toList }
    | none => a
  else a

theorem get?_contribute (artifacts : SortedMap ObjectKey Artifact) (t : Tracked) (k : ObjectKey) :
    (contribute artifacts t).get? k = contributeTo k (artifacts.get? k) t := by
  unfold contribute contributeTo
  rcases ht : t.target with - | target
  · rfl
  · rcases hc : t.contribution with - | contribution
    · simp
    · by_cases hk : k = target
      · subst hk
        rw [if_pos rfl, SortedMap.get?_insert_self]
      · rw [if_neg fun e => hk (Option.some.inj e).symm, SortedMap.get?_insert_of_ne _ _ hk]

theorem get?_foldl_contribute (ts : List Tracked) (artifacts : SortedMap ObjectKey Artifact)
    (k : ObjectKey) :
    (ts.foldl contribute artifacts).get? k = ts.foldl (contributeTo k) (artifacts.get? k) := by
  induction ts generalizing artifacts with
  | nil => rfl
  | cons t rest ih => rw [List.foldl_cons, List.foldl_cons, ih, get?_contribute]

/-- The desired artifact of a key is made of the contributions to it. -/
theorem get?_desired (op : Operator) (k : ObjectKey) :
    op.desired.get? k = (op.gateways.values.foldl (contributeTo k) none).map tidy := by
  unfold desired
  rw [SortedMap.get?_map, get?_foldl_contribute, SortedMap.get?_empty]

theorem key_foldl_contributeTo {ts : List Tracked} {a : Option Artifact}
    (ha : ∀ b, a = some b → b.key = k) {b : Artifact} (h : ts.foldl (contributeTo k) a = some b) :
    b.key = k := by
  induction ts generalizing a with
  | nil => exact ha b h
  | cons t rest ih =>
    refine ih (fun c hc => ?_) h
    unfold contributeTo at hc
    split at hc
    · split at hc
      · cases hc
        cases a with
        | none => rfl
        | some a => exact ha a rfl
      · exact ha c hc
    · exact ha c hc

theorem key_of_get?_desired {op : Operator} {a : Artifact} (h : op.desired.get? k = some a) :
    a.key = k := by
  rw [get?_desired, Option.map_eq_some_iff] at h
  obtain ⟨b, hb, rfl⟩ := h
  show b.key = k
  exact key_foldl_contributeTo (a := none) (fun c hc => by cases hc) hb

/-- Something is contributed to every desired artifact. -/
theorem contribution_of_desired {op : Operator} {a : Artifact} (h : op.desired.get? k = some a) :
    ∃ key t, op.gateways.get? key = some t ∧ t.target = some k ∧ t.contribution ≠ none := by
  by_contra hnone
  push Not at hnone
  have hfold : op.gateways.values.foldl (contributeTo k) none = none := by
    refine List.foldlRecOn (motive := (· = none)) op.gateways.values _ rfl ?_
    rintro _ rfl t ht
    obtain ⟨key, hkey⟩ := SortedMap.mem_values_iff.1 ht
    unfold contributeTo
    split
    · rename_i htarget
      rw [hnone key t hkey htarget]
    · rfl
  rw [get?_desired, hfold] at h
  cases h

/-- What is forgotten contributes nothing. -/
theorem desired_forget (op : Operator) (failed : List ObjectKey) :
    (op.forget failed).desired = op.desired := by
  unfold desired forget
  rw [SortedMap.foldl_values_filter]
  intro _ t artifacts hforgotten
  have hclean : t.isClean = true := by
    by_contra hdirty
    simp [hdirty] at hforgotten
  have hcontribution : t.contribution = none := by
    unfold Tracked.isClean at hclean
    simp only [Bool.and_eq_true, Option.isNone_iff_eq_none] at hclean
    exact hclean.1.1
  unfold contribute
  rw [hcontribution]
  cases t.target <;> rfl

theorem map_key_desired (op : Operator) : op.desired.values.map (·.key) = op.desired.keys := by
  unfold SortedMap.values SortedMap.keys
  rw [List.map_map]
  exact List.map_congr_left fun b hb => key_of_get?_desired (SortedMap.get?_eq_some_iff.2 hb)

theorem mem_stale_iff {op : Operator} {desired : SortedMap ObjectKey Artifact} :
    k ∈ op.stale desired ↔
      ((∃ a, op.artifacts.get? k = some a) ∨ ∃ t ∈ op.gateways.values, t.target = some k) ∧
        desired.get? k = none := by
  unfold stale
  rw [List.mem_filter, SortedSet.mem_ofList, List.mem_append, SortedMap.mem_keys_iff,
    List.mem_filterMap]
  simp [SortedMap.contains_eq_false_iff]

theorem nodup_stale (op : Operator) (desired : SortedMap ObjectKey Artifact) :
    (op.stale desired).Nodup := by
  unfold stale
  refine List.Nodup.filter _ ?_
  exact (SortedSet.ofList _).sorted.imp fun h => SortedMap.ne_of_lt h

/-! ## All artifacts -/

/-- What is remembered of an artifact that was seen to is what is stored. -/
theorem ArtifactEntry.Outcome.agrees {v v' : ArtifactEntry} (h : v.Outcome wanted v')
    (hv : v.remembered = v.stored) : v'.remembered = v'.stored := by
  cases h with
  | settled hr hs => rw [hr, hs]
  | refused hr hs => rw [hr, hs, hv]

theorem runs_writeArtifacts {op : Operator} {s : Syncing}
    (h : Runs (op.desired.values.foldlM (writeArtifact settings) s) log s') :
    s'.1.gateways = s.1.gateways ∧ (∀ e ∈ log, e.SparesWorkloads) ∧
      (∀ k, op.desired.get? k = none → artifactEntry d k s' log = artifactEntry d k s []) ∧
      ∀ k a, op.desired.get? k = some a →
        (artifactEntry d k s []).Attempted (some a) (artifactEntry d k s' log) := by
  have hsteps : ∀ s a log s', Runs (writeArtifact settings s a) log s' →
      Writes a.key (some a) s log s' := fun s a log s' h => runs_writeArtifact h
  have hkey : ∀ a b : Artifact, some a = some b → b.key = a.key := by
    rintro a b ⟨⟩
    rfl
  obtain ⟨hothers, hkeys⟩ := runs_foldlM_keyed Artifact.key (artifactEntry d)
    (fun (a : Artifact) v v' _ => v.Attempted (some a) v')
    (by rw [map_key_desired]; exact SortedMap.nodup_keys _)
    (fun a _ s log s' h before k hk => (hsteps s a log s' h).entry_of_ne (hkey a) before hk)
    (fun a _ s log s' h before => (hsteps s a log s' h).entry_self (hkey a) before)
    h []
  rw [map_key_desired] at hothers
  refine ⟨?_, ?_, fun k hk => hothers k fun hmem => ?_, fun k a hk => ?_⟩
  · refine runs_foldlM_invariant (I := fun c => c.1.gateways = s.1.gateways) ?_ rfl h
    intro c hc a _ log c' h
    rw [(hsteps c a log c' h).gateways, hc]
  · refine runs_foldlM_forall ?_ h
    intro c a _ log c' h
    exact (hsteps c a log c' h).sparesWorkloads
  · obtain ⟨a, ha⟩ := SortedMap.mem_keys_iff.1 hmem
    rw [hk] at ha
    cases ha
  · obtain ⟨-, -, hP⟩ := hkeys a (SortedMap.mem_values_iff.2 ⟨k, hk⟩)
    rw [key_of_get?_desired hk] at hP
    exact hP

theorem runs_dropArtifacts {l : List ObjectKey} (hl : l.Nodup) {s : Syncing}
    (before : List OperatorExchange) (h : Runs (l.foldlM (dropArtifact settings) s) log s') :
    s'.1.gateways = s.1.gateways ∧ (∀ e ∈ log, e.SparesWorkloads) ∧
      (∀ k, k ∉ l → artifactEntry d k s' (before ++ log) = artifactEntry d k s before) ∧
      ∀ k ∈ l,
        (artifactEntry d k s before).Attempted none (artifactEntry d k s' (before ++ log)) := by
  have hsteps : ∀ s k log s', Runs (dropArtifact settings s k) log s' →
      Writes k none s log s' := fun s k log s' h => runs_dropArtifact h
  have hkey : ∀ (k : ObjectKey) (b : Artifact), none = some b → b.key = k := by rintro k b ⟨⟩
  obtain ⟨hothers, hkeys⟩ := runs_foldlM_keyed id (artifactEntry d)
    (fun (_ : ObjectKey) v v' _ => v.Attempted none v') (by rwa [List.map_id])
    (fun k _ s log s' h before k' hk => (hsteps s k log s' h).entry_of_ne (hkey k) before hk)
    (fun k _ s log s' h before => (hsteps s k log s' h).entry_self (hkey k) before)
    h before
  rw [List.map_id] at hothers
  refine ⟨?_, ?_, hothers, fun k hk => ?_⟩
  · refine runs_foldlM_invariant (I := fun c => c.1.gateways = s.1.gateways) ?_ rfl h
    intro c hc k _ log c' h
    rw [(hsteps c k log c' h).gateways, hc]
  · refine runs_foldlM_forall ?_ h
    intro c k _ log c' h
    exact (hsteps c k log c' h).sparesWorkloads
  · obtain ⟨-, -, hP⟩ := hkeys k hk
    exact hP

/-- Bringing the artifacts up to date makes every one what the contributions add up to, but for
those whose write was refused: they stay what they were. -/
theorem runs_syncArtifacts {op : Operator} (hag : op.artifacts = d.artifacts)
    (h : Runs (op.syncArtifacts settings) log s') :
    s'.1.gateways = op.gateways ∧ (d.replay log).workloads = d.workloads ∧
      s'.1.artifacts = (d.replay log).artifacts ∧
      ∀ k, (artifactEntry d k (op, []) []).Outcome (op.desired.get? k)
        (artifactEntry d k s' log) := by
  obtain ⟨c, l₁, l₂, rfl, hwrite, hdrop⟩ := runs_bind_iff.1 h
  obtain ⟨hgateways₁, hspares₁, hothers₁, hkeys₁⟩ := runs_writeArtifacts (d := d) hwrite
  obtain ⟨hgateways₂, hspares₂, hothers₂, hkeys₂⟩ :=
    runs_dropArtifacts (d := d) (nodup_stale c.1 op.desired) l₁ hdrop
  have hfresh : ∀ k, (artifactEntry d k (op, []) []).remembered =
      (artifactEntry d k (op, []) []).stored := fun k => by
    show op.artifacts.get? k = d.artifacts.get? k
    rw [hag]
  have houtcome : ∀ k, (artifactEntry d k (op, []) []).Outcome (op.desired.get? k)
      (artifactEntry d k s' (l₁ ++ l₂)) := by
    intro k
    by_cases hstale : k ∈ c.1.stale op.desired
    · -- what is stale is not desired, so only the second fold touched it
      have hnone := (mem_stale_iff.1 hstale).2
      have hentry := hkeys₂ k hstale
      rw [hothers₁ k hnone] at hentry
      rw [hnone]
      exact hentry rfl rfl (hfresh k)
    · rw [hothers₂ k hstale]
      rcases hd : op.desired.get? k with - | a
      · -- what is neither stale nor desired was not remembered
        have hforgotten : op.artifacts.get? k = none := by
          have hsame := congrArg ArtifactEntry.remembered (hothers₁ k hd)
          refine Option.eq_none_iff_forall_ne_some.2 fun a ha => hstale ?_
          exact mem_stale_iff.2 ⟨.inl ⟨a, hsame.trans ha⟩, hd⟩
        rw [hothers₁ k hd]
        exact .settled hforgotten ((hfresh k).symm.trans hforgotten) rfl fun hall => hall.1 rfl
      · exact hkeys₁ k a hd rfl rfl (hfresh k)
  refine ⟨hgateways₂.trans hgateways₁, ?_, ?_, houtcome⟩
  · refine Derived.workloads_replay fun e he => ?_
    rcases List.mem_append.1 he with he | he
    · exact hspares₁ e he
    · exact hspares₂ e he
  · exact SortedMap.ext_get? fun k => (houtcome k).agrees (hfresh k)

end Operator

end RelayFleet
