/-
What subscribers are told agrees with what is stored (`documents_agree`). The operator tells its
subscribers of an artifact right after it was written or deleted, and at no other time (`Told`); so
whatever calls fail, and whatever subscribers do meanwhile, the latest document of a key is that of
the stored artifact, and every document that is delivered was stored before, or is the empty one
after a deletion.
-/
import RelayFleet.Proofs.Distribution.Basic
import RelayFleet.Proofs.Operator.Settled

namespace RelayFleet

open Program

/-! ## Occurrences -/

/-- What happens around a distributor: the operator makes a call, or a subscriber comes, asks for
what is next, or goes. -/
inductive Occurrence where
  | exchange (e : OperatorExchange)
  | subscribe (key : ObjectKey) (policy : DeliveryPolicy)
  | next (number : Nat)
  | leave (number : Nat)

namespace Occurrence

/-- The call that the operator made, if it did. -/
def exchange? : Occurrence → Option OperatorExchange
  | exchange e => some e
  | _ => none

/-- The calls that the operator made. -/
def calls (os : List Occurrence) : List OperatorExchange := os.filterMap exchange?

theorem calls_append (os os' : List Occurrence) :
    calls (os ++ os') = calls os ++ calls os' := List.filterMap_append

theorem mem_of_mem_calls {os : List Occurrence} {e : OperatorExchange}
    (h : e ∈ calls os) : exchange e ∈ os := by
  obtain ⟨o, ho, he⟩ := List.mem_filterMap.1 h
  cases o with
  | exchange e' =>
    cases he
    exact ho
  | _ => cases he

end Occurrence

namespace Distributor

/-- The distributor after an occurrence. -/
def after (d : Distributor) : Occurrence → Distributor
  | .exchange ⟨.publish key config, _⟩ => (d.publish key config).2
  | .exchange ⟨.retire key, _⟩ => d.remove key
  | .exchange _ => d
  | .subscribe key policy => (d.subscribe key policy).2
  | .next number => (d.next number).2
  | .leave number => d.unsubscribe number

/-- The distributor after occurrences, one after the other. -/
def replay (d : Distributor) (os : List Occurrence) : Distributor := os.foldl after d

end Distributor

/-! ## What was told -/

namespace OperatorExchange

/-- Whether neither an artifact nor what is known of it is changed. -/
def Neutral (e : OperatorExchange) : Prop := e.SparesArtifacts ∨ ¬ e.Succeeds

/-- What subscribers were told last, by key, once they are told of an exchange too. -/
def tell (news : SortedMap ObjectKey Document) : OperatorExchange → SortedMap ObjectKey Document
  | ⟨.publish key config, _⟩ => news.insert key config
  | ⟨.retire key, _⟩ => news.erase key
  | _ => news

/-- Whether each artifact that was written or deleted was told of right away, and nothing else was
told. -/
inductive Told : List OperatorExchange → Prop
  | nil : Told []
  | neutral {e : OperatorExchange} {rest : List OperatorExchange} (he : e.Neutral)
    (h : Told rest) : Told (e :: rest)
  | written {key : ObjectKey} {wanted : Option Artifact} {rest : List OperatorExchange}
    (hkey : ∀ a, wanted = some a → a.key = key) (h : Told rest) :
    Told (⟨.write (Operator.writeOf key wanted), .ok ()⟩ :: Operator.tidings key wanted :: rest)

theorem Told.append {l₁ l₂ : List OperatorExchange} (h₁ : Told l₁) (h₂ : Told l₂) :
    Told (l₁ ++ l₂) := by
  induction h₁ with
  | nil => exact h₂
  | neutral he _ ih => exact .neutral he ih
  | written hkey _ ih => exact .written hkey ih

theorem told_of_neutral {log : List OperatorExchange} (h : ∀ e ∈ log, e.Neutral) : Told log := by
  induction log with
  | nil => exact .nil
  | cons e rest ih =>
    exact .neutral (h e (List.mem_cons_self ..)) (ih fun e he => h e (List.mem_cons_of_mem _ he))

theorem Idles.neutral {w : ClusterWrite} {e : OperatorExchange} (h : e.Idles w) : e.Neutral := by
  obtain ⟨c, r⟩ := e
  cases c with
  | write w' =>
    cases r with
    | ok u => exact absurd h id
    | error f => exact .inr id
  | pause n => exact .inl trivial
  | publish k d => exact absurd h id
  | retire k => exact absurd h id

/-- What was told last agrees with what is stored. -/
theorem Told.agrees {log : List OperatorExchange} (h : Told log) {d : Derived}
    {news : SortedMap ObjectKey Document}
    (hag : ∀ k, news.get? k = (d.artifacts.get? k).map (·.config)) (k : ObjectKey) :
    (log.foldl tell news).get? k = ((d.replay log).artifacts.get? k).map (·.config) := by
  induction h generalizing d news with
  | nil => exact hag k
  | @neutral e rest he _ ih =>
    refine ih (d := d.after e) fun k => ?_
    have hsame : tell news e = news ∧ (d.after e).artifacts = d.artifacts := by
      obtain ⟨c, r⟩ := e
      cases c with
      | write w =>
        refine ⟨rfl, ?_⟩
        rcases he with he | he
        · exact Derived.artifacts_after he
        · cases r with
          | ok u => exact absurd trivial he
          | error f => rfl
      | pause n => exact ⟨rfl, rfl⟩
      | publish k c => exact he.elim (fun h => absurd h id) fun h => absurd trivial h
      | retire k => exact he.elim (fun h => absurd h id) fun h => absurd trivial h
    rw [hsame.1, hsame.2]
    exact hag k
  | @written key wanted rest hkey _ ih =>
    have hreplay : d.replay (⟨.write (Operator.writeOf key wanted), .ok ()⟩ ::
        Operator.tidings key wanted :: rest) =
          (d.write (Operator.writeOf key wanted)).replay rest := by
      cases wanted <;> rfl
    rw [hreplay]
    show (rest.foldl tell (tell news (Operator.tidings key wanted))).get? k = _
    refine ih fun k => ?_
    by_cases hk : k = key
    · subst hk
      rw [Operator.artifact_write_self hkey]
      cases wanted with
      | some a => exact SortedMap.get?_insert_self _ _ _
      | none => exact SortedMap.get?_erase_self _ _
    · rw [Operator.artifact_write_of_ne hkey d hk, ← hag k]
      cases wanted with
      | some a => exact SortedMap.get?_insert_of_ne _ _ hk
      | none => exact SortedMap.get?_erase_of_ne _ hk

/-- Whether an exchange tells subscribers of nothing but what was written or deleted before. -/
def Backed (before : List OperatorExchange) : OperatorExchange → Prop
  | ⟨.publish key c, _⟩ =>
    ∃ a, ⟨.write (.applyArtifact a), .ok ()⟩ ∈ before ∧ a.key = key ∧ a.config = c
  | ⟨.retire key, _⟩ => ⟨.write (.deleteArtifact key), .ok ()⟩ ∈ before
  | _ => True

theorem Backed.cons {before : List OperatorExchange} {e : OperatorExchange} (h : e.Backed before)
    (x : OperatorExchange) : e.Backed (x :: before) := by
  obtain ⟨c, r⟩ := e
  cases c with
  | publish key c =>
    obtain ⟨a, hmem, ha⟩ := h
    exact ⟨a, List.mem_cons_of_mem _ hmem, ha⟩
  | retire key => exact List.mem_cons_of_mem _ h
  | write w => trivial
  | pause n => trivial

theorem Neutral.backed {e : OperatorExchange} (h : e.Neutral) (before : List OperatorExchange) :
    e.Backed before := by
  obtain ⟨c, r⟩ := e
  cases c with
  | publish key c => exact h.elim (fun h => absurd h id) fun h => absurd trivial h
  | retire key => exact h.elim (fun h => absurd h id) fun h => absurd trivial h
  | write w => trivial
  | pause n => trivial

/-- Whether subscribers were told of nothing that was not written or deleted before. -/
def Founded (log : List OperatorExchange) : Prop :=
  ∀ before e rest, log = before ++ e :: rest → e.Backed before

theorem Founded.of_append {l₁ l₂ : List OperatorExchange} (h : Founded (l₁ ++ l₂)) :
    Founded l₁ := by
  rintro before e rest rfl
  exact h before e (rest ++ l₂) (by rw [List.append_assoc, List.cons_append])

theorem Told.founded {log : List OperatorExchange} (h : Told log) : Founded log := by
  induction h with
  | nil =>
    intro before e rest he
    exact absurd he.symm (by simp)
  | neutral he _ ih =>
    intro before e rest hlog
    cases before with
    | nil =>
      cases hlog
      exact he.backed []
    | cons x before =>
      cases hlog
      exact (ih before e rest rfl).cons _
  | @written key wanted _ hkey _ ih =>
    intro before e rest hlog
    -- the write, the tidings of it, or what comes after both
    rcases before with - | ⟨x, - | ⟨y, before⟩⟩
    · cases hlog
      trivial
    · obtain ⟨rfl, hrest⟩ := List.cons_eq_cons.1 hlog
      obtain ⟨rfl, -⟩ := List.cons_eq_cons.1 hrest
      cases wanted with
      | some a => exact ⟨a, List.mem_cons_self .., hkey a rfl, rfl⟩
      | none => exact List.mem_cons_self ..
    · cases hlog
      exact ((ih before e rest rfl).cons _).cons _

/-- What precedes some exchange was all told, but for an artifact that was only just written. -/
theorem Told.of_append {log : List OperatorExchange} (h : Told log) {l₁ l₂ : List OperatorExchange}
    (he : log = l₁ ++ l₂) :
    Told l₁ ∨ ∃ before key wanted, l₁ = before ++ [⟨.write (Operator.writeOf key wanted), .ok ()⟩] ∧
      (∀ a, wanted = some a → a.key = key) ∧ Told before := by
  induction h generalizing l₁ with
  | nil =>
    rw [(List.append_eq_nil_iff.1 he.symm).1]
    exact .inl .nil
  | @neutral e rest hneutral _ ih =>
    cases l₁ with
    | nil => exact .inl .nil
    | cons x l₁ =>
      cases he
      rcases ih rfl with h | ⟨before, key, wanted, rfl, hkey, hbefore⟩
      · exact .inl (.neutral hneutral h)
      · exact .inr ⟨e :: before, key, wanted, rfl, hkey, .neutral hneutral hbefore⟩
  | @written key wanted rest hkey _ ih =>
    rcases l₁ with - | ⟨x, - | ⟨y, l₁⟩⟩
    · exact .inl .nil
    · obtain ⟨rfl, -⟩ := List.cons_eq_cons.1 he
      exact .inr ⟨[], key, wanted, rfl, hkey, .nil⟩
    · cases he
      rcases ih rfl with h | ⟨before, key', wanted', rfl, hkey', hbefore⟩
      · exact .inl (.written hkey h)
      · exact .inr ⟨_ :: _ :: before, key', wanted', rfl, hkey', .written hkey hbefore⟩

end OperatorExchange

/-! ## What the operator tells -/

namespace Operator

open OperatorExchange

variable {settings : Settings} {op op' : Operator} {sweep : Sweep} {d : Derived}
  {log : List OperatorExchange}

theorem Writes.told {s s' : Syncing} {key : ObjectKey} {wanted : Option Artifact}
    (h : Writes key wanted s log s') (hkey : ∀ a, wanted = some a → a.key = key) : Told log := by
  cases h with
  | known => exact .nil
  | done h => exact (told_of_neutral fun e he => (h e he).neutral).append (.written hkey .nil)
  | failed h =>
    refine (told_of_neutral fun e he => (h e he).neutral).append ?_
    exact .neutral (.inr id) .nil

theorem told_foldlM {α β : Type} {f : β → α → OperatorProgram β} {l : List α}
    (hf : ∀ b, ∀ a ∈ l, ∀ log c, Runs (f b a) log c → Told log) {b c : β}
    (h : Runs (l.foldlM f b) log c) : Told log := by
  induction l generalizing b log with
  | nil =>
    rw [(runs_foldlM_nil_iff.1 h).1]
    exact .nil
  | cons a rest ih =>
    obtain ⟨c', l₁, l₂, rfl, h₁, h₂⟩ := runs_foldlM_cons_iff.1 h
    exact (hf b a (List.mem_cons_self ..) l₁ c' h₁).append
      (ih (fun b x hx => hf b x (List.mem_cons_of_mem _ hx)) h₂)

theorem told_syncArtifacts {s : Syncing} (h : Runs (op.syncArtifacts settings) log s) :
    Told log := by
  obtain ⟨c, l₁, l₂, rfl, hwrite, hdrop⟩ := runs_bind_iff.1 h
  refine (told_foldlM (fun b a _ log c h => ?_) hwrite).append
    (told_foldlM (fun b k _ log c h => ?_) hdrop)
  · exact (runs_writeArtifact h).told (by rintro _ ⟨⟩; rfl)
  · exact (runs_dropArtifact h).told (by rintro _ ⟨⟩)

/-- A reconciliation tells of every artifact right after it was written, for any sweep. -/
theorem told_reconcile {result : List ObjectKey × Operator}
    (h : Runs (op.reconcile settings sweep) log result) : Told log := by
  rw [reconcile_eq] at h
  obtain ⟨mid, l₁, l₂, rfl, hattend, hnext⟩ := runs_bind_iff.1 h
  obtain ⟨s, l₃, l₄, rfl, hsync, hend⟩ := runs_bind_iff.1 hnext
  obtain ⟨rfl, -⟩ := runs_pure_iff.1 hend
  rw [List.append_nil]
  exact (told_of_neutral fun e he => .inl ((attend_spares hattend).2 e he)).append
    (told_syncArtifacts hsync)

/-- A reconciliation of any sweep keeps track of the stored artifacts. -/
theorem artifacts_reconcile (hag : op.artifacts = d.artifacts) {release : List ObjectKey}
    (h : Runs (op.reconcile settings sweep) log (release, op')) :
    op'.artifacts = (d.replay log).artifacts := by
  rw [reconcile_eq] at h
  obtain ⟨mid, l₁, l₂, rfl, hattend, hnext⟩ := runs_bind_iff.1 h
  obtain ⟨s, l₃, l₄, rfl, hsync, hend⟩ := runs_bind_iff.1 hnext
  obtain ⟨rfl, hresult⟩ := runs_pure_iff.1 hend
  cases hresult
  obtain ⟨hartifacts, hspares⟩ := attend_spares hattend
  rw [List.append_nil, Derived.replay_append]
  refine (runs_syncArtifacts ?_ hsync).2.2.1
  rw [hartifacts, Derived.artifacts_replay hspares, hag]

theorem Reached.told {admits : Sweep → Prop} (h : Reached settings admits op log) :
    Told log := by
  induction h with
  | start => exact .nil
  | reconcile _ _ hr ih => exact ih.append (told_reconcile hr)

theorem Reached.artifacts {admits : Sweep → Prop} (h : Reached settings admits op log) :
    op.artifacts = (Derived.replay {} log).artifacts := by
  induction h with
  | start => rfl
  | reconcile _ _ hr ih =>
    rw [Derived.replay_append]
    exact artifacts_reconcile ih hr

end Operator

/-! ## What subscribers get -/

namespace Distributor

open OperatorExchange Occurrence

/-- What the operator does is told, and nothing else. -/
theorem config?_exchange {d : Distributor} {news : SortedMap ObjectKey Document}
    (h : ∀ k, d.config? k = news.get? k) (e : OperatorExchange) (k : ObjectKey) :
    (d.after (.exchange e)).config? k = (tell news e).get? k := by
  obtain ⟨c, r⟩ := e
  cases c with
  | publish key c =>
    show (d.publish key c).2.config? k = (news.insert key c).get? k
    rw [config?_publish, SortedMap.get?_insert, h]
  | retire key =>
    show (d.remove key).config? k = (news.erase key).get? k
    rw [config?_remove, SortedMap.get?_erase, h]
  | write w => exact h k
  | pause n => exact h k

/-- What subscribers do changes no document. -/
theorem config?_visit {o : Occurrence} (ho : o.exchange? = none) (d : Distributor)
    (k : ObjectKey) : (d.after o).config? k = d.config? k := by
  cases o with
  | exchange e => cases ho
  | subscribe key policy => exact config?_subscribe d key policy k
  | next n => exact config?_congr (topics_next d n) k
  | leave n => exact config?_unsubscribe d n k

/-- The latest documents are those that were told last, whatever subscribers do. -/
theorem config?_replay {d : Distributor} {news : SortedMap ObjectKey Document}
    (h : ∀ k, d.config? k = news.get? k) (os : List Occurrence) (k : ObjectKey) :
    (d.replay os).config? k = ((calls os).foldl tell news).get? k := by
  induction os generalizing d news with
  | nil => exact h k
  | cons o rest ih =>
    show ((d.after o).replay rest).config? k = _
    rcases ho : o.exchange? with - | e
    · have hcalls : calls (o :: rest) = calls rest := List.filterMap_cons_none ho
      rw [hcalls]
      exact ih fun k => (config?_visit ho d k).trans (h k)
    · have hcalls : calls (o :: rest) = e :: calls rest := List.filterMap_cons_some ho
      have he : o = .exchange e := by
        cases o <;> cases ho
        rfl
      rw [hcalls, List.foldl_cons, he]
      exact ih (config?_exchange h e)

/-- Whether a document was stored under a key before it was published there, or is the empty one
that was published after a deletion. -/
def Sourced (os : List Occurrence) (k : ObjectKey) (c : Document) : Prop :=
  (∃ before after a, os = before ++ .exchange ⟨.publish k c, ()⟩ :: after ∧
    .exchange ⟨.write (.applyArtifact a), .ok ()⟩ ∈ before ∧ a.key = k ∧ a.config = c) ∨
  c = Document.empty ∧ ∃ before after, os = before ++ .exchange ⟨.retire k, ()⟩ :: after ∧
    .exchange ⟨.write (.deleteArtifact k), .ok ()⟩ ∈ before

theorem Sourced.append {os : List Occurrence} {k : ObjectKey} {c : Document}
    (h : Sourced os k c) (o : Occurrence) : Sourced (os ++ [o]) k c := by
  rcases h with ⟨before, after, a, rfl, h⟩ | ⟨hc, before, after, rfl, h⟩
  · exact .inl ⟨before, after ++ [o], a, by simp, h⟩
  · exact .inr ⟨hc, before, after ++ [o], by simp, h⟩

theorem calls_snoc (os : List Occurrence) (e : OperatorExchange) :
    calls (os ++ [Occurrence.exchange e]) = calls os ++ [e] := calls_append os _

/-- If nothing is told but what was stored, subscribers have nothing else to get. -/
theorem sound_replay (buffer : Nat) {os : List Occurrence} (h : Founded (calls os)) :
    Sound (Sourced os) (replay { buffer } os) := by
  induction os using List.reverseRecOn with
  | nil => exact .start buffer
  | append_singleton os o ih =>
    have hbefore : Founded (calls os) := by
      rw [calls_append] at h
      exact h.of_append
    have hsound : Sound (Sourced (os ++ [o])) (replay { buffer } os) :=
      (ih hbefore).mono fun k c hc => hc.append o
    have hstep : replay { buffer } (os ++ [o]) = (replay { buffer } os).after o := List.foldl_concat ..
    rw [hstep]
    cases o with
    | exchange e =>
      rw [calls_snoc] at h
      obtain ⟨c, r⟩ := e
      cases c with
      | publish key c =>
        obtain ⟨a, hmem, ha⟩ := h _ _ [] rfl
        exact hsound.publish (.inl ⟨os, [], a, rfl, mem_of_mem_calls hmem, ha⟩)
      | retire key =>
        have hmem := h _ _ [] rfl
        exact hsound.remove (.inr ⟨rfl, os, [], rfl, mem_of_mem_calls hmem⟩)
      | write w => exact hsound
      | pause n => exact hsound
    | subscribe key policy => exact hsound.subscribe key policy
    | next n => exact hsound.next n
    | leave n => exact hsound.unsubscribe n

end Distributor

/-! ## Agreement -/

namespace Operator

open OperatorExchange Occurrence

variable {settings : Settings} {op : Operator} {log : List OperatorExchange}

theorem config?_start (buffer : Nat) (k : ObjectKey) :
    ({ buffer : Distributor }).config? k = (∅ : SortedMap ObjectKey Document).get? k := rfl

/-- Whether every update that a subscriber was given was stored, under the key that it subscribed
to, before it was published. -/
def DeliversStored (buffer : Nat) (os : List Occurrence) : Prop :=
  ∀ before number after u, os = before ++ .next number :: after →
    ((Distributor.replay { buffer } before).next number).1 = .update u →
      ∃ s, (Distributor.replay { buffer } before).subscriptions.get? number = some s ∧
        Distributor.Sourced before s.key u.config

theorem deliversStored_of_founded (buffer : Nat) {os : List Occurrence} (h : Founded (calls os)) :
    DeliversStored buffer os := by
  rintro before number after u rfl hu
  rw [calls_append] at h
  exact (Distributor.sound_replay buffer h.of_append).delivered hu

theorem config?_of_told (buffer : Nat) {os : List Occurrence} (h : Told (calls os))
    (k : ObjectKey) :
    (Distributor.replay { buffer } os).config? k =
      ((Derived.replay {} (calls os)).artifacts.get? k).map (·.config) := by
  rw [Distributor.config?_replay (config?_start buffer)]
  exact h.agrees (fun k => rfl) k

/-- What is published agrees with what is stored. At the end of every reconciliation, whatever calls
have failed, the latest document of a key is that of the stored artifact, which is the remembered
one; in the middle of one they agree but for an artifact that was only just written; and subscribers
are given stored documents only, or the empty one after a deletion. -/
theorem documents_agree (buffer : Nat) (h : Reached settings (fun _ => True) op log) :
    (∀ os, calls os = log → ∀ k,
      (Distributor.replay { buffer } os).config? k = (op.artifacts.get? k).map (·.config) ∧
      op.artifacts.get? k = (Derived.replay {} log).artifacts.get? k) ∧
    ∀ sweep l q, Reaches (op.reconcile settings sweep) l q → ∀ os, calls os = log ++ l →
      DeliversStored buffer os ∧
      ∀ k, (Distributor.replay { buffer } os).config? k =
          ((Derived.replay {} (log ++ l)).artifacts.get? k).map (·.config) ∨
        ∃ e, (log ++ l).getLast? = some e ∧ touches k e = true ∧ e.Succeeds := by
  refine ⟨?_, ?_⟩
  · rintro os rfl k
    rw [config?_of_told buffer h.told, h.artifacts]
    exact ⟨rfl, rfl⟩
  · intro sweep l q hq os hos
    obtain ⟨rest, result, hrun⟩ := hq.extends (OperatorCall.answered (.ok ()))
    have htold : Told (log ++ l ++ rest) := by
      rw [List.append_assoc]
      exact h.told.append (told_reconcile hrun)
    rw [← hos] at htold ⊢
    refine ⟨deliversStored_of_founded buffer htold.founded.of_append, fun k => ?_⟩
    rcases htold.of_append rfl with h | ⟨before, key, wanted, hlast, hkey, hbefore⟩
    · exact .inl (config?_of_told buffer h k)
    · by_cases hk : k = key
      · refine .inr ⟨⟨.write (writeOf key wanted), .ok ()⟩, ?_, ?_, trivial⟩
        · rw [hlast, List.getLast?_concat]
        · rw [touches_writeOf hkey, hk, decide_eq_true rfl]
      · refine .inl ?_
        -- only the artifact that was just written is ahead of what was told
        rw [Distributor.config?_replay (config?_start buffer), hlast, List.foldl_concat,
          Derived.replay_append]
        show (before.foldl tell ∅).get? k = _
        rw [hbefore.agrees (d := {}) (fun k => rfl)]
        show _ = (((Derived.replay {} before).write (writeOf key wanted)).artifacts.get? k).map _
        rw [artifact_write_of_ne hkey _ hk]

/-- The calls of the operator among occurrences that begin with a subscriber. -/
theorem calls_subscribe_map (key : ObjectKey) (policy : DeliveryPolicy)
    (log : List OperatorExchange) :
    calls (.subscribe key policy :: log.map Occurrence.exchange) = log := by
  show (log.map Occurrence.exchange).filterMap exchange? = log
  rw [List.filterMap_map]
  exact List.filterMap_some

/-- A subscriber that waits for an artifact before it is first written finds its document. -/
theorem documents_agree_for_first_gateway :
    ∃ (op : Operator) (log : List OperatorExchange) (os : List Occurrence),
      Reached {} (fun _ => True) op log ∧ calls os = log ∧
      ((Distributor.replay { buffer := 16 } os).config? (.namespaced "a" "t1")).map
        (fun c => c.listeners.map (·.name)) = some ["a/g/l"] := by
  let handler : Handler OperatorCall OperatorCall.Reply Unit := fun call u =>
    (OperatorCall.answered (.ok ()) call, u)
  obtain ⟨op, log, hreached, hstored⟩ : ∃ (op : Operator) (log : List OperatorExchange),
      Reached {} (fun _ => True) op log ∧ (op.artifacts.get? (.namespaced "a" "t1")).map
        (fun a => a.config.listeners.map (·.name)) = some ["a/g/l"] :=
    ⟨_, _, .reconcile .start trivial (runs_run handler (reconcile {} {} (Sweep.ofSnapshot {}
      (sampleSnapshot [sampleClass, sampleConfig "t1", sampleGateway]))) ()), by decide +kernel⟩
  have hos := calls_subscribe_map (.namespaced "a" "t1") .latest log
  refine ⟨op, log, _, hreached, hos, ?_⟩
  rw [((documents_agree 16 hreached).1 _ hos _).1, Option.map_map]
  exact hstored

end Operator

end RelayFleet
