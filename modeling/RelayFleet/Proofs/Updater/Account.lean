/-
The account that the updater gives of a flush, whatever its calls are answered. Every status that
was pending is in one list of the report, what failed stays pending as it was, and a resource is
missing if no object was read or the last answer says so. A resource is read and written no more
often than attempts are set, and every write presents the version that was read just before. A status
is written only while the batch that it came with is the newest (`accounts_for_all`).
-/
import RelayFleet.Proofs.Updater.Contention

namespace RelayFleet

open Program

/-! ## Exchanges about a resource -/

/-- The resource that a call is about. -/
def StatusCall.resource? : StatusCall → Option ResourceKey
  | get r => some r
  | patch r _ _ => some r
  | now => none

/-- Whether a call writes the status of a resource. -/
def StatusCall.writes (r : ResourceKey) : StatusCall → Bool
  | patch r' _ _ => r' = r
  | _ => false

namespace StatusExchange

/-- The fault that a call was answered with. -/
def fault? : StatusExchange → Option Fault
  | ⟨.get _, .error f⟩ => some f
  | ⟨.patch _ _ _, .error f⟩ => some f
  | _ => none

/-- The exchanges about a resource. -/
def about (r : ResourceKey) (log : List StatusExchange) : List StatusExchange :=
  log.filter (·.1.resource? = some r)

/-- Whether all exchanges that are about a resource are about this one. -/
def Keeps (r : ResourceKey) (log : List StatusExchange) : Prop :=
  ∀ e ∈ log, ∀ r', e.1.resource? = some r' → r' = r

/-- Whether a resource is gone by what was answered about it: a read found none, or the last answer
is a fault that says so. -/
def Gone (r : ResourceKey) (log : List StatusExchange) : Prop :=
  ⟨.get r, .ok none⟩ ∈ log ∨
    ∃ e f, (about r log).getLast? = some e ∧ e.fault? = some f ∧ f.isNotFound = true

/-- Whether a status was written for a resource and taken. -/
def Taken (r : ResourceKey) (log : List StatusExchange) : Prop :=
  ∃ version status, ⟨.patch r version status, .ok ()⟩ ∈ log

/-- Whether a resource was read with a status that is the desired one, stamped against it. -/
def Found (controller : String) (r : ResourceKey) (desired : ResourceStatus)
    (log : List StatusExchange) : Prop :=
  ∃ current now, ⟨.get r, .ok (some current)⟩ ∈ log ∧ ⟨.now, now⟩ ∈ log ∧
    current.status = some (desired.stamped current.status controller now)

variable {r : ResourceKey} {log : List StatusExchange}

theorem not_gone_nil : ¬ Gone r [] := by simp [Gone, about]

theorem not_taken_nil : ¬ Taken r [] := by simp [Taken]

theorem Found.mono {controller : String} {desired : ResourceStatus} {log' : List StatusExchange}
    (h : Found controller r desired log) (hsub : log ⊆ log') : Found controller r desired log' :=
  let ⟨current, now, hread, hnow, hsame⟩ := h
  ⟨current, now, hsub hread, hsub hnow, hsame⟩

theorem about_append (r : ResourceKey) (l₁ l₂ : List StatusExchange) :
    about r (l₁ ++ l₂) = about r l₁ ++ about r l₂ := List.filter_append ..

theorem Keeps.about_eq_nil {r' : ResourceKey} (h : Keeps r' log) (hne : r ≠ r') :
    about r log = [] := by
  refine List.filter_eq_nil_iff.2 fun e he hr => ?_
  exact hne (h e he r (by simpa using hr))

theorem mem_about_iff {e : StatusExchange} : e ∈ about r log ↔ e ∈ log ∧ e.1.resource? = some r := by
  simp [about]

theorem countP_about {p : StatusExchange → Bool} (hp : ∀ e, p e = true → e.1.resource? = some r)
    (log : List StatusExchange) : (about r log).countP p = log.countP p := by
  unfold about
  rw [List.countP_filter]
  refine List.countP_congr fun e _ => ?_
  simpa using hp e

theorem gone_about : Gone r (about r log) ↔ Gone r log := by
  have hidem : about r (about r log) = about r log := by simp [about, List.filter_filter]
  unfold Gone
  rw [hidem, mem_about_iff]
  simp [StatusCall.resource?]

theorem taken_about : Taken r (about r log) ↔ Taken r log := by
  unfold Taken
  simp [mem_about_iff, StatusCall.resource?]

theorem resource?_of_read {e : StatusExchange} (h : decide (e.1 = .get r) = true) :
    e.1.resource? = some r := by
  rw [of_decide_eq_true h]
  rfl

theorem resource?_of_writes {e : StatusExchange} (h : e.1.writes r = true) :
    e.1.resource? = some r := by
  obtain ⟨call, answer⟩ := e
  cases call with
  | patch r' version status => exact congrArg some (of_decide_eq_true h)
  | get _ => cases h
  | now => cases h

/-- Of keys that are told apart, each has its own exchanges. -/
theorem about_flatMap {part : ResourceKey → List StatusExchange} {l : List ResourceKey}
    (hnodup : l.Nodup) (hkeeps : ∀ k ∈ l, Keeps k (part k)) (r : ResourceKey) :
    about r (l.flatMap part) = if r ∈ l then about r (part r) else [] := by
  induction l with
  | nil => rfl
  | cons k rest ih =>
    obtain ⟨hk, hrest⟩ := List.nodup_cons.1 hnodup
    rw [List.flatMap_cons, about_append,
      ih hrest fun k hk => hkeeps k (List.mem_cons_of_mem _ hk)]
    by_cases hr : r = k
    · subst hr
      rw [if_neg hk, List.append_nil, if_pos (List.mem_cons_self ..)]
    · rw [(hkeeps k (List.mem_cons_self ..)).about_eq_nil hr]
      simp [hr]

end StatusExchange

/-! ## One attempt -/

variable {settings : Settings} {controller : String} {r : ResourceKey} {desired : ResourceStatus}
  {log : List StatusExchange} {outcome : Except Fault StatusOutcome}

namespace StatusProgram

open StatusExchange

/-- What an attempt may come to, and by what exchanges. -/
inductive Attempted (controller : String) (r : ResourceKey) (desired : ResourceStatus) :
    List StatusExchange → Except Fault StatusOutcome → Prop
  | unread (f : Fault) : Attempted controller r desired [⟨.get r, .error f⟩] (.error f)
  | missing : Attempted controller r desired [⟨.get r, .ok none⟩] (.ok .missing)
  | unchanged (current : CurrentStatus) (now : Timestamp)
      (hsame : current.status = some (desired.stamped current.status controller now)) :
      Attempted controller r desired [⟨.get r, .ok (some current)⟩, ⟨.now, now⟩] (.ok .unchanged)
  | written (current : CurrentStatus) (now : Timestamp) (answer : Except Fault Unit) :
      Attempted controller r desired
        [⟨.get r, .ok (some current)⟩, ⟨.now, now⟩, ⟨.patch r current.resourceVersion
          (desired.stamped current.status controller now), answer⟩]
        (answer.map fun _ => .patched)

theorem attempted_of_runs (h : Runs (attempt controller r desired) log outcome) :
    Attempted controller r desired log outcome := by
  obtain ⟨answer, l₁, l₂, rfl, hget, hrest⟩ := runs_bind_iff.1 h
  rw [runs_call_iff.1 hget]
  rcases answer with f | _ | current
  · obtain ⟨rfl, rfl⟩ := runs_pure_iff.1 hrest
    exact .unread f
  · obtain ⟨rfl, rfl⟩ := runs_pure_iff.1 hrest
    exact .missing
  · obtain ⟨now, l₃, l₄, rfl, hnow, hwrite⟩ := runs_bind_iff.1 hrest
    rw [runs_call_iff.1 hnow]
    dsimp only at hwrite
    split at hwrite
    · rename_i hsame
      obtain ⟨rfl, rfl⟩ := runs_pure_iff.1 hwrite
      exact .unchanged current now hsame
    · obtain ⟨answer, l₅, l₆, rfl, hpatch, hend⟩ := runs_bind_iff.1 hwrite
      obtain ⟨rfl, rfl⟩ := runs_pure_iff.1 hend
      rw [runs_call_iff.1 hpatch]
      exact .written current now answer

namespace Attempted

variable (h : Attempted controller r desired log outcome)

include h

theorem keeps : Keeps r log := by
  intro e he r' hr'
  cases h <;> simp only [List.mem_cons, List.not_mem_nil, or_false] at he <;>
    rcases he with rfl | rfl | rfl <;> first | exact (Option.some.inj hr').symm | cases hr'

theorem reads_le : log.countP (·.1 = .get r) ≤ 1 := by
  cases h <;> simp

theorem writes_le : log.countP (·.1.writes r) ≤ 1 := by
  cases h <;> simp [StatusCall.writes]

theorem missing_iff : outcome = .ok .missing ↔ ⟨.get r, .ok none⟩ ∈ log := by
  cases h with
  | written current now answer => cases answer <;> simp [Except.map]
  | _ => simp

theorem patched_iff : outcome = .ok .patched ↔ Taken r log := by
  unfold Taken
  cases h with
  | written current now answer => cases answer <;> simp [Except.map]
  | _ => simp

theorem found (ho : outcome = .ok .unchanged) : Found controller r desired log := by
  cases h with
  | unchanged current now hsame => exact ⟨current, now, by simp, by simp, hsame⟩
  | written current now answer => cases answer <;> cases ho
  | unread f => cases ho
  | missing => cases ho

/-- The last exchange of an attempt is about its resource, and it is a fault if the attempt fails. -/
theorem last : ∃ e, (about r log).getLast? = some e ∧ ∀ f, outcome = .error f ↔ e.fault? = some f := by
  cases h with
  | unread f =>
    exact ⟨⟨.get r, .error f⟩, by simp [about, StatusCall.resource?], by simp [fault?]⟩
  | missing =>
    exact ⟨⟨.get r, .ok none⟩, by simp [about, StatusCall.resource?], by simp [fault?]⟩
  | unchanged current now hsame =>
    exact ⟨⟨.get r, .ok (some current)⟩, by simp [about, StatusCall.resource?], by simp [fault?]⟩
  | written current now answer =>
    refine ⟨⟨.patch r current.resourceVersion (desired.stamped current.status controller now),
      answer⟩, by simp [about, StatusCall.resource?], fun f => ?_⟩
    cases answer <;> simp [fault?, Except.map]

end Attempted

/-! ## One status -/

/-- What a write does about its resource, as its exchanges tell. -/
structure Written (settings : Settings) (r : ResourceKey) (desired : ResourceStatus)
    (log : List StatusExchange) (outcome : Except Fault StatusOutcome) : Prop where
  keeps : Keeps r log
  reads : log.countP (·.1 = .get r) ≤ max 1 settings.statusRetryAttempts
  writes : log.countP (·.1.writes r) ≤ max 1 settings.statusRetryAttempts
  patched : outcome = .ok .patched ↔ Taken r log
  unchanged : outcome = .ok .unchanged → Found settings.controllerName r desired log
  missing : outcome = .ok .missing ↔ Gone r log

theorem settle_eq_missing_iff : settle outcome = .ok .missing ↔
    outcome = .ok .missing ∨ ∃ f, outcome = .error f ∧ f.isNotFound = true := by
  cases outcome with
  | ok o => simp [settle]
  | error f => by_cases hf : f.isNotFound = true <;> simp [settle, hf]

theorem settle_eq_ok_iff {o : StatusOutcome} (ho : o ≠ .missing) :
    settle outcome = .ok o ↔ outcome = .ok o := by
  cases outcome with
  | ok o' => rfl
  | error f => by_cases hf : f.isNotFound = true <;> simp [settle, hf, ho.symm]

section

variable {failed : List (List StatusExchange)} {last : List StatusExchange}
  (hfailed : ∀ part ∈ failed, ∃ f, Attempted controller r desired part (.error f))
  (hlast : Attempted controller r desired last outcome)

include hfailed

theorem attempted_of_mem {e : StatusExchange} (he : e ∈ failed.flatten) :
    ∃ part f, e ∈ part ∧ Attempted controller r desired part (.error f) := by
  obtain ⟨part, hpart, he⟩ := List.mem_flatten.1 he
  obtain ⟨f, hf⟩ := hfailed part hpart
  exact ⟨part, f, he, hf⟩

include hlast

theorem keeps_attempts : Keeps r (failed.flatten ++ last) := by
  intro e he
  rcases List.mem_append.1 he with he | he
  · obtain ⟨part, f, he, hattempt⟩ := attempted_of_mem hfailed he
    exact hattempt.keeps e he
  · exact hlast.keeps e he

/-- What is asked once at most in every attempt is asked no more often than attempts are made. -/
theorem countP_attempts_le {p : StatusExchange → Bool}
    (hp : ∀ {part outcome}, Attempted controller r desired part outcome → part.countP p ≤ 1) :
    (failed.flatten ++ last).countP p ≤ failed.length + 1 := by
  have hsum : (failed.map (List.countP p)).sum ≤ failed.length := by
    have hone : ∀ n ∈ failed.map (List.countP p), n ≤ 1 := by
      simp only [List.mem_map]
      rintro n ⟨part, hpart, rfl⟩
      obtain ⟨f, hf⟩ := hfailed part hpart
      exact hp hf
    simpa using List.sum_le_card_nsmul _ 1 hone
  rw [List.countP_append, List.countP_flatten]
  exact Nat.add_le_add hsum (hp hlast)

/-- Nothing is taken of an attempt that failed. -/
theorem taken_attempts_iff : Taken r (failed.flatten ++ last) ↔ settle outcome = .ok .patched := by
  rw [settle_eq_ok_iff (by decide), hlast.patched_iff]
  refine exists₂_congr fun version status => ?_
  rw [List.mem_append, or_iff_right]
  intro he
  obtain ⟨part, f, he, hattempt⟩ := attempted_of_mem hfailed he
  cases hattempt.patched_iff.2 ⟨version, status, he⟩

/-- An attempt that failed did not read that there is none, and its fault is not the last answer. -/
theorem gone_attempts_iff : Gone r (failed.flatten ++ last) ↔ settle outcome = .ok .missing := by
  have hfound : ⟨.get r, .ok none⟩ ∉ failed.flatten := fun he => by
    obtain ⟨part, f, he, hattempt⟩ := attempted_of_mem hfailed he
    cases hattempt.missing_iff.2 he
  obtain ⟨e, he, hfault⟩ := hlast.last
  have hend : (about r (failed.flatten ++ last)).getLast? = some e := by
    rw [about_append, List.getLast?_append, he]
    rfl
  unfold Gone
  rw [settle_eq_missing_iff, List.mem_append, or_iff_right hfound, hlast.missing_iff, hend]
  refine or_congr_right ⟨?_, ?_⟩
  · rintro ⟨e', f, he', hf, hgone⟩
    cases he'
    exact ⟨f, (hfault f).2 hf, hgone⟩
  · rintro ⟨f, hf, hgone⟩
    exact ⟨e, f, rfl, (hfault f).1 hf, hgone⟩

end

theorem written_of_runs (h : Runs (write settings r desired) log outcome) :
    Written settings r desired log outcome := by
  obtain ⟨result, hrun, rfl⟩ := runs_map_iff.1 h
  obtain ⟨failed, last, rfl, hlength, hfailed, hlast⟩ := Retry.runs_repeating_at_once hrun
  have hlast := attempted_of_runs hlast
  have hfailed : ∀ part ∈ failed, ∃ f,
      Attempted settings.controllerName r desired part (.error f) := fun part hpart =>
    (hfailed part hpart).imp fun f hf => attempted_of_runs hf.2
  have hattempts : failed.length + 1 ≤ max 1 settings.statusRetryAttempts := by omega
  exact {
    keeps := keeps_attempts hfailed hlast
    reads := (countP_attempts_le hfailed hlast (·.reads_le)).trans hattempts
    writes := (countP_attempts_le hfailed hlast (·.writes_le)).trans hattempts
    patched := (taken_attempts_iff hfailed hlast).symm
    unchanged := fun ho =>
      (hlast.found ((settle_eq_ok_iff (by decide)).1 ho)).mono (List.subset_append_right _ _)
    missing := (gone_attempts_iff hfailed hlast).symm }

end StatusProgram

/-! ## All statuses -/

/-- A report to which the outcomes for some resources were added. -/
theorem UpdateReport.foldl_add (outcome : ResourceKey → Except Fault StatusOutcome)
    (l : List ResourceKey) (report : UpdateReport) :
    l.foldl (fun report r => report.add r (outcome r)) report =
      { patched := report.patched ++ l.filter (outcome · = .ok .patched)
        unchanged := report.unchanged ++ l.filter (outcome · = .ok .unchanged)
        missing := report.missing ++ l.filter (outcome · = .ok .missing)
        failed := report.failed ++ l.filter fun r => ! (outcome r).toBool } := by
  induction l generalizing report with
  | nil => simp
  | cons r rest ih =>
    rw [List.foldl_cons, ih]
    rcases hr : outcome r with f | _ | _ | _ <;> simp [add, hr, Except.toBool]

namespace Updater

variable {u u' : Updater} {report : UpdateReport}

/-- A fold that tries to write statuses, as what is made of each. -/
theorem runs_foldlM_flushOne {l : List (ResourceKey × ResourceStatus)} (hnodup : (l.map (·.1)).Nodup)
    {start state : UpdateReport × Updater} (h : Runs (l.foldlM (flushOne settings) start) log state) :
    ∃ (part : ResourceKey → List StatusExchange) (outcome : ResourceKey → Except Fault StatusOutcome),
      (∀ b ∈ l, Runs (StatusProgram.write settings b.1 b.2) (part b.1) (outcome b.1)) ∧
      log = (l.map (·.1)).flatMap part ∧
      state.1 = l.foldl (fun report b => report.add b.1 (outcome b.1)) start.1 ∧
      state.2 = l.foldl (fun u b => u.keep b.1 b.2 (outcome b.1)) start.2 := by
  induction l generalizing start log with
  | nil =>
    obtain ⟨rfl, rfl⟩ := runs_foldlM_nil_iff.1 h
    exact ⟨fun _ => [], fun _ => .ok .missing, by simp, rfl, rfl, rfl⟩
  | cons b rest ih =>
    obtain ⟨next, l₁, l₂, rfl, h₁, h₂⟩ := runs_foldlM_cons_iff.1 h
    obtain ⟨result, l₃, l₄, rfl, hwrite, hend⟩ := runs_bind_iff.1 h₁
    obtain ⟨rfl, rfl⟩ := runs_pure_iff.1 hend
    rw [List.map_cons, List.nodup_cons] at hnodup
    obtain ⟨hb, hrest⟩ := hnodup
    obtain ⟨part, outcome, hruns, rfl, hreport, hkept⟩ := ih hrest h₂
    have hne : ∀ b' ∈ rest, b'.1 ≠ b.1 := fun b' hb' he => hb (he ▸ List.mem_map_of_mem hb')
    -- the later statuses are of other resources, so they do not see what is put in for this one
    refine ⟨Function.update part b.1 l₃, Function.update outcome b.1 result, fun b' hb' => ?_, ?_,
      ?_, ?_⟩
    · rcases List.mem_cons.1 hb' with rfl | hb'
      · rwa [Function.update_self, Function.update_self]
      · rw [Function.update_of_ne (hne b' hb'), Function.update_of_ne (hne b' hb')]
        exact hruns b' hb'
    · rw [List.map_cons, List.flatMap_cons, Function.update_self, List.append_nil]
      refine congrArg (l₃ ++ ·) (List.flatMap_congr fun k hk => ?_)
      rw [Function.update_of_ne fun he : k = b.1 => hb (he ▸ hk)]
    · rw [hreport, List.foldl_cons, Function.update_self]
      refine List.foldl_ext _ _ _ fun report b' hb' => ?_
      rw [Function.update_of_ne (hne b' hb')]
    · rw [hkept, List.foldl_cons, Function.update_self]
      refine List.foldl_ext _ _ _ fun u b' hb' => ?_
      rw [Function.update_of_ne (hne b' hb')]

/-- What is still pending after some statuses were tried. -/
theorem pending_foldl_keep (outcome : ResourceKey → Except Fault StatusOutcome)
    (l : List (ResourceKey × ResourceStatus)) (u : Updater) :
    (l.foldl (fun u b => u.keep b.1 b.2 (outcome b.1)) u).pending =
      (l.filter fun b => ! (outcome b.1).toBool).foldl (fun m b => m.insert b.1 b.2) u.pending := by
  induction l generalizing u with
  | nil => rfl
  | cons b rest ih =>
    rw [List.foldl_cons, ih]
    rcases hb : outcome b.1 with f | o <;> simp [keep, hb, Except.toBool]

/-- The exchanges of a flush and its outcomes, resource by resource. -/
structure Parted (settings : Settings) (u : Updater) (log : List StatusExchange)
    (part : ResourceKey → List StatusExchange) (outcome : ResourceKey → Except Fault StatusOutcome) :
    Prop where
  written : ∀ r desired, u.pending.get? r = some desired →
    StatusProgram.Written settings r desired (part r) (outcome r)
  joined : log = u.pending.keys.flatMap part

/-- A flush, as what is made of each status that was pending. -/
theorem runs_flush_parts (h : Runs (u.flush settings) log (report, u')) :
    ∃ part outcome, Parted settings u log part outcome ∧
      report =
        { patched := u.pending.keys.filter (outcome · = .ok .patched)
          unchanged := u.pending.keys.filter (outcome · = .ok .unchanged)
          missing := u.pending.keys.filter (outcome · = .ok .missing)
          failed := u.pending.keys.filter fun r => ! (outcome r).toBool } ∧
      u'.pending = u.pending.filter fun r _ => ! (outcome r).toBool := by
  obtain ⟨part, outcome, hruns, rfl, hreport, hkept⟩ :=
    runs_foldlM_flushOne (SortedMap.nodup_keys u.pending) h
  have hreport : report = u.pending.toList.foldl
    (fun report b => report.add b.1 (outcome b.1)) {} := hreport
  have hkept : u' = u.pending.toList.foldl (fun u b => u.keep b.1 b.2 (outcome b.1)) {} := hkept
  refine ⟨part, outcome, ⟨fun r desired hr => ?_, rfl⟩, ?_, ?_⟩
  · exact StatusProgram.written_of_runs (hruns (r, desired) (SortedMap.get?_eq_some_iff.1 hr))
  · have hkeys := UpdateReport.foldl_add outcome u.pending.keys {}
    rw [SortedMap.keys, List.foldl_map] at hkeys
    rw [hreport]
    exact hkeys
  · rw [hkept, pending_foldl_keep]
    have hnodup : ((u.pending.toList.filter fun b => ! (outcome b.1).toBool).map (·.1)).Nodup :=
      (SortedMap.nodup_keys u.pending).sublist (List.filter_sublist.map _)
    refine SortedMap.ext_get? fun r => Option.ext fun d => ?_
    rw [SortedMap.get?_filter, Option.filter_eq_some_iff]
    refine (SortedMap.get?_ofList_eq_some_iff hnodup).trans ?_
    rw [List.mem_filter, SortedMap.get?_eq_some_iff]

namespace Parted

variable {part : ResourceKey → List StatusExchange}
  {outcome : ResourceKey → Except Fault StatusOutcome}

/-- What is asked about a resource is asked to write its status, if that was pending. -/
theorem about_cases (h : Parted settings u log part outcome) (r : ResourceKey) :
    (∃ desired, u.pending.get? r = some desired ∧
      StatusProgram.Written settings r desired (part r) (outcome r) ∧
      StatusExchange.about r log = StatusExchange.about r (part r)) ∨
    r ∉ u.pending.keys ∧ StatusExchange.about r log = [] := by
  have hkeeps : ∀ k ∈ u.pending.keys, StatusExchange.Keeps k (part k) := fun k hk => by
    obtain ⟨desired, hd⟩ := SortedMap.mem_keys_iff.1 hk
    exact (h.written k desired hd).keeps
  rw [h.joined, StatusExchange.about_flatMap (SortedMap.nodup_keys u.pending) hkeeps]
  split
  · rename_i hr
    obtain ⟨desired, hd⟩ := SortedMap.mem_keys_iff.1 hr
    exact .inl ⟨desired, hd, h.written r desired hd, rfl⟩
  · rename_i hr
    exact .inr ⟨hr, rfl⟩

/-- What is asked of a resource is asked no more often in all than in its own part. -/
theorem countP_le (h : Parted settings u log part outcome) {p : StatusExchange → Bool} {n : Nat}
    (hp : ∀ e, p e = true → e.1.resource? = some r)
    (hle : ∀ desired, StatusProgram.Written settings r desired (part r) (outcome r) →
      (part r).countP p ≤ n) : log.countP p ≤ n := by
  rw [← StatusExchange.countP_about hp]
  rcases h.about_cases r with ⟨desired, -, hwritten, habout⟩ | ⟨-, habout⟩
  · rw [habout, StatusExchange.countP_about hp]
    exact hle desired hwritten
  · rw [habout]
    exact Nat.zero_le n

/-- An outcome that is told by what is asked about the resource is told by all that is asked. -/
theorem mem_filter_iff (h : Parted settings u log part outcome) {o : StatusOutcome}
    {sign : List StatusExchange → Prop} (hnil : ¬ sign [])
    (hsign : ∀ log, sign (StatusExchange.about r log) ↔ sign log)
    (ho : ∀ desired, StatusProgram.Written settings r desired (part r) (outcome r) →
      (outcome r = .ok o ↔ sign (part r))) :
    r ∈ u.pending.keys.filter (outcome · = .ok o) ↔ sign log := by
  rw [← hsign, List.mem_filter, decide_eq_true_eq]
  rcases h.about_cases r with ⟨desired, hd, hwritten, habout⟩ | ⟨hr, habout⟩
  · rw [habout, hsign, ho desired hwritten]
    exact and_iff_right (SortedMap.mem_keys_iff.2 ⟨desired, hd⟩)
  · rw [habout]
    exact iff_of_false (fun hmem => hr hmem.1) hnil

end Parted

/-- Each key is of one class. -/
theorem count_classes (outcome : ResourceKey → Except Fault StatusOutcome) {l : List ResourceKey}
    (hnodup : l.Nodup) (r : ResourceKey) :
    (l.filter (outcome · = .ok .patched) ++ l.filter (outcome · = .ok .unchanged) ++
      l.filter (outcome · = .ok .missing) ++ l.filter fun r => ! (outcome r).toBool).count r =
      if r ∈ l then 1 else 0 := by
  have hclass : ∀ p : ResourceKey → Bool, (l.filter p).count r =
      if p r = true then l.count r else 0 := by
    intro p
    split
    · rename_i hp
      exact List.count_filter hp
    · rename_i hp
      exact List.count_eq_zero.2 fun hmem => hp (List.mem_filter.1 hmem).2
  rw [← hnodup.count, List.count_append, List.count_append, List.count_append, hclass, hclass,
    hclass, hclass]
  rcases outcome r with f | _ | _ | _ <;> simp [Except.toBool]

/-! ## Batches and flushes -/

/-- What an updater has pending after batches and flushes, and the newest batch that it was given. -/
inductive Operated (settings : Settings) :
    Updater → SortedMap ResourceKey ResourceStatus → Prop
  | start : Operated settings {} ∅
  | desire {u : Updater} {newest : SortedMap ResourceKey ResourceStatus}
    (h : Operated settings u newest) (statuses : SortedMap ResourceKey ResourceStatus) :
    Operated settings { u with pending := statuses } statuses
  | flush {u u' : Updater} {newest : SortedMap ResourceKey ResourceStatus}
    {log : List StatusExchange} {report : UpdateReport} (h : Operated settings u newest)
    (hrun : Runs (u.flush settings) log (report, u')) : Operated settings u' newest

/-- What is pending is of the newest batch. -/
theorem newest_of_pending {newest : SortedMap ResourceKey ResourceStatus}
    (h : Operated settings u newest) (hr : u.pending.get? r = some desired) :
    newest.get? r = some desired := by
  induction h with
  | start => cases hr
  | desire h statuses => exact hr
  | flush h hrun ih =>
    obtain ⟨part, outcome, -, -, hkept⟩ := runs_flush_parts hrun
    rw [hkept, SortedMap.get?_filter, Option.filter_eq_some_iff] at hr
    exact ih hr.1

/-! ## The account -/

/-- The account of a flush: what is in its report, what is pending afterwards, and what was asked. -/
structure Accounts (settings : Settings) (newest : SortedMap ResourceKey ResourceStatus) (u : Updater)
    (log : List StatusExchange) (report : UpdateReport) (u' : Updater) : Prop where
  /-- A resource is in the four lists once if its status was pending, and not at all if not. -/
  once : ∀ r, (report.patched ++ report.unchanged ++ report.missing ++ report.failed).count r =
    if (u.pending.get? r).isSome then 1 else 0
  patched : ∀ r, r ∈ report.patched ↔ StatusExchange.Taken r log
  unchanged : ∀ r ∈ report.unchanged, ∃ desired, u.pending.get? r = some desired ∧
    StatusExchange.Found settings.controllerName r desired log
  missing : ∀ r, r ∈ report.missing ↔ StatusExchange.Gone r log
  /-- What has failed stays pending with the same status, and nothing else does. -/
  kept : u'.pending = u.pending.filter fun r _ => report.failed.contains r
  reads : ∀ r, log.countP (·.1 = .get r) ≤ max 1 settings.statusRetryAttempts
  writes : ∀ r, log.countP (·.1.writes r) ≤ max 1 settings.statusRetryAttempts
  /-- A write comes right after a read of its resource, with the version that was read, and what it
  writes was pending and is of the newest batch. -/
  written : ∀ before r version status answer after,
    log = before ++ ⟨.patch r version status, answer⟩ :: after →
      ∃ earlier current now desired,
        before = earlier ++ [⟨.get r, .ok (some current)⟩, ⟨.now, now⟩] ∧
        version = current.resourceVersion ∧
        u.pending.get? r = some desired ∧ newest.get? r = some desired ∧
        status = desired.stamped current.status settings.controllerName now

/-- After any batches and flushes, and whatever its calls are answered, a flush accounts for all that
was pending: nothing is dropped that was not taken, found or gone, and nothing is written that was
superseded. -/
theorem accounts_for_all {newest : SortedMap ResourceKey ResourceStatus}
    (h : Operated settings u newest) (hrun : Runs (u.flush settings) log (report, u')) :
    Accounts settings newest u log report u' := by
  obtain ⟨part, outcome, hparted, rfl, hkept⟩ := runs_flush_parts hrun
  exact {
    once := fun r => by
      have hpending : (u.pending.get? r).isSome = true ↔ r ∈ u.pending.keys := by
        rw [SortedMap.mem_keys_iff, Option.isSome_iff_exists]
      rw [if_congr hpending rfl rfl]
      exact count_classes outcome (SortedMap.nodup_keys u.pending) r
    patched := fun r => hparted.mem_filter_iff StatusExchange.not_taken_nil
      (fun _ => StatusExchange.taken_about) fun _ hwritten => hwritten.patched
    unchanged := fun r hr => by
      obtain ⟨hkey, ho⟩ := List.mem_filter.1 hr
      obtain ⟨desired, hd⟩ := SortedMap.mem_keys_iff.1 hkey
      refine ⟨desired, hd,
        ((hparted.written r desired hd).unchanged (of_decide_eq_true ho)).mono fun e he => ?_⟩
      rw [hparted.joined]
      exact List.mem_flatMap.2 ⟨r, hkey, he⟩
    missing := fun r => hparted.mem_filter_iff StatusExchange.not_gone_nil
      (fun _ => StatusExchange.gone_about) fun _ hwritten => hwritten.missing
    kept := by
      rw [hkept]
      refine SortedMap.ext_get? fun r => ?_
      rw [SortedMap.get?_filter, SortedMap.get?_filter]
      cases hr : u.pending.get? r with
      | none => rfl
      | some d =>
        have hkey : r ∈ u.pending.keys := SortedMap.mem_keys_iff.2 ⟨d, hr⟩
        simp [Option.filter, hkey]
    reads := fun r => hparted.countP_le (fun _ => StatusExchange.resource?_of_read)
      fun _ hwritten => hwritten.reads
    writes := fun r => hparted.countP_le (fun _ => StatusExchange.resource?_of_writes)
      fun _ hwritten => hwritten.writes
    written := by
      rintro before r version status answer after rfl
      obtain ⟨desired, earlier, current, now, hdesired, hbefore, hversion, hstatus⟩ :=
        asks_flush hrun.asks
      exact ⟨earlier, current, now, desired, hbefore, hversion, hdesired,
        newest_of_pending h hdesired, hstatus⟩ }

/-- Surroundings with routes but without gateways. As many writes as are left meet a newer version. -/
def contested : Handler StatusCall StatusCall.Reply Nat
  | .get (.gateway _), n => (.ok none, n)
  | .get _, n => (.ok (some ⟨some "1", none⟩), n)
  | .patch r _ _, n + 1 => (.error (.conflict r.text "stale"), n)
  | .patch .., 0 => (.ok (), 0)
  | .now, n => (default, n)

/-- All attempts at a first batch were refused. Of a second one, a status is taken with the second
attempt, and another one is for a gateway that is gone. -/
theorem accounts_for_all_after_refusals :
    ∃ u newest log report u', Operated {} u newest ∧ Runs (u.flush {}) log (report, u') ∧
      Accounts {} newest u log report u' ∧
      report.patched = [.udpRoute (.namespaced "a" "r")] ∧
      report.missing = [.gateway (.namespaced "a" "g")] ∧
      log.countP (·.1.writes (.udpRoute (.namespaced "a" "r"))) = 2 := by
  let r : ResourceKey := .udpRoute (.namespaced "a" "r")
  -- there are five attempts, and as many writes meet a newer version at first
  let first : Updater := ⟨.ofList [(r, Contended.entries ["first"])]⟩
  let second : SortedMap ResourceKey ResourceStatus :=
    .ofList [(.gateway (.namespaced "a" "g"), .gateway default), (r, Contended.entries ["second"])]
  have hfirst := runs_run contested (first.flush {}) 5
  have hafter : Operated {} ⟨second⟩ second := (Operated.start.desire _).flush hfirst |>.desire second
  have hrun := runs_run contested (Updater.flush {} ⟨second⟩) 1
  exact ⟨_, _, _, _, _, hafter, hrun, accounts_for_all hafter hrun, by decide +kernel,
    by decide +kernel, by decide +kernel⟩

end Updater

end RelayFleet
