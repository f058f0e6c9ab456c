/-
What one key has of a reconciliation. The attempts that concern a gateway, and what is remembered of
it, are those of a program that knows this gateway alone; what is done about an artifact is done by a
program that knows this artifact alone and what is wanted of it. A whole reconciliation is made of
such shares (`shares_reconcile`).
-/
import RelayFleet.Proofs.Operator.View

namespace RelayFleet.Operator

open Program OperatorExchange

/-! ## The share of a gateway -/

variable {settings : Settings} {op op' mid : Operator} {sweep : Sweep} {k : ObjectKey}
  {t t' : Option Tracked} {log part : List OperatorExchange} {release failed : List ObjectKey}

/-- What it is for one gateway that a sweep is followed. -/
def followShare (settings : Settings) (sweep : Sweep) (k : ObjectKey) (t : Option Tracked) :
    OperatorProgram (Option Tracked) :=
  match sweep.gateways.get? k with
  | some r => Tracked.update settings r t
  | none => pure t

/-- What it is for one gateway that those are taken down that are no more. -/
def abandonShare (settings : Settings) (sweep : Sweep) (k : ObjectKey) :
    Option Tracked → OperatorProgram (Option Tracked)
  | some t =>
    if sweep.gateways.get? k = none ∧ sweep.failures.contains k = false then
      some <$> Tracked.vanish settings k t
    else pure (some t)
  | none => pure none

/-- What is done for one gateway, before any artifact is looked at. -/
def attendShare (settings : Settings) (sweep : Sweep) (k : ObjectKey) (t : Option Tracked) :
    OperatorProgram (Option Tracked) :=
  followShare settings sweep k t >>= abandonShare settings sweep k

theorem own_of_keyed (hs : sweep.Keyed) {r : GatewayRender} (hr : r ∈ sweep.gateways.values) :
    sweep.gateways.get? r.gateway = some r ∧ ∀ w, r.workload = some w → w.gateway = r.gateway := by
  obtain ⟨k, hk⟩ := SortedMap.mem_values_iff.1 hr
  rw [(hs k r hk).1]
  exact ⟨hk, (hs k r hk).2⟩

theorem runs_followShare (hs : sweep.Keyed)
    (h : Runs (sweep.gateways.values.foldlM (follow settings) op) log mid) (k : ObjectKey) :
    ∃ part, Runs (followShare settings sweep k (op.gateways.get? k)) part (mid.gateways.get? k) ∧
      concerning k log = concerning k part := by
  obtain ⟨hothers, hkeys⟩ := runs_foldlM_keyed GatewayRender.gateway courseOf
    (fun r v v' _ => ∃ part, Runs (Tracked.update settings r v.1) part v'.1 ∧
      v'.2 = v.2 ++ concerning r.gateway part)
    (by rw [hs.map_gateway]; exact SortedMap.nodup_keys _)
    (fun r hr op log op' h before k hne => by
      have hserves := serves_follow h
      obtain ⟨t, -, rfl⟩ := runs_map_iff.1 h
      exact courseOf_of_ne (own_of_keyed hs hr).2 hserves before hne)
    (fun r _ op log op' h before => by
      obtain ⟨t, hrun, rfl⟩ := runs_map_iff.1 h
      refine ⟨log, ?_, concerning_append⟩
      unfold courseOf
      rw [get?_remember_self]
      exact hrun) h []
  unfold followShare
  split
  · rename_i r hr
    obtain ⟨-, -, part, hrun, hcalls⟩ := hkeys r (SortedMap.mem_values_iff.2 ⟨k, hr⟩)
    rw [(hs k r hr).1] at hrun hcalls
    exact ⟨part, hrun, hcalls⟩
  · rename_i hr
    have hentry := hothers k fun hmem => by
      obtain ⟨r, hr', rfl⟩ := List.mem_map.1 hmem
      cases hr.symm.trans (own_of_keyed hs hr').1
    exact ⟨[], runs_pure_iff.2 ⟨rfl, congrArg Prod.fst hentry⟩, congrArg Prod.snd hentry⟩

theorem runs_abandonShare (h : Runs ((op.vanished sweep).foldlM (abandon settings) op) log mid)
    (k : ObjectKey) :
    ∃ part, Runs (abandonShare settings sweep k (op.gateways.get? k)) part (mid.gateways.get? k) ∧
      concerning k log = concerning k part := by
  obtain ⟨hothers, hkeys⟩ := runs_foldlM_keyed Prod.fst courseOf
    (fun b v v' _ => ∃ part t, Runs (Tracked.vanish settings b.1 b.2) part t ∧ v'.1 = some t ∧
      v'.2 = v.2 ++ concerning b.1 part)
    (nodup_vanished op sweep)
    (fun b _ op log op' h before k hne => by
      have hserves := serves_abandon h
      obtain ⟨t, -, rfl⟩ := runs_map_iff.1 h
      exact courseOf_of_ne (by rintro _ ⟨⟩) hserves before hne)
    (fun b _ op log op' h before => by
      obtain ⟨t, hrun, rfl⟩ := runs_map_iff.1 h
      exact ⟨log, t, hrun, get?_remember_self _ _ _, concerning_append⟩) h []
  by_cases hmem : k ∈ (op.vanished sweep).map (·.1)
  · obtain ⟨b, hb, rfl⟩ := List.mem_map.1 hmem
    obtain ⟨hget, hgone⟩ := mem_vanished_iff.1 hb
    obtain ⟨-, -, part, t, hrun, ht, hcalls⟩ := hkeys b hb
    refine ⟨part, ?_, hcalls⟩
    rw [hget, show mid.gateways.get? b.1 = some t from ht, abandonShare, if_pos hgone]
    exact runs_map_iff.2 ⟨t, hrun, rfl⟩
  · have hentry := hothers k hmem
    have hsame : mid.gateways.get? k = op.gateways.get? k := congrArg Prod.fst hentry
    refine ⟨[], ?_, congrArg Prod.snd hentry⟩
    rw [hsame]
    cases hget : op.gateways.get? k with
    | none => exact runs_done none
    | some t =>
      rw [abandonShare, if_neg fun hgone =>
        hmem (List.mem_map.2 ⟨(k, t), mem_vanished_iff.2 ⟨hget, hgone⟩, rfl⟩)]
      exact runs_done _

/-- What becomes of a gateway, and the attempts that concern it, is its share. -/
theorem runs_attendShare (hs : sweep.Keyed) (h : Runs (op.attend settings sweep) log mid)
    (k : ObjectKey) :
    ∃ part, Runs (attendShare settings sweep k (op.gateways.get? k)) part (mid.gateways.get? k) ∧
      concerning k log = concerning k part := by
  obtain ⟨c, l₁, l₂, rfl, hfollow, habandon⟩ := runs_bind_iff.1 h
  obtain ⟨part₁, hrun₁, hcalls₁⟩ := runs_followShare hs hfollow k
  obtain ⟨part₂, hrun₂, hcalls₂⟩ := runs_abandonShare habandon k
  refine ⟨part₁ ++ part₂, runs_bind_iff.2 ⟨_, part₁, part₂, rfl, hrun₁, hrun₂⟩, ?_⟩
  rw [concerning_append, concerning_append, hcalls₁, hcalls₂]

/-- All writes in the share of a gateway concern it. -/
theorem concerns_attendShare (hs : sweep.Keyed)
    (h : Runs (attendShare settings sweep k t) part t') :
    ∀ e ∈ part, ∀ w r, e = ⟨.write w, r⟩ → w.concerns k = true := by
  refine runs_bind_forall (fun log u hfollow => ?_) (fun u log t' habandon => ?_) h
  · unfold followShare at hfollow
    split at hfollow
    · rename_i r hr
      obtain ⟨hkey, hown⟩ := hs k r hr
      rintro e he w result rfl
      have hserves := Tracked.serves_update hfollow _ he
      rw [hkey] at hserves
      exact concerns_of_serves_self hown hserves
    · exact runs_done_forall hfollow
  · unfold abandonShare at habandon
    split at habandon
    · split at habandon
      · rintro e he w result rfl
        have hserves := runs_map_forall (fun _ _ h => Tracked.serves_vanish h) habandon _ he
        exact concerns_of_serves_self (by rintro _ ⟨⟩) hserves
      · exact runs_done_forall habandon
    · exact runs_done_forall habandon

/-! ## The share of an artifact -/

/-- Whether a gateway is remembered to contribute to a key, or to have done so. -/
def aims (op : Operator) (k : ObjectKey) : Bool := op.gateways.values.any (·.target = some k)

/-- Makes the write that leads to an artifact under a key, or none, and tells of it. -/
def bring (settings : Settings) (key : ObjectKey) (wanted : Option Artifact) :
    OperatorProgram (Except Fault Unit) := do
  match ← OperatorProgram.write settings (writeOf key wanted) with
  | .ok () =>
    match wanted with
    | some a => OperatorProgram.publish key a.config
    | none => OperatorProgram.retire key
    pure (.ok ())
  | .error f => pure (.error f)

/-- What is remembered of an artifact after an attempt at bringing it about, and whether that
failed. -/
def outcome (known wanted : Option Artifact) : Except Fault Unit → Option Artifact × Bool
  | .ok () => (wanted, false)
  | .error _ => (known, true)

/-- The operator after an attempt at bringing about an artifact. -/
def recordOutcome (s : Syncing) (key : ObjectKey) (wanted : Option Artifact) :
    Except Fault Unit → Syncing
  | .ok () => (s.1.recording key wanted, s.2)
  | .error _ => (s.1, key :: s.2)

/-- What bringing the artifacts up to date is for one of them: nothing, if it is known to be there as
wanted, or not to be there and nobody is aimed at it. -/
def syncShare (settings : Settings) (k : ObjectKey) (known wanted : Option Artifact)
    (aimed : Bool) : OperatorProgram (Option Artifact × Bool) :=
  if known = wanted ∧ (wanted = none → aimed = false) then pure (known, false)
  else outcome known wanted <$> bring settings k wanted

variable {s s' : Syncing} {key : ObjectKey} {known wanted : Option Artifact}
  {result : Except Fault Unit} {aimed : Bool}

theorem writeArtifact_eq (s : Syncing) (a : Artifact) :
    writeArtifact settings s a =
      if s.1.artifacts.get? a.key = some a then pure s
      else recordOutcome s a.key (some a) <$> bring settings a.key (some a) := by
  unfold writeArtifact bring
  split
  · rfl
  · rw [map_bind]
    refine bind_congr fun result => ?_
    cases result with
    | ok u =>
      dsimp only
      rw [map_bind]
      rfl
    | error f => rfl

theorem dropArtifact_eq (s : Syncing) (key : ObjectKey) :
    dropArtifact settings s key = recordOutcome s key none <$> bring settings key none := by
  unfold dropArtifact bring
  rw [map_bind]
  refine bind_congr fun result => ?_
  cases result with
  | ok u =>
    dsimp only
    rw [map_bind]
    rfl
  | error f => rfl

theorem mem_bring (h : Runs (bring settings key wanted) log result) :
    ∀ e ∈ log, e.Attempts (writeOf key wanted) ∨ e = tidings key wanted := by
  refine runs_bind_forall (fun _ _ h e he => .inl (OperatorProgram.attempts_of_runs_write h e he))
    (fun result log r h => ?_) h
  cases result with
  | error f => exact runs_done_forall h
  | ok u =>
    cases wanted with
    | some a =>
      refine runs_bind_forall (fun log u hcall e he => ?_) (fun _ _ _ h => runs_done_forall h) h
      rw [runs_call_iff.1 hcall, List.mem_singleton] at he
      exact .inr he
    | none =>
      refine runs_bind_forall (fun log u hcall e he => ?_) (fun _ _ _ h => runs_done_forall h) h
      rw [runs_call_iff.1 hcall, List.mem_singleton] at he
      exact .inr he

/-- The writes in the share of an artifact are those that lead to what is wanted. -/
theorem writes_syncShare {v : Option Artifact × Bool}
    (h : Runs (syncShare settings k known wanted aimed) part v) :
    ∀ e ∈ part, ∀ w r, e = ⟨.write w, r⟩ → w = writeOf k wanted := by
  unfold syncShare at h
  split at h
  · exact runs_done_forall h
  · rintro e he w r rfl
    obtain ⟨result, hrun, -⟩ := runs_map_iff.1 h
    rcases mem_bring hrun _ he with hattempt | htold
    · exact hattempt
    · cases wanted <;> cases htold

/-- What is remembered of an artifact, whether its write failed, and what was done about it. -/
def artifactCourse (k : ObjectKey) (s : Syncing) (log : List OperatorExchange) :
    (Option Artifact × Bool) × List OperatorExchange :=
  ((s.1.artifacts.get? k, s.2.contains k), dealing k log)

theorem deals_writeOf (hkey : ∀ a, wanted = some a → a.key = key) (r : Except Fault Unit) :
    deals k ⟨.write (writeOf key wanted), r⟩ = decide (key = k) := by
  cases wanted with
  | some a =>
    show decide (a.key = k) = _
    rw [hkey a rfl]
  | none => rfl

theorem artifactCourse_of_ne (hkey : ∀ a, wanted = some a → a.key = key)
    (h : Runs (bring settings key wanted) log result) (before : List OperatorExchange)
    (hne : k ≠ key) :
    artifactCourse k (recordOutcome s key wanted result) (before ++ log) =
      artifactCourse k s before := by
  have hdeals : ∀ e ∈ log, deals k e = false := by
    intro e he
    rcases mem_bring h e he with hattempt | rfl
    · obtain ⟨c, r⟩ := e
      cases c with
      | write w =>
        have hw : w = writeOf key wanted := hattempt
        rw [hw, deals_writeOf hkey, decide_eq_false hne.symm]
      | pause n => rfl
      | publish key c => exact absurd hattempt id
      | retire key => exact absurd hattempt id
    · cases wanted <;> exact decide_eq_false hne.symm
  unfold artifactCourse
  rw [dealing_append, dealing_eq_nil hdeals, List.append_nil]
  cases result with
  | ok u =>
    show ((_, s.2.contains k), _) = _
    rw [show (recordOutcome s key wanted (.ok u)).1 = s.1.recording key wanted from rfl,
      get?_recording_of_ne _ _ hne]
  | error f => simp [recordOutcome, hne]

theorem artifactCourse_self (hfresh : s.2.contains key = false) (before : List OperatorExchange) :
    artifactCourse key (recordOutcome s key wanted result) (before ++ log) =
      (outcome (s.1.artifacts.get? key) wanted result, dealing key before ++ dealing key log) := by
  unfold artifactCourse
  rw [dealing_append]
  cases result with
  | ok u =>
    show ((_, s.2.contains key), _) = _
    rw [show (recordOutcome s key wanted (.ok u)).1 = s.1.recording key wanted from rfl,
      get?_recording_self, hfresh]
    rfl
  | error f => simp [recordOutcome, outcome]

theorem runs_writeShares {op : Operator} {s : Syncing} (hfresh : ∀ k, s.2.contains k = false)
    (h : Runs (op.desired.values.foldlM (writeArtifact settings) s) log s') :
    (∀ k, op.desired.get? k = none → artifactCourse k s' log = artifactCourse k s []) ∧
      ∀ k a, op.desired.get? k = some a → ∀ aimed, ∃ part,
        Runs (syncShare settings k (s.1.artifacts.get? k) (some a) aimed) part
          (s'.1.artifacts.get? k, s'.2.contains k) ∧ dealing k log = dealing k part := by
  have hkey : ∀ a b : Artifact, some a = some b → b.key = a.key := by
    rintro a b ⟨⟩
    rfl
  obtain ⟨hothers, hkeys⟩ := runs_foldlM_keyed Artifact.key artifactCourse
    (fun (a : Artifact) v v' _ => v.1.2 = false → ∀ aimed, ∃ part,
      Runs (syncShare settings a.key v.1.1 (some a) aimed) part v'.1 ∧
        v'.2 = v.2 ++ dealing a.key part)
    (by rw [map_key_desired]; exact SortedMap.nodup_keys _)
    (fun a _ s log s' h before k hne => by
      rw [writeArtifact_eq] at h
      split at h
      · obtain ⟨rfl, rfl⟩ := runs_pure_iff.1 h
        rw [List.append_nil]
      · obtain ⟨result, hrun, rfl⟩ := runs_map_iff.1 h
        exact artifactCourse_of_ne (hkey a) hrun before hne)
    (fun a _ s log s' h before hfresh aimed => by
      refine ⟨log, ?_⟩
      have hfresh : s.2.contains a.key = false := hfresh
      rw [writeArtifact_eq] at h
      unfold syncShare
      by_cases hknown : s.1.artifacts.get? a.key = some a
      · rw [if_pos hknown] at h
        obtain ⟨rfl, rfl⟩ := runs_pure_iff.1 h
        rw [if_pos ⟨hknown, nofun⟩, List.append_nil]
        exact ⟨runs_pure_iff.2 ⟨rfl, by rw [← hfresh]; rfl⟩, (List.append_nil _).symm⟩
      · rw [if_neg hknown] at h
        obtain ⟨result, hrun, rfl⟩ := runs_map_iff.1 h
        rw [if_neg fun h => hknown h.1, artifactCourse_self hfresh]
        exact ⟨runs_map_iff.2 ⟨result, hrun, rfl⟩, rfl⟩)
    h []
  rw [map_key_desired] at hothers
  refine ⟨fun k hk => hothers k fun hmem => ?_, fun k a hk aimed => ?_⟩
  · obtain ⟨a, ha⟩ := SortedMap.mem_keys_iff.1 hmem
    cases hk.symm.trans ha
  · obtain ⟨-, -, hP⟩ := hkeys a (SortedMap.mem_values_iff.2 ⟨k, hk⟩)
    rw [key_of_get?_desired hk] at hP
    exact hP (hfresh k) aimed

theorem runs_dropShares {l : List ObjectKey} (hl : l.Nodup) {s : Syncing}
    (before : List OperatorExchange) (h : Runs (l.foldlM (dropArtifact settings) s) log s') :
    (∀ k, k ∉ l → artifactCourse k s' (before ++ log) = artifactCourse k s before) ∧
      ∀ k ∈ l, s.2.contains k = false → ∃ part,
        Runs (outcome (s.1.artifacts.get? k) none <$> bring settings k none) part
          (s'.1.artifacts.get? k, s'.2.contains k) ∧
        dealing k (before ++ log) = dealing k before ++ dealing k part := by
  obtain ⟨hothers, hkeys⟩ := runs_foldlM_keyed id artifactCourse
    (fun (k : ObjectKey) v v' _ => v.1.2 = false → ∃ part,
      Runs (outcome v.1.1 none <$> bring settings k none) part v'.1 ∧
        v'.2 = v.2 ++ dealing k part)
    (by rwa [List.map_id])
    (fun key _ s log s' h before k hne => by
      rw [dropArtifact_eq] at h
      obtain ⟨result, hrun, rfl⟩ := runs_map_iff.1 h
      exact artifactCourse_of_ne (by rintro _ ⟨⟩) hrun before hne)
    (fun key _ s log s' h before hfresh => by
      rw [dropArtifact_eq] at h
      obtain ⟨result, hrun, rfl⟩ := runs_map_iff.1 h
      have hfresh : s.2.contains key = false := hfresh
      rw [id_eq, artifactCourse_self hfresh]
      exact ⟨log, runs_map_iff.2 ⟨result, hrun, rfl⟩, rfl⟩)
    h before
  rw [List.map_id] at hothers
  refine ⟨hothers, fun k hk => ?_⟩
  obtain ⟨-, -, hP⟩ := hkeys k hk
  exact hP

/-- What becomes of an artifact, and what is done about it, is its share. -/
theorem runs_syncShare (h : Runs (op.syncArtifacts settings) log s') (k : ObjectKey) :
    ∃ part, Runs (syncShare settings k (op.artifacts.get? k) (op.desired.get? k) (op.aims k)) part
        (s'.1.artifacts.get? k, s'.2.contains k) ∧ dealing k log = dealing k part := by
  obtain ⟨c, l₁, l₂, rfl, hwrite, hdrop⟩ := runs_bind_iff.1 h
  obtain ⟨hothers₁, hkeys₁⟩ := runs_writeShares (fun _ => rfl) hwrite
  obtain ⟨hothers₂, hkeys₂⟩ := runs_dropShares (nodup_stale c.1 op.desired) l₁ hdrop
  have hgateways : c.1.gateways = op.gateways := (runs_writeArtifacts (d := {}) hwrite).1
  rcases hd : op.desired.get? k with - | a
  · -- what is not desired is what it was before anything is deleted
    have hsame := hothers₁ k hd
    have hknown : c.1.artifacts.get? k = op.artifacts.get? k := congrArg (·.1.1) hsame
    have hdealing : dealing k l₁ = [] := congrArg Prod.snd hsame
    have hstale : k ∈ c.1.stale op.desired ↔
        ¬ (op.artifacts.get? k = none ∧ op.aims k = false) := by
      rw [mem_stale_iff, and_iff_left hd, hknown, hgateways, ← Option.isSome_iff_exists,
        Option.isSome_iff_ne_none]
      unfold aims
      rw [← Bool.not_eq_true, List.any_eq_true, not_and_or, not_not]
      simp only [decide_eq_true_eq]
    by_cases hmem : k ∈ c.1.stale op.desired
    · obtain ⟨part, hrun, hcalls⟩ := hkeys₂ k hmem (congrArg (·.1.2) hsame)
      refine ⟨part, ?_, by rw [hcalls, hdealing, List.nil_append]⟩
      rw [hknown] at hrun
      rw [syncShare, if_neg fun h => hstale.1 hmem ⟨h.1, h.2 rfl⟩]
      exact hrun
    · have hentry := (hothers₂ k hmem).trans hsame
      obtain ⟨hnone, haimed⟩ := not_not.1 fun h => hmem (hstale.2 h)
      refine ⟨[], ?_, congrArg Prod.snd hentry⟩
      rw [syncShare, if_pos ⟨hnone, fun _ => haimed⟩]
      exact runs_pure_iff.2 ⟨rfl, congrArg Prod.fst hentry⟩
  · -- what is desired is not stale, so only the first fold dealt with it
    have hentry := hothers₂ k fun hmem => by
      cases hd.symm.trans (mem_stale_iff.1 hmem).2
    obtain ⟨part, hrun, hcalls⟩ := hkeys₁ k a hd (op.aims k)
    refine ⟨part, ?_, (congrArg Prod.snd hentry).trans hcalls⟩
    rw [show (s'.1.artifacts.get? k, s'.2.contains k) = _ from congrArg Prod.fst hentry]
    exact hrun

/-! ## One reconciliation -/

/-- The shares that a reconciliation is made of. In between, after the gateways and before the
artifacts, the operator stands at `mid`; the targets whose write failed are `failed`. -/
structure Shares (settings : Settings) (sweep : Sweep) (op mid : Operator) (failed : List ObjectKey)
    (log : List OperatorExchange) (release : List ObjectKey) (op' : Operator) : Prop where
  gateway : ∀ k, ∃ part,
    Runs (attendShare settings sweep k (op.gateways.get? k)) part (mid.gateways.get? k) ∧
      concerning k log = concerning k part
  artifact : ∀ k, ∃ part,
    Runs (syncShare settings k (op.artifacts.get? k) (mid.desired.get? k) (mid.aims k)) part
        (op'.artifacts.get? k, failed.contains k) ∧
      dealing k log = dealing k part
  remembered : ∀ k, op'.gateways.get? k =
    (mid.gateways.get? k).filter fun t => ! t.isClean || t.target.any failed.contains
  release : release = op'.released sweep

theorem shares_reconcile (hs : sweep.Keyed)
    (h : Runs (op.reconcile settings sweep) log (release, op')) :
    ∃ mid failed, Shares settings sweep op mid failed log release op' := by
  rw [reconcile_eq] at h
  obtain ⟨mid, l₁, l₂, rfl, hattend, hnext⟩ := runs_bind_iff.1 h
  obtain ⟨s, l₃, l₄, rfl, hsync, hend⟩ := runs_bind_iff.1 hnext
  obtain ⟨rfl, hresult⟩ := runs_pure_iff.1 hend
  cases hresult
  rw [List.append_nil]
  obtain ⟨hartifacts, hspares⟩ := attend_spares hattend
  have hgateways := (runs_syncArtifacts (d := { artifacts := mid.artifacts }) rfl hsync).1
  refine ⟨mid, s.2, fun k => ?_, fun k => ?_, fun k => ?_, rfl⟩
  · obtain ⟨part, hrun, hcalls⟩ := runs_attendShare hs hattend k
    refine ⟨part, hrun, ?_⟩
    rw [concerning_append, concerning_syncArtifacts hsync, List.append_nil, hcalls]
  · obtain ⟨part, hrun, hcalls⟩ := runs_syncShare hsync k
    rw [hartifacts] at hrun
    refine ⟨part, hrun, ?_⟩
    rw [dealing_append, dealing_of_spares hspares, List.nil_append, hcalls]
  · unfold forget
    rw [SortedMap.get?_filter, hgateways]

end RelayFleet.Operator
