/-
The versions of a key's documents, over every sequence of calls to a distributor. As long as the
topic of a key lives they count up from one, whoever subscribes, reads or leaves meanwhile, and a
document that is the newest one already gets no version of its own. A topic takes its count with it
when it is closed: the versions of a key grow over all of its topics exactly if nothing is published
under it any more after its topic was closed (`versions_ascend_iff`).
-/
import RelayFleet.Proofs.Distribution.Calls

namespace RelayFleet

/-! ## Chronicles -/

/-- A distributor with what was published under a key. -/
structure Chronicle where
  distributor : Distributor
  /-- All updates of the key, oldest first. -/
  updates : List ConfigUpdate := []
  /-- Those since the key was removed last. -/
  current : List ConfigUpdate := []

namespace Chronicle

/-- The chronicle after a call. -/
def after (key : ObjectKey) (h : Chronicle) (c : DistributorCall) : Chronicle where
  distributor := h.distributor.called c
  updates := h.updates ++ (h.distributor.creates? key c).toList
  current :=
    if c = .remove key then [] else h.current ++ (h.distributor.creates? key c).toList

/-- The chronicle of calls to a new distributor, one after the other. -/
def ofCalls (buffer : Nat) (key : ObjectKey) (cs : List DistributorCall) : Chronicle :=
  cs.foldl (after key) { distributor := { buffer } }

theorem ofCalls_concat (buffer : Nat) (key : ObjectKey) (cs : List DistributorCall)
    (c : DistributorCall) :
    ofCalls buffer key (cs ++ [c]) = (ofCalls buffer key cs).after key c :=
  List.foldl_concat ..

theorem sound_ofCalls (buffer : Nat) (key : ObjectKey) (cs : List DistributorCall) :
    (ofCalls buffer key cs).distributor.Sound fun _ _ => True := by
  induction cs using List.reverseRecOn with
  | nil => exact Distributor.Sound.start buffer
  | append_singleton cs c ih =>
    rw [ofCalls_concat]
    exact ih.called c

theorem buffer_ofCalls (buffer : Nat) (key : ObjectKey) (cs : List DistributorCall) :
    (ofCalls buffer key cs).distributor.buffer = buffer := by
  induction cs using List.reverseRecOn with
  | nil => rfl
  | append_singleton cs c ih =>
    rw [ofCalls_concat]
    exact (Distributor.called_counts ..).1.trans ih

/-- What was published under a key since it was removed last is in its topic. -/
theorem current_ofCalls (buffer : Nat) (key : ObjectKey) (cs : List DistributorCall) :
    (ofCalls buffer key cs).current = (ofCalls buffer key cs).distributor.updates key := by
  induction cs using List.reverseRecOn with
  | nil => rfl
  | append_singleton cs c ih =>
    rw [ofCalls_concat]
    show (if c = .remove key then _ else (ofCalls buffer key cs).current ++ _) =
      ((ofCalls buffer key cs).distributor.called c).updates key
    rw [Distributor.updates_called, ih]

/-- The versions since a key was removed last count up from one. -/
theorem versions_current (buffer : Nat) (key : ObjectKey) (cs : List DistributorCall) :
    (ofCalls buffer key cs).current.map (·.version) =
      List.range' 1 (ofCalls buffer key cs).current.length := by
  rw [current_ofCalls, Distributor.updates]
  cases (ofCalls buffer key cs).distributor.topics.get? key with
  | none => rfl
  | some t =>
    rw [Option.map_some, Option.getD_some, Topic.versions_updates, Topic.length_updates]

theorem current_suffix (buffer : Nat) (key : ObjectKey) (cs : List DistributorCall) :
    (ofCalls buffer key cs).current <:+ (ofCalls buffer key cs).updates := by
  induction cs using List.reverseRecOn with
  | nil => exact List.suffix_refl _
  | append_singleton cs c ih =>
    rw [ofCalls_concat, after]
    dsimp only
    split
    · exact List.nil_suffix
    · obtain ⟨earlier, hearlier⟩ := ih
      exact ⟨earlier, by rw [← hearlier, List.append_assoc]⟩

theorem version_of_creates? {buffer : Nat} {key : ObjectKey} {cs : List DistributorCall}
    {c : DistributorCall} {u : ConfigUpdate}
    (h : (ofCalls buffer key cs).distributor.creates? key c = some u) :
    u.version = (ofCalls buffer key cs).current.length + 1 := by
  rw [current_ofCalls]
  exact (Distributor.of_creates? h).2

theorem updates_concat (buffer : Nat) (key : ObjectKey) (cs : List DistributorCall)
    (c : DistributorCall) :
    (ofCalls buffer key (cs ++ [c])).updates = (ofCalls buffer key cs).updates ++
      ((ofCalls buffer key cs).distributor.creates? key c).toList := by
  rw [ofCalls_concat]
  rfl

theorem current_concat (buffer : Nat) (key : ObjectKey) (cs : List DistributorCall)
    (c : DistributorCall) :
    (ofCalls buffer key (cs ++ [c])).current =
      if c = .remove key then []
      else (ofCalls buffer key cs).current ++
        ((ofCalls buffer key cs).distributor.creates? key c).toList := by
  rw [ofCalls_concat]
  rfl

theorem version_pos {buffer : Nat} {key : ObjectKey} {cs : List DistributorCall}
    {u : ConfigUpdate} (h : u ∈ (ofCalls buffer key cs).updates) : 0 < u.version := by
  induction cs using List.reverseRecOn with
  | nil => cases h
  | append_singleton cs c ih =>
    rw [updates_concat, List.mem_append, Option.mem_toList] at h
    rcases h with h | h
    · exact ih h
    · rw [version_of_creates? h]
      exact Nat.succ_pos _

/-- Whether a key has a topic, which is closed when the key is removed. -/
def HasTopic (buffer : Nat) (key : ObjectKey) (before : List DistributorCall) : Prop :=
  (ofCalls buffer key before).distributor.topics.contains key = true

/-- A topic that is removed has had an update, the empty document at the latest. -/
theorem updates_ne_nil_of_hasTopic {buffer : Nat} {key : ObjectKey} {before : List DistributorCall}
    (h : HasTopic buffer key before) :
    (ofCalls buffer key (before ++ [.remove key])).updates ≠ [] := by
  rw [updates_concat, Distributor.creates?, if_pos ⟨rfl, h⟩]
  intro hnil
  obtain ⟨hupdates, hcreated⟩ := List.append_eq_nil_iff.1 hnil
  have hcurrent : (ofCalls buffer key before).current = [] :=
    List.suffix_nil.1 (hupdates ▸ current_suffix buffer key before)
  rw [current_ofCalls, ← Distributor.updates_of_topicOf] at hcurrent
  rw [Distributor.created?_eq, Topic.addition?] at hcreated
  split at hcreated
  · rename_i hlast
    have hlength := congrArg List.length hcurrent
    rw [Topic.length_updates, Topic.version] at hlength
    rw [List.length_eq_zero_iff.1 hlength] at hlast
    cases hlast
  · cases hcreated

/-- The updates of a key are those since it was removed last, after those before its topic was
closed last. -/
theorem updates_eq_current_or (buffer : Nat) (key : ObjectKey) (cs : List DistributorCall) :
    (ofCalls buffer key cs).updates = (ofCalls buffer key cs).current ∨
      ∃ before after, cs = before ++ .remove key :: after ∧ HasTopic buffer key before ∧
        (ofCalls buffer key cs).updates =
          (ofCalls buffer key (before ++ [.remove key])).updates ++
            (ofCalls buffer key cs).current := by
  induction cs using List.reverseRecOn with
  | nil => exact .inl rfl
  | append_singleton cs c ih =>
    by_cases hc : c = .remove key
    · subst hc
      rw [current_concat, if_pos rfl]
      by_cases htopic : HasTopic buffer key cs
      · exact .inr ⟨cs, [], rfl, htopic, (List.append_nil _).symm⟩
      · -- nothing was there to remove
        have hnone : (ofCalls buffer key cs).distributor.topics.get? key = none :=
          SortedMap.contains_eq_false_iff.1 (Bool.eq_false_iff.2 htopic)
        rw [current_ofCalls, Distributor.updates_of_none hnone] at ih
        rw [updates_concat, Distributor.creates?, if_neg (fun h => htopic h.2),
          Option.toList_none, List.append_nil]
        refine ih.imp_right ?_
        rintro ⟨before, after, rfl, hbefore, hupdates⟩
        exact ⟨before, after ++ [.remove key], by simp, hbefore, hupdates⟩
    · rw [updates_concat, current_concat, if_neg hc]
      rcases ih with hsame | ⟨before, after, rfl, hbefore, hupdates⟩
      · exact .inl (by rw [hsame])
      · exact .inr ⟨before, after ++ [c], by simp, hbefore,
          by rw [hupdates, List.append_assoc]⟩

/-- Whether each update of the key is newer than all before it. -/
def Ascends (h : Chronicle) : Prop := h.updates.Pairwise fun u v => u.version < v.version

/-- Whether nothing was published under a key any more once its topic had been closed. -/
def Rests (buffer : Nat) (key : ObjectKey) (cs : List DistributorCall) : Prop :=
  ∀ before after, cs = before ++ .remove key :: after → HasTopic buffer key before →
    (ofCalls buffer key cs).updates = (ofCalls buffer key (before ++ [.remove key])).updates

theorem ascends_of_rests {buffer : Nat} {key : ObjectKey} {cs : List DistributorCall}
    (h : Rests buffer key cs) : (ofCalls buffer key cs).Ascends := by
  induction cs using List.reverseRecOn with
  | nil => exact .nil
  | append_singleton cs c ih =>
    rw [Ascends, updates_concat]
    rcases updates_eq_current_or buffer key cs with
      hsame | ⟨before, after, rfl, hbefore, hupdates⟩
    · -- the topic is the first one of the key: its versions count up
      have hversions : ((ofCalls buffer key cs).updates ++
          ((ofCalls buffer key cs).distributor.creates? key c).toList).map (·.version) =
            List.range' 1 ((ofCalls buffer key cs).current.length +
              ((ofCalls buffer key cs).distributor.creates? key c).toList.length) := by
        rw [hsame, List.map_append, versions_current]
        cases hcreates : (ofCalls buffer key cs).distributor.creates? key c with
        | none => exact List.append_nil _
        | some u =>
          show _ ++ [u.version] = List.range' 1 (_ + 1)
          rw [version_of_creates? hcreates, List.range'_concat, Nat.one_mul, Nat.add_comm 1]
      refine List.pairwise_map.1 (?_ : List.Pairwise (· < ·) _)
      rw [hversions]
      exact List.pairwise_lt_range'
    · -- the topic was closed before: the call publishes nothing
      have hlast := h before (after ++ [c]) (by simp) hbefore
      rw [updates_concat, hupdates, List.append_assoc] at hlast
      have hnil := List.append_right_eq_self.1 hlast
      rw [(List.append_eq_nil_iff.1 hnil).2, List.append_nil]
      refine ih fun b a he hb => ?_
      have hrest := h b (a ++ [c]) (by rw [he]; simp) hb
      rwa [updates_concat, (List.append_eq_nil_iff.1 hnil).2, List.append_nil] at hrest

/-- As long as nothing was published since a topic was closed, the next version would be the first
again. -/
theorem quiet_of_ascends {buffer : Nat} {key : ObjectKey} {closed after : List DistributorCall}
    (hupdates : (ofCalls buffer key closed).updates ≠ [])
    (hcurrent : (ofCalls buffer key closed).current = [])
    (h : (ofCalls buffer key (closed ++ after)).Ascends) :
    (ofCalls buffer key (closed ++ after)).updates = (ofCalls buffer key closed).updates ∧
      (ofCalls buffer key (closed ++ after)).current = [] := by
  induction after using List.reverseRecOn with
  | nil => exact ⟨by rw [List.append_nil], by rw [List.append_nil, hcurrent]⟩
  | append_singleton after c ih =>
    rw [← List.append_assoc] at h ⊢
    rw [Ascends, updates_concat, List.pairwise_append] at h
    obtain ⟨hsame, hempty⟩ := ih h.1
    have hnone : (ofCalls buffer key (closed ++ after)).distributor.creates? key c = none := by
      rcases hcreates : (ofCalls buffer key (closed ++ after)).distributor.creates? key c with - | u
      · rfl
      · obtain ⟨x, hx⟩ := List.exists_mem_of_ne_nil _ (hsame ▸ hupdates)
        have hlt := h.2.2 x hx u (by rw [hcreates]; exact List.mem_singleton_self u)
        have hversion := version_of_creates? hcreates
        rw [hempty, List.length_nil] at hversion
        have hpos := version_pos hx
        omega
    rw [updates_concat, current_concat, hnone, hempty, Option.toList_none, List.append_nil,
      List.append_nil, ite_self]
    exact ⟨hsame, rfl⟩

theorem rests_of_ascends {buffer : Nat} {key : ObjectKey} {cs : List DistributorCall}
    (h : (ofCalls buffer key cs).Ascends) : Rests buffer key cs := by
  rintro before after rfl hbefore
  have hsplit : before ++ .remove key :: after = before ++ [.remove key] ++ after := by simp
  rw [hsplit] at h ⊢
  exact (quiet_of_ascends (updates_ne_nil_of_hasTopic hbefore)
    (by rw [current_concat, if_pos rfl]) h).1

/-- The versions of a key ascend exactly if nothing is published under it after its topic was
closed. Those since it was closed last count up from one; publishing answers with the version that
the new update has, and with the latest one if the document is the latest already, which changes
nothing. -/
theorem versions_ascend_iff (buffer : Nat) (key : ObjectKey) (cs : List DistributorCall) :
    ((ofCalls buffer key cs).Ascends ↔ Rests buffer key cs) ∧
    (ofCalls buffer key cs).current.map (·.version) =
      List.range' 1 (ofCalls buffer key cs).current.length ∧
    (∀ c u, (ofCalls buffer key cs).distributor.created? key c = some u →
      u = ⟨((ofCalls buffer key cs).distributor.publish key c).1, c⟩) ∧
    ∀ u, (ofCalls buffer key cs).distributor.latest? key = some u →
      (ofCalls buffer key cs).distributor.created? key u.config = none ∧
      (ofCalls buffer key cs).distributor.publish key u.config =
        (u.version, (ofCalls buffer key cs).distributor) := by
  refine ⟨⟨rests_of_ascends, ascends_of_rests⟩, versions_current buffer key cs, ?_, ?_⟩
  · intro c u hu
    exact (Distributor.version_of_created? hu).1
  · intro u hu
    have hpublish := Distributor.publish_of_latest? hu
    refine ⟨?_, hpublish⟩
    rw [Distributor.created?, hpublish, if_pos rfl]

/-- A document, the removal of its key, and another document. -/
def republication : List DistributorCall := [
  .publish (.namespaced "a" "t1") { clusters := [{ name := "a/r", type := .static }] },
  .remove (.namespaced "a" "t1"),
  .publish (.namespaced "a" "t1") { clusters := [{ name := "a/s", type := .static }] }]

/-- A key that is published again after its removal starts over. -/
theorem versions_restart :
    (ofCalls 16 (.namespaced "a" "t1") republication).updates.map (·.version) = [1, 2, 1] ∧
      ¬ (ofCalls 16 (.namespaced "a" "t1") republication).Ascends := by
  unfold Ascends
  decide +kernel

end Chronicle

end RelayFleet
